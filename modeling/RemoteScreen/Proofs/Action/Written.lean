import RemoteScreen.Action.Codec
import RemoteScreen.Proofs.Condition.Written

/-!
# Proofs/Action/Written — actions that are written and read

**An action that was read is read back as it is** (`Action.Settled.ofJson_toJson`), with its retry
policy, its report and the chain of its fallbacks: numbers fit their words, members are in key order
and no operand is null, however the action was written.
-/

namespace RemoteScreen

open Json.Source

/-! ## Retry policies -/

namespace Retry

/-- The numbers of a retry policy fit their words. -/
structure Settled (r : Retry) : Prop where
  maxAttempts : r.maxAttempts < 0x100000000
  delay : r.delay < Json.natLimit

/-- The numbers of a decoded retry policy fit their words. -/
theorem settled_of_decode {j : Json} {r : Retry} (h : decode (.ofJson j) = .ok r) : r.Settled := by
  rw [decode] at h
  obtain ⟨⟨d, ending⟩, hd, h⟩ := Decoding.bind_eq_ok.1 h
  cases h
  refine record_keeps hd ⟨by decide, by decide⟩ fun k x r r' _ hs hf => ?_
  split at hf
  · obtain ⟨n, hn, rfl⟩ := Decoding.return_eq_ok.1 hf
    exact { hs with maxAttempts := lt_of_nat hn }
  · obtain ⟨n, hn, rfl⟩ := Decoding.return_eq_ok.1 hf
    exact { hs with delay := lt_of_nat hn }
  · obtain ⟨b, -, rfl⟩ := Decoding.return_eq_ok.1 hf
    exact { hs with }
  · cases hf
    exact hs

theorem toJson_eq (r : Retry) :
    r.toJson = .obj (Keyed.ofPresent
      [("maxAttempts", some (.ofNat r.maxAttempts)), ("delay", some (.ofNat r.delay)),
       ("backoff", some (.str r.backoff.name))]) := rfl

theorem name_ofJson (b : Backoff) (known : String) :
    (Json.Source.ofJson (.str b.name)).name Backoff.ofName? known = .ok b := by
  cases b <;> rfl

/-- **A retry policy whose numbers fit is read back as it was written.** -/
theorem Settled.decode_toJson {r : Retry} (h : r.Settled) : decode (.ofJson r.toJson) = .ok r := by
  rw [decode, toJson_eq, record_ofPresent _ rfl (by decide)]
  simp only [Keyed.ofList, Keyed.insertAll, List.foldl_cons, List.foldl_nil, Keyed.insert,
    String.reduceEq, String.reduceLT, ↓reduceIte, List.foldlM_cons, List.foldlM_nil]
  rw [offer_required (name_ofJson r.backoff _), Decoding.ok_bind,
    offer_required (nat64_ofJson h.delay), Decoding.ok_bind,
    offer_required (nat32_ofJson h.maxAttempts)]
  rfl

theorem ordered_toJson (r : Retry) : r.toJson.Ordered := by
  rw [toJson_eq]
  refine Json.ordered_ofPresent ?_
  simp only [List.forall_mem_cons, List.not_mem_nil, false_imp_iff, implies_true, and_true]
  exact ⟨Json.ordered_some (.num _), Json.ordered_some (.num _), Json.ordered_some (.str _)⟩

end Retry

/-! ## Reports -/

namespace Analytics

/-- Decoded analytics have their properties in order. -/
theorem settled_of_decode {j : Json} {a : Analytics} (h : decode (.ofJson j) = .ok a) :
    (Json.obj a.properties).Ordered := by
  rw [decode] at h
  obtain ⟨⟨d, ending⟩, hd, h⟩ := Decoding.bind_eq_ok.1 h
  obtain ⟨event, -, h⟩ := Decoding.bind_eq_ok.1 h
  cases h
  refine record_keeps (P := fun d : Draft => (Json.obj d.properties).Ordered) hd
    Json.ordered_empty fun k x d d' _ hs hf => ?_
  split at hf
  · obtain ⟨event, -, rfl⟩ := Decoding.return_eq_ok.1 hf
    exact hs
  · obtain ⟨properties, hproperties, rfl⟩ := Decoding.return_eq_ok.1 hf
    exact fields_ordered hproperties
  · obtain ⟨track, -, rfl⟩ := Decoding.return_eq_ok.1 hf
    exact hs
  · cases hf
    exact hs

theorem toJson_eq (a : Analytics) :
    a.toJson = .obj (Keyed.ofPresent
      [("event", some (.str a.event)), ("properties", some (.obj a.properties)),
       ("trackPerformance", some (.bool a.trackPerformance))]) := rfl

/-- **Analytics are read back as they were written.** -/
theorem decode_toJson {a : Analytics} (h : (Json.obj a.properties).Ordered) :
    decode (.ofJson a.toJson) = .ok a := by
  rw [decode, toJson_eq, record_ofPresent _ rfl (by decide)]
  simp only [Keyed.ofList, Keyed.insertAll, List.foldl_cons, List.foldl_nil, Keyed.insert,
    String.reduceEq, String.reduceLT, ↓reduceIte, List.foldlM_cons, List.foldlM_nil]
  rw [offer_required (string_ofJson a.event), Decoding.ok_bind,
    offer_required (fields_ofJson h), Decoding.ok_bind,
    offer_required (bool_ofJson a.trackPerformance)]
  rfl

theorem ordered_toJson {a : Analytics} (h : (Json.obj a.properties).Ordered) :
    a.toJson.Ordered := by
  rw [toJson_eq]
  refine Json.ordered_ofPresent ?_
  simp only [List.forall_mem_cons, List.not_mem_nil, false_imp_iff, implies_true, and_true]
  exact ⟨Json.ordered_some (.str _), Json.ordered_some h, Json.ordered_some (.bool _)⟩

end Analytics

/-! ## Actions -/

namespace Action

/-- An action as it is read: what it is made of is settled, and so are its fallbacks. -/
inductive Settled : Action → Prop where
  | mk {a : Action} (payload : (Json.obj a.payload).Ordered)
      (condition : ∀ c ∈ a.condition, c.Settled) (throttle : ∀ n ∈ a.throttle, n < Json.natLimit)
      (debounce : ∀ n ∈ a.debounce, n < Json.natLimit) (retry : ∀ r ∈ a.retry, r.Settled)
      (fallback : ∀ b ∈ a.fallback, Settled b)
      (analytics : ∀ r ∈ a.analytics, (Json.obj r.properties).Ordered) : Settled a

/-- What is in an action on its way in is settled. -/
structure Draft.Settled (d : Draft) : Prop where
  payload : (Json.obj d.payload).Ordered
  condition : ∀ c ∈ d.condition, c.Settled
  throttle : ∀ n ∈ d.throttle, n < Json.natLimit
  debounce : ∀ n ∈ d.debounce, n < Json.natLimit
  retry : ∀ r ∈ d.retry, r.Settled
  fallback : ∀ b ∈ d.fallback, b.Settled
  analytics : ∀ r ∈ d.analytics, (Json.obj r.properties).Ordered

/-- **What is read is settled.** -/
theorem settled_of_ofJson {j : Json} {a : Action} (h : ofJson j = .ok a) : a.Settled := by
  induction j using Json.induction_size generalizing a with
  | step j ih =>
    rw [ofJson, decode] at h
    obtain ⟨⟨d, ending⟩, hd, h⟩ := Decoding.bind_eq_ok.1 h
    obtain ⟨type, -, h⟩ := Decoding.bind_eq_ok.1 h
    cases h
    have hinit : Draft.Settled {} :=
      ⟨Json.ordered_empty, forall_mem_none _, forall_mem_none _, forall_mem_none _,
        forall_mem_none _, forall_mem_none _, forall_mem_none _⟩
    have hdraft : d.Settled := by
      refine record_keeps hd hinit fun k x d d' hx hs hf => ?_
      split at hf
      · obtain ⟨type, -, rfl⟩ := Decoding.return_eq_ok.1 hf
        exact { hs with }
      · obtain ⟨payload, hpayload, rfl⟩ := Decoding.return_eq_ok.1 hf
        exact { hs with payload := fields_ordered hpayload }
      · obtain ⟨condition, hcondition, rfl⟩ := Decoding.return_eq_ok.1 hf
        exact { hs with
          condition := fun c hc => Condition.settled_of_ofJson (of_optional hcondition c hc).2 }
      · obtain ⟨throttle, hthrottle, rfl⟩ := Decoding.return_eq_ok.1 hf
        exact { hs with throttle := fun n hn => lt_of_nat (of_optional hthrottle n hn).2 }
      · obtain ⟨debounce, hdebounce, rfl⟩ := Decoding.return_eq_ok.1 hf
        exact { hs with debounce := fun n hn => lt_of_nat (of_optional hdebounce n hn).2 }
      · obtain ⟨retry, hretry, rfl⟩ := Decoding.return_eq_ok.1 hf
        exact { hs with
          retry := fun r hr => Retry.settled_of_decode (of_optional hretry r hr).2 }
      · split at hf
        · cases hf
          exact { hs with fallback := forall_mem_none _ }
        · obtain ⟨next, hnext, rfl⟩ := Decoding.return_eq_ok.1 hf
          exact { hs with fallback := fun b hb => Option.some.inj hb ▸ ih _ hx hnext }
      · obtain ⟨analytics, hanalytics, rfl⟩ := Decoding.return_eq_ok.1 hf
        exact { hs with
          analytics := fun r hr => Analytics.settled_of_decode (of_optional hanalytics r hr).2 }
      · obtain ⟨component, -, rfl⟩ := Decoding.return_eq_ok.1 hf
        exact { hs with }
      · cases hf
        exact hs
    exact .mk hdraft.payload hdraft.condition hdraft.throttle hdraft.debounce hdraft.retry
      hdraft.fallback hdraft.analytics

/-- What is written of an action, member by member, the absent ones left out. -/
theorem toJson_eq (a : Action) :
    a.toJson = .obj (Keyed.ofPresent
      [("type", some (.str a.type)), ("payload", some (.obj a.payload)),
       ("condition", a.condition.map Condition.toJson), ("throttle", a.throttle.map .ofNat),
       ("debounce", a.debounce.map .ofNat), ("retry", a.retry.map Retry.toJson),
       ("fallback", a.fallback.map toJson), ("analytics", a.analytics.map Analytics.toJson),
       ("componentId", a.componentId.map .str)]) := by
  obtain ⟨type, payload, condition, throttle, debounce, retry, fallback, analytics, id⟩ := a
  cases fallback <;> rw [toJson] <;> rfl

/-- What is written of a settled action is in order. -/
theorem Settled.ordered_toJson {a : Action} (h : a.Settled) : a.toJson.Ordered := by
  induction h with
  | @mk a payload condition _ _ _ _ analytics ih =>
    rw [toJson_eq]
    refine Json.ordered_ofPresent ?_
    simp only [List.forall_mem_cons, List.not_mem_nil, false_imp_iff, implies_true, and_true]
    exact ⟨Json.ordered_some (.str _), Json.ordered_some payload,
      Json.ordered_map fun c hc => (condition c hc).ordered.toJson,
      Json.ordered_map fun _ _ => .num _, Json.ordered_map fun _ _ => .num _,
      Json.ordered_map fun r _ => r.ordered_toJson, Json.ordered_map ih,
      Json.ordered_map fun r hr => Analytics.ordered_toJson (analytics r hr),
      Json.ordered_map fun s _ => .str s⟩

/-- An action is never written as null. -/
theorem isNull_toJson (a : Action) : a.toJson.isNull = false := by
  rw [toJson_eq]
  rfl

/-- A fallback is taken in like other fields that may be null. -/
theorem offer_fallback {o : Option Action} (ho : ∀ b ∈ o, ofJson b.toJson = .ok b) {d : Draft}
    (hd : d.fallback = none) :
    offer (o.map toJson)
        (fun t d => if t.isNull then return { d with fallback := none }
          else return { d with fallback := some (← decode t) }) d
      = .ok { d with fallback := o } := by
  cases o with
  | none => exact congrArg Except.ok (by rw [← hd])
  | some b =>
    rw [Option.map_some, offer_some, isNull_ofJson, isNull_toJson, if_neg Bool.false_ne_true,
      show decode (Json.Source.ofJson b.toJson) = .ok b from ho b rfl]
    rfl

/-- **An action that was read is read back as it is.** -/
theorem Settled.ofJson_toJson {a : Action} (h : a.Settled) : ofJson a.toJson = .ok a := by
  induction h with
  | @mk a payload condition throttle debounce retry _ analytics ih =>
    rw [ofJson, decode, toJson_eq, record_ofPresent _ rfl (by decide)]
    simp only [Keyed.ofList, Keyed.insertAll, List.foldl_cons, List.foldl_nil, Keyed.insert,
      String.reduceEq, String.reduceLT, ↓reduceIte, List.foldlM_cons, List.foldlM_nil]
    rw [offer_optional _ (fun r hr => Analytics.decode_toJson (analytics r hr)) (fun _ => rfl) rfl,
      Decoding.ok_bind,
      offer_optional _ (fun s _ => string_ofJson s) (fun _ => rfl) rfl, Decoding.ok_bind,
      offer_optional _ (fun c hc => (condition c hc).ofJson_toJson) Condition.isNull_toJson rfl,
      Decoding.ok_bind,
      offer_optional _ (fun n hn => nat64_ofJson (debounce n hn)) (fun _ => rfl) rfl,
      Decoding.ok_bind, offer_fallback ih rfl, Decoding.ok_bind,
      offer_required (fields_ofJson payload), Decoding.ok_bind,
      offer_optional _ (fun r hr => (retry r hr).decode_toJson) (fun _ => rfl) rfl,
      Decoding.ok_bind,
      offer_optional _ (fun n hn => nat64_ofJson (throttle n hn)) (fun _ => rfl) rfl,
      Decoding.ok_bind, offer_required (string_ofJson a.type)]
    cases a
    rfl

end Action

end RemoteScreen
