import RemoteScreen.Condition.Codec
import RemoteScreen.Proofs.Json.Records

/-!
# Proofs/Condition/Written — conditions that are written and read

What arrives of a condition is the condition itself but for its operands: one of null is written,
and counts as none when it is read (`decode_toJson`).  **A condition that was read has none such,
and is read back as it is** (`Settled.ofJson_toJson`).
-/

namespace RemoteScreen

namespace Condition

/-- The operands of a condition, and of those nested in it, have their members in key order. -/
inductive Ordered : Condition → Prop where
  | mk {operator field value conditions} (hv : ∀ v ∈ value, v.Ordered)
      (hcs : ∀ c ∈ conditions, Ordered c) : Ordered ⟨operator, field, value, conditions⟩

mutual

/-- What arrives of a condition that is written and read: an operand of null counts as none. -/
def transported : Condition → Condition
  | ⟨operator, field, value, conditions⟩ =>
    ⟨operator, field, value.filter (!·.isNull), transportedAll conditions⟩

/-- What arrives of some conditions. -/
def transportedAll : List Condition → List Condition
  | [] => []
  | c :: cs => transported c :: transportedAll cs

end

/-- Conditions are transported one by one. -/
theorem transportedAll_eq_map (cs : List Condition) : transportedAll cs = cs.map transported := by
  induction cs with
  | nil => rfl
  | cons c cs ih => rw [transportedAll, ih, List.map_cons]

/-- Conditions are written one by one. -/
theorem listToJson_eq_map (cs : List Condition) : listToJson cs = cs.map toJson := by
  induction cs with
  | nil => rfl
  | cons c cs ih => rw [listToJson, ih, List.map_cons]

/-- What is written of a condition is in order if its operands are. -/
theorem Ordered.toJson {c : Condition} (h : c.Ordered) : c.toJson.Ordered := by
  induction h with
  | @mk operator field value conditions hv _ ih =>
    have hconditions : ∀ w ∈ (if conditions.isEmpty then none
        else some (Json.arr (listToJson conditions))), w.Ordered := by
      split
      · exact forall_mem_none _
      · rw [listToJson_eq_map]
        exact Json.ordered_some (Json.ordered_list ih)
    rw [Condition.toJson]
    refine Json.ordered_ofPresent ?_
    simp only [List.forall_mem_cons, List.not_mem_nil, false_imp_iff, implies_true, and_true]
    exact ⟨Json.ordered_some (.str _), Json.ordered_map fun s _ => .str s, hv, hconditions⟩

open Json.Source in
/-- **What is read back of a written condition is its transported form.** -/
theorem decode_toJson {c : Condition} (h : c.Ordered) :
    ofJson c.toJson = .ok c.transported := by
  induction h with
  | @mk operator field value conditions hv hcs ih =>
    have hconditions : offer (if conditions.isEmpty then none
          else some (.arr (listToJson conditions)))
        (fun t d => do return { d with conditions := ← t.listOf fun c _ => decode c })
        ({} : Draft) = .ok { conditions := transportedAll conditions } := by
      cases conditions with
      | nil => rfl
      | cons c cs =>
        rw [List.isEmpty_cons, if_neg Bool.false_ne_true, listToJson_eq_map, transportedAll_eq_map]
        exact offer_list _ ih
    rw [ofJson, decode, toJson, record_ofPresent _ rfl (by decide)]
    simp only [Keyed.ofList, Keyed.insertAll, List.foldl_cons, List.foldl_nil, Keyed.insert,
      String.reduceEq, String.reduceLT, ↓reduceIte, List.foldlM_cons, List.foldlM_nil]
    rw [hconditions, Decoding.ok_bind,
      offer_optional field (fun s _ => string_ofJson s) (fun _ => rfl) rfl, Decoding.ok_bind,
      offer_required (string_ofJson operator), Decoding.ok_bind, offer_value value hv rfl]
    rfl

/-- A condition as it is read: no operand is null, and all have their members in key order. -/
inductive Settled : Condition → Prop where
  | mk {operator field value conditions} (hv : ∀ v ∈ value, v.Ordered ∧ v.isNull = false)
      (hcs : ∀ c ∈ conditions, Settled c) : Settled ⟨operator, field, value, conditions⟩

/-- A settled condition has its values in order. -/
theorem Settled.ordered {c : Condition} (h : c.Settled) : c.Ordered := by
  induction h with
  | mk hv _ ih => exact .mk (fun v hm => (hv v hm).1) ih

/-- A settled condition is left as it is by a transport. -/
theorem Settled.transported_eq {c : Condition} (h : c.Settled) : c.transported = c := by
  induction h with
  | @mk operator field value conditions hv _ ih =>
    have hvalue : value.filter (!·.isNull) = value := by
      cases value with
      | none => rfl
      | some v => rw [Option.filter_some, (hv v rfl).2]; rfl
    have hconditions : transportedAll conditions = conditions := by
      rw [transportedAll_eq_map, List.map_congr_left ih, List.map_id']
    rw [transported, hvalue, hconditions]

/-- What is in a condition on its way in is settled. -/
structure Draft.Settled (d : Draft) : Prop where
  value : ∀ v ∈ d.value, v.Ordered ∧ v.isNull = false
  conditions : ∀ c ∈ d.conditions, c.Settled

/-- **What is read is settled.** -/
theorem settled_of_ofJson {j : Json} {c : Condition} (h : ofJson j = .ok c) : c.Settled := by
  induction j using Json.induction_size generalizing c with
  | step j ih =>
    rw [ofJson, decode] at h
    obtain ⟨⟨d, ending⟩, hd, h⟩ := Decoding.bind_eq_ok.1 h
    obtain ⟨operator, -, h⟩ := Decoding.bind_eq_ok.1 h
    cases h
    have hinit : Draft.Settled {} := ⟨forall_mem_none _, List.forall_mem_nil _⟩
    have hdraft : d.Settled := by
      refine Json.Source.record_keeps hd hinit fun k x d d' hx hs hf => ?_
      split at hf
      · obtain ⟨_, -, rfl⟩ := Decoding.return_eq_ok.1 hf
        exact { hs with }
      · obtain ⟨_, -, rfl⟩ := Decoding.return_eq_ok.1 hf
        exact { hs with }
      · obtain ⟨_, hvalue, rfl⟩ := Decoding.return_eq_ok.1 hf
        refine { hs with value := fun v hv => ?_ }
        obtain ⟨hnull, hval⟩ := Json.Source.of_optional hvalue v hv
        exact ⟨Json.Source.value_ordered hval, (Json.Source.isNull_of_value hval).trans hnull⟩
      · obtain ⟨_, hlist, rfl⟩ := Decoding.return_eq_ok.1 hf
        exact { hs with
          conditions := Json.Source.listOf_forall hlist fun y c hy hc =>
            ih _ (Nat.lt_trans hy hx) hc }
      · cases hf
        exact hs
    exact .mk hdraft.value hdraft.conditions

theorem isNull_toJson (c : Condition) : c.toJson.isNull = false := by
  cases c
  rfl

/-- **A condition that was read is read back as it is.** -/
theorem Settled.ofJson_toJson {c : Condition} (h : c.Settled) : ofJson c.toJson = .ok c := by
  rw [decode_toJson h.ordered, h.transported_eq]

end Condition

end RemoteScreen
