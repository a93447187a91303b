import RemoteScreen.Proofs.Json.Ordered

/-!
# Proofs/Json/Records — walking over what a value is made of

Two sides of the walkers of `Json/Decode`, on the source of a value:

* what each step keeps holds of what comes out at the end (`record_keeps`, `listOf_forall`,
  `mapOf_forall`), whichever way a record is written, and what a member of an object puts there is
  in what comes out (`record_takes`);
* of an object made from members that may be absent, **each member that is there is taken in, once
  and in key order** (`record_ofPresent`), and lists and maps come out as they were written.
-/

namespace RemoteScreen

namespace Keyed

variable {α : Type}

/-- The entries that have a value. -/
def present (entries : Keyed (Option α)) : Keyed α := entries.filterMap fun m => m.2.map (m.1, ·)

theorem mem_present {entries : Keyed (Option α)} {m : String × α} :
    m ∈ present entries ↔ (m.1, some m.2) ∈ entries := by
  rw [present, List.mem_filterMap]
  constructor
  · rintro ⟨⟨k, o⟩, hmem, ho⟩
    obtain ⟨v, rfl, rfl⟩ := Option.map_eq_some_iff.1 ho
    exact hmem
  · intro hmem
    exact ⟨_, hmem, rfl⟩

/-- A key before all others is put in front. -/
theorem insert_of_gt {fs : Keyed α} {k : String} (h : ∀ m ∈ fs, k < m.1) (v : α) :
    fs.insert k v = (k, v) :: fs := by
  cases fs with
  | nil => rfl
  | cons m fs =>
    have hm : k < m.1 := h m List.mem_cons_self
    have hne : k ≠ m.1 := fun heq => String.lt_irrefl _ (heq ▸ hm)
    rw [Keyed.insert, if_neg hne, if_pos hm]

/-- Putting in an entry without a value changes nothing that is there. -/
theorem present_insert_none {entries : Keyed (Option α)} {k : String}
    (hk : ∀ m ∈ entries, m.1 ≠ k) : present (entries.insert k none) = present entries := by
  induction entries with
  | nil => rfl
  | cons m entries ih =>
    obtain ⟨hm, hrest⟩ := List.forall_mem_cons.1 hk
    obtain ⟨l, o⟩ := m
    rw [Keyed.insert, if_neg (Ne.symm hm)]
    split
    · rfl
    · cases o with
      | none => exact ih hrest
      | some w => exact congrArg ((l, w) :: ·) (ih hrest)

/-- A new member with a value is inserted among those present. -/
theorem present_insert_some {entries : Keyed (Option α)} (h : entries.Ordered) {k : String}
    (hk : ∀ m ∈ entries, m.1 ≠ k) (v : α) :
    present (entries.insert k (some v)) = (present entries).insert k v := by
  induction entries with
  | nil => rfl
  | cons m entries ih =>
    obtain ⟨hm, hrest⟩ := List.forall_mem_cons.1 hk
    obtain ⟨hlt, hord⟩ := List.pairwise_cons.1 h
    obtain ⟨l, o⟩ := m
    rw [Keyed.insert, if_neg (Ne.symm hm)]
    split
    · next hkl =>
      have hbefore : ∀ n ∈ present ((l, o) :: entries), k < n.1 := by
        intro n hn
        rcases List.mem_cons.1 (mem_present.1 hn) with heq | hn
        · exact (congrArg Prod.fst heq : n.1 = l) ▸ hkl
        · exact String.lt_trans hkl (hlt _ hn)
      rw [insert_of_gt hbefore]
      rfl
    · next hkl =>
      have hih := ih hord hrest
      cases o with
      | none => exact hih
      | some w =>
        rw [show present ((l, some w) :: entries) = (l, w) :: present entries from rfl,
          Keyed.insert, if_neg (Ne.symm hm), if_neg hkl]
        exact congrArg ((l, w) :: ·) hih

/-- Members under different names are present together if each is. -/
theorem present_insertAll {base entries : Keyed (Option α)} (h : base.Ordered)
    (hk : (base ++ entries).Pairwise (·.1 ≠ ·.1)) :
    present (base.insertAll entries) = (present base).insertAll (present entries) := by
  induction entries generalizing base with
  | nil => rfl
  | cons m entries ih =>
    obtain ⟨k, o⟩ := m
    obtain ⟨hbase, hentries, hcross⟩ := List.pairwise_append.1 hk
    obtain ⟨hm, hrest⟩ := List.pairwise_cons.1 hentries
    have hfresh : ∀ n ∈ base, n.1 ≠ k := fun n hn => hcross n hn _ List.mem_cons_self
    have hnext : (base.insert k o ++ entries).Pairwise (·.1 ≠ ·.1) := by
      refine List.pairwise_append.2 ⟨?_, hrest, fun n hn p hp => ?_⟩
      · exact (h.insert k o).pairwise_ne
      · rcases mem_insert hn with rfl | hn
        · exact hm p hp
        · exact hcross n hn p (List.mem_cons_of_mem _ hp)
    rw [show base.insertAll ((k, o) :: entries) = (base.insert k o).insertAll entries from rfl,
      ih (h.insert k o) hnext]
    cases o with
    | none => rw [present_insert_none hfresh]; rfl
    | some v => rw [present_insert_some h hfresh]; rfl

/-- Of entries with different keys, those that have a value are put in order as all of them are. -/
theorem ofPresent_eq {entries : List (String × Option α)}
    (hk : entries.Pairwise (·.1 ≠ ·.1)) : ofPresent entries = present (ofList entries) :=
  (present_insertAll ordered_nil hk).symm

section Map

variable {β : Type} (g : α → β)

theorem map_insert (fs : Keyed α) (k : String) (v : α) :
    (fs.insert k v).map (fun m => (m.1, g m.2))
      = Keyed.insert k (g v) (fs.map fun m => (m.1, g m.2)) := by
  induction fs with
  | nil => rfl
  | cons m fs ih =>
    rw [Keyed.insert, List.map_cons, Keyed.insert]
    split
    · rfl
    · split
      · rfl
      · rw [List.map_cons, ih]

theorem map_insertAll (base extra : Keyed α) :
    (base.insertAll extra).map (fun m => (m.1, g m.2))
      = Keyed.insertAll (base.map fun m => (m.1, g m.2)) (extra.map fun m => (m.1, g m.2)) := by
  induction extra generalizing base with
  | nil => rfl
  | cons m extra ih =>
    have hnext := ih (base.insert m.1 m.2)
    rw [map_insert] at hnext
    exact hnext

/-- Entries are changed where they stand, those that have a value. -/
theorem map_ofPresent (entries : List (String × Option α)) :
    (ofPresent entries).map (fun m => (m.1, g m.2))
      = ofPresent (entries.map fun m => (m.1, m.2.map g)) := by
  have hpresent : (entries.filterMap fun m => m.2.map (m.1, ·)).map (fun m => (m.1, g m.2))
      = (entries.map fun m => (m.1, m.2.map g)).filterMap fun m => m.2.map (m.1, ·) := by
    rw [List.map_filterMap, List.filterMap_map]
    refine congrArg (List.filterMap · entries) (funext fun m => ?_)
    cases h : m.2 <;> simp [h]
  rw [ofPresent, ofPresent, ← hpresent]
  exact map_insertAll g [] _

end Map

end Keyed

/-- A decoding that succeeds has a result. -/
theorem Decoding.exists_of_isOk {α : Type} {x : Decoding α} (h : x.isOk = true) :
    ∃ a, x = .ok a := by
  cases x with
  | error e => cases h
  | ok a => exact ⟨a, rfl⟩

/-- A decoding that makes something of a result succeeds if the result does. -/
theorem Decoding.return_eq_ok {α β : Type} {x : Decoding α} {f : α → β} {b : β} :
    (do return f (← x)) = (.ok b : Decoding β) ↔ ∃ a, x = .ok a ∧ f a = b := by
  rw [Decoding.bind_eq_ok]
  exact exists_congr fun a => and_congr_right fun _ => ⟨Except.ok.inj, congrArg _⟩

/-- Mapping after a step maps all that comes of it. -/
theorem Decoding.map_bind {α β γ : Type} (x : Decoding α) (f : α → Decoding β) (g : β → γ) :
    (x >>= f).map g = x >>= fun a => (f a).map g := by
  cases x <;> rfl

theorem forall_mem_none {α : Type} (P : α → Prop) : ∀ a ∈ (none : Option α), P a := nofun

namespace Json

/-- What holds of a value if it holds of all smaller ones holds of every value. -/
theorem induction_size {P : Json → Prop} (step : ∀ j, (∀ x, sizeOf x < sizeOf j → P x) → P j)
    (j : Json) : P j := (measure sizeOf).wf.induction j step

theorem ordered_some {v : Json} (h : v.Ordered) : ∀ w ∈ some v, w.Ordered :=
  fun _ hw => Option.some.inj hw ▸ h

/-- An optional member has its keys in order if its value has. -/
theorem ordered_map {α : Type} {o : Option α} {enc : α → Json} (h : ∀ a ∈ o, (enc a).Ordered) :
    ∀ w ∈ o.map enc, w.Ordered := by
  intro w hw
  obtain ⟨a, ha, rfl⟩ := Option.map_eq_some_iff.1 hw
  exact h a ha

/-- A list has its keys in order if its items have. -/
theorem ordered_list {α : Type} {xs : List α} {enc : α → Json} (h : ∀ x ∈ xs, (enc x).Ordered) :
    (arr (xs.map enc)).Ordered := .arr (List.forall_mem_map.2 h)

/-- An object made from members that may be absent is in order if those are that are there. -/
theorem ordered_ofPresent {entries : List (String × Option Json)}
    (h : ∀ m ∈ entries, ∀ v ∈ m.2, v.Ordered) : (obj (Keyed.ofPresent entries)).Ordered := by
  refine .obj (Keyed.ordered_ofList _) fun m hm => ?_
  have hmem : (m.1, some m.2) ∈ entries := Keyed.mem_present.1 (Keyed.mem_ofList hm)
  exact h _ hmem m.2 rfl

end Json

namespace Json.Source

variable {α β δ : Type}

/-! ## Single values -/

theorem string_ofJson (s : String) : (ofJson (.str s)).string = .ok s := rfl

theorem bool_ofJson (b : Bool) : (ofJson (.bool b)).bool = .ok b := rfl

/-- A number below the limit is read as it is written. -/
theorem nat_ofJson {limit n : Nat} (h : n < limit) (kind : String) :
    (ofJson (.ofNat n)).nat limit kind = .ok n := by
  have hin : 0 ≤ (n : Int) ∧ (n : Int) < limit := by omega
  exact if_pos hin

theorem isNull_ofJson (j : Json) : (ofJson j).isNull = j.isNull := by
  cases j <;> rfl

theorem nat32_ofJson {n : Nat} (h : n < 0x100000000) : (ofJson (.ofNat n)).nat32 = .ok n :=
  nat_ofJson h _

theorem nat64_ofJson {n : Nat} (h : n < natLimit) : (ofJson (.ofNat n)).nat64 = .ok n :=
  nat_ofJson h _

/-- A number that was read is below the limit. -/
theorem lt_of_nat {j : Json} {limit n : Nat} {kind : String}
    (h : (ofJson j).nat limit kind = .ok n) : n < limit := by
  cases j with
  | num m =>
    cases m with
    | int i =>
      rw [ofJson, nat] at h
      split at h
      · next hi =>
        cases h
        omega
      · cases h
    | real x => cases h
  | null | bool | str | arr | obj => cases h

/-- A value that may be null comes of a decoder, or there is none. -/
theorem of_optional {j : Json} {dec : Source → Decoding α} {o : Option α}
    (h : (ofJson j).optional dec = .ok o) :
    ∀ a ∈ o, j.isNull = false ∧ dec (ofJson j) = .ok a := by
  rw [optional, isNull_ofJson] at h
  split at h
  · exact Except.ok.inj h ▸ nofun
  · next hnull =>
    obtain ⟨a, ha, h⟩ := Decoding.bind_eq_ok.1 h
    cases h
    intro b hb
    exact ⟨by simpa using hnull, Option.mem_some.1 hb ▸ ha⟩

/-- A value is read as null only if it is. -/
theorem isNull_of_value {j v : Json} (h : (ofJson j).value = .ok v) : v.isNull = j.isNull := by
  cases j with
  | arr items => obtain ⟨vs, -, h⟩ := Decoding.bind_eq_ok.1 h; cases h; rfl
  | obj fields => obtain ⟨gs, -, h⟩ := Decoding.bind_eq_ok.1 h; cases h; rfl
  | null | bool | num | str => cases h; rfl

/-! ## Lists and maps -/

/-- The items of a list are decoded one by one. -/
theorem decodeItems_ofItems {bound : Nat} (decode : Source → Decoding α) (items : List Json)
    (h : ∀ x ∈ ofItems items, sizeOf x.2 < bound) :
    decodeItems (fun t (_ : sizeOf t < bound) => decode t) (ofItems items) h
      = items.mapM fun x => decode (ofJson x) := by
  induction items with
  | nil => rfl
  | cons x items ih =>
    rw [List.mapM_cons, ← ih fun y hy => h y (List.mem_cons_of_mem _ hy)]
    rfl

/-- A list is decoded item by item. -/
theorem listOf_arr (decode : Source → Decoding α) (items : List Json) :
    (ofJson (.arr items)).listOf (fun t _ => decode t) = items.mapM fun x => decode (ofJson x) :=
  decodeItems_ofItems decode items _

/-- And so are the members of an object. -/
theorem decodeMembers_ofFields {bound : Nat} (decode : Source → Decoding α) (fields : Fields)
    (h : ∀ x ∈ ofFields fields, sizeOf x.2.2 < bound) :
    decodeMembers (fun t (_ : sizeOf t < bound) => decode t) (ofFields fields) h
      = fields.mapM fun m => return (m.1, ← decode (ofJson m.2)) := by
  induction fields with
  | nil => rfl
  | cons m fields ih =>
    rw [List.mapM_cons, ← ih fun y hy => h y (List.mem_cons_of_mem _ hy)]
    cases hm : decode (ofJson m.2) <;> simp [ofFields, decodeMembers, hm] <;> rfl

/-- An object is decoded member by member. -/
theorem mapOf_obj (decode : Source → Decoding α) (fields : Fields) :
    (ofJson (.obj fields)).mapOf (fun t _ => decode t)
      = fields.mapM fun m => return (m.1, ← decode (ofJson m.2)) :=
  decodeMembers_ofFields decode fields _

/-- What comes out of a list of decodings comes out of one of them. -/
theorem exists_of_mapM {f : β → Decoding α} {xs : List β} {as : List α}
    (h : xs.mapM f = .ok as) : ∀ a ∈ as, ∃ x ∈ xs, f x = .ok a := by
  induction xs generalizing as with
  | nil => exact Except.ok.inj h ▸ nofun
  | cons x xs ih =>
    rw [List.mapM_cons] at h
    obtain ⟨a, ha, h⟩ := Decoding.bind_eq_ok.1 h
    obtain ⟨rest, hrest, h⟩ := Decoding.bind_eq_ok.1 h
    cases h
    intro b hb
    rcases List.mem_cons.1 hb with rfl | hb
    · exact ⟨x, List.mem_cons_self, ha⟩
    · obtain ⟨y, hy, hfy⟩ := ih hrest b hb
      exact ⟨y, List.mem_cons_of_mem _ hy, hfy⟩

/-- Where each one is decoded, all are. -/
theorem mapM_eq_ok {f : β → Decoding α} {g : β → α} {xs : List β}
    (h : ∀ x ∈ xs, f x = .ok (g x)) : xs.mapM f = .ok (xs.map g) := by
  induction xs with
  | nil => rfl
  | cons x xs ih =>
    obtain ⟨hx, hxs⟩ := List.forall_mem_cons.1 h
    rw [List.mapM_cons, hx, Decoding.ok_bind, ih hxs]
    rfl

/-- What a decoder makes of each item is in the list that comes out. -/
theorem listOf_forall {Q : α → Prop} {j : Json} {decode : Source → Decoding α} {as : List α}
    (h : (ofJson j).listOf (fun t _ => decode t) = .ok as)
    (hdec : ∀ x a, sizeOf x < sizeOf j → decode (ofJson x) = .ok a → Q a) : ∀ a ∈ as, Q a := by
  cases j with
  | arr items =>
    rw [listOf_arr] at h
    intro a ha
    obtain ⟨x, hx, hxa⟩ := exists_of_mapM h a ha
    refine hdec x a ?_ hxa
    have := List.sizeOf_lt_of_mem hx
    rw [Json.arr.sizeOf_spec]
    omega
  | null | bool | num | str | obj => cases h

private theorem sizeOf_field {fields : Fields} {m : String × Json} (h : m ∈ fields) :
    sizeOf m.2 < sizeOf (Json.obj fields) := by
  have := List.sizeOf_lt_of_mem h
  obtain ⟨k, x⟩ := m
  simp only [Prod.mk.sizeOf_spec, Json.obj.sizeOf_spec] at *
  omega

/-- What a decoder makes of each member is in the entries that come out. -/
theorem mapOf_forall {Q : α → Prop} {j : Json} {decode : Source → Decoding α}
    {as : List (String × α)} (h : (ofJson j).mapOf (fun t _ => decode t) = .ok as)
    (hdec : ∀ x a, sizeOf x < sizeOf j → decode (ofJson x) = .ok a → Q a) :
    ∀ a ∈ as, Q a.2 := by
  cases j with
  | obj fields =>
    rw [mapOf_obj] at h
    intro a ha
    obtain ⟨m, hm, hma⟩ := exists_of_mapM h a ha
    obtain ⟨b, hb, hab⟩ := Decoding.bind_eq_ok.1 hma
    cases hab
    exact hdec m.2 b (sizeOf_field hm) hb
  | null | bool | num | str | arr => cases h

/-! ## Records -/

/-- One step of the walk over the members of an object. -/
theorem foldMembers_cons {bound : Nat} (known : List String)
    (step : String → (s : Source) → sizeOf s < bound → δ → Decoding δ) (k : String) (x : Json)
    (fields : Fields) (h : ∀ m ∈ ofFields ((k, x) :: fields), sizeOf m.2.2 < bound)
    (seen : List String) (d : δ) :
    foldMembers known step (ofFields ((k, x) :: fields)) h seen d
      = if !known.contains k then
          (ofJson x).skip >>= fun _ =>
            foldMembers known step (ofFields fields) (fun m hm => h m (List.mem_cons_of_mem _ hm))
              seen d
        else if seen.contains k then .error ⟨.duplicateField k, none⟩
        else
          step k (ofJson x) (h _ List.mem_cons_self) d >>= fun d =>
            foldMembers known step (ofFields fields) (fun m hm => h m (List.mem_cons_of_mem _ hm))
              (k :: seen) d := by
  cases x <;> rfl

section Keeps

variable {P : δ → Prop} {f : String → Source → δ → Decoding δ}

/-- Only what has not been seen is taken in. -/
theorem foldMembers_keeps {bound : Nat} {known : List String} {fields : Fields}
    (hsmall : ∀ x ∈ ofFields fields, sizeOf x.2.2 < bound) {seen : List String} {d d' : δ}
    (hstep : ∀ m ∈ fields, m.1 ∉ seen → ∀ d d', P d → f m.1 (ofJson m.2) d = .ok d' → P d')
    (hd : P d)
    (h : foldMembers known (fun k t (_ : sizeOf t < bound) d => f k t d) (ofFields fields) hsmall
      seen d = .ok d') : P d' := by
  induction fields generalizing seen d with
  | nil => exact Except.ok.inj h ▸ hd
  | cons m fields ih =>
    obtain ⟨hm, hfields⟩ := List.forall_mem_cons.1 hstep
    obtain ⟨k, x⟩ := m
    rw [foldMembers_cons] at h
    split at h
    · obtain ⟨-, -, h⟩ := Decoding.bind_eq_ok.1 h
      exact ih _ hfields hd h
    · split at h
      · cases h
      · next hseen =>
        obtain ⟨d₁, hd₁, h⟩ := Decoding.bind_eq_ok.1 h
        refine ih _ (fun m hm hnot => hfields m hm fun hin => hnot (List.mem_cons_of_mem _ hin))
          (hm (by simpa using hseen) d d₁ hd hd₁) h

/-- What a member puts there is there at the end, if no other member touches it. -/
theorem foldMembers_takes {bound : Nat} {known : List String} {fields : Fields}
    (hsmall : ∀ x ∈ ofFields fields, sizeOf x.2.2 < bound) {seen : List String} {d d' : δ}
    {k : String} {x : Json} (hk : k ∈ known) (hx : (k, x) ∈ fields)
    (htake : ∀ d d', f k (ofJson x) d = .ok d' → P d')
    (hstep : ∀ m ∈ fields, m.1 ≠ k → ∀ d d', P d → f m.1 (ofJson m.2) d = .ok d' → P d')
    (h : foldMembers known (fun k t (_ : sizeOf t < bound) d => f k t d) (ofFields fields) hsmall
      seen d = .ok d') : P d' := by
  induction fields generalizing seen d with
  | nil => cases hx
  | cons m fields ih =>
    have hrest := fun m hm => hstep m (List.mem_cons_of_mem _ hm)
    obtain ⟨l, y⟩ := m
    rw [foldMembers_cons] at h
    split at h
    · next hunknown =>
      obtain ⟨-, -, h⟩ := Decoding.bind_eq_ok.1 h
      rcases List.mem_cons.1 hx with heq | hx
      · cases heq
        simp [hk] at hunknown
      · exact ih _ hx hrest h
    · split at h
      · cases h
      · obtain ⟨d₁, hd₁, h⟩ := Decoding.bind_eq_ok.1 h
        rcases List.mem_cons.1 hx with heq | hx
        · cases heq
          refine foldMembers_keeps _ (fun m hm hnot => hrest m hm ?_) (htake d d₁ hd₁) h
          rintro rfl
          exact hnot List.mem_cons_self
        · exact ih _ hx hrest h

/-- **What every step of a positional reading keeps, the whole reading keeps.** -/
theorem foldItems_keeps {bound total : Nat} {names : List String} {items : List Json}
    (hsmall : ∀ x ∈ ofItems items, sizeOf x.2 < bound) {d d' : δ}
    (hstep : ∀ name, ∀ x ∈ items, ∀ d d', P d → f name (ofJson x) d = .ok d' → P d') (hd : P d)
    (h : foldItems total (fun k t (_ : sizeOf t < bound) d => f k t d) names (ofItems items) hsmall
      d = .ok d') : P d' := by
  induction items generalizing names d with
  | nil => cases names <;> exact Except.ok.inj h ▸ hd
  | cons x items ih =>
    cases names with
    | nil => cases h
    | cons name names =>
      obtain ⟨d₁, hd₁, h⟩ := Decoding.bind_eq_ok.1 h
      exact ih _ (fun name y hy => hstep name y (List.mem_cons_of_mem _ hy))
        (hstep name x List.mem_cons_self d d₁ hd hd₁) h

/-- **What every field keeps holds of the draft that comes out**, of an object and of a list of
fields. -/
theorem record_keeps {j : Json} {l : Layout} {draft d : δ} {ending : Ending}
    (h : (ofJson j).record l draft (fun k t _ d => f k t d) = .ok (d, ending)) (hd : P draft)
    (hstep : ∀ k x d d', sizeOf x < sizeOf j → P d → f k (ofJson x) d = .ok d' → P d') : P d := by
  cases j with
  | obj fields =>
    obtain ⟨d₁, h₁, h⟩ := Decoding.bind_eq_ok.1 h
    cases h
    exact foldMembers_keeps _
      (fun m hm _ d d' hd h => hstep m.1 m.2 d d' (sizeOf_field hm) hd h) hd h₁
  | arr items =>
    obtain ⟨d₁, h₁, h⟩ := Decoding.bind_eq_ok.1 h
    cases h
    refine foldItems_keeps _ (fun k x hx d d' hd h => hstep k x d d' ?_ hd h) hd h₁
    have := List.sizeOf_lt_of_mem hx
    rw [Json.arr.sizeOf_spec]
    omega
  | null | bool | num | str => cases h

/-- **What a member of an object puts there is in the draft that comes out.** -/
theorem record_takes {fields : Fields} {l : Layout} {draft d : δ} {ending : Ending} {k : String}
    {x : Json}
    (h : (ofJson (.obj fields)).record l draft (fun k t _ d => f k t d) = .ok (d, ending))
    (hk : k ∈ l.fields) (hx : (k, x) ∈ fields)
    (htake : ∀ d d', f k (ofJson x) d = .ok d' → P d')
    (hstep : ∀ m ∈ fields, m.1 ≠ k → ∀ d d', P d → f m.1 (ofJson m.2) d = .ok d' → P d') : P d := by
  obtain ⟨d₁, h₁, h⟩ := Decoding.bind_eq_ok.1 h
  cases h
  exact foldMembers_takes _ hk hx htake hstep h₁

end Keeps

/-! ## Records that are read back -/

/-- What a member makes of a draft, if it is there. -/
def offer (o : Option Json) (take : Source → δ → Decoding δ) (d : δ) : Decoding δ :=
  match o with
  | none => .ok d
  | some v => take (ofJson v) d

theorem offer_some (v : Json) (take : Source → δ → Decoding δ) (d : δ) :
    offer (some v) take d = take (ofJson v) d := rfl

/-- What a member is read as, if it is there. -/
def member (o : Option Json) (absent : α) (dec : Source → Decoding α) : Decoding α :=
  match o with
  | none => .ok absent
  | some v => dec (ofJson v)

section Offer

variable {d : δ}

/-- What a member makes of a draft is to put there what it is read as. -/
theorem offer_eq_member {put : α → δ → δ} {dec : Source → Decoding α} (o : Option Json) {absent : α}
    (hput : put absent d = d) :
    offer o (fun t d => do return put (← dec t) d) d
      = member o absent dec >>= fun a => .ok (put a d) := by
  cases o with
  | none => exact congrArg Except.ok hput.symm
  | some v => rfl

/-- The same of what has to be there. -/
theorem offer_eq_member_some (put : Option α → δ → δ) {dec : Source → Decoding α} (o : Option Json)
    (hput : put none d = d) :
    offer o (fun t d => do return put (some (← dec t)) d) d
      = member o none (fun t => do return some (← dec t)) >>= fun a => .ok (put a d) := by
  cases o with
  | none => exact congrArg Except.ok hput.symm
  | some v =>
    rw [offer_some, member]
    cases dec (ofJson v) <;> rfl

/-- A field that is always there is read back. -/
theorem offer_required {put : α → δ → δ} {dec : Source → Decoding α} {v : Json} {a : α}
    (h : dec (ofJson v) = .ok a) :
    offer (some v) (fun t d => do return put (← dec t) d) d = .ok (put a d) := by
  rw [offer_some, h]
  rfl

/-- A field that is left out or null when it has no value is read back. -/
theorem offer_optional {dec : Source → Decoding α} {enc : α → Json}
    {put : Option α → δ → δ} (o : Option α)
    (hdec : ∀ a ∈ o, dec (ofJson (enc a)) = .ok a) (henc : ∀ a, (enc a).isNull = false)
    (hput : put none d = d) :
    offer (o.map enc) (fun t d => do return put (← t.optional dec) d) d = .ok (put o d) := by
  cases o with
  | none => exact congrArg Except.ok hput.symm
  | some a =>
    have hnull : (ofJson (enc a)).isNull = false := by rw [isNull_ofJson, henc]
    rw [Option.map_some, offer_some, optional, hnull, hdec a rfl]
    rfl

/-- A value that is left out is read back, but null as nothing. -/
theorem offer_value {put : Option Json → δ → δ} (o : Option Json) (ho : ∀ v ∈ o, v.Ordered)
    (hput : put none d = d) :
    offer o (fun t d => do return put (← t.optional value) d) d
      = .ok (put (o.filter (!·.isNull)) d) := by
  cases o with
  | none => exact congrArg Except.ok hput.symm
  | some v =>
    rw [offer_some, optional, isNull_ofJson, value_ofJson (ho v rfl), Option.filter_some]
    cases v.isNull <;> rfl

/-- A list is read back item by item. -/
theorem offer_list {dec : Source → Decoding α} {enc : β → Json} {g : β → α}
    {put : List α → δ → δ} (xs : List β) (hdec : ∀ x ∈ xs, dec (ofJson (enc x)) = .ok (g x)) :
    offer (some (.arr (xs.map enc))) (fun t d => do return put (← t.listOf fun x _ => dec x) d) d
      = .ok (put (xs.map g) d) := by
  have hitems : (xs.map enc).mapM (fun x => dec (ofJson x)) = .ok (xs.map g) := by
    rw [List.mapM_map]
    exact mapM_eq_ok hdec
  rw [offer_some, listOf_arr, hitems]
  rfl

/-- Entries are read back one by one. -/
theorem offer_map {dec : Source → Decoding α} {enc : α → Json}
    {put : List (String × α) → δ → δ} (xs : Keyed α)
    (hdec : ∀ x ∈ xs, dec (ofJson (enc x.2)) = .ok x.2) :
    offer (some (.obj (xs.map fun x => (x.1, enc x.2))))
        (fun t d => do return put (← t.mapOf fun x _ => dec x) d) d
      = .ok (put xs d) := by
  have hmembers : (xs.map fun x => (x.1, enc x.2)).mapM
      (fun m => do return (m.1, ← dec (ofJson m.2))) = .ok (xs.map id) := by
    rw [List.mapM_map]
    exact mapM_eq_ok fun x hx => Decoding.return_eq_ok.2 ⟨x.2, hdec x hx, rfl⟩
  rw [offer_some, mapOf_obj, hmembers, List.map_id]
  rfl

end Offer

section ReadBack

variable (f : String → Source → δ → Decoding δ)

/-- The members of a record are taken in turn, each known and none twice. -/
theorem foldMembers_ofFields {bound : Nat} {known : List String} {fields : Fields}
    (hsmall : ∀ x ∈ ofFields fields, sizeOf x.2.2 < bound) {seen : List String}
    (hknown : ∀ m ∈ fields, m.1 ∈ known) (hk : fields.Pairwise (·.1 ≠ ·.1))
    (hseen : ∀ m ∈ fields, m.1 ∉ seen) (d : δ) :
    foldMembers known (fun k t (_ : sizeOf t < bound) d => f k t d) (ofFields fields) hsmall seen d
      = fields.foldlM (fun d m => f m.1 (ofJson m.2) d) d := by
  induction fields generalizing seen d with
  | nil => rfl
  | cons m fields ih =>
    obtain ⟨k, x⟩ := m
    obtain ⟨hkx, hkrest⟩ := List.pairwise_cons.1 hk
    obtain ⟨hkn, hknown⟩ := List.forall_mem_cons.1 hknown
    obtain ⟨hks, hseen⟩ := List.forall_mem_cons.1 hseen
    have hnext : ∀ m ∈ fields, m.1 ∉ k :: seen := by
      intro m hm hmem
      rcases List.mem_cons.1 hmem with heq | hmem
      · exact hkx m hm heq.symm
      · exact hseen m hm hmem
    have hin : (!known.contains k) = false := by simpa using hkn
    have hout : seen.contains k = false := by simpa using hks
    rw [foldMembers_cons, hin, hout, if_neg Bool.false_ne_true, if_neg Bool.false_ne_true,
      List.foldlM_cons]
    exact congrArg _ (funext fun d => ih _ hknown hkrest hnext d)

/-- Taking the members present is offering all of them. -/
theorem foldlM_present (entries : Keyed (Option Json)) (d : δ) :
    (Keyed.present entries).foldlM (fun d m => f m.1 (ofJson m.2) d) d
      = entries.foldlM (fun d m => offer m.2 (f m.1) d) d := by
  induction entries generalizing d with
  | nil => rfl
  | cons m entries ih =>
    obtain ⟨k, o⟩ := m
    rw [List.foldlM_cons]
    cases o with
    | none => exact ih d
    | some v => exact congrArg _ (funext ih)

/-- **Of an object made from the fields of a record, each one that is there is taken in**, in key
order. -/
theorem record_ofPresent {l : Layout} {entries : List (String × Option Json)}
    (hl : entries.map (·.1) = l.fields) (hn : l.fields.Nodup) (draft : δ) :
    (ofJson (.obj (Keyed.ofPresent entries))).record l draft (fun k t _ d => f k t d)
      = (Keyed.ofList entries).foldlM (fun d m => offer m.2 (f m.1) d) draft >>= fun d =>
        .ok (d, .object none) := by
  have hk : entries.Pairwise (·.1 ≠ ·.1) := List.pairwise_map.1 (hl ▸ hn)
  have hdiff : (Keyed.ofPresent entries).Pairwise (·.1 ≠ ·.1) :=
    (Keyed.ordered_ofList _).pairwise_ne
  have hknown : ∀ m ∈ Keyed.ofPresent entries, m.1 ∈ l.fields := by
    intro m hm
    have hmem : (m.1, some m.2) ∈ entries := Keyed.mem_present.1 (Keyed.mem_ofList hm)
    exact hl ▸ List.mem_map_of_mem (f := (·.1)) hmem
  rw [← foldlM_present, ← Keyed.ofPresent_eq hk]
  exact congrArg (· >>= _)
    (foldMembers_ofFields f _ hknown hdiff (fun _ _ => List.not_mem_nil) draft)

end ReadBack

end Json.Source

end RemoteScreen
