import RemoteScreen.Json.Decode

/-!
# Proofs/Json/Ordered — values with their members in key order

An object lists each key once, in key order.  **What is read is in order** (`value_ordered`),
whatever it is read from, and **what is in order is read as it is** (`value_ofJson`).
-/

namespace RemoteScreen

/-! ## Entries -/

namespace Keyed

variable {α : Type}

/-- Each key stands once, and before all greater ones. -/
def Ordered (fs : Keyed α) : Prop := fs.Pairwise (·.1 < ·.1)

theorem ordered_nil : Ordered ([] : Keyed α) := List.Pairwise.nil

/-- Keys in order are different from one another. -/
theorem Ordered.pairwise_ne {fs : Keyed α} (h : fs.Ordered) : fs.Pairwise (·.1 ≠ ·.1) := by
  refine List.Pairwise.imp ?_ h
  intro m n hlt heq
  exact String.lt_irrefl n.1 (heq ▸ hlt)

/-- An insertion keeps the keys in order. -/
theorem Ordered.insert {fs : Keyed α} (h : fs.Ordered) (k : String) (v : α) :
    (fs.insert k v).Ordered := by
  induction fs with
  | nil => exact List.pairwise_singleton _ _
  | cons m fs ih =>
    obtain ⟨l, w⟩ := m
    obtain ⟨hl, hfs⟩ := List.pairwise_cons.1 h
    rw [Keyed.insert]
    split
    · next heq => exact List.pairwise_cons.2 ⟨heq ▸ hl, hfs⟩
    · next hne =>
      split
      · next hlt =>
        refine List.pairwise_cons.2 ⟨fun m hm => ?_, h⟩
        rcases List.mem_cons.1 hm with rfl | hm
        · exact hlt
        · exact String.lt_trans hlt (hl m hm)
      · next hnlt =>
        have hlk : l < k := (Std.lt_trichotomy l k).resolve_right (not_or.2 ⟨Ne.symm hne, hnlt⟩)
        refine List.pairwise_cons.2 ⟨fun m hm => ?_, ih hfs⟩
        rcases mem_insert hm with rfl | hm
        · exact hlk
        · exact hl m hm

theorem Ordered.insertAll {base : Keyed α} (h : base.Ordered) (extra : Keyed α) :
    (base.insertAll extra).Ordered := by
  induction extra generalizing base with
  | nil => exact h
  | cons m extra ih => exact ih (h.insert m.1 m.2)

/-- What is gathered from a list has its keys in order. -/
theorem ordered_ofList (entries : List (String × α)) : (ofList entries).Ordered :=
  ordered_nil.insertAll entries

/-- A key past all others is put at the end. -/
theorem insert_of_lt {fs : Keyed α} {k : String} (h : ∀ m ∈ fs, m.1 < k) (v : α) :
    fs.insert k v = fs ++ [(k, v)] := by
  induction fs with
  | nil => rfl
  | cons m fs ih =>
    have hm : m.1 < k := h m List.mem_cons_self
    have hne : k ≠ m.1 := fun heq => String.lt_irrefl _ (heq ▸ hm)
    rw [Keyed.insert, if_neg hne, if_neg (String.lt_asymm hm),
      ih fun n hn => h n (List.mem_cons_of_mem _ hn), List.cons_append]

/-- Entries that go on in order are put behind those that are there. -/
theorem Ordered.insertAll_eq {base extra : Keyed α} (h : Keyed.Ordered (base ++ extra)) :
    base.insertAll extra = base ++ extra := by
  induction extra generalizing base with
  | nil => exact (List.append_nil base).symm
  | cons m extra ih =>
    have hlt : ∀ n ∈ base, n.1 < m.1 := fun n hn =>
      (List.pairwise_append.1 h).2.2 n hn m List.mem_cons_self
    have hstep : base.insertAll (m :: extra) = (base.insert m.1 m.2).insertAll extra := rfl
    rw [List.append_cons] at h ⊢
    rw [hstep, insert_of_lt hlt, ih h]

/-- What is in order stays as it is. -/
theorem Ordered.ofList_eq {entries : Keyed α} (h : entries.Ordered) : ofList entries = entries :=
  Ordered.insertAll_eq h

end Keyed

/-! ## Values -/

namespace Json

/-- Every object in a value lists its members in key order. -/
inductive Ordered : Json → Prop where
  | null : Ordered null
  | bool (b : Bool) : Ordered (bool b)
  | num (n : Number) : Ordered (num n)
  | str (s : String) : Ordered (str s)
  | arr {items : List Json} (h : ∀ x ∈ items, Ordered x) : Ordered (arr items)
  | obj {fields : Fields} (hk : fields.Ordered) (h : ∀ m ∈ fields, Ordered m.2) :
      Ordered (obj fields)

theorem ordered_empty : (obj []).Ordered := .obj Keyed.ordered_nil nofun

namespace Source

mutual

/-- Every value can be read, and what is read of it is in order. -/
theorem exists_value : (j : Json) → ∃ v, (ofJson j).value = .ok v ∧ v.Ordered
  | .null => ⟨_, rfl, .null⟩
  | .bool b => ⟨_, rfl, .bool b⟩
  | .num n => ⟨_, rfl, .num n⟩
  | .str s => ⟨_, rfl, .str s⟩
  | .arr items => by
    obtain ⟨vs, hvs, hord⟩ := exists_values items
    exact ⟨.arr vs, by rw [ofJson, value, hvs]; rfl, .arr hord⟩
  | .obj fields => by
    obtain ⟨gs, hgs, hk, hord⟩ := exists_memberValues fields [] Keyed.ordered_nil nofun
    exact ⟨.obj gs, by rw [ofJson, value, hgs]; rfl, .obj hk hord⟩

/-- Every list of values can be read, and is read with all keys in order. -/
theorem exists_values : (items : List Json) →
    ∃ vs, values (ofItems items) = .ok vs ∧ ∀ v ∈ vs, v.Ordered
  | [] => ⟨[], rfl, nofun⟩
  | x :: xs => by
    obtain ⟨v, hv, hvo⟩ := exists_value x
    obtain ⟨vs, hvs, hvso⟩ := exists_values xs
    exact ⟨v :: vs, by rw [ofItems, values, hv, hvs]; rfl, List.forall_mem_cons.2 ⟨hvo, hvso⟩⟩

/-- So can the members of every object. -/
theorem exists_memberValues : (fields : Fields) → (read : Fields) → read.Ordered →
    (∀ m ∈ read, m.2.Ordered) →
    ∃ gs, memberValues (ofFields fields) read = .ok gs ∧ gs.Ordered ∧ ∀ m ∈ gs, m.2.Ordered
  | [], read, hk, hv => ⟨read, rfl, hk, hv⟩
  | (k, x) :: fields, read, hk, hv => by
    obtain ⟨v, hx, hvo⟩ := exists_value x
    have hmem : ∀ m ∈ Keyed.insert k v read, m.2.Ordered := by
      intro m hm
      rcases Keyed.mem_insert hm with rfl | hm
      · exact hvo
      · exact hv m hm
    obtain ⟨gs, hgs, h⟩ := exists_memberValues fields _ (hk.insert k v) hmem
    exact ⟨gs, by rw [ofFields, memberValues, hx, Decoding.ok_bind, hgs], h⟩

end

/-- **What is read is in order.** -/
theorem value_ordered {j v : Json} (h : (ofJson j).value = .ok v) : v.Ordered := by
  obtain ⟨w, hw, hord⟩ := exists_value j
  rw [hw] at h
  exact Except.ok.inj h ▸ hord

/-- Fields that are read come with all keys in order. -/
theorem fields_ordered {j : Json} {fields : Fields} (h : (ofJson j).fields = .ok fields) :
    (Json.obj fields).Ordered := by
  cases j with
  | obj members =>
    obtain ⟨gs, hgs, hk, hord⟩ := exists_memberValues members [] Keyed.ordered_nil nofun
    rw [ofJson, Source.fields] at h
    exact Except.ok.inj (hgs.symm.trans h) ▸ .obj hk hord
  | null | bool | num | str | arr => cases h

/-- Members read as themselves add up to the fields. -/
theorem memberValues_ofFields {fields : Fields}
    (h : ∀ m ∈ fields, (ofJson m.2).value = .ok m.2) (read : Fields) :
    memberValues (ofFields fields) read = .ok (read.insertAll fields) := by
  induction fields generalizing read with
  | nil => rfl
  | cons m fields ih =>
    obtain ⟨hm, hfields⟩ := List.forall_mem_cons.1 h
    rw [ofFields, memberValues, hm, Decoding.ok_bind, ih hfields]
    rfl

/-- **What is in order is read as it is.** -/
theorem value_ofJson {j : Json} (h : j.Ordered) : (ofJson j).value = .ok j := by
  induction h with
  | null | bool | num | str => rfl
  | @arr items h ih =>
    have hvalues : values (ofItems items) = .ok items := by
      clear h
      induction items with
      | nil => rfl
      | cons x xs ihx =>
        obtain ⟨hx, hxs⟩ := List.forall_mem_cons.1 ih
        rw [ofItems, values, hx, ihx hxs]
        rfl
    rw [ofJson, value, hvalues]
    rfl
  | @obj fields hk h ih =>
    have hfields := memberValues_ofFields ih []
    rw [show Keyed.insertAll [] fields = fields from hk.ofList_eq] at hfields
    rw [ofJson, value, hfields]
    rfl

/-- An object in order is read as its fields. -/
theorem fields_ofJson {fields : Fields} (h : (Json.obj fields).Ordered) :
    (ofJson (.obj fields)).fields = .ok fields := by
  cases h with
  | obj hk h =>
    have hfields := memberValues_ofFields (fun m hm => value_ofJson (h m hm)) []
    rwa [show Keyed.insertAll [] fields = fields from hk.ofList_eq] at hfields

end Source

end Json

end RemoteScreen
