/-!
# Keyed — values by key, in key order

Entries stand in key order, and each operation finds its place by walking up to the key.

* `get?_insert_self`, `get?_insert_of_ne` — **a write is read back, and touches no other key**;
* `insert_insert_self`, `insert_comm` — the last write of a key wins, and **writes of different
  keys commute**;
* `get?_erase_self`, `get?_erase_of_ne` — the same for removal;
* `mem_of_get?`, `mem_ofList` — what a key has is one of the entries that were put in.
-/

namespace RemoteScreen

/-- Values by key, in key order. -/
abbrev Keyed (α : Type) := List (String × α)

namespace Keyed

variable {α : Type}

/-- The value of a key. -/
def get? : Keyed α → String → Option α
  | [], _ => none
  | (l, v) :: fs, k => if l = k then some v else get? fs k

/-- The key has a value. -/
def contains (fs : Keyed α) (k : String) : Bool := (fs.get? k).isSome

/-- Puts an entry in its place, replacing the value the key had. -/
def insert (k : String) (v : α) : Keyed α → Keyed α
  | [] => [(k, v)]
  | (l, w) :: fs =>
    if k = l then (k, v) :: fs
    else if k < l then (k, v) :: (l, w) :: fs
    else (l, w) :: insert k v fs

/-- Takes every entry with the key out. -/
def erase (k : String) (fs : Keyed α) : Keyed α := fs.filter fun m => m.1 ≠ k

/-- Puts entries in one after the other, so that the last of equal keys wins. -/
def insertAll (base extra : Keyed α) : Keyed α := extra.foldl (fun fs m => fs.insert m.1 m.2) base

/-- Entries in key order, the last of equal keys winning. -/
def ofList (entries : List (String × α)) : Keyed α := insertAll [] entries

/-- Entries in key order, without those that have no value. -/
def ofPresent (entries : List (String × Option α)) : Keyed α :=
  ofList (entries.filterMap fun m => m.2.map (m.1, ·))

/-- The keys in order. -/
def keys (fs : Keyed α) : List String := fs.map (·.1)

@[simp] theorem get?_nil (k : String) : get? ([] : Keyed α) k = none := rfl

/-- A key that was inserted is found with its value. -/
@[simp] theorem get?_insert_self (fs : Keyed α) (k : String) (v : α) :
    (fs.insert k v).get? k = some v := by
  induction fs with
  | nil => simp [insert, get?]
  | cons m fs ih =>
    obtain ⟨l, w⟩ := m
    by_cases h : k = l
    · simp [insert, get?, h]
    · by_cases hl : k < l
      · simp [insert, get?, h, hl]
      · simp [insert, get?, h, hl, Ne.symm h, ih]

/-- Inserting a key changes what is found at no other. -/
theorem get?_insert_of_ne (fs : Keyed α) {k l : String} (v : α) (h : k ≠ l) :
    (fs.insert k v).get? l = fs.get? l := by
  induction fs with
  | nil => simp [insert, get?, h]
  | cons m fs ih =>
    obtain ⟨n, w⟩ := m
    by_cases hn : k = n
    · subst hn
      simp [insert, get?, h]
    · by_cases hlt : k < n
      · simp [insert, get?, hn, hlt, h]
      · simp [insert, get?, hn, hlt, ih]

theorem get?_insert (fs : Keyed α) (k l : String) (v : α) :
    (fs.insert k v).get? l = if k = l then some v else fs.get? l := by
  by_cases h : k = l
  · subst h; simp
  · simp [h, get?_insert_of_ne fs v h]

/-- Of two insertions at one key the second counts. -/
@[simp] theorem insert_insert_self (fs : Keyed α) (k : String) (v w : α) :
    (fs.insert k v).insert k w = fs.insert k w := by
  induction fs with
  | nil => simp [insert]
  | cons m fs ih =>
    obtain ⟨l, u⟩ := m
    by_cases h : k = l
    · simp [insert, h]
    · by_cases hl : k < l
      · simp [insert, h, hl]
      · simp [insert, h, hl, ih]

private theorem insert_comm_of_lt (fs : Keyed α) {k l : String} (v w : α) (h : k < l) :
    (fs.insert k v).insert l w = (fs.insert l w).insert k v := by
  induction fs with
  | nil => grind [insert, String.lt_irrefl, String.lt_asymm]
  | cons m fs ih =>
    obtain ⟨n, u⟩ := m
    have irrefl := String.lt_irrefl
    have trans := @String.lt_trans
    rcases Std.lt_trichotomy k n with hk | hk | hk
    · rcases Std.lt_trichotomy l n with hl | hl | hl <;> grind [insert]
    · grind [insert]
    · grind [insert]

/-- Insertions at different keys may come in either order. -/
theorem insert_comm (fs : Keyed α) {k l : String} (v w : α) (h : k ≠ l) :
    (fs.insert k v).insert l w = (fs.insert l w).insert k v := by
  by_cases hkl : k < l
  · exact insert_comm_of_lt fs v w hkl
  · have hlk : l < k := by
      refine Decidable.byContradiction fun hlk => h ?_
      exact String.le_antisymm (String.not_lt.1 hlk) (String.not_lt.1 hkl)
    exact (insert_comm_of_lt fs w v hlk).symm

/-- A key that was erased is gone. -/
@[simp] theorem get?_erase_self (fs : Keyed α) (k : String) : (fs.erase k).get? k = none := by
  induction fs with
  | nil => rfl
  | cons m fs ih =>
    obtain ⟨l, w⟩ := m
    by_cases h : l = k
    · simpa [erase, h] using ih
    · simpa [erase, h, get?] using ih

/-- Erasing a key loses no other. -/
theorem get?_erase_of_ne (fs : Keyed α) {k l : String} (h : k ≠ l) :
    (fs.erase k).get? l = fs.get? l := by
  induction fs with
  | nil => rfl
  | cons m fs ih =>
    obtain ⟨n, w⟩ := m
    by_cases hn : n = k
    · subst hn
      simpa [erase, get?, h] using ih
    · by_cases hl : n = l
      · subst hl
        simp [erase, get?, hn]
      · simpa [erase, get?, hn, hl] using ih

/-- A map over the values is a map over what is found. -/
theorem get?_map {β : Type} (f : String → α → β) (fs : Keyed α) (k : String) :
    get? (fs.map fun m => (m.1, f m.1 m.2)) k = (fs.get? k).map (f k) := by
  induction fs with
  | nil => rfl
  | cons m fs ih =>
    rw [List.map_cons, get?, get?, ih]
    split
    · next heq => rw [heq, Option.map_some]
    · rfl

theorem mem_of_get? {fs : Keyed α} {k : String} {v : α} (h : fs.get? k = some v) :
    (k, v) ∈ fs := by
  induction fs with
  | nil => cases h
  | cons m fs ih =>
    rw [get?] at h
    split at h
    · next heq => exact List.mem_cons.2 (.inl (by rw [← heq, ← Option.some.inj h]))
    · exact List.mem_cons_of_mem _ (ih h)

theorem mem_insert {fs : Keyed α} {k : String} {v : α} {m : String × α}
    (h : m ∈ fs.insert k v) : m = (k, v) ∨ m ∈ fs := by
  induction fs with
  | nil => exact .inl (by simpa [insert] using h)
  | cons n fs ih =>
    rw [insert] at h
    split at h
    · exact (List.mem_cons.1 h).imp_right (List.mem_cons_of_mem _)
    · split at h
      · exact List.mem_cons.1 h
      · rcases List.mem_cons.1 h with rfl | h
        · exact .inr List.mem_cons_self
        · exact (ih h).imp_right (List.mem_cons_of_mem _)

theorem mem_insertAll {base extra : Keyed α} {m : String × α} (h : m ∈ base.insertAll extra) :
    m ∈ base ∨ m ∈ extra := by
  induction extra generalizing base with
  | nil => exact .inl h
  | cons n extra ih =>
    rcases ih h with h | h
    · rcases mem_insert h with rfl | h
      · exact .inr List.mem_cons_self
      · exact .inl h
    · exact .inr (List.mem_cons_of_mem _ h)

theorem mem_ofList {entries : List (String × α)} {m : String × α} (h : m ∈ ofList entries) :
    m ∈ entries := (mem_insertAll h).resolve_left List.not_mem_nil

end Keyed

end RemoteScreen
