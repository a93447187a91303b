import RemoteScreen.Proofs.Context
import RemoteScreen.Proofs.Path.Take

/-!
# Proofs/Context/Removal — shared data without a value

A removal asks first, like every reader, whether the path leads to a value, and then takes the
value out, through objects only.  The two go the same way **unless the path leads through a list**:
then the value is found and is not taken, which counts as a write and changes nothing.

`remove_cases` tells apart what a removal does, and `removal_agrees` says what follows for those who
read before and after.
-/

namespace RemoteScreen

namespace Context

variable {c : Context} {p : String}

/-- A path is not contained where nothing is found. -/
theorem contains_eq_false_iff : c.contains p = false ↔ c.get? p = none := by
  rw [contains, Option.isSome_eq_false_iff, Option.isNone_iff_eq_none]

/-- At a path with segments the context reads what stands there in the data. -/
theorem get?_eq_at? (hp : Path.segments p ≠ []) (c : Context) :
    c.get? p = c.data.at? (Path.segments p) := Json.resolve_eq_at? hp c.data

/-- A path that leads to a value has segments. -/
theorem segments_ne_nil_of_get? {v : Json} (h : c.get? p = some v) : Path.segments p ≠ [] := by
  intro hnil
  rw [get?, Json.resolve, hnil] at h
  cases h

/-- Where nothing is found, a removal does nothing. -/
theorem remove_of_none (h : c.get? p = none) : c.remove p = (none, c) := by
  rw [remove, h]

/-- A value that can be taken is returned, and the revision rises. -/
theorem remove_of_taken {v left : Json} (t : Json.Taken (Path.segments p) c.data v left) :
    c.remove p = (some v, ⟨c.revision + 1, left⟩) := by
  have hget : c.get? p = some v := (get?_eq_at? t.ne_nil c).trans t.at?_eq
  have htake : c.data.take? p = some (v, left) := Json.takeAt?_eq_some_iff.2 t
  rw [remove, hget]
  dsimp only
  rw [htake]

/-- Behind a list nothing is taken, though the revision rises all the same. -/
theorem remove_of_list {v : Json} (h : c.get? p = some v)
    (hlist : ¬ c.data.NoListAbove (Path.segments p)) :
    c.remove p = (none, ⟨c.revision + 1, c.data⟩) := by
  have htake : c.data.take? p = none := by
    cases htake : c.data.take? p with
    | none => rfl
    | some taken => exact absurd (Json.takeAt?_eq_some_iff.1 htake).noListAbove hlist
  rw [remove, h]
  dsimp only
  rw [htake]

/-- **What a removal does**: nothing, where the path leads nowhere; it takes what is found, where
the path leads there through objects; and where it leads through a list, it counts and takes
nothing. -/
theorem remove_cases (c : Context) (p : String) :
    (c.get? p = none ∧ c.remove p = (none, c))
      ∨ (∃ v left, c.get? p = some v ∧ Json.Taken (Path.segments p) c.data v left
          ∧ c.remove p = (some v, ⟨c.revision + 1, left⟩))
      ∨ ∃ v, c.get? p = some v ∧ ¬ c.data.NoListAbove (Path.segments p)
          ∧ c.remove p = (none, ⟨c.revision + 1, c.data⟩) := by
  cases hget : c.get? p with
  | none => exact .inl ⟨rfl, remove_of_none hget⟩
  | some v =>
    by_cases hlist : c.data.NoListAbove (Path.segments p)
    · have hp := segments_ne_nil_of_get? hget
      obtain ⟨left, t⟩ := Json.exists_taken hp hlist ((get?_eq_at? hp c).symm.trans hget)
      exact .inr (.inl ⟨v, left, rfl, t, remove_of_taken t⟩)
    · exact .inr (.inr ⟨v, rfl, hlist, remove_of_list hget hlist⟩)

/-- **Removal agrees with lookup, unless a list stands above the path.**  Then what is removed is
what was found there before, and nothing is found there afterwards.  In any case a path to the side,
that neither leads on from the one removed nor has it lead on from it, leads to what it did before;
where the path led nowhere, data and revision are as they were; and where it led through a list,
nothing is removed, the data is as it was, and the revision is counted up. -/
theorem removal_agrees (c : Context) (p : String) :
    (c.data.NoListAbove (Path.segments p) →
        (c.remove p).1 = c.get? p ∧ (c.remove p).2.contains p = false)
      ∧ (∀ q, Path.Diverge p q → (c.remove p).2.get? q = c.get? q)
      ∧ (c.contains p = false → c.remove p = (none, c))
      ∧ (c.contains p = true → ¬ c.data.NoListAbove (Path.segments p) →
        c.remove p = (none, ⟨c.revision + 1, c.data⟩)) := by
  refine ⟨fun hlist => ?_, fun q haside => ?_, fun h => ?_, fun h hlist => ?_⟩
  · obtain ⟨hget, hr⟩ | ⟨v, left, hget, t, hr⟩ | ⟨-, -, hno, -⟩ := c.remove_cases p
    · rw [hr]
      exact ⟨hget.symm, contains_eq_false_iff.2 hget⟩
    · rw [hr]
      exact ⟨hget.symm, contains_eq_false_iff.2 ((get?_eq_at? t.ne_nil _).trans t.at?_left)⟩
    · exact absurd hlist hno
  · have hq : Path.segments q ≠ [] := haside.symm.ne_nil
    obtain ⟨-, hr⟩ | ⟨v, left, -, t, hr⟩ | ⟨-, -, -, hr⟩ := c.remove_cases p
    · rw [hr]
    · rw [hr, get?_eq_at? hq, get?_eq_at? hq]
      exact t.at?_aside haside.1 haside.2
    · rw [hr]
      rfl
  · exact remove_of_none (contains_eq_false_iff.1 h)
  · obtain ⟨v, hget⟩ := Option.isSome_iff_exists.1 h
    exact remove_of_list hget hlist

/-- What somebody has put on a list, beside their name. -/
def listed : Json :=
  .obj [("items", .arr [.obj [("title", .str "Milk")]]),
    ("user", .obj [("age", .num (.int 30)), ("name", .str "Ann")])]

/-- A name is removed, and what else is known stays where it was. -/
theorem removal_agrees_listed :
    listed.NoListAbove (Path.segments "user.name")
      ∧ ((ofJson listed).remove "user.name").1 = some (.str "Ann")
      ∧ ((ofJson listed).remove "user.name").2.contains "user.name" = false
      ∧ ((ofJson listed).remove "user.name").2.get? "items.0.title" = some (.str "Milk")
      ∧ (ofJson listed).remove "user.phone" = (none, ofJson listed) := by
  obtain ⟨hremoved, haside, -, -⟩ := removal_agrees (ofJson listed) "user.name"
  have habove : (ofJson listed).data.NoListAbove (Path.segments "user.name") := by decide +kernel
  have hname : (ofJson listed).get? "user.name" = some (.str "Ann") := by decide +kernel
  have htitle : (ofJson listed).get? "items.0.title" = some (.str "Milk") := by decide +kernel
  have hphone : (ofJson listed).contains "user.phone" = false := by decide +kernel
  refine ⟨habove, (hremoved habove).1.trans hname, (hremoved habove).2, ?_,
    (removal_agrees (ofJson listed) "user.phone").2.2.1 hphone⟩
  rw [haside "items.0.title" (by decide +kernel), htitle]

/-- **What stands on a list is found and not removed**: it is still there afterwards, and only the
revision has changed. -/
theorem not_removed_from_list :
    (ofJson listed).get? "items.0.title" = some (.str "Milk")
      ∧ ((ofJson listed).remove "items.0.title").1 = none
      ∧ ((ofJson listed).remove "items.0.title").2.contains "items.0.title" = true
      ∧ (ofJson listed).revision = 1
      ∧ ((ofJson listed).remove "items.0.title").2 = ⟨2, listed⟩ := by decide +kernel

end Context

end RemoteScreen
