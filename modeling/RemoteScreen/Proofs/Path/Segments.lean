import Mathlib.Data.List.TakeWhile
import RemoteScreen.Path

/-!
# Proofs/Path/Segments — what a path names does not depend on its blanks

    "␣ user . name ␣"   ⟶   "user" · "name"

Text without a separator joins the part that it stands next to, and blanks at the ends of a part are
trimmed: `Path.segments_of_blanks`.
-/

namespace RemoteScreen

namespace Text

variable {blanks cs : List Char}

theorem trim_append_left (hb : ∀ c ∈ blanks, isBlank c = true) : trim (blanks ++ cs) = trim cs := by
  rw [trim, trim, List.dropWhile_append_of_pos hb]

theorem trim_append_right (hb : ∀ c ∈ blanks, isBlank c = true) :
    trim (cs ++ blanks) = trim cs := by
  have hnone : blanks.dropWhile isBlank = [] := List.dropWhile_eq_nil_iff.2 hb
  rw [trim, trim, List.dropWhile_append]
  split
  · next h => rw [hnone, List.isEmpty_iff.1 h]
  · rw [trimRight, trimRight, List.reverse_append,
      List.dropWhile_append_of_pos fun c hc => hb c (List.mem_reverse.1 hc)]

end Text

section splitAt

variable {separator : Char} {as cs : List Char} {part : List Char} {parts : List (List Char)}

theorem splitAt_ne_nil : splitAt separator cs ≠ [] := by
  cases cs with
  | nil => simp [splitAt]
  | cons c cs =>
    rw [splitAt]
    split
    · simp
    · split <;> simp

/-- What has no separator joins the first part. -/
theorem splitAt_append_left (has : separator ∉ as) (h : splitAt separator cs = part :: parts) :
    splitAt separator (as ++ cs) = (as ++ part) :: parts := by
  induction as with
  | nil => exact h
  | cons a as ih =>
    have hne : a ≠ separator := fun heq => has (heq ▸ List.mem_cons_self)
    rw [List.cons_append, splitAt, if_neg hne, ih fun h => has (List.mem_cons_of_mem _ h)]
    rfl

/-- What has no separator joins the last part. -/
theorem splitAt_append_right (has : separator ∉ as)
    (h : splitAt separator cs = parts ++ [part]) :
    splitAt separator (cs ++ as) = parts ++ [part ++ as] := by
  induction cs generalizing parts part with
  | nil =>
    obtain ⟨rfl, rfl⟩ : parts = [] ∧ part = [] := by
      cases parts <;> simp_all [splitAt]
    have hnil : splitAt separator [] = [[]] := rfl
    simpa using splitAt_append_left has hnil
  | cons c cs ih =>
    rw [List.cons_append, splitAt]
    rw [splitAt] at h
    by_cases hc : c = separator
    · rw [if_pos hc] at h ⊢
      cases parts with
      | nil => exact absurd (List.cons.inj h).2 splitAt_ne_nil
      | cons first parts =>
        obtain ⟨rfl, hcs⟩ := List.cons.inj h
        rw [ih hcs, List.cons_append]
    · rw [if_neg hc] at h ⊢
      cases hcs : splitAt separator cs with
      | nil => exact absurd hcs splitAt_ne_nil
      | cons first others =>
        rw [hcs] at h ih
        simp only at h
        cases parts with
        | nil =>
          obtain ⟨rfl, rfl⟩ := List.cons.inj h
          simp [ih (show [first] = [] ++ [first] from rfl)]
        | cons part' parts =>
          obtain ⟨rfl, rfl⟩ := List.cons.inj h
          simp [ih (show first :: (parts ++ [part]) = first :: parts ++ [part] from rfl)]

end splitAt

/-- Blanks around a path do not count. -/
theorem Path.segments_of_blanks {before cs after : List Char}
    (hbefore : ∀ c ∈ before, Text.isBlank c = true) (hafter : ∀ c ∈ after, Text.isBlank c = true) :
    segments (String.ofList (before ++ cs ++ after)) = segments (String.ofList cs) := by
  have hpoint {blanks : List Char} (h : ∀ c ∈ blanks, Text.isBlank c = true) : '.' ∉ blanks :=
    fun hmem => absurd (h _ hmem) (by decide)
  have htrim : (splitAt '.' (before ++ cs ++ after)).map Text.trim
      = (splitAt '.' cs).map Text.trim := by
    have hright (cs : List Char) : (splitAt '.' (cs ++ after)).map Text.trim
        = (splitAt '.' cs).map Text.trim := by
      obtain ⟨parts, part, hcs⟩ : ∃ parts part, splitAt '.' cs = parts ++ [part] :=
        ⟨_, _, (List.dropLast_concat_getLast splitAt_ne_nil).symm⟩
      rw [splitAt_append_right (hpoint hafter) hcs, hcs]
      simp [Text.trim_append_right hafter]
    have hleft : (splitAt '.' (before ++ cs)).map Text.trim
        = (splitAt '.' cs).map Text.trim := by
      cases hcs : splitAt '.' cs with
      | nil => exact absurd hcs splitAt_ne_nil
      | cons part parts =>
        simp [splitAt_append_left (hpoint hbefore) hcs, Text.trim_append_left hbefore]
    rw [hright, hleft]
  rw [segments, segments, String.toList_ofList, String.toList_ofList, htrim]

end RemoteScreen
