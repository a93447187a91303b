import Mathlib.Algebra.GroupWithZero.Nat
import RemoteScreen.Element.Outline
import RemoteScreen.Proofs.Render.Trigger

/-!
# Proofs/Element/Outline — which lines an outline has

The outline of an element is one line after the other for the elements in it, each before its
children, with `Element.levels` for their depths.  A quoted text stays on its line whatever it holds
(`breaks_quoted`); kinds, keys and names of events are written as they are, and **a line break in
one of them starts a line of its own** (`outlined`).
-/

namespace RemoteScreen

namespace Text

/-! ## Lines -/

/-- How many line breaks a text has. -/
def breaks (s : String) : Nat := s.toList.count '\n'

/-- What line breaks cut a text into. -/
def pieces (s : String) : List String := (s.toList.splitOn '\n').map String.ofList

/-- The lines of a text, each of which ends with a line break. -/
def lines (s : String) : List String := (pieces s).dropLast

@[simp] theorem breaks_append (s t : String) : breaks (s ++ t) = breaks s + breaks t := by
  rw [breaks, String.toList_append, List.count_append, breaks, breaks]

/-- A line break separates the pieces of two texts. -/
theorem pieces_append (s t : String) : pieces (s ++ "\n" ++ t) = pieces s ++ pieces t := by
  rw [pieces, String.append_assoc, String.toList_append, String.toList_append,
    show "\n".toList = ['\n'] by rfl, List.singleton_append, List.splitOn_append_cons_self,
    List.map_append]
  rfl

theorem pieces_ne_nil (s : String) : pieces s ≠ [] := by simp [pieces]

/-- What stands before a line break makes lines of its own. -/
theorem lines_append (s t : String) : lines (s ++ "\n" ++ t) = pieces s ++ lines t := by
  rw [lines, pieces_append, List.dropLast_append_of_ne_nil (pieces_ne_nil t)]
  rfl

theorem length_splitOn (c : Char) (cs : List Char) :
    (cs.splitOn c).length = cs.count c + 1 := by
  induction cs with
  | nil => rfl
  | cons d cs ih =>
    rw [List.splitOn_cons_eq_if_modifyHead, List.count_cons]
    split <;> simp [ih]

/-- A text falls in one piece more than it has line breaks. -/
theorem length_pieces (s : String) : (pieces s).length = breaks s + 1 := by
  rw [pieces, List.length_map, length_splitOn, breaks]

/-- A text without a line break is a single piece. -/
theorem pieces_of_breaks_eq_zero {s : String} (h : breaks s = 0) : pieces s = [s] := by
  rw [pieces, List.splitOn_eq_singleton (List.count_eq_zero.1 h)]
  simp

/-- Texts joined without a line break have those of each. -/
theorem breaks_intercalate {sep : String} (hsep : breaks sep = 0) (ss : List String) :
    breaks (String.intercalate sep ss) = (ss.map breaks).sum := by
  rw [breaks, String.toList_intercalate]
  induction ss with
  | nil => rfl
  | cons s ss ih =>
    cases ss with
    | nil => simp [breaks]
    | cons t ss =>
      rw [List.map_cons, List.map_cons, List.intercalate_cons_cons, ← List.map_cons,
        List.count_append, List.count_append, ih, show sep.toList.count '\n' = 0 from hsep]
      rfl

/-! ## A quoted text -/

theorem digitChar_ne_break {n : Nat} (h : n < 16) : Nat.digitChar n ≠ '\n' :=
  (by decide : ∀ n < 16, Nat.digitChar n ≠ '\n') n h

/-- A number in hexadecimal has no line break. -/
theorem not_mem_toDigits (n : Nat) : '\n' ∉ Nat.toDigits 16 n := by
  induction n using Nat.strongRecOn with
  | ind n ih =>
    rw [Nat.toDigits_eq_if (by decide)]
    split
    · next h => simp [(digitChar_ne_break h).symm]
    · next h =>
      have hlast := (digitChar_ne_break (Nat.mod_lt n (by decide : 0 < 16))).symm
      simp [hlast, ih (n / 16) (by omega)]

/-- Nor has a character once it is quoted. -/
theorem not_mem_quoteChar (c : Char) : '\n' ∉ quoteChar c := by
  unfold quoteChar
  split
  · decide
  split
  · decide
  split
  · decide
  split
  · decide
  split
  · decide
  split
  · decide
  split
  · simpa using not_mem_toDigits c.toNat
  · next hc _ _ _ => simpa using Ne.symm hc

/-- **A quoted text is on one line**, whatever the text. -/
@[simp] theorem breaks_quoted (s : String) : breaks (quoted s) = 0 := by
  rw [breaks, quoted, String.toList_ofList, List.count_eq_zero]
  simpa using fun c _ => not_mem_quoteChar c

end Text

namespace Element

open Text

/-! ## The line of an element -/

/-- The line breaks in what is written of an element as it is: its kind, its key, and the names of
its events. -/
def rawBreaks (e : Element) : Nat :=
  breaks e.kind + breaks (e.key.getD "") + (e.handlers.keys.map breaks).sum

/-- The line of an element at a depth. -/
def line (p : Nat × Element) : String := indentation p.1 ++ headline p.2

@[simp] theorem breaks_indentation (depth : Nat) : breaks (indentation depth) = 0 := by
  rw [breaks, indentation, String.toList_ofList, List.count_eq_zero]
  simp

/-- The headline of an element: kind, key, quoted text, events and whether it is disabled. -/
theorem headline_eq (e : Element) :
    headline e = e.kind ++ e.key.elim "" ("#" ++ ·) ++ e.text.elim "" (" " ++ quoted ·)
      ++ (if e.handlers.isEmpty then ""
        else " [" ++ String.intercalate ", " e.handlers.keys ++ "]")
      ++ (if e.enabled then "" else " (disabled)") := by
  rw [headline]
  cases e.key <;> cases e.text <;> rfl

/-- **A headline breaks only where kind, key or an event name does.** -/
theorem breaks_headline (e : Element) : breaks (headline e) = e.rawBreaks := by
  have hkey : breaks (e.key.elim "" ("#" ++ ·)) = breaks (e.key.getD "") := by
    cases e.key with
    | none => rfl
    | some k =>
      rw [Option.elim_some, Option.getD_some, breaks_append]
      exact Nat.zero_add _
  have htext : breaks (e.text.elim "" (" " ++ quoted ·)) = 0 := by
    cases e.text with
    | none => rfl
    | some t =>
      rw [Option.elim_some, breaks_append, breaks_quoted]
      rfl
  have hevents : breaks (if e.handlers.isEmpty then ""
      else " [" ++ String.intercalate ", " e.handlers.keys ++ "]")
      = (e.handlers.keys.map breaks).sum := by
    split
    · next h => rw [List.isEmpty_iff.1 h]; rfl
    · rw [breaks_append, breaks_append, breaks_intercalate rfl]
      exact Nat.zero_add _
  have henabled : breaks (if e.enabled then "" else " (disabled)") = 0 := by
    split <;> rfl
  rw [headline_eq, breaks_append, breaks_append, breaks_append, breaks_append, hkey, htext,
    hevents, henabled, rawBreaks]
  rfl

theorem breaks_line (p : Nat × Element) : breaks (line p) = p.2.rawBreaks := by
  rw [line, breaks_append, breaks_indentation, breaks_headline, Nat.zero_add]

/-! ## The elements and their depths -/

mutual

/-- An element at a depth and all below it, each before its children. -/
def levels (depth : Nat) : Element → List (Nat × Element)
  | e@⟨_, _, _, _, children, _, _⟩ => (depth, e) :: levelsIn (depth + 1) children

/-- Elements at a depth and all below them. -/
def levelsIn (depth : Nat) : List Element → List (Nat × Element)
  | [] => []
  | e :: es => levels depth e ++ levelsIn depth es

end

/-- An element stands at its level, before its children one deeper. -/
theorem levels_eq (depth : Nat) (e : Element) :
    levels depth e = (depth, e) :: levelsIn (depth + 1) e.children := by
  obtain ⟨_, _, _, _, _, _, _⟩ := e
  rw [levels]

/-- The outline of an element is its line, then the outline of its children. -/
theorem outlineAt_eq (depth : Nat) (e : Element) :
    outlineAt depth e = line (depth, e) ++ "\n" ++ outlineAll (depth + 1) e.children := by
  obtain ⟨_, _, _, _, _, _, _⟩ := e
  rw [outlineAt]
  rfl

mutual

/-- The levels list all elements, from the top down. -/
theorem map_snd_levels (depth : Nat) : (e : Element) → (levels depth e).map Prod.snd = e.all
  | ⟨_, _, _, _, children, _, _⟩ => by
    rw [levels, all, List.map_cons, map_snd_levelsIn (depth + 1) children]

theorem map_snd_levelsIn (depth : Nat) :
    (es : List Element) → (levelsIn depth es).map Prod.snd = allIn es
  | [] => by rw [levelsIn, allIn, List.map_nil]
  | e :: es => by
    rw [levelsIn, allIn, List.map_append, map_snd_levels depth e, map_snd_levelsIn depth es]

end

mutual

/-- The depth of an element is how far child indexes go to it. -/
theorem exists_path_of_mem_levels {depth : Nat} : {e : Element} → {p : Nat × Element} →
    p ∈ levels depth e → ∃ path, path.length + depth = p.1 ∧ e.at? path = some p.2
  | ⟨_, _, _, _, children, _, _⟩, p, hp => by
    rw [levels, List.mem_cons] at hp
    rcases hp with rfl | hp
    · exact ⟨[], by simp, by simp [at?]⟩
    · obtain ⟨i, child, path, hi, hlen, hat⟩ := exists_path_of_mem_levelsIn hp
      exact ⟨i :: path, by simp; omega, by simp [at?, hi, hat]⟩

/-- What stands at a level is found below one of the children, on a path of that length. -/
theorem exists_path_of_mem_levelsIn {depth : Nat} : {es : List Element} → {p : Nat × Element} →
    p ∈ levelsIn depth es → ∃ (i : Nat) (child : Element) (path : List Nat),
      es[i]? = some child ∧ path.length + depth = p.1 ∧ child.at? path = some p.2
  | [], _, hp => by simp [levelsIn] at hp
  | e :: es, p, hp => by
    rw [levelsIn, List.mem_append] at hp
    rcases hp with hp | hp
    · obtain ⟨path, hlen, hat⟩ := exists_path_of_mem_levels hp
      exact ⟨0, e, path, rfl, hlen, hat⟩
    · obtain ⟨i, child, path, hi, hlen, hat⟩ := exists_path_of_mem_levelsIn hp
      exact ⟨i + 1, child, path, hi, hlen, hat⟩

end

/-! ## The lines of an outline -/

mutual

/-- **The lines of an outline are the pieces of its elements' lines**, then those of what follows.
-/
theorem lines_outlineAt (depth : Nat) (rest : String) : (e : Element) →
    lines (outlineAt depth e ++ rest) = (levels depth e).flatMap (pieces ∘ line) ++ lines rest
  | e@⟨_, _, _, _, children, _, _⟩ => by
    rw [outlineAt_eq, String.append_assoc, lines_append, lines_outlineAll, levels_eq,
      List.flatMap_cons, List.append_assoc]
    rfl

theorem lines_outlineAll (depth : Nat) (rest : String) : (es : List Element) →
    lines (outlineAll depth es ++ rest) = (levelsIn depth es).flatMap (pieces ∘ line) ++ lines rest
  | [] => by rw [outlineAll, levelsIn, String.empty_append]; rfl
  | e :: es => by
    rw [outlineAll, levelsIn, String.append_assoc, lines_outlineAt, lines_outlineAll,
      List.flatMap_append, List.append_assoc]

end

/-- **The lines of an outline are what the lines of its elements are cut into.** -/
theorem lines_outline (e : Element) :
    lines e.outline = (e.levels 0).flatMap (pieces ∘ line) := by
  have h := lines_outlineAt 0 "" e
  rwa [String.append_empty, show lines "" = [] by rfl, List.append_nil] at h

/-- There are as many lines as elements and raw line breaks. -/
theorem length_lines_outline (e : Element) :
    (lines e.outline).length = e.all.length + (e.all.map rawBreaks).sum := by
  rw [lines_outline, ← map_snd_levels 0 e]
  induction levels 0 e with
  | nil => rfl
  | cons p ps ih =>
    rw [List.flatMap_cons, List.length_append, ih, Function.comp_apply, length_pieces, breaks_line]
    simp only [List.map_cons, List.length_cons, List.sum_cons]
    omega

/-- Where no element breaks a line, each has one line. -/
theorem lines_outline_of_rawBreaks {e : Element} (h : ∀ x ∈ e.all, x.rawBreaks = 0) :
    lines e.outline = (e.levels 0).map line := by
  rw [← map_snd_levels 0 e] at h
  rw [lines_outline]
  generalize levels 0 e = ps at h ⊢
  induction ps with
  | nil => rfl
  | cons p ps ih =>
    rw [List.map_cons, List.forall_mem_cons] at h
    rw [List.flatMap_cons, ih h.2, Function.comp_apply,
      pieces_of_breaks_eq_zero ((breaks_line p).trans h.1)]
    rfl

/-- All that is to be said of the lines of an outline. -/
structure Outlined (e : Element) : Prop where
  /-- The elements come each before its children. -/
  elements : (e.levels 0).map Prod.snd = e.all
  /-- The depth of an element is the length of the way to it. -/
  depths : ∀ p ∈ e.levels 0, ∃ path, path.length = p.1 ∧ e.at? path = some p.2
  lines_eq : lines e.outline = (e.levels 0).flatMap (pieces ∘ line)
  /-- A text adds no line; a line break in a kind, in a key or in the name of an event adds one. -/
  length : (lines e.outline).length = e.all.length + (e.all.map rawBreaks).sum
  length_iff : (lines e.outline).length = e.all.length ↔ ∀ x ∈ e.all, x.rawBreaks = 0
  /-- With no such line break, the lines are those of the elements, one for each. -/
  one_each : (∀ x ∈ e.all, x.rawBreaks = 0) → lines e.outline = (e.levels 0).map line

/-- **An outline has a line for each element, in order and indented by its depth, and one more for
each line break in a kind, in a key or in the name of an event.** -/
theorem outlined (e : Element) : Outlined e where
  elements := map_snd_levels 0 e
  depths p hp := exists_path_of_mem_levels hp
  lines_eq := lines_outline e
  length := length_lines_outline e
  length_iff := by
    have hsum : (e.all.map rawBreaks).sum = 0 ↔ ∀ x ∈ e.all, x.rawBreaks = 0 := by
      rw [List.sum_eq_zero_iff_forall_eq_nat, List.forall_mem_map]
    rw [length_lines_outline, ← hsum]
    omega
  one_each := lines_outline_of_rawBreaks

/-- A view with a button in it. -/
def holdingButton : Element :=
  { kind := "View", key := some "note", children := [{ kind := "Button", key := some "pay" }] }

/-- A view with nothing in it, and a line break in its key. -/
def feigningButton : Element := { kind := "View", key := some "note\n  Button#pay" }

/-- **A key can forge a line**: the button is in the outline and not in the element. -/
theorem line_forged : (lines feigningButton.outline).length ≠ feigningButton.all.length ∧
    feigningButton.outline = holdingButton.outline := by
  decide

end Element

end RemoteScreen
