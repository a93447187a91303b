import Mathlib.Data.Nat.Find
import RemoteScreen.Proofs.Path.Segments
import RemoteScreen.Proofs.Pattern.Matches
import RemoteScreen.Proofs.Template.Pieces

/-!
# Proofs/Template/Search — the placeholders that a pattern finds

    \x7b\x7b ␣ ␣ user.name ␣ \x7d\x7d
             └───────┘

A placeholder can also be described by a pattern: double braces, blanks, a group without braces,
blanks, double braces.  Where blanks stop and the group begins depends on how the pattern is run;
**what the group leads to does not**, since a path counts no blanks around its segments.

* `captured_iff` — the pattern matches at the placeholders and nowhere else, with a group that is
  the body but for blanks;
* `isMatch_wholePlaceholder` — as a whole it matches the texts that are one placeholder;
* `replaced_iff` — **replacing the leftmost match, and then the leftmost one behind it, fills in the
  placeholders**, with whatever group each match is captured.
-/

namespace RemoteScreen

namespace Regex

variable {text part front back : List Char} {i j k n : Nat} {set : CharSet}

/-- What stands between two positions of a text. -/
def Spells (text : List Char) (i j : Nat) (part : List Char) : Prop :=
  part <+: text.drop i ∧ j = i + part.length

theorem spells_nil : Spells text i j [] ↔ j = i := by simp [Spells]

theorem spells_append_iff :
    Spells text i k (front ++ back) ↔ ∃ j, Spells text i j front ∧ Spells text j k back := by
  constructor
  · rintro ⟨⟨rest, hrest⟩, rfl⟩
    refine ⟨_, ⟨⟨back ++ rest, by rw [← hrest, List.append_assoc]⟩, rfl⟩, ⟨rest, ?_⟩,
      by simp; omega⟩
    rw [← List.drop_drop, ← hrest, List.append_assoc, List.drop_left]
  · rintro ⟨_, ⟨⟨rest, hrest⟩, rfl⟩, ⟨rest', hrest'⟩, rfl⟩
    rw [← List.drop_drop, ← hrest, List.drop_left] at hrest'
    exact ⟨⟨rest', by rw [← hrest, ← hrest', List.append_assoc]⟩, by simp; omega⟩

/-- What stands between two places is one text. -/
theorem Spells.unique (hf : Spells text i j front) (hb : Spells text i j back) : front = back := by
  have hlength : front.length = back.length := by
    have := hf.2.symm.trans hb.2
    omega
  exact (List.prefix_of_prefix_length_le hf.1 hb.1 hlength.le).eq_of_length hlength

theorem matches_set_iff :
    Matches text (.set set) i j ↔ ∃ c, set.mem c = true ∧ Spells text i j [c] := by
  constructor
  · rintro ⟨rfl, c, hc, hmem⟩
    obtain ⟨hi, rfl⟩ := List.getElem?_eq_some_iff.1 hc
    exact ⟨_, hmem, ⟨_, (List.drop_eq_getElem_cons hi).symm⟩, rfl⟩
  · rintro ⟨c, hmem, ⟨rest, hrest⟩, rfl⟩
    have hc : (text.drop i)[0]? = some c := by rw [← hrest]; rfl
    exact ⟨rfl, c, by simpa using hc, hmem⟩

/-- A repetition of one character matches the runs that are long enough. -/
theorem matches_rep_set_iff : Matches text (.rep (.set set) n none) i j ↔
    ∃ part, n ≤ part.length ∧ (∀ c ∈ part, set.mem c = true) ∧ Spells text i j part := by
  have hsteps (m : Nat) : Steps (Matches text (.set set)) m i j ↔
      ∃ part, part.length = m ∧ (∀ c ∈ part, set.mem c = true) ∧ Spells text i j part := by
    induction m generalizing j with
    | zero =>
      constructor
      · rintro rfl
        exact ⟨[], rfl, nofun, spells_nil.2 rfl⟩
      · rintro ⟨part, hlength, -, hpart⟩
        obtain rfl := List.length_eq_zero_iff.1 hlength
        exact (spells_nil.1 hpart).symm
    | succ m ih =>
      constructor
      · rintro ⟨k, hk, hkj⟩
        obtain ⟨part, rfl, hall, hpart⟩ := ih.1 hk
        obtain ⟨c, hc, hlast⟩ := matches_set_iff.1 hkj
        refine ⟨part ++ [c], by simp, ?_, spells_append_iff.2 ⟨k, hpart, hlast⟩⟩
        simpa [or_imp, forall_and] using ⟨hall, hc⟩
      · rintro ⟨part, hlength, hall, hpart⟩
        rcases List.eq_nil_or_concat' part with rfl | ⟨front, c, rfl⟩
        · cases hlength
        · obtain ⟨k, hfront, hlast⟩ := spells_append_iff.1 hpart
          refine ⟨k, ih.2 ⟨front, by simpa using hlength, ?_, hfront⟩, ?_⟩
          · exact fun c hc => hall c (List.mem_append_left _ hc)
          · exact matches_set_iff.2 ⟨c, hall c (by simp), hlast⟩
  constructor
  · rintro ⟨m, hm, hn, -⟩
    obtain ⟨part, rfl, hpart⟩ := (hsteps m).1 hm
    exact ⟨part, hn, hpart⟩
  · rintro ⟨part, hn, hpart⟩
    exact ⟨part.length, (hsteps _).2 ⟨part, rfl, hpart⟩, hn, nofun⟩

end Regex

namespace Template

open Regex

/-! ## The pattern of a placeholder -/

/-- A brace that opens. -/
def opens : Regex := .set (.single '\x7b')

/-- A brace that closes. -/
def closes : Regex := .set (.single '\x7d')

/-- Blanks, if any. -/
def blanks : Regex := .rep (.set (.property .blank)) 0 none

/-- Something without braces. -/
def group : Regex := .rep (.set (.compl (.unionAll [.single '\x7b', .single '\x7d']))) 1 none

/-- The pattern of a placeholder, `\{\{\s*([^{}]+?)\s*\}\}`. -/
def placeholder : Regex :=
  .cat (.cat (.cat (.cat (.cat (.cat opens opens) blanks) group) blanks) closes) closes

/-- The pattern of a text that is one placeholder, the same from the beginning of the text to its
end. -/
def wholePlaceholder : Regex :=
  .cat (.cat (.cat (.cat (.cat (.cat (.cat (.cat (.look .textStart) opens) opens) blanks) group)
    blanks) closes) closes) (.look .textEnd)

variable {text found body : List Char} {i j : Nat}

/-- The pattern matches between two positions and captures what its group stands for there. -/
def Captured (text : List Char) (i j : Nat) (found : List Char) : Prop :=
  ∃ k l, Matches text (.cat (.cat opens opens) blanks) i k ∧ Matches text group k l
    ∧ Spells text k l found ∧ Matches text (.cat (.cat blanks closes) closes) l j

theorem mem_single_iff {c d : Char} : (CharSet.single d).mem c = true ↔ c = d := by
  simp only [CharSet.single, CharSet.mem, Bool.and_eq_true, decide_eq_true_eq]
  exact ⟨fun h => Char.toNat_inj.1 (Nat.le_antisymm h.2 h.1), by rintro rfl; simp⟩

theorem matches_single_iff {d : Char} :
    Matches text (.set (.single d)) i j ↔ Spells text i j [d] := by
  simp [matches_set_iff, mem_single_iff]

theorem matches_blanks_iff : Matches text blanks i j ↔
    ∃ part, (∀ c ∈ part, Text.isBlank c = true) ∧ Spells text i j part := by
  rw [blanks, matches_rep_set_iff]
  exact exists_congr fun part => and_iff_right (Nat.zero_le _)

theorem matches_group_iff :
    Matches text group i j ↔ ∃ part, IsBody part ∧ Spells text i j part := by
  have hmem (c : Char) : (CharSet.compl (.unionAll [.single '\x7b', .single '\x7d'])).mem c = true
      ↔ isBrace c = false := by
    have hunion : (CharSet.unionAll [.single '\x7b', .single '\x7d']).mem c = true
        ↔ isBrace c = true := by
      rw [isBrace, Bool.or_eq_true, beq_iff_eq, beq_iff_eq, ← mem_single_iff, ← mem_single_iff,
        ← Bool.or_eq_true]
      rfl
    rw [CharSet.mem, Bool.not_eq_true', ← Bool.not_eq_true, ← Bool.not_eq_true, hunion]
  rw [group, matches_rep_set_iff]
  refine exists_congr fun part => ?_
  simp only [hmem]
  constructor
  · rintro ⟨hlength, hplain, h⟩
    exact ⟨⟨List.ne_nil_of_length_pos hlength, hplain⟩, h⟩
  · rintro ⟨hb, h⟩
    exact ⟨List.length_pos_of_ne_nil hb.ne_nil, hb.plain, h⟩

/-- **The pattern matches where placeholders stand, and its group is the body but for blanks.** -/
theorem captured_iff : Captured text i j found ↔
    ∃ before after, (∀ c ∈ before, Text.isBlank c = true) ∧ (∀ c ∈ after, Text.isBlank c = true)
      ∧ IsBody found ∧ Spells text i j (Piece.hole (before ++ found ++ after)).source := by
  have hsource (before after : List Char) : (Piece.hole (before ++ found ++ after)).source
      = ['\x7b'] ++ ['\x7b'] ++ before ++ found ++ (after ++ ['\x7d'] ++ ['\x7d']) := by
    simp [Piece.source]
  constructor
  · rintro ⟨k, l, ⟨_, ⟨_, hfirst, hsecond⟩, hblanks⟩, hgroup, hfound, _, ⟨_, hblanks', hthird⟩,
      hlast⟩
    obtain ⟨before, hbefore, hspells⟩ := matches_blanks_iff.1 hblanks
    obtain ⟨after, hafter, hspells'⟩ := matches_blanks_iff.1 hblanks'
    obtain ⟨part, hpart, hspells''⟩ := matches_group_iff.1 hgroup
    obtain rfl := hspells''.unique hfound
    refine ⟨before, after, hbefore, hafter, hpart, ?_⟩
    simp only [hsource, spells_append_iff]
    exact ⟨l, ⟨k, ⟨_, ⟨_, matches_single_iff.1 hfirst, matches_single_iff.1 hsecond⟩, hspells⟩,
      hfound⟩, _, ⟨_, hspells', matches_single_iff.1 hthird⟩, matches_single_iff.1 hlast⟩
  · rintro ⟨before, after, hbefore, hafter, hfound, h⟩
    simp only [hsource, spells_append_iff] at h
    obtain ⟨l, ⟨k, ⟨_, ⟨_, hfirst, hsecond⟩, hspells⟩, hgroup⟩, _, ⟨_, hspells', hthird⟩,
      hlast⟩ := h
    exact ⟨k, l,
      ⟨_, ⟨_, matches_single_iff.2 hfirst, matches_single_iff.2 hsecond⟩,
        matches_blanks_iff.2 ⟨before, hbefore, hspells⟩⟩,
      matches_group_iff.2 ⟨found, hfound, hgroup⟩, hgroup, _,
      ⟨_, matches_blanks_iff.2 ⟨after, hafter, hspells'⟩, matches_single_iff.2 hthird⟩,
      matches_single_iff.2 hlast⟩

/-- **The pattern of a placeholder matches just what can be captured.** -/
theorem matches_placeholder_iff :
    Matches text placeholder i j ↔ ∃ found, Captured text i j found := by
  constructor
  · rintro ⟨_, ⟨l', ⟨l, ⟨k, hopening, hgroup⟩, hblanks⟩, hthird⟩, hlast⟩
    obtain ⟨found, -, hfound⟩ := matches_group_iff.1 hgroup
    exact ⟨found, k, l, hopening, hgroup, hfound, _, ⟨l', hblanks, hthird⟩, hlast⟩
  · rintro ⟨found, k, l, hopening, hgroup, -, _, ⟨l', hblanks, hthird⟩, hlast⟩
    exact ⟨_, ⟨l', ⟨l, ⟨k, hopening, hgroup⟩, hblanks⟩, hthird⟩, hlast⟩

/-- A match is a placeholder, and its group leads where the body does. -/
theorem Captured.holeAt (h : Captured text i j found) :
    ∃ body, HoleAt text i body ∧ j = i + (Piece.hole body).source.length
      ∧ ∀ context : Json, context.resolve (String.ofList found)
        = context.resolve (String.ofList body) := by
  obtain ⟨before, after, hbefore, hafter, hfound, hstands, hj⟩ := captured_iff.1 h
  have hplain {cs : List Char} (h : ∀ c ∈ cs, Text.isBlank c = true) :
      ∀ c ∈ cs, isBrace c = false := by
    intro c hc
    by_contra hbrace
    rcases Bool.or_eq_true_iff.1 (Bool.not_eq_false _ ▸ hbrace) with heq | heq
    all_goals rw [beq_iff_eq] at heq; subst heq; exact absurd (h _ hc) (by decide)
  refine ⟨before ++ found ++ after, ⟨⟨?_, ?_⟩, hstands⟩, hj, fun context => ?_⟩
  · simp [hfound.ne_nil]
  · simpa [or_imp, forall_and, and_assoc] using
      ⟨hplain hbefore, hfound.plain, hplain hafter⟩
  · rw [Json.resolve, Json.resolve, Path.segments_of_blanks hbefore hafter]

theorem HoleAt.captured (h : HoleAt text i body) :
    Captured text i (i + (Piece.hole body).source.length) body :=
  captured_iff.2 ⟨[], [], nofun, nofun, h.isBody, by simpa using ⟨h.stands, rfl⟩⟩

/-- **A text has a placeholder when the pattern matches in it.** -/
theorem hasHole_eq_isMatch (s : String) : hasHole s = placeholder.isMatch s.toList := by
  rw [Bool.eq_iff_iff, hasHole_iff, isMatch_iff]
  constructor
  · rintro ⟨i, body, h⟩
    exact ⟨i, _, h.lt_length.le, matches_placeholder_iff.2 ⟨body, h.captured⟩⟩
  · rintro ⟨i, j, -, h⟩
    obtain ⟨found, hfound⟩ := matches_placeholder_iff.1 h
    obtain ⟨body, hbody, -⟩ := hfound.holeAt
    exact ⟨i, body, hbody⟩

/-- What is captured of a whole text leads where its only piece does. -/
theorem Captured.pieces (h : Captured text 0 text.length found) : ∃ body, pieces text = [.hole body]
    ∧ ∀ context : Json, context.resolve (String.ofList found)
      = context.resolve (String.ofList body) := by
  obtain ⟨body, hbody, hlength, hresolve⟩ := h.holeAt
  exact ⟨body, pieces_eq_hole_iff_holeAt.2 ⟨hbody, hlength.trans (Nat.zero_add _)⟩, hresolve⟩

theorem captured_of_pieces (h : pieces text = [.hole body]) : Captured text 0 text.length body := by
  obtain ⟨hbody, hlength⟩ := pieces_eq_hole_iff_holeAt.1 h
  rw [hlength, ← Nat.zero_add (Piece.hole body).source.length]
  exact hbody.captured

/-- The pattern of a whole placeholder matches it from start to end only. -/
theorem matches_wholePlaceholder_iff (hi : i ≤ text.length) : Matches text wholePlaceholder i j ↔
    i = 0 ∧ j = text.length ∧ Matches text placeholder i j := by
  have hstart : Look.textStart.holds (before? text i) text[i]? = true ↔ i = 0 := by
    cases i with
    | zero => simp [Look.holds, before?]
    | succ i => simpa [Look.holds, before?] using Nat.lt_of_succ_le hi
  have hend (hj : j ≤ text.length) :
      Look.textEnd.holds (before? text j) text[j]? = true ↔ j = text.length := by
    rw [Look.holds, Option.isNone_iff_eq_none, List.getElem?_eq_none_iff]
    exact ⟨fun h => Nat.le_antisymm hj h, fun h => h.ge⟩
  constructor
  · rintro ⟨l, ⟨_, ⟨_, ⟨_, ⟨_, ⟨_, ⟨_, ⟨_, ⟨heq, hi'⟩, h1⟩, h2⟩, h3⟩, h4⟩, h5⟩, h6⟩, h7⟩, heq', hj⟩
    subst heq heq'
    have h : Matches text placeholder i l :=
      ⟨_, ⟨_, ⟨_, ⟨_, ⟨_, ⟨_, h1, h2⟩, h3⟩, h4⟩, h5⟩, h6⟩, h7⟩
    exact ⟨hstart.1 hi', (hend (h.le_length hi)).1 hj, h⟩
  · rintro ⟨hi', hj, h⟩
    have hj' := (hend hj.le).2 hj
    obtain ⟨_, ⟨_, ⟨_, ⟨_, ⟨_, ⟨_, h1, h2⟩, h3⟩, h4⟩, h5⟩, h6⟩, h7⟩ := h
    exact ⟨_, ⟨_, ⟨_, ⟨_, ⟨_, ⟨_, ⟨_, ⟨_, ⟨rfl, hstart.2 hi'⟩, h1⟩, h2⟩, h3⟩, h4⟩, h5⟩, h6⟩, h7⟩,
      rfl, hj'⟩

/-- **As a whole the pattern matches the texts that are one placeholder.** -/
theorem isMatch_wholePlaceholder_iff :
    wholePlaceholder.isMatch text = true ↔ ∃ body, Template.pieces text = [.hole body] := by
  rw [isMatch_iff]
  constructor
  · rintro ⟨i, j, hi, h⟩
    obtain ⟨rfl, rfl, h⟩ := (matches_wholePlaceholder_iff hi).1 h
    obtain ⟨found, hfound⟩ := matches_placeholder_iff.1 h
    obtain ⟨body, hbody, -⟩ := hfound.pieces
    exact ⟨body, hbody⟩
  · rintro ⟨body, hbody⟩
    exact ⟨0, text.length, Nat.zero_le _, (matches_wholePlaceholder_iff (Nat.zero_le _)).2
      ⟨rfl, rfl, matches_placeholder_iff.2 ⟨body, captured_of_pieces hbody⟩⟩⟩

/-! ## Replacing what the pattern finds -/

/-- A text from a position on, with the leftmost match replaced by what its group leads to, then the
leftmost one behind that, until there is none. -/
inductive Replaced (context : Json) (text : List Char) : Nat → List Char → Prop
  | none {i : Nat} : (∀ k j found, i ≤ k → ¬ Captured text k j found) →
    Replaced context text i (text.drop i)
  | first {i k j : Nat} {found out : List Char} : i ≤ k →
    (∀ k' j' found', i ≤ k' → k' < k → ¬ Captured text k' j' found') → Captured text k j found →
    Replaced context text j out →
    Replaced context text i ((text.drop i).take (k - i) ++ (Piece.hole found).fill context ++ out)

namespace Replaced

variable {context : Json} {out : List Char}

/-- **A replacement fills the pieces**, from where it begins. -/
theorem eq_fill (h : Replaced context text i out) :
    out = (pieces (text.drop i)).flatMap (Piece.fill context) := by
  induction h with
  | @none i hnone =>
    have hpieces := pieces_append_of_no_hole (text.drop i) [] fun k body _ hb => by
      rw [List.append_nil] at hb
      exact hnone (i + k) _ body (Nat.le_add_right i k) (holeAt_drop.1 hb).captured
    rw [List.append_nil] at hpieces
    rw [hpieces, List.flatMap_append, flatMap_fill_char]
    simp [pieces]
  | @first i k j found out hik hnone hfound _ ih =>
    obtain ⟨body, hbody, rfl, hresolve⟩ := hfound.holeAt
    have hfill : (Piece.hole found).fill context = (Piece.hole body).fill context := by
      rw [Piece.fill, Piece.fill, hresolve]
    have hdrop : text.drop i = (text.drop i).take (k - i) ++ text.drop k := by
      conv_lhs => rw [← List.take_append_drop (k - i) (text.drop i)]
      rw [List.drop_drop, Nat.add_sub_cancel' hik]
    have hrest : text.drop k
        = (Piece.hole body).source ++ text.drop (k + (Piece.hole body).source.length) := by
      obtain ⟨rest, hrest⟩ := hbody.stands
      rw [← List.drop_drop, ← hrest, List.drop_left]
    have hpieces := pieces_append_of_no_hole ((text.drop i).take (k - i)) (text.drop k)
      fun k' body hk' hb => by
        rw [← hdrop] at hb
        have hlt : k' < k - i := hk'.trans_le (List.length_take_le _ _)
        exact hnone (i + k') _ body (Nat.le_add_right i k') (by omega) (holeAt_drop.1 hb).captured
    rw [← hdrop, hrest, (hbody.isBody.first _).pieces] at hpieces
    rw [hpieces, List.flatMap_append, flatMap_fill_char, List.flatMap_cons, ← ih, hfill,
      List.append_assoc]

theorem «exists» (context : Json) (text : List Char) (i : Nat) :
    ∃ out, Replaced context text i out := by
  induction hn : text.length - i using Nat.strong_induction_on generalizing i with
  | _ n ih =>
    by_cases h : ∃ k, i ≤ k ∧ ∃ j found, Captured text k j found
    · classical
      obtain ⟨hik, j, found, hfound⟩ := Nat.find_spec h
      obtain ⟨body, hbody, hj, -⟩ := hfound.holeAt
      have := hbody.lt_length
      have := (Piece.hole body).source_length_pos
      obtain ⟨out, hout⟩ := ih (text.length - j) (by omega) j rfl
      exact ⟨_, .first hik (fun k' j' found' hk' hlt hc => Nat.find_min h hlt ⟨hk', j', found', hc⟩)
        hfound hout⟩
    · exact ⟨_, .none fun k j found hk hc => h ⟨k, hk, j, found, hc⟩⟩

end Replaced

/-- **Replacing the leftmost match again and again fills in the placeholders.** -/
theorem replaced_iff {context : Json} {s : String} {out : List Char} :
    Replaced context s.toList 0 out ↔ out = (fill context s).toList := by
  have hfill : (fill context s).toList
      = (pieces (s.toList.drop 0)).flatMap (Piece.fill context) := String.toList_ofList
  rw [hfill]
  constructor
  · exact Replaced.eq_fill
  · rintro rfl
    obtain ⟨out, hout⟩ := Replaced.exists context s.toList 0
    exact hout.eq_fill ▸ hout

end Template

end RemoteScreen
