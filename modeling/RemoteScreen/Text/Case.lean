import RemoteScreen.Text.CaseTable

/-!
# Text/Case — letters regardless of case
-/

namespace RemoteScreen.Text

/-- The partner of a code point in the pairs of letters, if it has one. -/
private def partner? (n : Nat) : Option Nat :=
  casePairs.findSome? fun (first, last, step, distance) =>
    if first ≤ n ∧ n ≤ last ∧ (n - first) % step = 0 then some (n + distance)
    else if first + distance ≤ n ∧ n ≤ last + distance ∧ (n - distance - first) % step = 0 then
      some (n - distance)
    else none

/-- The characters that differ from one in case at most, the character itself among them. -/
def caseVariants (c : Char) : List Char :=
  match caseGroups.find? (·.contains c.toNat) with
  | some group => group.map Char.ofNat
  | none =>
    match partner? c.toNat with
    | some n => [c, Char.ofNat n]
    | none => [c]

end RemoteScreen.Text
