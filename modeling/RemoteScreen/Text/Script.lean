import RemoteScreen.Text.Category
import RemoteScreen.Text.ScriptTable

/-!
# Text/Script — scripts of characters
-/

namespace RemoteScreen

namespace Script

/-- Unfolds runs into their first code points and scripts; `letters` has what was read of the two
letters of the run being read, `length` what was read of its length. -/
private def unfoldRuns : List Char → Nat → List Char → Nat → Array (Nat × Nat) →
    Array (Nat × Nat)
  | [], start, letters, _, acc => acc.push (start, index letters)
  | x :: xs, start, letters, length, acc =>
    if x.isDigit then
      unfoldRuns xs start letters (10 * length + (x.toNat - '0'.toNat)) acc
    else if letters.length < 2 then unfoldRuns xs start (letters ++ [x]) 0 acc
    else
      unfoldRuns xs (start + if length = 0 then 1 else length) [x] 0
        (acc.push (start, index letters))
where
  /-- The number that two letters count to. -/
  index (letters : List Char) : Nat := letters.foldl (fun n x => 26 * n + (x.toNat - 'a'.toNat)) 0

/-- The first code point of each run, with its script. -/
def table : Array (Nat × Nat) := unfoldRuns runs.toList 0 [] 0 #[]

/-- The index of a character's script among `names`, or one beyond them all. -/
def of (c : Char) : Nat := (lastAtMost table c.toNat 21 0 table.size).getD names.length

end Script

end RemoteScreen
