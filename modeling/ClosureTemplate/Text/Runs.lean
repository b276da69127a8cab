import ClosureTemplate.Text.Basic

/-!
Tables of character properties, written as rows of run lengths: either runs that carry a label, or
alternating gaps and runs.
-/

namespace ClosureTemplate.Text

def decimal (digits : Text) : Nat :=
  digits.foldl (fun total c => total * 10 + (c.toNat - '0'.toNat)) 0

def splitAt (separator : Char) : Text → List Text
  | [] => [[]]
  | c :: cs =>
    if c = separator then [] :: splitAt separator cs
    else match splitAt separator cs with
      | [] => [[c]]
      | part :: parts => (c :: part) :: parts

def words (row : String) : List Text := (splitAt ' ' row.toList).filter (!·.isEmpty)

def numbers (separator : Char) (word : Text) : List Nat := (splitAt separator word).map decimal

/-- Rows of runs such as `32Cc`: a length and a label. -/
def labelledRuns (rows : List String) : List (Nat × String) := rows.flatMap fun row =>
  (words row).map fun word =>
    (decimal (word.takeWhile Char.isDigit), String.ofList (word.dropWhile Char.isDigit))

def labelAt : List (Nat × String) → Nat → String
  | [], _ => ""
  | (count, label) :: runs, n => if n < count then label else labelAt runs (n - count)

def rangesFrom (test : String → Bool) : Nat → List (Nat × String) → List (Nat × Nat)
  | _, [] => []
  | start, (count, label) :: runs =>
    let rest := rangesFrom test (start + count) runs
    if test label && 0 < count then (start, start + count - 1) :: rest else rest

def rangesWhere (test : String → Bool) (runs : List (Nat × String)) : List (Nat × Nat) :=
  rangesFrom test 0 runs

/-- The inclusive ranges of alternating gap and run lengths, from position `start` on. -/
def gapRangesFrom : Nat → List Nat → List (Nat × Nat)
  | start, gap :: count :: rest =>
    (start + gap, start + gap + count - 1) :: gapRangesFrom (start + gap + count) rest
  | _, _ => []

def gapRanges (rows : List String) : List (Nat × Nat) :=
  gapRangesFrom 0 (rows.flatMap fun row => (words row).map decimal)

def inRanges (ranges : List (Nat × Nat)) (n : Nat) : Bool :=
  ranges.any fun (low, high) => low ≤ n && n ≤ high

end ClosureTemplate.Text
