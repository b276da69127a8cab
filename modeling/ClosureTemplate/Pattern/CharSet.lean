import ClosureTemplate.Text.Blank
import ClosureTemplate.Text.Fold

namespace ClosureTemplate.Pattern

abbrev CharSet := List (Nat × Nat)

namespace CharSet

def maxCode : Nat := 0x10FFFF

def contains (set : CharSet) (c : Char) : Bool := Text.inRanges set c.toNat

def single (c : Char) : CharSet := [(c.toNat, c.toNat)]

def join : CharSet → CharSet
  | [] => []
  | range :: ranges =>
    match join ranges with
    | [] => [range]
    | next :: rest =>
      if next.1 ≤ range.2 + 1 then (range.1, max range.2 next.2) :: rest else range :: next :: rest

def ofRanges (ranges : CharSet) : CharSet :=
  join ((ranges.filter fun range => range.1 ≤ range.2).mergeSort fun a b => a.1 ≤ b.1)

def union (a b : CharSet) : CharSet := ofRanges (a ++ b)

def gapsFrom : Nat → CharSet → CharSet
  | low, [] => if low ≤ maxCode then [(low, maxCode)] else []
  | low, range :: ranges =>
    let rest := gapsFrom (max low (range.2 + 1)) ranges
    if low < range.1 then (low, range.1 - 1) :: rest else rest

def complement (set : CharSet) : CharSet := gapsFrom 0 set

def inter (a b : CharSet) : CharSet :=
  ofRanges (a.flatMap fun x => b.map fun y => (max x.1 y.1, min x.2 y.2))

def diff (a b : CharSet) : CharSet := inter a (complement b)

def symmDiff (a b : CharSet) : CharSet := union (diff a b) (diff b a)

def foldClosure (set : CharSet) : CharSet :=
  let member (n : Nat) : Bool := Text.inRanges set n
  let images := Text.foldPairs.filterMap fun (source, target) =>
    if member source || member target then some target else none
  let sources := Text.foldPairs.filterMap fun (source, target) =>
    if images.contains target then some source else none
  ofRanges (set ++ (images ++ sources).map fun n => (n, n))

def asciiFoldClosure (set : CharSet) : CharSet :=
  let letters (low : Nat) : CharSet := [(low, low + 25)]
  let lower := (inter set (letters 'A'.toNat)).map fun (a, b) => (a + 32, b + 32)
  let upper := (inter set (letters 'a'.toNat)).map fun (a, b) => (a - 32, b - 32)
  ofRanges (set ++ lower ++ upper)

def isAscii (set : CharSet) : Bool := set.all fun range => range.2 < 128

end CharSet

end ClosureTemplate.Pattern
