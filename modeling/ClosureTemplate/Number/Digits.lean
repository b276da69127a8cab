import ClosureTemplate.Text.Basic

namespace ClosureTemplate.Number

def maxInteger : Nat := Nat.pow 2 63 - 1

inductive RadixError where
  | outOfRange (radix : Nat)
  deriving DecidableEq, Repr

def isRadix (radix : Nat) : Bool := 2 ≤ radix && radix ≤ 36

def digitRank? (c : Char) : Option Nat :=
  if c.isDigit then some (c.toNat - '0'.toNat)
  else if c.isLower then some (c.toNat - 'a'.toNat + 10)
  else if c.isUpper then some (c.toNat - 'A'.toNat + 10)
  else none

def digit? (radix : Nat) (c : Char) : Option Nat :=
  (digitRank? c).filter (· < radix)

def checked? (value : Nat) : Option Nat := if value ≤ maxInteger then some value else none

/-- One more digit on the right. Both operations are checked. -/
def pushDigit? (radix total : Nat) (c : Char) : Option Nat := do
  let digit ← digit? radix c
  let shifted ← checked? (total * radix)
  checked? (shifted + digit)

def ofDigits? (radix : Nat) (digits : Text) : Option Nat :=
  digits.foldlM (pushDigit? radix) 0

/-- A radix is only looked at when there is a digit to read. -/
def parse (digits : Text) (radix : Nat) : Except RadixError (Option Nat) :=
  if digits.isEmpty || isRadix radix then .ok (ofDigits? radix digits)
  else .error (.outOfRange radix)

end ClosureTemplate.Number
