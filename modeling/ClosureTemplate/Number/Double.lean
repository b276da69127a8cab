import ClosureTemplate.Text.Identifier

/-!
Double precision numbers as bit patterns. A decimal literal is rounded to the nearest double, ties
to even, in exact integer arithmetic; two doubles are close when few doubles lie between them.
-/

namespace ClosureTemplate.Number

/-- A double, given by its IEEE 754 bit pattern. -/
structure Double where
  bits : UInt64
  deriving DecidableEq, Repr

namespace Double

def infinity : Double := ⟨0x7FF0000000000000⟩

def roundDiv (num den : Nat) : Nat :=
  let quotient := num / den
  let twice := 2 * (num % den)
  if den < twice || (den == twice && quotient % 2 == 1) then quotient + 1 else quotient

def scale (num den : Nat) (power : Int) : Nat × Nat :=
  if power < 0 then (num * Nat.pow 2 power.natAbs, den) else (num, den * Nat.pow 2 power.natAbs)

def leadingUnit : Nat := Nat.pow 2 52

def unitPower (num den : Nat) : Int :=
  let guess : Int := (num.log2 : Int) - (den.log2 : Int) - 52
  let scaled := scale num den guess
  let power := if scaled.1 / scaled.2 < leadingUnit then guess - 1 else guess
  max power (-1074)

def ofFraction (num den : Nat) : Double :=
  if num = 0 then ⟨0⟩
  else
    let power := unitPower num den
    let scaled := scale num den power
    let bits := (power + 1074).toNat * leadingUnit + roundDiv scaled.1 scaled.2
    if bits < infinity.bits.toNat then ⟨bits.toUInt64⟩ else infinity

/-- The double nearest to `digits * 10 ^ exponent`. A number below `10 ^ high` or above `10 ^ low`
that is far outside the range of doubles is settled without computing the power. -/
def ofDecimal (digits : Nat) (exponent : Int) : Double :=
  let low : Int := (digits.log2 * 3 / 10 : Nat) + exponent
  let high : Int := (digits.log2 * 4 / 13 + 2 : Nat) + exponent
  if digits = 0 || high < -400 then ⟨0⟩
  else if 400 < low then infinity
  else if exponent < 0 then ofFraction digits (Nat.pow 10 exponent.natAbs)
  else ofFraction (digits * Nat.pow 10 exponent.natAbs) 1

/-- The position of a double in the order of the extended real line, starting with the negative
numbers. -/
def rank (x : Double) : UInt64 :=
  if x.bits &&& 0x8000000000000000 = 0 then x.bits ^^^ 0x8000000000000000 else ~~~x.bits

/-- At most two doubles apart, counted around the circle of bit patterns. -/
def isNear (a b : Double) : Bool :=
  a.rank - b.rank ≤ 2 || b.rank - a.rank ≤ 2

def digitsValue (digits : Text) : Nat :=
  digits.foldl (fun total c => total * 10 + (c.toNat - '0'.toNat)) 0

def ofLiteral (literal : Text) : Double :=
  let whole := literal.takeWhile Text.isDigit
  let afterWhole := literal.dropWhile Text.isDigit
  let fraction := match afterWhole with
    | '.' :: cs => cs.takeWhile Text.isDigit
    | _ => []
  let afterFraction := match afterWhole with
    | '.' :: cs => cs.dropWhile Text.isDigit
    | cs => cs
  let exponent : Int := match afterFraction with
    | [] => 0
    | _ :: '-' :: cs => -(digitsValue cs : Int)
    | _ :: '+' :: cs => digitsValue cs
    | _ :: cs => digitsValue cs
  ofDecimal (digitsValue (whole ++ fraction)) (exponent - fraction.length)

end Double

end ClosureTemplate.Number
