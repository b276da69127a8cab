import ClosureTemplate.Config.Toml.Value
import ClosureTemplate.Number.Digits
import ClosureTemplate.Number.Double

namespace ClosureTemplate.Config.Toml

def isWordChar (c : Char) : Bool :=
  c.isAlphanum || c == '_' || c == '+' || c == '-' || c == '.' || c == ':'

def isDigits (radix : Nat) : Text → Bool
  | [] => false
  | [c] => (Number.digit? radix c).isSome
  | '_' :: _ => false
  | c :: '_' :: cs => (Number.digit? radix c).isSome && isDigits radix cs
  | c :: cs => (Number.digit? radix c).isSome && isDigits radix cs

def digitsOf (text : Text) : Text := text.filter (· != '_')

def withoutSign : Text → Text
  | '+' :: cs => cs
  | '-' :: cs => cs
  | cs => cs

/-- Decimal digits without a superfluous zero in front. -/
def isDecimal (text : Text) : Bool :=
  isDigits 10 text && (text.length == 1 || text.head? != some '0')

def valueOf (radix : Nat) (text : Text) : Nat :=
  (digitsOf text).foldl (fun total c => total * radix + (Number.digitRank? c).getD 0) 0

def maxMagnitude : Nat := Nat.pow 2 128 - 1

/-- An integer in range; negative ones have half the range. -/
def isInteger (text : Text) : Bool :=
  match text with
  | '0' :: 'x' :: cs => isDigits 16 cs && valueOf 16 cs ≤ maxMagnitude
  | '0' :: 'o' :: cs => isDigits 8 cs && valueOf 8 cs ≤ maxMagnitude
  | '0' :: 'b' :: cs => isDigits 2 cs && valueOf 2 cs ≤ maxMagnitude
  | '-' :: cs => isDecimal cs && valueOf 10 cs ≤ Nat.pow 2 127
  | _ => isDecimal (withoutSign text) && valueOf 10 (withoutSign text) ≤ maxMagnitude

def isExponent : Text → Bool
  | mark :: cs => (mark == 'e' || mark == 'E') && isDigits 10 (withoutSign cs)
  | [] => false

def isFloat (text : Text) : Bool :=
  let body := withoutSign text
  if body == "inf".toList || body == "nan".toList then true
  else
    let isPart := fun c => c.isDigit || c == '_'
    let whole := body.takeWhile isPart
    let isFinite := (Number.Double.ofLiteral (digitsOf body)) != Number.Double.infinity
    isDecimal whole && isFinite &&
      match body.dropWhile isPart with
      | '.' :: rest =>
        let fraction := rest.takeWhile isPart
        let exponent := rest.dropWhile isPart
        isDigits 10 fraction && (exponent.isEmpty || isExponent exponent)
      | rest => isExponent rest

def field? (width low high : Nat) (text : Text) : Option (Nat × Text) :=
  let digits := text.take width
  let value := valueOf 10 digits
  if digits.length = width && digits.all Char.isDigit && low ≤ value && value ≤ high then
    some (value, text.drop width)
  else none

def after? (c : Char) : Text → Option Text
  | d :: cs => if d = c then some cs else none
  | [] => none

def isLeap (year : Nat) : Bool := year % 4 == 0 && (year % 100 != 0 || year % 400 == 0)

def daysIn (year month : Nat) : Nat :=
  if month = 2 then if isLeap year then 29 else 28
  else if [4, 6, 9, 11].contains month then 30
  else 31

def date? (text : Text) : Option Text := do
  let (year, rest) ← field? 4 0 9999 text
  let (month, rest) ← field? 2 1 12 (← after? '-' rest)
  let (_, rest) ← field? 2 1 (daysIn year month) (← after? '-' rest)
  return rest

/-- The rest behind a time of day. Seconds and their fraction may be left out. -/
def time? (text : Text) : Option Text := do
  let (_, rest) ← field? 2 0 23 text
  let (_, rest) ← field? 2 0 59 (← after? ':' rest)
  match rest with
  | ':' :: rest =>
    let (_, rest) ← field? 2 0 60 rest
    match rest with
    | '.' :: fraction =>
      if fraction.head?.any Char.isDigit then return fraction.dropWhile Char.isDigit else none
    | rest => return rest
  | rest => return rest

def offset? : Text → Option Text
  | 'Z' :: rest => some rest
  | 'z' :: rest => some rest
  | sign :: rest => do
    if sign != '+' && sign != '-' then none
    let (_, rest) ← field? 2 0 23 rest
    let (_, rest) ← field? 2 0 59 (← after? ':' rest)
    return rest
  | [] => none

def isDatetime (text : Text) : Bool :=
  match date? text with
  | some [] => true
  | some (separator :: rest) =>
    (separator == 'T' || separator == 't' || separator == ' ') &&
      match time? rest with
      | some [] => true
      | some offset => offset? offset == some []
      | none => false
  | none => time? text == some []

def Scalar.ofWord (word : Text) : Except Fault Scalar :=
  if word == "true".toList then .ok (.boolean true)
  else if word == "false".toList then .ok (.boolean false)
  else if isInteger word || isFloat word then .ok .number
  else if isDatetime word then .ok .datetime
  else .error .invalidWord

end ClosureTemplate.Config.Toml
