import ClosureTemplate.Text.Basic

namespace ClosureTemplate.Text

def isLetter (c : Char) : Bool := c.isAlpha

def isDigit (c : Char) : Bool := c.isDigit

def isHexDigit (c : Char) : Bool :=
  c.isDigit || ('a' ≤ c && c ≤ 'f') || ('A' ≤ c && c ≤ 'F')

def isNameStart (c : Char) : Bool := isLetter c || c == '_'

def isNameChar (c : Char) : Bool := isNameStart c || isDigit c

def isIdentifier : Text → Bool
  | [] => false
  | c :: cs => isNameStart c && cs.all isNameChar

def run (test : Char → Bool) (text : Text) : Nat := (text.takeWhile test).length

def identifierLength : Text → Nat
  | [] => 0
  | c :: cs => if isNameStart c then 1 + run isNameChar cs else 0

def segmentsLength (text : Text) : Nat :=
  match text with
  | '.' :: cs =>
    let width := identifierLength cs
    if width = 0 then 0 else 1 + width + segmentsLength (cs.drop width)
  | _ => 0
  termination_by text.length

def dottedLength (text : Text) : Nat :=
  let width := identifierLength text
  if width = 0 then 0 else width + segmentsLength (text.drop width)

end ClosureTemplate.Text
