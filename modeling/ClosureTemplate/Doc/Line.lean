import ClosureTemplate.Text.Blank
import ClosureTemplate.Text.Identifier

namespace ClosureTemplate.Doc

open Text (trim trimStart dropHead? dropTail? isBlank)

def splitLines : Text → List Text × Text
  | [] => ([], [])
  | c :: cs =>
    let (lines, rest) := splitLines cs
    if c = '\n' then ([] :: lines, rest)
    else match lines with
      | [] => ([], c :: rest)
      | line :: others => ((c :: line) :: others, rest)

/-- Removes one delimiter, if it is there, and the blanks around the rest. -/
def withoutDelimiter (remove : Text → Option Text) (line : Text) : Text :=
  match remove line with
  | some rest => trim rest
  | none => line

def cleanLine (raw : Text) : Text :=
  let line := trim raw
  let line := withoutDelimiter (dropHead? "/**".toList) line
  let line := withoutDelimiter (dropTail? "*/".toList) line
  withoutDelimiter (dropHead? ['*']) line

/-- The text after an `@param` marker that ends the line or is followed by `?` or a blank. -/
def markerRest? (line : Text) : Option Text :=
  match dropHead? "@param".toList line with
  | some [] => some []
  | some (c :: rest) => if c = '?' || isBlank c then some (c :: rest) else none
  | none => none

def markerBody (rest : Text) : Bool × Text :=
  match rest with
  | '?' :: body => (true, trimStart body)
  | body => (false, trimStart body)

/-- A line prefix that ends right where a parameter name should start. -/
def anticipatesName (line : Text) : Bool :=
  let line := trimStart line
  let line := match line with
    | '*' :: rest => trimStart (rest.dropWhile (· == '*'))
    | _ => line
  match dropHead? "@param".toList line with
  | some ('?' :: rest) => rest.all isBlank
  | some rest => rest.all isBlank
  | none => false

/-- Two segments of a description with one space between them; an empty one leaves no trace. -/
def joinSegments (existing line : Text) : Text :=
  if existing.isEmpty then line
  else if line.isEmpty then existing
  else trim (existing ++ ' ' :: line)

end ClosureTemplate.Doc
