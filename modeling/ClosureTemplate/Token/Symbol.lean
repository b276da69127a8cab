import ClosureTemplate.Token.Kind
import ClosureTemplate.Token.Value

namespace ClosureTemplate

structure Symbol where
  kind : Kind
  text : Text
  start : Nat
  stop : Nat
  line : Nat
  column : Nat
  value : Option Value := none
  deriving DecidableEq, Repr

namespace Symbol

def length (symbol : Symbol) : Nat := symbol.stop - symbol.start

def isEmpty (symbol : Symbol) : Bool := symbol.start = symbol.stop

def isIgnorable (symbol : Symbol) : Bool := symbol.kind.isIgnorable

def doc? (symbol : Symbol) : Option Doc.Buffer :=
  match symbol.value with
  | some (.doc buffer) => some buffer
  | _ => none

/-- The screen position after one character, columns counted from 0: tabs go to the next multiple
of 8, a return to the line start and a backspace one column back. -/
def screenStep : Nat × Nat → Char → Nat × Nat
  | (line, column), c =>
    if c = '\n' then (line + 1, 0)
    else if c = '\t' then (line, (column / 8 + 1) * 8)
    else if c = '\r' then (line, 0)
    else if c = '\x08' then (line, column - 1)
    else (line, column + 1)

def locationEnd (symbol : Symbol) : Nat × Nat :=
  let (line, column) := symbol.text.foldl screenStep (symbol.line, symbol.column - 1)
  (line, column + 1)

def display (symbol : Symbol) : String :=
  s!"{symbol.kind.name} [line:{symbol.line}|col:{symbol.column}] <{String.ofList symbol.text}>"

end Symbol

end ClosureTemplate
