import ClosureTemplate.Doc.Buffer
import ClosureTemplate.Scan.Mode
import ClosureTemplate.Token.Kind
import ClosureTemplate.Token.Value

namespace ClosureTemplate.Scan

/-- The facts about the open tag; the default stands for no tag. -/
structure Tag where
  command : Option Kind := none
  isClosing : Bool := false
  isDoubled : Bool := false
  inDirective : Bool := false
  deriving DecidableEq, Repr

structure Quote where
  terminator : Char := '"'
  inAttribute : Bool := false
  deriving DecidableEq, Repr

structure State where
  mode : Mode
  /-- Modes to return to when the current tag, string or comment closes, innermost first. -/
  resume : List Mode := []
  tag : Tag := {}
  quote : Quote := {}
  namespaceName : Option Text := none
  templateName : Option Text := none
  tagLine : Nat := 0
  doc : Doc.Buffer := {}
  /-- A doc comment was seen and not yet handed out by a closing template tag. -/
  docActive : Bool := false
  deriving DecidableEq, Repr

namespace State

def initial (mode : Mode) : State := { mode }

def enter (state : State) (mode : Mode) : State := { state with mode }

def push (state : State) (mode : Mode) : State :=
  { state with mode, resume := state.mode :: state.resume }

def pop (state : State) : State :=
  { state with mode := state.resume.headD .templateText, resume := state.resume.tail }

end State

/-- What can be seen of the text at the cursor: the character before it, the line, and the rest of
the range, which is never empty. -/
structure View where
  previous : Option Char
  line : Nat
  head : Char
  tail : Text

def View.rest (view : View) : Text := view.head :: view.tail

structure Emission where
  kind : Kind
  width : Nat
  state : State
  value : Option Value := none

end ClosureTemplate.Scan
