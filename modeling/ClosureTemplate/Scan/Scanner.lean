import ClosureTemplate.Point
import ClosureTemplate.Scan.Progress
import ClosureTemplate.Token.Symbol

namespace ClosureTemplate.Scan

structure Scanner where
  source : Text := []
  start : Nat := 0
  stop : Nat := 0
  cursor : Point := .startOf 0
  previous : Option Char := none
  rest : Text := []
  state : State := .initial .templateText
  token : Option Symbol := none
  deriving DecidableEq, Repr

structure Position where
  cursor : Point
  state : State
  token : Option Symbol
  deriving DecidableEq, Repr

def Position.offset (position : Position) : Nat := position.cursor.offset

def Position.mode (position : Position) : Mode := position.state.mode

namespace Scanner

/-- Puts the cursor on a point. Nothing is left to read from a point outside of the range. -/
def moveTo (scanner : Scanner) (cursor : Point) : Scanner :=
  { scanner with
    cursor
    previous := (Text.slice? scanner.source scanner.start cursor.offset).bind (·.getLast?)
    rest := (Text.slice? scanner.source cursor.offset scanner.stop).getD [] }

def ofRange (source : Text) (start stop : Nat) (mode : Mode) : Scanner :=
  { source, start, stop, state := .initial mode : Scanner }.moveTo (.startOf start)

def bind (source : Text) (start stop : Nat) (mode : Mode) : Except Error Scanner :=
  if start ≤ stop && source.isBoundary start && source.isBoundary stop then
    .ok (ofRange source start stop mode)
  else .error (.invalidRange start stop source.byteSize)

def reset (scanner : Scanner) (source : Text) (start stop : Nat) (mode : Mode) :
    Except Error Scanner :=
  if start ≤ stop && source.isBoundary start && source.isBoundary stop then
    .ok ({ scanner with source, start, stop, state := .initial mode, token := none }.moveTo
      (.startOf start))
  else .error (.invalidRange start stop source.byteSize)

def eof (scanner : Scanner) : Symbol where
  kind := .eof
  text := []
  start := scanner.stop
  stop := scanner.stop
  line := scanner.cursor.line
  column := scanner.cursor.column

def take (scanner : Scanner) (emission : Emission) : Symbol × Scanner :=
  let text := scanner.rest.take emission.width
  let cursor := scanner.cursor.advance text
  let symbol : Symbol :=
    { kind := emission.kind
      text
      start := scanner.cursor.offset
      stop := cursor.offset
      line := scanner.cursor.line
      column := scanner.cursor.column
      value := emission.value }
  (symbol,
    { scanner with
      cursor
      previous := text.getLast?.or scanner.previous
      rest := scanner.rest.drop emission.width
      state := emission.state
      token := some symbol })

def advance (scanner : Scanner) : Symbol × Scanner :=
  match scanner.rest with
  | [] => (scanner.eof, { scanner with token := some scanner.eof })
  | head :: tail =>
    let view : View := ⟨scanner.previous, scanner.cursor.line, head, tail⟩
    scanner.take (scanner.state.emission view)

def tokenKind (scanner : Scanner) : Option Kind := scanner.token.map Symbol.kind

def tokenStart (scanner : Scanner) : Nat := (scanner.token.map Symbol.start).getD scanner.start

def tokenStop (scanner : Scanner) : Nat := (scanner.token.map Symbol.stop).getD scanner.start

def tokenText (scanner : Scanner) : Text := (scanner.token.map Symbol.text).getD []

def position (scanner : Scanner) : Position := ⟨scanner.cursor, scanner.state, scanner.token⟩

def restore (scanner : Scanner) (position : Position) : Scanner :=
  { scanner.moveTo position.cursor with state := position.state, token := position.token }

theorem rest_take (scanner : Scanner) (emission : Emission) :
    (scanner.take emission).2.rest = scanner.rest.drop emission.width := rfl

theorem advance_at_end (scanner : Scanner) (ended : scanner.rest = []) :
    scanner.advance = (scanner.eof, { scanner with token := some scanner.eof }) := by
  simp [advance, ended]

theorem rest_advance_lt (scanner : Scanner) (more : scanner.rest ≠ []) :
    scanner.advance.2.rest.length < scanner.rest.length := by
  unfold advance
  split
  · contradiction
  · next head tail split =>
    have progress := State.emission_pos scanner.state
      ⟨scanner.previous, scanner.cursor.line, head, tail⟩
    rw [rest_take, List.length_drop]
    have : 0 < scanner.rest.length := List.length_pos_iff.mpr more
    omega

def drain (scanner : Scanner) : List Symbol × Scanner :=
  if _ : scanner.rest = [] then ([], scanner)
  else
    let step := scanner.advance
    let remaining := step.2.drain
    (step.1 :: remaining.1, remaining.2)
  termination_by scanner.rest.length
  decreasing_by exact scanner.rest_advance_lt ‹_›

end Scanner

def tokenizeRange (source : Text) (start stop : Nat) (mode : Mode) : Except Error (List Symbol) :=
  (Scanner.bind source start stop mode).map fun scanner => scanner.drain.1

def tokenize (source : Text) : List Symbol :=
  (Scanner.ofRange source 0 source.byteSize .templateText).drain.1

end ClosureTemplate.Scan
