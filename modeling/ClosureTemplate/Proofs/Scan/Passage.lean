import ClosureTemplate.Proofs.Scan.Layout

/-!
Stretches of a scan: the symbols that a number of calls give one after the other, and the scanner
they lead to (`Reads`). A scan that is inside of a string or a comment reads up to the delimiter if
every token takes some of the text before it and stays inside (`reads_through`).
-/

namespace ClosureTemplate

structure Symbol.Covers (symbol : Symbol) (kind : Kind) (start stop : Nat) : Prop where
  kind : symbol.kind = kind
  start : symbol.start = start
  stop : symbol.stop = stop

namespace Scan

namespace State

/-- The state that the next token is read in, behind a silent change of mode if there is one. -/
def settled (state : State) (view : View) : State :=
  match state.move view with
  | .emit _ => state
  | .shift mode => state.enter mode

theorem settled_cases (state : State) (view : View) :
    state.settled view = state ∨ Shift state (state.settled view) := by
  unfold settled
  split
  · exact .inl rfl
  · next shifts => exact .inr (shift_of_shifts view shifts)

theorem move_settled (state : State) (view : View) :
    (state.settled view).move view = .emit (state.emission view) := by
  cases moves : state.move view with
  | emit emission => simp only [settled, State.emission, moves]
  | shift mode =>
    obtain ⟨emission, emits⟩ := (shift_of_shifts view moves).emits view
    simp only [settled, State.emission, moves, emits]

theorem settled_isCoherent {state : State} (coherent : state.IsCoherent) (view : View) :
    (state.settled view).IsCoherent := by
  rcases state.settled_cases view with same | shift
  · rw [same]
    exact coherent
  · exact shift.isCoherent coherent

theorem settled_eq_of_mode {state : State} (view : View)
    (inside : state.mode = .stringLiteral ∨ state.mode = .docComment) :
    state.settled view = state := by
  rcases state.settled_cases view with same | shift
  · exact same
  · generalize state.settled view = settled at shift
    rcases inside with inside | inside
    · cases shift <;> next mode => rw [inside] at mode; cases mode
    · exact absurd inside shift.mode_of_docComment

end State

namespace Scanner

def settled (scanner : Scanner) : State :=
  match scanner.rest with
  | [] => scanner.state
  | head :: tail => scanner.state.settled (scanner.viewOf head tail)

theorem settled_of_rest {scanner : Scanner} {head : Char} {tail : Text}
    (shape : scanner.rest = head :: tail) :
    scanner.settled = scanner.state.settled (scanner.viewOf head tail) := by
  rw [settled, shape]

theorem settled_isCoherent {scanner : Scanner} (coherent : scanner.state.IsCoherent) :
    scanner.settled.IsCoherent := by
  unfold settled
  split
  · exact coherent
  · exact State.settled_isCoherent coherent _

theorem advance_of_settled {scanner : Scanner} {head : Char} {tail : Text} {emission : Emission}
    (shape : scanner.rest = head :: tail)
    (emits : scanner.settled.move (scanner.viewOf head tail) = .emit emission) :
    scanner.advance = scanner.take emission := by
  rw [settled_of_rest shape, State.move_settled] at emits
  rw [advance_of_rest shape, Move.emit.inj emits]

structure Meets (scanner : Scanner) (text : Text) (offset : Nat) : Prop where
  offset : scanner.cursor.offset = offset
  text : text <+: scanner.rest

theorem OnRange.rest {source : Text} {start stop : Nat} {scanner : Scanner}
    (onRange : scanner.OnRange source start stop) :
    source.slice? scanner.cursor.offset stop = some scanner.rest := by
  obtain ⟨rfl, rfl, rfl, consumed, held⟩ := onRange
  rw [held.offset]
  exact Text.slice?_drop held.range

theorem Meets.slice? {source text tail : Text} {start stop offset : Nat} {scanner : Scanner}
    (meets : scanner.Meets text offset) (onRange : scanner.OnRange source start stop)
    (shape : scanner.rest = text ++ tail) :
    source.slice? (offset + text.byteSize) stop = some tail := by
  apply Text.slice?_drop
  rw [← meets.offset, onRange.rest, shape]

/-- Calls give the symbols, none of them the end token, and lead to another scanner. -/
inductive Reads : Scanner → List Symbol → Scanner → Prop
  | done {scanner : Scanner} : Reads scanner [] scanner
  | next {scanner last : Scanner} {symbols : List Symbol} (more : scanner.rest ≠ [])
      (reads : Reads scanner.advance.2 symbols last) :
      Reads scanner (scanner.advance.1 :: symbols) last

theorem reads_one {scanner : Scanner} (more : scanner.rest ≠ []) :
    scanner.Reads [scanner.advance.1] scanner.advance.2 :=
  .next more .done

theorem Reads.append {scanner middle last : Scanner} {first second : List Symbol}
    (front : scanner.Reads first middle) (back : middle.Reads second last) :
    scanner.Reads (first ++ second) last := by
  induction front with
  | done => exact back
  | next more _ ih => exact .next more (ih back)

theorem Reads.drain {scanner last : Scanner} {symbols : List Symbol}
    (reads : scanner.Reads symbols last) : scanner.drain.1 = symbols ++ last.drain.1 := by
  induction reads with
  | done => rfl
  | next more _ ih => rw [drain_of_rest more, ih, List.cons_append]

theorem Reads.onRange {source : Text} {start stop : Nat} {scanner last : Scanner}
    {symbols : List Symbol} (reads : scanner.Reads symbols last)
    (onRange : scanner.OnRange source start stop) : last.OnRange source start stop := by
  induction reads with
  | done => exact onRange
  | next _ _ ih => exact ih onRange.advance

theorem Reads.tiles {source : Text} {start stop : Nat} {scanner last : Scanner}
    {symbols : List Symbol} (reads : scanner.Reads symbols last)
    (onRange : scanner.OnRange source start stop) :
    Tiles source scanner.cursor.offset last.cursor.offset symbols := by
  induction reads with
  | done => exact .done
  | @next scanner last symbols more _ ih =>
    obtain ⟨consumed, held⟩ := onRange.consumed
    obtain ⟨symbolStart, symbolStop⟩ := advance_symbol_start more
    have piece := advance_isPieceOf held more
    have tiles := ih onRange.advance
    rw [onRange.source] at piece
    rw [← symbolStop] at tiles
    rw [← symbolStart]
    exact .next piece tiles

theorem advance_cursor_offset (scanner : Scanner) :
    scanner.advance.2.cursor.offset =
      scanner.cursor.offset + scanner.advance.1.text.byteSize := by
  unfold advance
  split
  · rfl
  · exact Point.advance_offset _ _

theorem Reads.offset {scanner last : Scanner} {symbols : List Symbol}
    (reads : scanner.Reads symbols last) :
    last.cursor.offset = scanner.cursor.offset + Text.byteSize (symbols.flatMap Symbol.text) := by
  induction reads with
  | done => rfl
  | next _ _ ih =>
    rw [ih, advance_cursor_offset, List.flatMap_cons, Text.byteSize_append]
    omega

theorem Reads.offset_eq_stop {scanner there : Scanner} {symbols : List Symbol} {last : Symbol}
    (reads : scanner.Reads (symbols ++ [last]) there) : there.cursor.offset = last.stop := by
  induction symbols generalizing scanner with
  | nil =>
    cases reads with
    | next more done =>
      cases done
      exact (advance_symbol_start more).2.symm
  | cons symbol symbols ih =>
    cases reads with
    | next _ others => exact ih others

theorem covers_advance {scanner : Scanner} {kind : Kind} {text : Text} (more : scanner.rest ≠ [])
    (isKind : scanner.advance.1.kind = kind) (isText : scanner.advance.1.text = text) :
    scanner.advance.1.Covers kind scanner.cursor.offset
      (scanner.cursor.offset + text.byteSize) := by
  obtain ⟨symbolStart, symbolStop⟩ := advance_symbol_start more
  refine ⟨isKind, symbolStart, ?_⟩
  rw [symbolStop, advance_cursor_offset, isText]

/-- Tokens that each take some of a text, and leave the scanner where the same holds of what they
leave of it, read the text to its end. -/
theorem reads_through {inside : Text → Scanner → Prop} {allowed : Kind → Prop}
    (step : ∀ {body : Text} {scanner : Scanner}, inside body scanner → body ≠ [] →
      scanner.rest ≠ [] ∧ allowed scanner.advance.1.kind ∧
        ∃ left, body = scanner.advance.1.text ++ left ∧ inside left scanner.advance.2)
    {body : Text} {scanner : Scanner} (start : inside body scanner) :
    ∃ symbols last, scanner.Reads symbols last ∧ inside [] last ∧
      symbols.flatMap Symbol.text = body ∧ ∀ symbol ∈ symbols, allowed symbol.kind := by
  -- by induction on the text that is left, since no token is empty
  induction size : body.length using Nat.strongRecOn generalizing body scanner with
  | ind n ih =>
    by_cases ended : body = []
    · subst ended
      exact ⟨[], scanner, .done, start, rfl, by simp⟩
    · obtain ⟨more, isAllowed, left, rfl, still⟩ := step start ended
      have taken : 0 < scanner.advance.1.text.length :=
        List.length_pos_iff.mpr (advance_text_ne_nil more)
      have shorter : left.length < n := by
        rw [List.length_append] at size
        omega
      obtain ⟨symbols, last, reads, reached, text, all⟩ := ih left.length shorter still rfl
      refine ⟨_, last, .next more reads, reached, ?_, ?_⟩
      · rw [List.flatMap_cons, text]
      · intro symbol member
        rcases List.mem_cons.mp member with rfl | later
        · exact isAllowed
        · exact all symbol later

theorem reads_enclosed {source : Text} {start stop : Nat} {inside : Text → Scanner → Prop}
    {allowed : Kind → Prop} {ending : Kind} {delimiter : Text} {left : State → Prop}
    (step : ∀ {body : Text} {scanner : Scanner}, inside body scanner → body ≠ [] →
      scanner.rest ≠ [] ∧ allowed scanner.advance.1.kind ∧
        ∃ left, body = scanner.advance.1.text ++ left ∧ inside left scanner.advance.2)
    (closes : ∀ {scanner : Scanner}, inside [] scanner →
      scanner.rest ≠ [] ∧ scanner.advance.1.kind = ending ∧ scanner.advance.1.text = delimiter ∧
        left scanner.advance.2.state)
    {body : Text} {scanner : Scanner} (onRange : scanner.OnRange source start stop)
    (begun : inside body scanner) :
    ∃ symbols last there, scanner.Reads (symbols ++ [last]) there ∧
      Tiles source scanner.cursor.offset (scanner.cursor.offset + body.byteSize) symbols ∧
      (∀ symbol ∈ symbols, allowed symbol.kind) ∧
      last.Covers ending (scanner.cursor.offset + body.byteSize)
        (scanner.cursor.offset + body.byteSize + delimiter.byteSize) ∧
      left there.state := by
  obtain ⟨symbols, middle, reads, reached, text, all⟩ := reads_through step begun
  obtain ⟨more, ends, closing, after⟩ := closes reached
  have tiles := reads.tiles onRange
  have covers := covers_advance more ends closing
  rw [reads.offset, text] at tiles covers
  exact ⟨symbols, _, _, reads.append (reads_one more), tiles, all, covers, after⟩

end Scanner

end Scan

end ClosureTemplate
