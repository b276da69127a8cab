import ClosureTemplate.Proofs.Scan.Run

namespace ClosureTemplate

/-- A symbol that is a non-empty piece of the source, cut at boundaries. -/
structure Symbol.IsPieceOf (symbol : Symbol) (source : Text) : Prop where
  nonempty : symbol.start < symbol.stop
  startBoundary : source.isBoundary symbol.start = true
  stopBoundary : source.isBoundary symbol.stop = true
  text : source.slice? symbol.start symbol.stop = some symbol.text

/-- Pieces of the source, side by side from one offset to another. -/
inductive Tiles (source : Text) : Nat → Nat → List Symbol → Prop
  | done {offset : Nat} : Tiles source offset offset []
  | next {symbol : Symbol} {stop : Nat} {symbols : List Symbol} (piece : symbol.IsPieceOf source)
      (tiles : Tiles source symbol.stop stop symbols) :
      Tiles source symbol.start stop (symbol :: symbols)

theorem Tiles.append {source : Text} {start middle stop : Nat} {first last : List Symbol}
    (left : Tiles source start middle first) (right : Tiles source middle stop last) :
    Tiles source start stop (first ++ last) := by
  induction left with
  | done => exact right
  | next piece _ ih => exact .next piece (ih right)

theorem Symbol.isPieceOf_of_slice? {symbol : Symbol} {source : Text}
    (found : source.slice? symbol.start symbol.stop = some symbol.text)
    (nonempty : symbol.text ≠ []) : symbol.IsPieceOf source := by
  obtain ⟨startBoundary, stopBoundary⟩ := Text.isBoundary_of_slice? found
  obtain ⟨before, after, -, -, size⟩ := Text.slice?_eq_some_iff.mp found
  have positive : symbol.text.byteSize ≠ 0 :=
    fun zero => nonempty (Text.byteSize_eq_zero_iff.mp zero)
  exact ⟨by omega, startBoundary, stopBoundary, found⟩

namespace Scan

namespace Scanner

theorem advance_symbol_start {scanner : Scanner} (more : scanner.rest ≠ []) :
    scanner.advance.1.start = scanner.cursor.offset ∧
      scanner.advance.1.stop = scanner.advance.2.cursor.offset := by
  obtain ⟨head, tail, shape⟩ := List.exists_cons_of_ne_nil more
  rw [advance_of_rest shape]
  exact ⟨rfl, rfl⟩

theorem advance_isPieceOf {scanner : Scanner} {consumed : Text} (held : scanner.Consumed consumed)
    (more : scanner.rest ≠ []) : scanner.advance.1.IsPieceOf scanner.source := by
  obtain ⟨start, stop⟩ := advance_symbol_start more
  have after := (consumed_advance held).offset
  obtain ⟨before, rest, split, startSize, -⟩ := Text.slice?_eq_some_iff.mp held.range
  rw [← scanner.text_append_rest_advance] at split
  refine Symbol.isPieceOf_of_slice? (Text.slice?_eq_some_iff.mpr ?_) (advance_text_ne_nil more)
  refine ⟨before ++ consumed, scanner.advance.2.rest ++ rest, ?_, ?_, ?_⟩
  · simpa using split
  · rw [start, held.offset, Text.byteSize_append, startSize]
  · rw [start, stop, held.offset, after, advance_start, Text.byteSize_append, Nat.add_assoc]

theorem drain_tiles {scanner : Scanner} {consumed : Text} (held : scanner.Consumed consumed) :
    Tiles scanner.source scanner.cursor.offset scanner.stop scanner.drain.1 := by
  induction scanner using drain_induction generalizing consumed with
  | ended scanner empty =>
    have reached := held.stop
    rw [empty, Text.byteSize_nil, Nat.add_zero] at reached
    rw [drain_at_end empty, reached]
    exact .done
  | more scanner nonempty ih =>
    obtain ⟨start, stop⟩ := advance_symbol_start nonempty
    have tiles := ih (consumed_advance held)
    rw [advance_source, advance_stop, ← stop] at tiles
    rw [drain_of_rest nonempty, ← start]
    exact .next (advance_isPieceOf held nonempty) tiles

theorem tiles_of_bind {source : Text} {start stop : Nat} {mode : Mode} {scanner : Scanner}
    (accepted : Scanner.bind source start stop mode = .ok scanner) :
    Tiles source start stop scanner.drain.1 := by
  have tiles := drain_tiles (consumed_of_bind accepted)
  obtain ⟨-, rfl⟩ := bind_eq_ok_iff.mp accepted
  exact tiles

theorem advance_eof_iff {scanner : Scanner} {consumed : Text} (held : scanner.Consumed consumed) :
    scanner.advance.1.kind = .eof ↔ scanner.cursor.offset = scanner.stop := by
  have reached := held.stop
  rw [advance_kind, ← Text.byteSize_eq_zero_iff]
  omega

/-- A call that reads one token: the modes settle after at most one silent change, on an emission
that takes some text and no more than the range has left. -/
def ReadsToken (scanner : Scanner) : Prop :=
  ∃ head tail silent emission, scanner.rest = head :: tail ∧ silent ≤ 1 ∧
    State.Settles (scanner.viewOf head tail) scanner.state silent emission ∧
    0 < emission.width ∧ emission.width ≤ scanner.rest.length ∧
    scanner.advance = scanner.take emission

theorem readsToken_of_rest {scanner : Scanner} (more : scanner.rest ≠ []) :
    scanner.ReadsToken := by
  obtain ⟨head, tail, shape⟩ := List.exists_cons_of_ne_nil more
  obtain ⟨silent, few, settles⟩ := scanner.state.emission_settles (scanner.viewOf head tail)
  have fits := scanner.state.emission_le (scanner.viewOf head tail)
  refine ⟨head, tail, silent, _, shape, few, settles, State.emission_pos _ _, ?_,
    advance_of_rest shape⟩
  rw [shape]
  exact fits

end Scanner

/-- Every range with its ends on boundaries is scanned, from every mode and without loss: the
tokens tile the range, calling the scanner again and again gives just these and then the same end
token for ever, and each of them takes at most one silent change of mode. -/
theorem tokenizeRange_lossless {source : Text} {start stop : Nat} (mode : Mode)
    (ordered : start ≤ stop) (startBoundary : source.isBoundary start = true)
    (stopBoundary : source.isBoundary stop = true) :
    ∃ scanner symbols eof, Scanner.bind source start stop mode = .ok scanner ∧
      tokenizeRange source start stop mode = .ok symbols ∧
      Tiles source start stop symbols ∧
      Yields Scanner.advance scanner symbols eof ∧
      (eof.text = [] ∧ eof.start = stop ∧ eof.stop = stop) ∧
      (∀ n, (nth Scanner.advance scanner n).kind = .eof ↔
        (behind Scanner.advance scanner n).cursor.offset = stop) ∧
      (∀ n, symbols.length ≤ n → (behind Scanner.advance scanner n).state =
        (behind Scanner.advance scanner symbols.length).state) ∧
      ∀ n, n < symbols.length → (behind Scanner.advance scanner n).ReadsToken := by
  obtain ⟨scanner, accepted⟩ : ∃ scanner, Scanner.bind source start stop mode = .ok scanner :=
    ⟨_, Scanner.bind_eq_ok_iff.mpr ⟨⟨ordered, startBoundary, stopBoundary⟩, rfl⟩⟩
  have onRange := Scanner.onRange_of_bind accepted
  have last : scanner.drain.2.stop = stop := by
    rw [← scanner.behind_drain]
    exact (onRange.behind _).stop
  refine ⟨scanner, scanner.drain.1, scanner.drain.2.eof, accepted, ?_,
    Scanner.tiles_of_bind accepted, scanner.yields_drain, ⟨rfl, last, last⟩, ?_, ?_, ?_⟩
  · rw [tokenizeRange, accepted]
    rfl
  · intro n
    obtain ⟨consumed, held⟩ := (onRange.behind n).consumed
    rw [nth, Scanner.advance_eof_iff held, (onRange.behind n).stop]
  · intro n outside
    obtain ⟨k, rfl⟩ := Nat.exists_eq_add_of_le outside
    obtain ⟨token, same⟩ := Scanner.behind_at_end scanner.drain_rest k
    rw [← behind_add, scanner.behind_drain, same]
  · intro n inside
    exact Scanner.readsToken_of_rest (Scanner.behind_rest_ne_nil inside)

theorem tokenizeRange_lossless_inside_tag :
    Text.isBoundary "é\x7bcall .a data=\"$b\" /\x7d".toList 2 = true ∧
      Text.isBoundary "é\x7bcall .a data=\"$b\" /\x7d".toList 18 = true ∧
      ∃ symbols,
        tokenizeRange "é\x7bcall .a data=\"$b\" /\x7d".toList 2 18 .templateText = .ok symbols ∧
        Tiles "é\x7bcall .a data=\"$b\" /\x7d".toList 2 18 symbols := by
  have start : Text.isBoundary "é\x7bcall .a data=\"$b\" /\x7d".toList 2 = true := by decide
  have stop : Text.isBoundary "é\x7bcall .a data=\"$b\" /\x7d".toList 18 = true := by decide
  obtain ⟨_, symbols, _, _, scanned, tiles, _⟩ :=
    tokenizeRange_lossless .templateText (by decide) start stop
  exact ⟨start, stop, symbols, scanned, tiles⟩

end Scan

end ClosureTemplate
