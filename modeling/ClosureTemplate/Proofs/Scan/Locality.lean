import ClosureTemplate.Proofs.Scan.Window

/-!
A scan knows nothing of the text around its range. The scan of a range and the scan of the slice
that the range cuts out go through the same states side by side, with offsets that differ by the
start of the range (`Displaced`). This holds of a window too, which could look at any place of the
source, because no read of it reaches over the bounds of the range (`Window.Follows.nth_eq`).
-/

namespace ClosureTemplate

def Point.shift (distance : Nat) (point : Point) : Point :=
  { point with offset := point.offset + distance }

def Symbol.shift (distance : Nat) (symbol : Symbol) : Symbol :=
  { symbol with start := symbol.start + distance, stop := symbol.stop + distance }

theorem Point.shift_advanceChar (distance : Nat) (point : Point) (c : Char) :
    (point.shift distance).advanceChar c = (point.advanceChar c).shift distance := by
  have moved : point.offset + distance + c.utf8Size = point.offset + c.utf8Size + distance := by
    omega
  unfold advanceChar
  split
  · simp only [shift, moved]
  · simp only [shift, moved]

theorem Point.shift_advance (distance : Nat) (point : Point) (text : Text) :
    (point.shift distance).advance text = (point.advance text).shift distance := by
  induction text generalizing point with
  | nil => rfl
  | cons c cs ih =>
    have rest := ih (point.advanceChar c)
    simp only [advance, List.foldl_cons] at rest ⊢
    rw [shift_advanceChar, rest]

namespace Scan

namespace Scanner

/-- Two scanners with the same text before and behind them and in the same state, the first one
`distance` bytes further into its source. -/
structure Displaced (distance : Nat) (whole part : Scanner) : Prop where
  stop : whole.stop = part.stop + distance
  cursor : whole.cursor = part.cursor.shift distance
  previous : whole.previous = part.previous
  rest : whole.rest = part.rest
  state : whole.state = part.state

theorem Displaced.take {distance : Nat} {whole part : Scanner}
    (displaced : Displaced distance whole part) (emission : Emission) :
    (whole.take emission).1 = (part.take emission).1.shift distance ∧
      Displaced distance (whole.take emission).2 (part.take emission).2 := by
  have cursor : whole.cursor.advance (whole.rest.take emission.width) =
      (part.cursor.advance (part.rest.take emission.width)).shift distance := by
    rw [displaced.cursor, displaced.rest, Point.shift_advance]
  refine ⟨?_, displaced.stop, cursor, ?_, ?_, rfl⟩
  · simp only [Scanner.take, cursor]
    simp only [displaced.cursor, displaced.rest, Point.shift, Symbol.shift]
  · simp only [Scanner.take, displaced.rest, displaced.previous]
  · simp only [Scanner.take, displaced.rest]

theorem Displaced.advance {distance : Nat} {whole part : Scanner}
    (displaced : Displaced distance whole part) :
    whole.advance.1 = part.advance.1.shift distance ∧
      Displaced distance whole.advance.2 part.advance.2 := by
  cases shape : part.rest with
  | nil =>
    have ended : whole.rest = [] := displaced.rest.trans shape
    rw [advance_at_end _ ended, advance_at_end _ shape]
    refine ⟨?_, displaced.stop, displaced.cursor, displaced.previous, displaced.rest,
      displaced.state⟩
    simp only [eof, Symbol.shift, Point.shift, displaced.stop, displaced.cursor]
  | cons head tail =>
    have wholeShape : whole.rest = head :: tail := displaced.rest.trans shape
    have view : whole.viewOf head tail = part.viewOf head tail := by
      rw [viewOf, viewOf, displaced.previous, displaced.cursor]
      rfl
    rw [advance_of_rest wholeShape, advance_of_rest shape, view, displaced.state]
    exact displaced.take _

theorem isSimulation_displaced (distance : Nat) :
    IsSimulation (Displaced distance) id (Symbol.shift distance) where
  rest := Displaced.rest
  symbol displaced := displaced.advance.1
  advance displaced := displaced.advance.2

theorem displaced_ofRange {source part : Text} {start stop : Nat}
    (found : Text.slice? source start stop = some part) (mode : Mode) :
    Displaced start (ofRange source start stop mode) (ofRange part 0 (stop - start) mode) := by
  obtain ⟨before, after, -, -, size⟩ := Text.slice?_eq_some_iff.mp found
  have itself : Text.slice? part 0 (stop - start) = some part :=
    Text.slice?_eq_some_iff.mpr ⟨[], [], by simp, rfl, by omega⟩
  have held := consumed_ofRange mode found
  have partHeld := consumed_ofRange mode itself
  have rest : (ofRange source start stop mode).rest = part :=
    Option.some.inj (held.range.symm.trans found)
  have partRest : (ofRange part 0 (stop - start) mode).rest = part :=
    Option.some.inj (partHeld.range.symm.trans itself)
  refine ⟨?_, ?_, held.previous.trans partHeld.previous.symm, rest.trans partRest.symm, rfl⟩
  · show stop = stop - start + start
    omega
  · rw [held.cursor, partHeld.cursor]
    show Point.startOf start = (Point.startOf 0).shift start
    rw [Point.shift, Point.startOf, Point.startOf, Nat.zero_add]

end Scanner

theorem tokenizeRange_of_slice? {source part : Text} {start stop : Nat}
    (found : Text.slice? source start stop = some part) (mode : Mode) :
    tokenizeRange source start stop mode =
      .ok (Scanner.ofRange source start stop mode).drain.1 := by
  obtain ⟨before, after, -, -, size⟩ := Text.slice?_eq_some_iff.mp found
  have accepted : Scanner.bind source start stop mode =
      .ok (Scanner.ofRange source start stop mode) :=
    Scanner.bind_eq_ok_iff.mpr ⟨⟨Nat.le.intro size, Text.isBoundary_of_slice? found⟩, rfl⟩
  rw [tokenizeRange, accepted]
  rfl

theorem Window.yields_of_slice? {source part : Text} {start stop : Nat}
    (found : Text.slice? source start stop = some part) (mode : Mode) :
    Yields Window.advance (Window.ofRange source start stop mode)
      (Scanner.ofRange source start stop mode).drain.1
      (Scanner.ofRange source start stop mode).drain.2.eof := by
  have same := (Window.follows_ofRange mode found).nth_eq
  have yields := (Scanner.ofRange source start stop mode).yields_drain
  exact
    { token := fun n inside => (yields.token n inside).trans (congrArg some (same n).symm)
      proper := yields.proper
      ended := fun n outside => (same n).trans (yields.ended n outside)
      isEof := yields.isEof }

/-- Scanning a range is scanning the slice that it cuts out, with the start of the range added to
all offsets. Any other range that cuts out the same text gives the same tokens, and so it does when
every read goes to the whole source by byte offsets: nothing around the range has a say. -/
theorem tokenizeRange_local {source : Text} {start stop : Nat} (mode : Mode)
    (ordered : start ≤ stop) (startBoundary : source.isBoundary start = true)
    (stopBoundary : source.isBoundary stop = true) :
    ∃ part symbols, Text.slice? source start stop = some part ∧
      tokenizeRange part 0 (stop - start) mode = .ok symbols ∧
      tokenizeRange source start stop mode = .ok (symbols.map (Symbol.shift start)) ∧
      (∀ n, nth Scanner.advance (Scanner.ofRange source start stop mode) n =
        (nth Scanner.advance (Scanner.ofRange part 0 (stop - start) mode) n).shift start) ∧
      ∀ other otherStart otherStop, Text.slice? other otherStart otherStop = some part →
        tokenizeRange other otherStart otherStop mode =
          .ok (symbols.map (Symbol.shift otherStart)) ∧
        (∃ eof, Yields Window.advance (Window.ofRange other otherStart otherStop mode)
          (symbols.map (Symbol.shift otherStart)) eof) ∧
        ∀ n, nth Window.advance (Window.ofRange other otherStart otherStop mode) n =
          (nth Window.advance (Window.ofRange part 0 (stop - start) mode) n).shift otherStart := by
  obtain ⟨part, found⟩ := Text.slice?_of_isBoundary ordered startBoundary stopBoundary
  have sizes {other : Text} {otherStart otherStop : Nat}
      (cut : Text.slice? other otherStart otherStop = some part) :
      otherStop - otherStart = part.byteSize := by
    obtain ⟨before, after, -, -, size⟩ := Text.slice?_eq_some_iff.mp cut
    omega
  have drained {other : Text} {otherStart otherStop : Nat}
      (cut : Text.slice? other otherStart otherStop = some part) :
      (Scanner.ofRange other otherStart otherStop mode).drain.1 =
        (Scanner.ofRange part 0 part.byteSize mode).drain.1.map (Symbol.shift otherStart) := by
    have moved := (Scanner.isSimulation_displaced otherStart).drain
      (Scanner.displaced_ofRange cut mode)
    rw [List.map_id, sizes cut] at moved
    exact moved
  have itself : Text.slice? part 0 part.byteSize = some part :=
    Text.slice?_eq_some_iff.mpr ⟨[], [], by simp, rfl, Nat.zero_add _⟩
  refine ⟨part, (Scanner.ofRange part 0 part.byteSize mode).drain.1, found, ?_, ?_, ?_, ?_⟩
  · rw [sizes found]
    exact tokenizeRange_of_slice? itself mode
  · rw [tokenizeRange_of_slice? found, drained found]
  · intro n
    exact (Scanner.isSimulation_displaced start).nth (Scanner.displaced_ofRange found mode) n
  · intro other otherStart otherStop cut
    refine ⟨?_, ⟨_, drained cut ▸ Window.yields_of_slice? cut mode⟩, fun n => ?_⟩
    · rw [tokenizeRange_of_slice? cut, drained cut]
    · rw [sizes found, (Window.follows_ofRange mode cut).nth_eq,
        (Window.follows_ofRange mode itself).nth_eq, ← sizes cut]
      exact (Scanner.isSimulation_displaced otherStart).nth (Scanner.displaced_ofRange cut mode) n

/-- A range that ends between two closing braces: the second one is not seen, wherever one looks
it up. -/
theorem tokenizeRange_local_between_braces :
    Text.isBoundary "é\x7b\x7b$a\x7d\x7d".toList 2 = true ∧
      Text.isBoundary "é\x7b\x7b$a\x7d\x7d".toList 7 = true ∧
      ∃ symbols eof, tokenizeRange "\x7b\x7b$a\x7d".toList 0 5 .templateText = .ok symbols ∧
        tokenizeRange "é\x7b\x7b$a\x7d\x7d".toList 2 7 .templateText =
          .ok (symbols.map (Symbol.shift 2)) ∧
        Yields Window.advance (Window.ofRange "é\x7b\x7b$a\x7d\x7d".toList 2 7 .templateText)
          (symbols.map (Symbol.shift 2)) eof := by
  have start : Text.isBoundary "é\x7b\x7b$a\x7d\x7d".toList 2 = true := by decide
  have stop : Text.isBoundary "é\x7b\x7b$a\x7d\x7d".toList 7 = true := by decide
  obtain ⟨part, symbols, cut, scanned, shifted, -, others⟩ :=
    tokenizeRange_local .templateText (by decide : 2 ≤ 7) start stop
  obtain ⟨-, ⟨eof, yields⟩, -⟩ := others _ 2 7 cut
  have same : part = "\x7b\x7b$a\x7d".toList := Option.some.inj (cut.symm.trans (by decide))
  rw [same] at scanned
  exact ⟨start, stop, symbols, eof, scanned, shifted, yields⟩

end Scan

end ClosureTemplate
