import ClosureTemplate.Proofs.Scan.Transition
import ClosureTemplate.Scan.Scanner

/-!
Runs of a machine that gives out one token per call, and what a scanner keeps true along them: the
text it has consumed and the text it has left make up the range (`Consumed`), and the tokens of a
drained scanner are what its calls return one by one (`yields_drain`).
-/

namespace ClosureTemplate

section Machine

variable {μ : Type} (advance : μ → Symbol × μ)

def behind (machine : μ) : Nat → μ
  | 0 => machine
  | n + 1 => (advance (behind machine n)).2

def nth (machine : μ) (n : Nat) : Symbol := (advance (behind advance machine n)).1

/-- Calling a machine again and again gives the symbols in order, none of them the end token, and
from then on the one end token. -/
structure Yields (machine : μ) (symbols : List Symbol) (eof : Symbol) : Prop where
  token : ∀ n, n < symbols.length → symbols[n]? = some (nth advance machine n)
  proper : ∀ symbol ∈ symbols, symbol.kind ≠ .eof
  ended : ∀ n, symbols.length ≤ n → nth advance machine n = eof
  isEof : eof.kind = .eof

variable {advance}

theorem behind_advance (machine : μ) (n : Nat) :
    behind advance (advance machine).2 n = behind advance machine (n + 1) := by
  induction n with
  | zero => rfl
  | succ n ih => rw [behind, ih]; rfl

theorem nth_advance (machine : μ) (n : Nat) :
    nth advance (advance machine).2 n = nth advance machine (n + 1) := by
  rw [nth, behind_advance, nth]

theorem behind_add (machine : μ) (n k : Nat) :
    behind advance (behind advance machine n) k = behind advance machine (n + k) := by
  induction k with
  | zero => rfl
  | succ k ih => rw [behind, ih, ← Nat.add_assoc, behind]

theorem nth_add (machine : μ) (n k : Nat) :
    nth advance (behind advance machine n) k = nth advance machine (n + k) := by
  rw [nth, behind_add, nth]

theorem nth_of_advance {machine other : μ} (same : advance machine = advance other) (n : Nat) :
    nth advance machine n = nth advance other n := by
  cases n with
  | zero => rw [nth, nth, behind, behind, same]
  | succ n => rw [nth, nth, ← behind_advance, ← behind_advance, same]

theorem behind_induction (fact : μ → Prop) {machine : μ} (holds : fact machine)
    (keeps : ∀ current, fact current → fact (advance current).2) (n : Nat) :
    fact (behind advance machine n) := by
  induction n with
  | zero => exact holds
  | succ n ih => exact keeps _ ih

theorem Yields.cons {machine : μ} {symbols : List Symbol} {eof : Symbol}
    (proper : (advance machine).1.kind ≠ .eof)
    (yields : Yields advance (advance machine).2 symbols eof) :
    Yields advance machine ((advance machine).1 :: symbols) eof where
  token n inside := by
    cases n with
    | zero => rfl
    | succ n =>
      rw [List.getElem?_cons_succ, yields.token n (Nat.lt_of_succ_lt_succ inside), nth,
        behind_advance, nth]
  proper symbol member := by
    rcases List.mem_cons.mp member with rfl | later
    · exact proper
    · exact yields.proper symbol later
  ended n outside := by
    cases n with
    | zero => exact absurd outside (Nat.not_succ_le_zero _)
    | succ n =>
      rw [← yields.ended n (Nat.le_of_succ_le_succ outside), nth, nth, behind_advance]
  isEof := yields.isEof

end Machine

namespace Scan.Scanner

/-- The range is the consumed text and the rest; the cursor stands between the two. -/
structure Consumed (scanner : Scanner) (consumed : Text) : Prop where
  range : Text.slice? scanner.source scanner.start scanner.stop = some (consumed ++ scanner.rest)
  cursor : scanner.cursor = (Point.startOf scanner.start).advance consumed
  previous : scanner.previous = consumed.getLast?

theorem bind_eq_ok_iff {source : Text} {start stop : Nat} {mode : Mode} {scanner : Scanner} :
    Scanner.bind source start stop mode = .ok scanner ↔
      (start ≤ stop ∧ source.isBoundary start = true ∧ source.isBoundary stop = true) ∧
        scanner = ofRange source start stop mode := by
  unfold Scanner.bind
  split
  · next valid =>
    simp only [Bool.and_eq_true, decide_eq_true_eq, and_assoc] at valid
    rw [Except.ok.injEq]
    exact ⟨fun same => ⟨valid, same.symm⟩, fun found => found.2.symm⟩
  · next invalid =>
    simp only [Bool.and_eq_true, decide_eq_true_eq, and_assoc] at invalid
    constructor
    · intro failed
      cases failed
    · intro found
      exact absurd found.1 invalid

theorem exists_bind {source : Text} {start stop : Nat} (mode : Mode) (ordered : start ≤ stop)
    (startBoundary : source.isBoundary start = true)
    (stopBoundary : source.isBoundary stop = true) :
    ∃ scanner, Scanner.bind source start stop mode = .ok scanner :=
  ⟨_, bind_eq_ok_iff.mpr ⟨⟨ordered, startBoundary, stopBoundary⟩, rfl⟩⟩

theorem consumed_ofRange {source part : Text} {start stop : Nat} (mode : Mode)
    (found : Text.slice? source start stop = some part) :
    (ofRange source start stop mode).Consumed [] := by
  obtain ⟨before, after, rfl, startSize, stopSize⟩ := Text.slice?_eq_some_iff.mp found
  have nothing : Text.slice? (before ++ part ++ after) start start = some [] :=
    Text.slice?_eq_some_iff.mpr ⟨before, part ++ after, by simp, startSize, rfl⟩
  constructor
  · rw [List.nil_append]
    simp only [ofRange, moveTo, Point.startOf]
    rw [found]
    rfl
  · rfl
  · simp only [ofRange, moveTo, Point.startOf]
    rw [nothing]
    rfl

theorem consumed_take {scanner : Scanner} {consumed : Text} (emission : Emission)
    (held : scanner.Consumed consumed) :
    (scanner.take emission).2.Consumed (consumed ++ (scanner.take emission).1.text) := by
  constructor
  · rw [List.append_assoc]
    simp only [take, List.take_append_drop]
    exact held.range
  · rw [Point.advance_append]
    simp only [take]
    rw [held.cursor]
  · rw [List.getLast?_append, ← held.previous]
    rfl

theorem consumed_advance {scanner : Scanner} {consumed : Text} (held : scanner.Consumed consumed) :
    scanner.advance.2.Consumed (consumed ++ scanner.advance.1.text) := by
  unfold advance
  split
  · rw [show scanner.eof.text = [] from rfl, List.append_nil]
    exact ⟨held.range, held.cursor, held.previous⟩
  · exact consumed_take _ held

theorem Consumed.offset {scanner : Scanner} {consumed : Text} (held : scanner.Consumed consumed) :
    scanner.cursor.offset = scanner.start + consumed.byteSize := by
  rw [held.cursor, Point.advance_offset]
  rfl

theorem Consumed.stop {scanner : Scanner} {consumed : Text} (held : scanner.Consumed consumed) :
    scanner.cursor.offset + scanner.rest.byteSize = scanner.stop := by
  obtain ⟨before, after, -, -, stopSize⟩ := Text.slice?_eq_some_iff.mp held.range
  rw [Text.byteSize_append] at stopSize
  rw [held.offset]
  omega

def viewOf (scanner : Scanner) (head : Char) (tail : Text) : View :=
  ⟨scanner.previous, scanner.cursor.line, head, tail⟩

theorem advance_of_rest {scanner : Scanner} {head : Char} {tail : Text}
    (shape : scanner.rest = head :: tail) :
    scanner.advance = scanner.take (scanner.state.emission (scanner.viewOf head tail)) := by
  unfold advance
  rw [shape]
  rfl

theorem advance_kind {scanner : Scanner} :
    scanner.advance.1.kind = .eof ↔ scanner.rest = [] := by
  cases shape : scanner.rest with
  | nil => rw [scanner.advance_at_end shape]; exact ⟨fun _ => rfl, fun _ => rfl⟩
  | cons head tail =>
    rw [advance_of_rest shape]
    constructor
    · intro ended
      exact absurd ended (scanner.state.emission_kind_ne_eof _)
    · intro empty
      cases empty

theorem advance_text_length {scanner : Scanner} {head : Char} {tail : Text}
    (shape : scanner.rest = head :: tail) :
    scanner.advance.1.text.length =
      (scanner.state.emission (scanner.viewOf head tail)).width := by
  have fits := scanner.state.emission_le (scanner.viewOf head tail)
  rw [advance_of_rest shape]
  simp only [take, List.length_take, shape]
  exact Nat.min_eq_left fits

theorem advance_text_ne_nil {scanner : Scanner} (more : scanner.rest ≠ []) :
    scanner.advance.1.text ≠ [] := by
  obtain ⟨head, tail, shape⟩ := List.exists_cons_of_ne_nil more
  have positive := scanner.state.emission_pos (scanner.viewOf head tail)
  rw [← advance_text_length shape] at positive
  exact List.length_pos_iff.mp positive

theorem text_append_rest_advance (scanner : Scanner) :
    scanner.advance.1.text ++ scanner.advance.2.rest = scanner.rest := by
  unfold advance
  split
  · next empty => rw [empty]; rfl
  · exact List.take_append_drop _ _

@[simp]
theorem advance_start (scanner : Scanner) : scanner.advance.2.start = scanner.start := by
  unfold advance
  split <;> rfl

@[simp]
theorem advance_stop (scanner : Scanner) : scanner.advance.2.stop = scanner.stop := by
  unfold advance
  split <;> rfl

@[simp]
theorem advance_source (scanner : Scanner) : scanner.advance.2.source = scanner.source := by
  unfold advance
  split <;> rfl

theorem behind_at_end {scanner : Scanner} (ended : scanner.rest = []) (n : Nat) :
    ∃ token, behind advance scanner n = { scanner with token } := by
  induction n with
  | zero => exact ⟨scanner.token, rfl⟩
  | succ n ih =>
    obtain ⟨token, same⟩ := ih
    refine ⟨some scanner.eof, ?_⟩
    rw [behind, same, advance_at_end { scanner with token } ended]
    rfl

theorem yields_at_end {scanner : Scanner} (ended : scanner.rest = []) :
    Yields advance scanner [] scanner.eof where
  token n inside := absurd inside (Nat.not_lt_zero n)
  proper symbol member := absurd member List.not_mem_nil
  ended n _ := by
    obtain ⟨token, same⟩ := behind_at_end ended n
    rw [nth, same, advance_at_end { scanner with token } ended]
    rfl
  isEof := rfl

theorem drain_at_end {scanner : Scanner} (ended : scanner.rest = []) :
    scanner.drain = ([], scanner) := by
  rw [drain, dif_pos ended]

theorem drain_of_rest {scanner : Scanner} (more : scanner.rest ≠ []) :
    scanner.drain = (scanner.advance.1 :: scanner.advance.2.drain.1,
      scanner.advance.2.drain.2) := by
  rw [drain, dif_neg more]

theorem drain_induction {fact : Scanner → Prop}
    (ended : ∀ scanner, scanner.rest = [] → fact scanner)
    (more : ∀ scanner, scanner.rest ≠ [] → fact scanner.advance.2 → fact scanner)
    (scanner : Scanner) : fact scanner := by
  induction scanner using drain.induct with
  | case1 scanner empty => exact ended scanner empty
  | case2 scanner nonempty _ ih => exact more scanner nonempty ih

theorem yields_drain (scanner : Scanner) :
    Yields advance scanner scanner.drain.1 scanner.drain.2.eof := by
  induction scanner using drain_induction with
  | ended scanner empty =>
    rw [drain_at_end empty]
    exact yields_at_end empty
  | more scanner nonempty ih =>
    rw [drain_of_rest nonempty]
    exact ih.cons (fun ended => nonempty (advance_kind.mp ended))

theorem behind_drain (scanner : Scanner) :
    behind advance scanner scanner.drain.1.length = scanner.drain.2 := by
  induction scanner using drain_induction with
  | ended scanner empty =>
    rw [drain_at_end empty]
    rfl
  | more scanner nonempty ih =>
    rw [drain_of_rest nonempty, List.length_cons, ← behind_advance]
    exact ih

theorem drain_rest (scanner : Scanner) : scanner.drain.2.rest = [] := by
  induction scanner using drain_induction with
  | ended scanner empty =>
    rw [drain_at_end empty]
    exact empty
  | more scanner nonempty ih =>
    rw [drain_of_rest nonempty]
    exact ih

theorem drain_behind (scanner : Scanner) (n : Nat) :
    (behind advance scanner n).drain.1 = scanner.drain.1.drop n := by
  induction n with
  | zero => rfl
  | succ n ih =>
    rw [behind, ← List.drop_drop, ← ih]
    by_cases ended : (behind advance scanner n).rest = []
    · have still : (behind advance scanner n).advance.2.rest = [] := by
        rw [advance_at_end _ ended]
        exact ended
      rw [drain_at_end still, drain_at_end ended]
      rfl
    · rw [drain_of_rest ended]
      rfl

theorem behind_rest_ne_nil {scanner : Scanner} {n : Nat} (inside : n < scanner.drain.1.length) :
    (behind advance scanner n).rest ≠ [] := by
  have yields := scanner.yields_drain
  have given := yields.token n inside
  intro empty
  exact yields.proper _ (List.mem_of_getElem? given) (advance_kind.mpr empty)

/-- Related scanners have the same text left and give symbols that look the same from both sides,
and calls keep them related. -/
structure IsSimulation (related : Scanner → Scanner → Prop) (left right : Symbol → Symbol) :
    Prop where
  rest : ∀ {one other}, related one other → one.rest = other.rest
  symbol : ∀ {one other}, related one other → left one.advance.1 = right other.advance.1
  advance : ∀ {one other}, related one other → related one.advance.2 other.advance.2

section Simulation

variable {related : Scanner → Scanner → Prop} {left right : Symbol → Symbol} {one other : Scanner}

theorem IsSimulation.behind (simulation : IsSimulation related left right)
    (start : related one other) (n : Nat) :
    related (behind Scanner.advance one n) (behind Scanner.advance other n) := by
  induction n with
  | zero => exact start
  | succ n ih => exact simulation.advance ih

theorem IsSimulation.nth (simulation : IsSimulation related left right)
    (start : related one other) (n : Nat) :
    left (nth Scanner.advance one n) = right (nth Scanner.advance other n) :=
  simulation.symbol (simulation.behind start n)

theorem IsSimulation.drain (simulation : IsSimulation related left right)
    (start : related one other) : one.drain.1.map left = other.drain.1.map right := by
  induction one using drain_induction generalizing other with
  | ended one empty =>
    have ended : other.rest = [] := simulation.rest start ▸ empty
    rw [drain_at_end empty, drain_at_end ended]
    rfl
  | more one nonempty ih =>
    have more : other.rest ≠ [] := simulation.rest start ▸ nonempty
    rw [drain_of_rest nonempty, drain_of_rest more, List.map_cons, List.map_cons,
      simulation.symbol start, ih (simulation.advance start)]

end Simulation

structure OnRange (source : Text) (start stop : Nat) (scanner : Scanner) : Prop where
  source : scanner.source = source
  start : scanner.start = start
  stop : scanner.stop = stop
  consumed : ∃ consumed, scanner.Consumed consumed

theorem consumed_of_bind {source : Text} {start stop : Nat} {mode : Mode} {scanner : Scanner}
    (accepted : Scanner.bind source start stop mode = .ok scanner) : scanner.Consumed [] := by
  obtain ⟨⟨ordered, first, last⟩, rfl⟩ := bind_eq_ok_iff.mp accepted
  obtain ⟨part, found⟩ := Text.slice?_of_isBoundary ordered first last
  exact consumed_ofRange mode found

theorem onRange_of_bind {source : Text} {start stop : Nat} {mode : Mode} {scanner : Scanner}
    (accepted : Scanner.bind source start stop mode = .ok scanner) :
    scanner.OnRange source start stop := by
  have fresh := consumed_of_bind accepted
  obtain ⟨-, rfl⟩ := bind_eq_ok_iff.mp accepted
  exact ⟨rfl, rfl, rfl, [], fresh⟩

theorem OnRange.advance {source : Text} {start stop : Nat} {scanner : Scanner}
    (onRange : scanner.OnRange source start stop) :
    scanner.advance.2.OnRange source start stop := by
  obtain ⟨rfl, rfl, rfl, consumed, held⟩ := onRange
  exact ⟨by simp, by simp, by simp, _, consumed_advance held⟩

theorem OnRange.behind {source : Text} {start stop : Nat} {scanner : Scanner}
    (onRange : scanner.OnRange source start stop) (n : Nat) :
    (behind Scanner.advance scanner n).OnRange source start stop :=
  behind_induction (OnRange source start stop) onRange (fun _ held => held.advance) n

end Scan.Scanner

end ClosureTemplate
