import ClosureTemplate.Proofs.Word.Session

namespace ClosureTemplate.Word

open Scan (Scanner Mode Position Reader Request Session)

namespace Lexer

structure Shows (lexer : Lexer) (symbol : Symbol) : Prop where
  kind : lexer.tokenKind = some symbol.kind
  text : lexer.tokenText = symbol.text
  start : lexer.tokenStart = symbol.start
  stop : lexer.tokenStop = symbol.stop

structure ShowsNothing (lexer : Lexer) : Prop where
  kind : lexer.tokenKind = none
  text : lexer.tokenText = []
  place : lexer.tokenStart = lexer.tokenStop

/-- The text that is shown stands between the offsets that are shown, and all of them belong to the
current word, or without one to the token of the scanner or to nothing. -/
structure Agrees (lexer : Lexer) : Prop where
  slice : lexer.scanner.source.slice? lexer.tokenStart lexer.tokenStop = some lexer.tokenText
  symbol : (∃ word, lexer.current = some word ∧ lexer.Shows word) ∨
    lexer.current = none ∧
      ((∃ token, lexer.scanner.token = some token ∧ lexer.Shows token) ∨ lexer.ShowsNothing)

variable {lexer : Lexer} {source : Text} {first last : Nat}

theorem shows_current {word : Symbol} (shown : lexer.current = some word) : lexer.Shows word := by
  constructor
  · rw [tokenKind, shown]; rfl
  · rw [tokenText, shown]; rfl
  · rw [tokenStart, shown]; rfl
  · rw [tokenStop, shown]; rfl

theorem accessors_of_none (none : lexer.current = none) :
    lexer.tokenKind = .none ∧ lexer.tokenText = [] ∧
      lexer.tokenStart = lexer.scanner.tokenStart ∧ lexer.tokenStop = lexer.scanner.tokenStop := by
  refine ⟨?_, ?_, ?_, ?_⟩
  · rw [tokenKind, none]; rfl
  · rw [tokenText, none]; rfl
  · rw [tokenStart, none]; rfl
  · rw [tokenStop, none]; rfl

/-- The scanner has a token, and the lexer has no word of it to show. -/
structure Hides (lexer : Lexer) (token : Symbol) : Prop where
  wordless : lexer.current = none
  token : lexer.scanner.token = some token

theorem Hides.accessors {token : Symbol} (hides : lexer.Hides token) :
    lexer.tokenKind = none ∧ lexer.tokenText = [] ∧ lexer.tokenStart = token.start ∧
      lexer.tokenStop = token.stop := by
  obtain ⟨kind, text, start, stop⟩ := accessors_of_none hides.wordless
  refine ⟨kind, text, ?_, ?_⟩
  · rw [start, Scanner.tokenStart, hides.token]; rfl
  · rw [stop, Scanner.tokenStop, hides.token]; rfl

theorem agrees_of_word (stands : lexer.scanner.Stands source first last)
    (cut : lexer.IsCut source) {word : Symbol} (shown : lexer.current = some word) :
    lexer.Agrees := by
  have all := shows_current shown
  refine ⟨?_, .inl ⟨word, shown, all⟩⟩
  rw [all.start, all.stop, all.text, stands.onRange.source]
  exact cut.current word shown

theorem agrees_of_nothing (stands : lexer.scanner.Stands source first last)
    (wordless : lexer.current = none) (tokenless : lexer.scanner.token = none) : lexer.Agrees := by
  obtain ⟨kind, text, start, stop⟩ := accessors_of_none wordless
  rw [Scanner.tokenStart, tokenless] at start
  rw [Scanner.tokenStop, tokenless] at stop
  obtain ⟨consumed, held⟩ := stands.onRange.consumed
  refine ⟨?_, .inr ⟨wordless, .inr ⟨kind, text, start.trans stop.symm⟩⟩⟩
  rw [start, stop, text]
  exact Text.slice?_self (Text.isBoundary_of_slice? held.range).1

theorem agrees_iff_of_hides (stands : lexer.scanner.Stands source first last) {token : Symbol}
    (hides : lexer.Hides token) : lexer.Agrees ↔ token.text = [] := by
  obtain ⟨kind, text, start, stop⟩ := hides.accessors
  have slice := stands.token token hides.token
  constructor
  · intro agrees
    have shown := agrees.slice
    rw [start, stop, text, stands.onRange.source, slice] at shown
    exact Option.some.inj shown
  · intro empty
    rw [empty] at slice
    refine ⟨?_, .inr ⟨hides.wordless, .inr ⟨kind, text, ?_⟩⟩⟩
    · rw [start, stop, text, stands.onRange.source]
      exact slice
    · obtain ⟨before, after, -, -, size⟩ := Text.slice?_eq_some_iff.mp slice
      rw [Text.byteSize_nil, Nat.add_zero] at size
      rw [start, stop]
      exact size

theorem agrees_iff (stands : lexer.scanner.Stands source first last) (cut : lexer.IsCut source) :
    lexer.Agrees ↔ ∀ token, lexer.Hides token → token.text = [] := by
  cases shown : lexer.current with
  | some word =>
    refine iff_of_true (agrees_of_word stands cut shown) ?_
    intro token hides
    rw [hides.wordless] at shown
    cases shown
  | none =>
    cases read : lexer.scanner.token with
    | none =>
      refine iff_of_true (agrees_of_nothing stands shown read) ?_
      intro token hides
      rw [hides.token] at read
      cases read
    | some token =>
      rw [agrees_iff_of_hides stands ⟨shown, read⟩]
      constructor
      · intro empty other hides
        rw [hides.token] at read
        cases read
        exact empty
      · intro empty
        exact empty token ⟨shown, read⟩

theorem current_advance (lexer : Lexer) : lexer.advance.2.current = some lexer.advance.1 := by
  unfold advance
  split
  · rfl
  · unfold refill
    dsimp only
    split <;> rfl

end Lexer

/-- The accessors of a lexer agree in every state of every session, but for those in which the
scanner has a token that is not empty and the lexer has no word. In these the offsets are those of
the token while kind and text are missing. No call to advance leads there, and a restore does
exactly if its position was taken behind such a token. -/
theorem accessors_agree_but_behind_restore (requests : List Request) :
    let session := Session.run Lexer.reader { machine := {} } requests
    (session.machine.Agrees ↔ ∀ token, session.machine.Hides token → token.text = []) ∧
      (∀ token, session.machine.Hides token →
        session.machine.tokenKind = none ∧ session.machine.tokenText = [] ∧
          session.machine.tokenStart = token.start ∧ session.machine.tokenStop = token.stop ∧
          session.machine.scanner.source.slice? token.start token.stop = some token.text) ∧
      (session.serve Lexer.reader .advance).machine.Agrees ∧
      ∀ slot position, session.saved[slot]? = some position →
        ((session.serve Lexer.reader (.restore slot)).machine.Agrees ↔
          ∀ token, position.token = some token → token.text = []) := by
  intro session
  obtain ⟨source, first, last, sound, cut⟩ := keepsCut_run requests
  have agrees_iff (request : Request) : (session.serve Lexer.reader request).machine.Agrees ↔
      ∀ token, (session.serve Lexer.reader request).machine.Hides token → token.text = [] := by
    obtain ⟨_, _, _, after, still⟩ :=
      keepsCut_serve ⟨source, first, last, sound, cut⟩ request
    exact Lexer.agrees_iff after.machine still
  refine ⟨Lexer.agrees_iff sound.machine cut, ?_, ?_, ?_⟩
  · intro token hides
    obtain ⟨kind, text, start, stop⟩ := hides.accessors
    refine ⟨kind, text, start, stop, ?_⟩
    rw [show session.machine.scanner.source = source from sound.machine.onRange.source]
    exact sound.machine.token token hides.token
  · rw [agrees_iff]
    intro token hides
    have shown : (session.serve Lexer.reader .advance).machine.current = some _ :=
      session.machine.current_advance
    rw [hides.wordless] at shown
    cases shown
  · intro slot position known
    have restored : (session.serve Lexer.reader (.restore slot)).machine =
        session.machine.restore position := by
      rw [Session.serve, known]
      rfl
    rw [agrees_iff, restored]
    constructor
    · intro empty token found
      exact empty token ⟨rfl, found⟩
    · intro empty token hides
      exact empty token hides.token

/-- Behind the brace of a tag a position is taken and restored: the offsets are still those of the
brace. -/
theorem accessors_disagree_behind_restore :
    let lexer := (Session.run Lexer.reader { machine := {} }
      [.reset "\x7ba\x7d".toList 0 3 .templateText, .advance, .save, .restore 0]).machine
    ¬lexer.Agrees ∧ lexer.tokenKind = none ∧ lexer.tokenText = [] ∧
      lexer.tokenStart = 0 ∧ lexer.tokenStop = 1 ∧
      lexer.scanner.source.slice? 0 1 = some "\x7b".toList := by
  intro lexer
  have slice : lexer.scanner.source.slice? lexer.tokenStart lexer.tokenStop ≠
      some lexer.tokenText := by
    decide +kernel
  exact ⟨fun agrees => slice agrees.slice, by decide +kernel, by decide +kernel,
    by decide +kernel, by decide +kernel, by decide +kernel⟩

end ClosureTemplate.Word
