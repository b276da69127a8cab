import ClosureTemplate.Proofs.Scan.Coherence

/-!
Template text is where scans meet: two scans of one range that are both in template text at the
same offset go on alike. The outline of a state holds all that tokens depend on, doc payloads
apart, and taking outlines commutes with a step (`emission_outline`).
-/

namespace ClosureTemplate

def Value.isPlain : Value → Bool
  | .doc _ => false
  | _ => true

def Symbol.withoutDoc (symbol : Symbol) : Symbol :=
  { symbol with value := symbol.value.filter Value.isPlain }

namespace Scan

namespace State

/-- What the tokens to come depend on: all but the names and the doc comment, of which only the
text that is not read yet decides what a word of the comment is. -/
def outline (state : State) : State :=
  { state with
    namespaceName := none
    templateName := none
    tagLine := 0
    doc := { pending := state.doc.pending }
    docActive := false }

@[simp]
theorem outline_mode (state : State) : state.outline.mode = state.mode := rfl

@[simp]
theorem outline_tag (state : State) : state.outline.tag = state.tag := rfl

@[simp]
theorem outline_quote (state : State) : state.outline.quote = state.quote := rfl

theorem outline_enter (state : State) (mode : Mode) :
    state.outline.enter mode = (state.enter mode).outline := rfl

end State

def Emission.outline (emission : Emission) : Emission :=
  { emission with
    state := emission.state.outline
    value := emission.value.filter Value.isPlain }

def Move.outline : Move → Move
  | .emit emission => .emit emission.outline
  | .shift mode => .shift mode

namespace State

variable (state : State) (view : View)

theorem closeTag_outline (kind : Kind) (width : Nat) :
    (state.outline.closeTag kind width).outline = (state.closeTag kind width).outline := by
  unfold closeTag
  rw [outline_tag]
  by_cases opensLiteral : (decide (state.tag.command = some .literalWord) &&
      !state.tag.isClosing && decide (kind = .tagClose)) = true
  · simp only [opensLiteral, if_true]
    rfl
  · simp only [opensLiteral]
    rfl

theorem closeBrace_outline (isSelfClosing : Bool) :
    (state.outline.closeBrace view isSelfClosing).outline =
      (state.closeBrace view isSelfClosing).outline := by
  unfold closeBrace
  rw [outline_tag]
  dsimp only
  by_cases doubled : state.tag.isDoubled = true
  · rw [if_pos doubled, if_pos doubled]
    by_cases another : (view.rest.drop (if isSelfClosing then 2 else 1)).head? = some '}'
    · rw [if_pos another, if_pos another]
      exact closeTag_outline _ _ _
    · rw [if_neg another, if_neg another]
      rfl
  · rw [if_neg doubled, if_neg doubled]
    exact closeTag_outline _ _ _

theorem blockComment_outline :
    (state.outline.blockComment view).outline = (state.blockComment view).outline := by
  unfold blockComment
  split <;> rfl

theorem openDoc_outline : (state.outline.openDoc view).outline = (state.openDoc view).outline := by
  unfold openDoc
  split
  · rfl
  split <;> rfl

theorem scanTemplateText_outline :
    (state.outline.scanTemplateText view).outline = (state.scanTemplateText view).outline := by
  unfold scanTemplateText
  cases textLexeme view.head view.tail with
  | mk lexeme width =>
    cases lexeme with
    | comment => exact blockComment_outline state view
    | doc => exact openDoc_outline state view
    | lineComment => dsimp only; split <;> rfl
    | _ => rfl

theorem openString_outline (terminator : Char) (inAttribute : Bool) :
    (state.outline.openString view terminator inAttribute).outline =
      (state.openString view terminator inAttribute).outline := by
  unfold openString
  split <;> rfl

theorem stringEscape_outline :
    (state.outline.stringEscape view).outline = (state.stringEscape view).outline := by
  unfold stringEscape
  split
  · split <;> rfl
  · split <;> rfl
  · rfl

theorem scanString_outline :
    (state.outline.scanString view).outline = (state.scanString view).outline := by
  unfold scanString
  cases stringLexeme? view.head view.tail with
  | none => rfl
  | some found =>
    obtain ⟨lexeme, width⟩ := found
    cases lexeme with
    | quote terminator => rw [outline_quote]; dsimp only; split <;> rfl
    | escape => exact stringEscape_outline state view
    | _ => rfl

theorem scanAttributes_outline :
    (state.outline.scanAttributes view).outline = (state.scanAttributes view).outline := by
  unfold scanAttributes
  cases attributeLexeme? view.head view.tail with
  | none => rfl
  | some found =>
    obtain ⟨lexeme, width⟩ := found
    cases lexeme with
    | colon => rw [outline_tag]; dsimp only; split <;> rfl
    | quote terminator => exact openString_outline state view terminator true
    | lbrace => rw [outline_tag]; dsimp only; split <;> rfl
    | rbrace => exact closeBrace_outline state view false
    | slashRbrace => exact closeBrace_outline state view true
    | _ => rfl

theorem expressionWord_outline (width : Nat) :
    (state.outline.expressionWord view width).outline =
      (state.expressionWord view width).outline := by
  unfold expressionWord
  dsimp only
  split <;> rfl

theorem integerLiteral_outline (radix : Nat) (digits : Text) (width : Nat) :
    (state.outline.integerLiteral radix digits width).outline =
      (state.integerLiteral radix digits width).outline := by
  unfold integerLiteral
  split <;> rfl

theorem referParameter_outline (name : Text) :
    (state.outline.referParameter name).outline = (state.referParameter name).outline := by
  have kept : state.outline.referParameter name = state.outline := rfl
  rw [kept, referParameter]
  split <;> rfl

theorem scanExpression_outline :
    (state.outline.scanExpression view).outline = (state.scanExpression view).outline := by
  unfold scanExpression
  cases tagLexeme? view.head view.tail with
  | none => rfl
  | some found =>
    obtain ⟨lexeme, width⟩ := found
    cases lexeme with
    | word => exact expressionWord_outline state view width
    | «variable» =>
      exact congrArg (fun after => Emission.mk .parameterRef width after none)
        (referParameter_outline state _)
    | decimal => exact integerLiteral_outline state 10 _ width
    | hex => exact integerLiteral_outline state 16 _ width
    | quote terminator => exact openString_outline state view terminator false
    | lbrace => rw [outline_tag]; dsimp only; split <;> rfl
    | rbrace => exact closeBrace_outline state view false
    | slashRbrace => exact closeBrace_outline state view true
    | _ => rfl

theorem scanDocComment_outline :
    (state.outline.scanDocComment view).outline = (state.scanDocComment view).outline := by
  have asked : state.outline.doc.anticipating.1 = state.doc.anticipating.1 := by
    rw [Doc.Buffer.anticipating_fst, Doc.Buffer.anticipating_fst]
    rfl
  have read (text : Text) : (state.outline.doc.anticipating.2.append text).pending =
      (state.doc.anticipating.2.append text).pending := by
    rw [Doc.Buffer.append_pending, Doc.Buffer.append_pending, Doc.Buffer.anticipating_pending,
      Doc.Buffer.anticipating_pending]
    rfl
  unfold scanDocComment
  cases docLexeme view.head view.tail with
  | mk lexeme width =>
    cases lexeme with
    | close =>
      simp only [Emission.outline, outline, Doc.Buffer.close_pending]
      rfl
    | word =>
      simp only [Emission.outline, outline] at asked read ⊢
      rw [asked, read]
    | _ => rfl

theorem scanLiteral_outline :
    (state.outline.scanLiteral view).outline = (state.scanLiteral view).outline := by
  unfold scanLiteral
  split <;> rfl

theorem scanDirective_outline :
    (state.outline.scanDirective view).outline = (state.scanDirective view).outline := by
  unfold scanDirective
  split <;> rfl

theorem declareTemplate_outline (name : Text) (line : Nat) :
    (state.outline.declareTemplate name line).outline =
      (state.declareTemplate name line).outline := by
  have kept : (state.outline.declareTemplate name line).outline = state.outline := rfl
  rw [kept, declareTemplate]
  dsimp only
  split <;> rfl

theorem nameOf_outline (lexeme : NameLexeme) (text : Text) (line : Nat) :
    (state.outline.nameOf lexeme text line).map (fun named => (named.1, named.2.outline)) =
      (state.nameOf lexeme text line).map (fun named => (named.1, named.2.outline)) := by
  unfold nameOf
  rw [outline_tag]
  split
  case h_4 =>
    exact congrArg (fun after => some (_, after)) (declareTemplate_outline state text line)
  case h_5 =>
    exact congrArg (fun after => some (_, after)) (declareTemplate_outline state text line)
  all_goals rfl

theorem scanName_outline :
    (state.outline.scanName view).outline = (state.scanName view).outline := by
  unfold scanName
  cases nameLexeme? view.head view.tail with
  | none => rfl
  | some found =>
    obtain ⟨lexeme, width⟩ := found
    have named := nameOf_outline state lexeme (view.rest.take width) view.line
    cases own : state.nameOf lexeme (view.rest.take width) view.line with
    | none =>
      have other : state.outline.nameOf lexeme (view.rest.take width) view.line = none := by
        simpa [own] using named
      cases lexeme with
      | blank => rfl
      | _ => simp only [own, other]
    | some entry =>
      obtain ⟨kind, after⟩ := entry
      rw [own, Option.map_some] at named
      obtain ⟨⟨kind', after'⟩, other, same⟩ := Option.map_eq_some_iff.mp named
      obtain ⟨rfl, alike⟩ := Prod.mk.inj same
      cases lexeme with
      | blank => rfl
      | _ =>
        simp only [own, other]
        exact congrArg (fun state => Move.emit ⟨kind', width, state.enter .attributes, none⟩) alike

/-- The keyword of a closing tag starts the doc comment afresh, which shows only in a buffer with
unread text. -/
theorem handOutDoc_outline (kind : Kind) (pending : state.doc.pending = []) :
    (state.outline.handOutDoc kind).2.outline = (state.handOutDoc kind).2.outline ∧
      (state.outline.handOutDoc kind).1.filter Value.isPlain =
        (state.handOutDoc kind).1.filter Value.isPlain := by
  unfold handOutDoc
  split
  · dsimp only
    -- an outline never holds an active comment, so only the state itself can start one afresh
    split
    · next active => cases active
    · split
      · refine ⟨?_, rfl⟩
        simp only [outline, Doc.Buffer.snapshot, Doc.Buffer.reset_pending, pending]
      · exact ⟨rfl, rfl⟩
  · exact ⟨rfl, rfl⟩

theorem commandWord_outline (kind : Kind) (width : Nat) (pending : state.doc.pending = []) :
    (state.outline.commandWord kind width).outline = (state.commandWord kind width).outline := by
  unfold commandWord
  dsimp only
  rw [outline_tag]
  split
  · obtain ⟨after, value⟩ := handOutDoc_outline
      ({ state with tag := { state.tag with command := some kind } }.enter .attributes) kind pending
    rw [Emission.outline, Emission.outline, Emission.mk.injEq]
    exact ⟨rfl, rfl, after, value⟩
  · rfl

theorem scanTagCommand_outline (pending : state.doc.pending = []) :
    (state.outline.scanTagCommand view).outline = (state.scanTagCommand view).outline := by
  have plain : (if state.tag.isClosing then Move.shift .attributes
      else if isSpecialEscape view.rest then
        Move.emit ⟨.specialChar, 2, { state.enter .attributes with
          tag := { state.tag with command := some .specialChar } }, none⟩
      else .shift .expression).outline = (if state.tag.isClosing then Move.shift .attributes
      else if isSpecialEscape view.rest then
        Move.emit ⟨.specialChar, 2, { state.outline.enter .attributes with
          tag := { state.tag with command := some .specialChar } }, none⟩
      else .shift .expression).outline := by
    split
    · rfl
    split <;> rfl
  unfold scanTagCommand
  rw [outline_tag]
  cases tagLexeme? view.head view.tail with
  | none => exact plain.symm
  | some found =>
    obtain ⟨lexeme, width⟩ := found
    cases lexeme with
    | word =>
      dsimp only
      split
      · exact congrArg Move.emit (commandWord_outline state _ width pending)
      · split <;> rfl
    | _ => exact plain.symm

/-- Outlines are all that the next token depends on, as long as unread doc text is kept to doc
comments. -/
theorem move_outline (coherent : state.IsCoherent) :
    (state.outline.move view).outline = (state.move view).outline := by
  unfold move
  rw [outline_mode]
  split
  · exact congrArg Move.emit (scanTemplateText_outline state view)
  · next mode =>
    exact scanTagCommand_outline state view (isTagState_of_mode coherent mode rfl).pending
  · exact congrArg Move.emit (scanExpression_outline state view)
  · exact scanName_outline state view
  · exact congrArg Move.emit (scanAttributes_outline state view)
  · exact scanDirective_outline state view
  · exact congrArg Move.emit (scanString_outline state view)
  · exact congrArg Move.emit (scanDocComment_outline state view)
  · exact scanLiteral_outline state view

theorem move_of_outline_emits {emission : Emission} {move : Move}
    (alike : move.outline = .emit emission) : ∃ own, move = .emit own ∧ own.outline = emission := by
  cases move with
  | emit own => exact ⟨own, rfl, Move.emit.inj alike⟩
  | shift mode => cases alike

theorem move_of_outline_shifts {mode : Mode} {move : Move} (alike : move.outline = .shift mode) :
    move = .shift mode := by
  cases move with
  | emit own => cases alike
  | shift own => exact alike

theorem emission_of_shifts {mode : Mode} (shifts : state.move view = .shift mode) :
    state.emission view = (state.enter mode).emission view := by
  obtain ⟨emission, emits⟩ := (shift_of_shifts view shifts).emits view
  simp only [State.emission, shifts, emits]

theorem emission_of_emits {emission : Emission} (emits : state.move view = .emit emission) :
    state.emission view = emission := by
  rw [State.emission, emits]

theorem emission_outline (coherent : state.IsCoherent) :
    (state.outline.emission view).outline = (state.emission view).outline := by
  have alike := state.move_outline view coherent
  cases own : state.move view with
  | emit emission =>
    rw [own] at alike
    obtain ⟨other, emits, same⟩ := move_of_outline_emits alike
    rw [emission_of_emits _ _ emits, emission_of_emits _ _ own]
    exact same
  | shift mode =>
    rw [own] at alike
    have shifts := move_of_outline_shifts alike
    -- the mode that is entered emits on both sides, so there is no second shift to compare
    have shift := shift_of_shifts view own
    obtain ⟨emission, emits⟩ := shift.emits view
    have settled := (state.enter mode).move_outline view (shift.isCoherent coherent)
    rw [emits] at settled
    obtain ⟨other, otherEmits, same⟩ := move_of_outline_emits settled
    rw [emission_of_shifts _ _ own, emission_of_shifts _ _ shifts, outline_enter,
      emission_of_emits _ _ emits, emission_of_emits _ _ otherEmits]
    exact same

theorem IsCoherent.outline_templateText {state : State} (coherent : state.IsCoherent)
    (mode : state.mode = .templateText) : state.outline = initial .templateText := by
  obtain ⟨resume, tag, quote, pending⟩ := coherent.templateText (.inl mode)
  rw [outline, resume, tag, quote, pending, mode]
  rfl

end State

namespace Scanner

/-- Two scanners at one place of a range, in states that agree on the tokens to come. -/
structure Alike (one other : Scanner) : Prop where
  stop : one.stop = other.stop
  cursor : one.cursor = other.cursor
  previous : one.previous = other.previous
  rest : one.rest = other.rest
  outline : one.state.outline = other.state.outline
  coherent : one.state.IsCoherent
  otherCoherent : other.state.IsCoherent

theorem Alike.emission {one other : Scanner} (alike : Alike one other) (view : View) :
    (one.state.emission view).outline = (other.state.emission view).outline := by
  rw [← one.state.emission_outline view alike.coherent, alike.outline,
    other.state.emission_outline view alike.otherCoherent]

theorem Alike.advance {one other : Scanner} (alike : Alike one other) :
    one.advance.1.withoutDoc = other.advance.1.withoutDoc ∧
      Alike one.advance.2 other.advance.2 := by
  have coherent := isCoherent_advance alike.coherent
  have otherCoherent := isCoherent_advance alike.otherCoherent
  cases shape : one.rest with
  | nil =>
    have ended : other.rest = [] := alike.rest ▸ shape
    rw [advance_at_end _ ended] at otherCoherent ⊢
    rw [advance_at_end _ shape] at coherent ⊢
    refine ⟨?_, alike.stop, alike.cursor, alike.previous, alike.rest, alike.outline, coherent,
      otherCoherent⟩
    simp only [Symbol.withoutDoc, eof, alike.stop, alike.cursor]
  | cons head tail =>
    have otherShape : other.rest = head :: tail := alike.rest ▸ shape
    have view : one.viewOf head tail = other.viewOf head tail := by
      rw [viewOf, viewOf, alike.previous, alike.cursor]
    have emitted := alike.emission (other.viewOf head tail)
    rw [advance_of_rest otherShape] at otherCoherent ⊢
    rw [advance_of_rest shape, view] at coherent ⊢
    obtain ⟨kind, width, after, value⟩ := Emission.mk.inj emitted
    refine ⟨?_, alike.stop, ?_, ?_, ?_, after, coherent, otherCoherent⟩
    · simp only [Symbol.withoutDoc, take, kind, width, value, alike.cursor, alike.rest]
    · simp only [take, width, alike.cursor, alike.rest]
    · simp only [take, width, alike.previous, alike.rest]
    · simp only [take, width, alike.rest]

theorem isSimulation_alike : IsSimulation Alike Symbol.withoutDoc Symbol.withoutDoc where
  rest := Alike.rest
  symbol alike := alike.advance.1
  advance alike := alike.advance.2

/-- In template text at the end of a call or, behind a literal block, in the middle of one. -/
def InTemplateText (scanner : Scanner) : Prop :=
  scanner.state.mode = .templateText ∨ ∃ head tail, scanner.rest = head :: tail ∧
    scanner.state.move (scanner.viewOf head tail) = .shift .templateText

def enterText (scanner : Scanner) : Scanner :=
  { scanner with state := scanner.state.enter .templateText }

theorem InTemplateText.isCoherent {scanner : Scanner} (inText : scanner.InTemplateText)
    (coherent : scanner.state.IsCoherent) : scanner.enterText.state.IsCoherent := by
  rcases inText with mode | ⟨head, tail, -, shifts⟩
  · rw [enterText, ← mode]
    exact coherent
  · exact (State.shift_of_shifts _ shifts).isCoherent coherent

theorem InTemplateText.advance {scanner : Scanner} (inText : scanner.InTemplateText) :
    scanner.enterText.advance = scanner.advance := by
  rcases inText with mode | ⟨head, tail, shape, shifts⟩
  · rw [enterText, ← mode]
    rfl
  · have entered : scanner.enterText.rest = head :: tail := shape
    rw [advance_of_rest entered, advance_of_rest shape, State.emission_of_shifts _ _ shifts]
    rfl

theorem InTemplateText.drain {scanner : Scanner} (inText : scanner.InTemplateText) :
    scanner.enterText.drain.1 = scanner.drain.1 := by
  by_cases ended : scanner.rest = []
  · have entered : scanner.enterText.rest = [] := ended
    rw [drain_at_end ended, drain_at_end entered]
  · have entered : scanner.enterText.rest ≠ [] := ended
    rw [drain_of_rest ended, drain_of_rest entered, inText.advance]

theorem alike_of_inTemplateText {source : Text} {start stop : Nat} {one other : Scanner}
    (onRange : one.OnRange source start stop) (otherOnRange : other.OnRange source start stop)
    (coherent : one.state.IsCoherent) (otherCoherent : other.state.IsCoherent)
    (inText : one.InTemplateText) (otherInText : other.InTemplateText)
    (meet : one.cursor.offset = other.cursor.offset) : Alike one.enterText other.enterText := by
  obtain ⟨rfl, rfl, rfl, consumed, held⟩ := onRange
  obtain ⟨sameSource, sameStart, sameStop, otherConsumed, otherHeld⟩ := otherOnRange
  have range := held.range
  have otherRange := otherHeld.range
  rw [sameSource, sameStart, sameStop, range, Option.some.injEq] at otherRange
  -- one offset cuts the range in one place only
  rw [held.offset, otherHeld.offset, sameStart] at meet
  obtain ⟨rfl, rest⟩ := Text.append_inj_of_byteSize otherRange (Nat.add_left_cancel meet)
  refine ⟨sameStop.symm, ?_, ?_, rest, ?_, inText.isCoherent coherent,
    otherInText.isCoherent otherCoherent⟩
  · rw [enterText, enterText, held.cursor, otherHeld.cursor, sameStart]
  · rw [enterText, enterText, held.previous, otherHeld.previous]
  · rw [(inText.isCoherent coherent).outline_templateText rfl,
      (otherInText.isCoherent otherCoherent).outline_templateText rfl]

end Scanner

/-- Scans of one range that meet in template text, wherever they were started and whatever they went
through, give the same tokens from there on, doc comments apart: call by call, and to the end of
the range. -/
theorem templateText_resynchronises {source : Text} {start stop : Nat} {mode otherMode : Mode}
    {one other : Scanner} (accepted : Scanner.bind source start stop mode = .ok one)
    (otherAccepted : Scanner.bind source start stop otherMode = .ok other) (n m : Nat)
    (inText : (behind Scanner.advance one n).InTemplateText)
    (otherInText : (behind Scanner.advance other m).InTemplateText)
    (meet : (behind Scanner.advance one n).cursor.offset =
      (behind Scanner.advance other m).cursor.offset) :
    (∀ k, (nth Scanner.advance one (n + k)).withoutDoc =
      (nth Scanner.advance other (m + k)).withoutDoc) ∧
    (one.drain.1.drop n).map Symbol.withoutDoc = (other.drain.1.drop m).map Symbol.withoutDoc := by
  have alike := Scanner.alike_of_inTemplateText ((Scanner.onRange_of_bind accepted).behind n)
    ((Scanner.onRange_of_bind otherAccepted).behind m) (Scanner.isCoherent_behind accepted n)
    (Scanner.isCoherent_behind otherAccepted m) inText otherInText meet
  constructor
  · intro k
    rw [← nth_add, ← nth_add, ← nth_of_advance inText.advance, ← nth_of_advance otherInText.advance]
    exact Scanner.isSimulation_alike.nth alike k
  · rw [← Scanner.drain_behind, ← Scanner.drain_behind, ← inText.drain, ← otherInText.drain]
    exact Scanner.isSimulation_alike.drain alike

/-- A brace that is stray to one scan and closes a tag for the other; behind it the two agree. -/
theorem templateText_resynchronises_behind_brace :
    ∃ one other, Scanner.bind "a\x7d\x7bif $b\x7d".toList 0 9 .templateText = .ok one ∧
      Scanner.bind "a\x7d\x7bif $b\x7d".toList 0 9 .attributes = .ok other ∧
      (nth Scanner.advance one 1).kind = .strayBrace ∧
      (nth Scanner.advance other 1).kind = .tagClose ∧
      (∀ k, (nth Scanner.advance one (2 + k)).withoutDoc =
        (nth Scanner.advance other (2 + k)).withoutDoc) ∧
      (one.drain.1.drop 2).map Symbol.withoutDoc =
        (other.drain.1.drop 2).map Symbol.withoutDoc := by
  have accepted : Scanner.bind "a\x7d\x7bif $b\x7d".toList 0 9 .templateText =
      .ok (Scanner.ofRange "a\x7d\x7bif $b\x7d".toList 0 9 .templateText) := rfl
  have otherAccepted : Scanner.bind "a\x7d\x7bif $b\x7d".toList 0 9 .attributes =
      .ok (Scanner.ofRange "a\x7d\x7bif $b\x7d".toList 0 9 .attributes) := rfl
  refine ⟨_, _, accepted, otherAccepted, by decide, by decide, ?_⟩
  exact templateText_resynchronises accepted otherAccepted 2 2 (.inl (by decide))
    (.inl (by decide)) (by decide)

end Scan

end ClosureTemplate
