import ClosureTemplate.Proofs.Doc.Chunks
import ClosureTemplate.Proofs.Scan.History
import ClosureTemplate.Proofs.Scan.Lossless

namespace ClosureTemplate

def Kind.isDocBody : Kind → Bool
  | .docBlank | .docText | .docTag | .docParamTag | .docIdentifier => true
  | _ => false

namespace Text

theorem slice?_self {text : Text} {offset : Nat} (boundary : text.isBoundary offset = true) :
    slice? text offset offset = some [] := by
  obtain ⟨before, after, split, size⟩ := isBoundary_iff.mp boundary
  exact slice?_eq_some_iff.mpr ⟨before, after, by simpa using split, size, rfl⟩

theorem slice?_append {text first second : Text} {start middle stop : Nat}
    (left : slice? text start middle = some first)
    (right : slice? text middle stop = some second) :
    slice? text start stop = some (first ++ second) := by
  obtain ⟨before, rest, split, startSize, middleSize⟩ := slice?_eq_some_iff.mp left
  obtain ⟨upto, after, again, uptoSize, stopSize⟩ := slice?_eq_some_iff.mp right
  have size : byteSize (before ++ first) = byteSize upto := by
    rw [byteSize_append]
    omega
  have cut : before ++ first ++ rest = upto ++ (second ++ after) := by
    rw [← split, again, List.append_assoc]
  obtain ⟨rfl, rfl⟩ := append_inj_of_byteSize cut size
  refine slice?_eq_some_iff.mpr ⟨before, after, by simpa using split, startSize, ?_⟩
  rw [byteSize_append]
  omega

end Text

namespace Scan

/-- A past that ends inside of a doc comment: where the body starts and its text so far. A scan
that was started inside of a comment has the start of its range for the former. -/
inductive Commenting (mode : Mode) (start : Nat) : History → Nat → Text → Prop
  | started (inComment : mode = .docComment) : Commenting mode start [] start []
  | begun {symbol : Symbol} {earlier : History} (opens : symbol.kind = .docBegin) :
      Commenting mode start (symbol :: earlier) symbol.stop []
  | inside {symbol : Symbol} {earlier : History} {origin : Nat} {body : Text}
      (isBody : symbol.kind.isDocBody = true)
      (commenting : Commenting mode start earlier origin body) :
      Commenting mode start (symbol :: earlier) origin (body ++ symbol.text)

/-- The stream ends in the opening delimiter of a comment and tokens of its body. -/
structure EndsInside (before earlier : List Symbol) (opening : Symbol) (inside : List Symbol) :
    Prop where
  split : before = earlier ++ opening :: inside
  opens : opening.kind = .docBegin
  body : ∀ symbol ∈ inside, symbol.kind.isDocBody = true

theorem Commenting.endsInside {mode : Mode} {start origin : Nat} {history : History} {body : Text}
    (commenting : Commenting mode start history origin body) :
    (∃ earlier opening inside, EndsInside history.reverse earlier opening inside ∧
        origin = opening.stop ∧ body = inside.flatMap Symbol.text) ∨
      (mode = .docComment ∧ (∀ symbol ∈ history.reverse, symbol.kind.isDocBody = true) ∧
        origin = start ∧ body = history.reverse.flatMap Symbol.text) := by
  induction commenting with
  | started inComment => exact .inr ⟨inComment, by simp, rfl, rfl⟩
  | @begun symbol earlier opens =>
    exact .inl ⟨earlier.reverse, symbol, [], ⟨by simp, opens, by simp⟩, rfl, rfl⟩
  | @inside symbol earlier origin body isBody _ ih =>
    rcases ih with ⟨before, opening, inside, ends, rfl, rfl⟩ | ⟨inComment, all, rfl, rfl⟩
    · refine .inl ⟨before, opening, inside ++ [symbol], ⟨?_, ends.opens, ?_⟩, rfl, by simp⟩
      · simp [ends.split]
      · intro other member
        rcases List.mem_append.mp member with former | last
        · exact ends.body other former
        · rw [List.mem_singleton.mp last]
          exact isBody
    · refine .inr ⟨inComment, ?_, rfl, by simp⟩
      intro other member
      rcases List.mem_cons.mp (List.mem_reverse.mp member) with rfl | former
      · exact isBody
      · exact all other (List.mem_reverse.mpr former)

namespace State

theorem Shift.mode_ne_docComment {state settled : State} (shift : Shift state settled) :
    settled.mode ≠ .docComment := by
  cases shift with
  | commandless => cases state.tag.isClosing <;> simp [enter]
  | _ => simp [enter]

theorem Shift.mode_of_docComment {state settled : State} (shift : Shift state settled) :
    state.mode ≠ .docComment := by
  intro inside
  cases shift <;> next mode => rw [inside] at mode; cases mode

theorem docKind_isDocBody {lexeme : DocLexeme} (text : Text) (anticipating : Bool)
    (notClose : lexeme ≠ .close) : (docKind lexeme text anticipating).isDocBody = true := by
  cases lexeme <;> simp only [docKind] <;> try split
  all_goals first | rfl | exact absurd rfl notClose

theorem commandWord_mode_isInTag (state : State) (kind : Kind) (width : Nat) :
    (state.commandWord kind width).state.mode.isInTag = true := by
  unfold commandWord
  dsimp only
  split
  · rw [(sameTag_handOutDoc _ kind).mode]
    rfl
  · exact followMode_isInTag kind

theorem closeTag_mode {state : State} (base : IsBase state.resume) (kind : Kind) (width : Nat) :
    (state.closeTag kind width).state.mode = .templateText ∨
      (state.closeTag kind width).state.mode = .literal := by
  obtain ⟨mode, -⟩ := pop_of_isBase base
  unfold closeTag
  dsimp only
  split
  · exact .inr rfl
  · exact .inl mode

theorem unquoted_mode {state : State} (coherent : state.IsCoherent)
    (mode : state.mode = .stringLiteral) :
    state.pop.mode = .templateText ∨ state.pop.mode = .expression ∨
      state.pop.mode = .attributes := by
  have stack := coherent.stack
  rw [mode] at stack
  rcases stack with empty | ⟨top, base, body, -, shape⟩
  · exact .inl (pop_of_isBase (.inl empty)).1
  · have back : state.pop.mode = top := by simp [pop, shape]
    rw [back]
    exact .inr body

theorem docClosed_mode {state : State} (coherent : state.IsCoherent)
    (mode : state.mode = .docComment) : state.pop.mode = .templateText := by
  have base : IsBase state.resume := by simpa [mode, StackFits] using coherent.stack
  exact (pop_of_isBase base).1

theorem Transition.into_docComment {state after : State} {kind : Kind} {text : Text} {line : Nat}
    (step : Transition state kind text line after) (coherent : state.IsCoherent)
    (inside : after.mode = .docComment) :
    after.namespaceName = state.namespaceName ∧
      (kind = .docBegin ∧ after.doc = state.doc.reset ∨
        state.mode = .docComment ∧ kind.isDocBody = true ∧
          (after.doc = state.doc.append text ∨
            after.doc = state.doc.anticipating.2.append text)) := by
  cases step with
  | kept keeps =>
    rw [inside] at keeps
    cases keeps
  | docOpened => exact ⟨rfl, .inl ⟨rfl, rfl⟩⟩
  | docWord mode => exact ⟨rfl, .inr ⟨mode, docKind_isDocBody _ _ (by decide), .inr rfl⟩⟩
  | docRead lexeme mode body => exact ⟨rfl, .inr ⟨mode, docKind_isDocBody _ _ body.1, .inl rfl⟩⟩
  | commanded width =>
    have inTag := commandWord_mode_isInTag state kind width
    rw [inside] at inTag
    cases inTag
  | closed width mode =>
    have base := (isTagState_of_body coherent mode).base
    rcases closeTag_mode base kind width with outside | outside <;> rw [outside] at inside <;>
      cases inside
  | unquoted mode =>
    change state.pop.mode = .docComment at inside
    rcases unquoted_mode coherent mode with outside | outside | outside <;>
      rw [outside] at inside <;> cases inside
  | docClosed mode =>
    change state.pop.mode = .docComment at inside
    rw [docClosed_mode coherent mode] at inside
    cases inside
  | referred mode =>
    rw [(sameTag_referParameter state (text.drop 1)).mode, mode] at inside
    cases inside
  | _ => cases inside

theorem Transition.mode_of_docBegin {state after : State} {kind : Kind} {text : Text} {line : Nat}
    (step : Transition state kind text line after) (opens : kind = .docBegin) :
    after.mode = .docComment := by
  have notKept : ∀ mode : Mode, Kind.docBegin ∉ mode.keptKinds := by
    intro mode
    cases mode <;> decide
  have notListed {mode : Mode} (listed : kind ∈ mode.turningKinds)
      (other : mode ≠ .templateText) : False := by
    subst opens
    revert listed
    cases mode <;> first | exact absurd rfl other | decide
  cases step with
  | docOpened => rfl
  | kept keeps => exact absurd (opens ▸ keeps) (notKept _)
  | tagOpened isDoubled isClosing => cases isClosing <;> cases opens
  | commanded width mode known =>
    have notCommand : ∀ entry ∈ Kind.commands, entry.2 ≠ .docBegin := by decide
    exact absurd opens (notCommand _ (mem_of_lookup known))
  | named lexeme mode declares => exact (notListed (nameOf_kind_mem declares) (by decide)).elim
  | closed width mode closes => rcases closes with rfl | rfl <;> cases opens
  | docWord => exact (notListed (docKind_mem _ _ _) (by decide)).elim
  | docRead => exact (notListed (docKind_mem _ _ _) (by decide)).elim
  | _ => cases opens

theorem Transition.inside_docComment {state after : State} {kind : Kind} {text : Text} {line : Nat}
    (step : Transition state kind text line after) (inside : state.mode = .docComment) :
    kind = .docEnd ∧ after = { state.pop with doc := state.doc.close } ∨
      kind.isDocBody = true ∧ ∃ doc, after = { state with doc } := by
  cases step with
  | kept keeps =>
    rw [inside] at keeps
    cases keeps
  | docClosed => exact .inl ⟨rfl, rfl⟩
  | docWord => exact .inr ⟨docKind_isDocBody _ _ (by decide), _, rfl⟩
  | docRead lexeme mode body => exact .inr ⟨docKind_isDocBody _ _ body.1, _, rfl⟩
  | quoted terminator inAttribute mode =>
    rw [inside] at mode
    cases inAttribute <;> cases mode
  | closed width mode | reopened mode =>
    rw [inside] at mode
    rcases mode with mode | mode <;> cases mode
  | commanded width mode | named lexeme mode | tagOpened isDoubled isClosing mode
  | docOpened mode | literalRead mode | miscommanded mode | escaped mode | valued mode
  | directed mode | piped mode | referred mode | unquoted mode =>
    rw [inside] at mode
    cases mode

theorem scanDocComment_width (state : State) (view : View) :
    (state.scanDocComment view).width = (docLexeme view.head view.tail).2 := by
  unfold scanDocComment
  dsimp only
  split <;> rfl

theorem scanDocComment_kind (state : State) (view : View) :
    (state.scanDocComment view).kind = docKind (docLexeme view.head view.tail).1
      (view.rest.take (docLexeme view.head view.tail).2) state.doc.anticipating.1 := by
  unfold scanDocComment
  dsimp only
  split
  · next close => rw [close]; rfl
  · next word => rw [word]
  · next notClose notWord =>
    cases shape : (docLexeme view.head view.tail).1 with
    | word => exact absurd shape notWord
    | _ => rfl

theorem scanDocComment_docEnd {state : State} {view : View}
    (ends : (state.scanDocComment view).kind = .docEnd) :
    (state.scanDocComment view).value = some (.doc state.doc.close) := by
  have close : (docLexeme view.head view.tail).1 = .close := by
    apply Decidable.byContradiction
    intro notClose
    have body := docKind_isDocBody (view.rest.take (docLexeme view.head view.tail).2)
      state.doc.anticipating.1 notClose
    rw [← scanDocComment_kind, ends] at body
    cases body
  simp [scanDocComment, close]

end State

namespace Scanner

/-- The scanner is inside of a comment and its buffer has read the body so far. -/
structure ReadsComment (source : Text) (mode : Mode) (start : Nat) (history : History)
    (scanner : Scanner) (origin : Nat) (body : Text) : Prop where
  commenting : Commenting mode start history origin body
  text : source.slice? origin scanner.cursor.offset = some body
  reading : scanner.state.doc.IsReading scanner.state.namespaceName body

theorem docComment_of_advance {scanner : Scanner} (more : scanner.rest ≠ [])
    (listed : scanner.advance.1.kind ∈ Mode.kinds .docComment) :
    scanner.state.mode = .docComment := by
  obtain ⟨settled, origin, step⟩ := advance_steps more
  have mode := step.docComment_of_kind listed
  rcases origin with rfl | shift
  · exact mode
  · exact absurd mode shift.mode_ne_docComment

theorem advance_of_docComment {scanner : Scanner} {head : Char} {tail : Text}
    (shape : scanner.rest = head :: tail) (mode : scanner.state.mode = .docComment) :
    scanner.advance =
      scanner.take (scanner.state.scanDocComment (scanner.viewOf head tail)) := by
  have emits : scanner.state.move (scanner.viewOf head tail) =
      .emit (scanner.state.scanDocComment (scanner.viewOf head tail)) := by
    simp only [State.move, mode]
  rw [advance_of_rest shape, State.emission, emits]

theorem advance_docEnd {scanner : Scanner} (more : scanner.rest ≠ [])
    (ends : scanner.advance.1.kind = .docEnd) :
    scanner.state.mode = .docComment ∧
      scanner.advance.1.value = some (.doc scanner.state.doc.close) := by
  have mode := docComment_of_advance more (by rw [ends]; decide)
  obtain ⟨head, tail, shape⟩ := List.exists_cons_of_ne_nil more
  rw [advance_of_docComment shape mode] at ends ⊢
  exact ⟨mode, State.scanDocComment_docEnd ends⟩

theorem readsComment_advance {source : Text} {mode : Mode} {start stop : Nat} {history : History}
    {scanner : Scanner} (onRange : scanner.OnRange source start stop)
    (coherent : scanner.state.IsCoherent) (more : scanner.rest ≠ [])
    (reads : scanner.state.mode = .docComment →
      ∃ origin body, scanner.ReadsComment source mode start history origin body)
    (inside : scanner.advance.2.state.mode = .docComment) :
    ∃ origin body, scanner.advance.2.ReadsComment source mode start
      (scanner.advance.1 :: history) origin body := by
  obtain ⟨consumed, held⟩ := onRange.consumed
  have piece := advance_isPieceOf held more
  obtain ⟨symbolStart, symbolStop⟩ := advance_symbol_start more
  rw [onRange.source] at piece
  obtain ⟨settled, origin, step⟩ := advance_steps more
  have settledCoherent : settled.IsCoherent := by
    rcases origin with rfl | shift
    · exact coherent
    · exact shift.isCoherent coherent
  obtain ⟨sameNamespace, opened | ⟨settledMode, isBody, appended⟩⟩ :=
    step.into_docComment settledCoherent inside
  · -- the delimiter: the buffer starts afresh with the namespace that it knows
    have fresh : settled.doc.reset = { namespaceName := settled.namespaceName } := by
      rw [Doc.Buffer.reset, settledCoherent.namespaceName]
    refine ⟨_, _, .begun opened.1, ?_, ?_⟩
    · rw [← symbolStop]
      exact Text.slice?_self piece.stopBoundary
    · rw [opened.2, fresh, sameNamespace]
      exact Doc.Buffer.isReading_fresh _
  · -- the body: no silent change of mode leads here, so the scanner was inside before
    have same : settled = scanner.state := by
      rcases origin with same | shift
      · exact same
      · exact absurd settledMode shift.mode_ne_docComment
    subst same
    obtain ⟨origin, body, commenting, text, reading⟩ := reads settledMode
    refine ⟨origin, body ++ scanner.advance.1.text, .inside isBody commenting, ?_, ?_⟩
    · rw [← symbolStop]
      rw [← symbolStart] at text
      exact Text.slice?_append text piece.text
    · rw [sameNamespace]
      rcases appended with plain | word
      · rw [plain]
        exact reading.append _
      · rw [word]
        exact reading.anticipating.append _

theorem readsComment_behind {source : Text} {mode : Mode} {start stop : Nat} {scanner : Scanner}
    (accepted : Scanner.bind source start stop mode = .ok scanner) {n : Nat}
    (bounded : n ≤ scanner.drain.1.length)
    (inside : (behind advance scanner n).state.mode = .docComment) :
    ∃ origin body, (behind advance scanner n).ReadsComment source mode start (scanner.history n)
      origin body := by
  have onRange := onRange_of_bind accepted
  have initial : scanner.state.mode = .docComment →
      ∃ origin body, scanner.ReadsComment source mode start [] origin body := by
    obtain ⟨⟨-, boundary, -⟩, rfl⟩ := bind_eq_ok_iff.mp accepted
    intro inComment
    exact ⟨start, [], .started inComment, Text.slice?_self boundary,
      Doc.Buffer.isReading_fresh none⟩
  revert inside
  refine history_induction (fun history current => current.state.mode = .docComment →
    ∃ origin body, current.ReadsComment source mode start history origin body) initial ?_ bounded
  intro n more reads inside
  exact readsComment_advance (onRange.behind n) (isCoherent_behind accepted n) more reads inside

end Scanner

/-- Where the body of the comment starts that the stream ends in: behind its opening delimiter, or
with the range if the scan was started inside of the comment. -/
def CommentStarts (mode : Mode) (start : Nat) (before : List Symbol) (origin : Nat) : Prop :=
  (∃ earlier opening inside, EndsInside before earlier opening inside ∧ origin = opening.stop) ∨
    (mode = .docComment ∧ (∀ symbol ∈ before, symbol.kind.isDocBody = true) ∧ origin = start)

/-- Every closing delimiter of a doc comment carries the buffer that a reading of the body at once
gives, under the namespace that the scan knows at that point. -/
theorem docEnd_carries_reading_of_body {source : Text} {start stop : Nat} (mode : Mode)
    (ordered : start ≤ stop) (startBoundary : source.isBoundary start = true)
    (stopBoundary : source.isBoundary stop = true) :
    ∃ scanner symbols, Scanner.bind source start stop mode = .ok scanner ∧
      tokenizeRange source start stop mode = .ok symbols ∧
      ∀ before closing after, symbols = before ++ closing :: after → closing.kind = .docEnd →
        ∃ origin body, CommentStarts mode start before origin ∧
          source.slice? origin closing.start = some body ∧
          closing.value = some (.doc (Doc.Buffer.ofText
            (behind Scanner.advance scanner before.length).state.namespaceName body)) := by
  obtain ⟨scanner, accepted⟩ : ∃ scanner, Scanner.bind source start stop mode = .ok scanner :=
    ⟨_, Scanner.bind_eq_ok_iff.mpr ⟨⟨ordered, startBoundary, stopBoundary⟩, rfl⟩⟩
  refine ⟨scanner, scanner.drain.1, accepted, by rw [tokenizeRange, accepted]; rfl, ?_⟩
  intro before closing after split ends
  obtain ⟨bounded, past, more, symbol⟩ := Scanner.moment_of_split split
  rw [← symbol] at ends ⊢
  obtain ⟨inside, value⟩ := Scanner.advance_docEnd more ends
  obtain ⟨origin, body, commenting, text, reading⟩ :=
    Scanner.readsComment_behind accepted bounded inside
  refine ⟨origin, body, ?_, ?_, ?_⟩
  · rw [past] at commenting
    rcases commenting.endsInside with ⟨earlier, opening, tokens, ends, stops, -⟩ |
      ⟨inComment, all, starts, -⟩
    · rw [List.reverse_reverse] at ends
      exact .inl ⟨earlier, opening, tokens, ends, stops⟩
    · rw [List.reverse_reverse] at all
      exact .inr ⟨inComment, all, starts⟩
  · rw [(Scanner.advance_symbol_start more).1]
    exact text
  · rw [value, reading.close]

/-- A range that starts inside of a comment, behind a character of two bytes. -/
theorem docEnd_carries_reading_of_body_started_inside :
    ∃ before closing, tokenizeRange "é@param x */".toList 2 13 .docComment =
        .ok (before ++ [closing]) ∧ closing.kind = .docEnd ∧
      ∃ origin body, CommentStarts .docComment 2 before origin ∧
        Text.slice? "é@param x */".toList origin closing.start = some body ∧
        closing.value = some (.doc (Doc.Buffer.ofText none body)) := by
  obtain ⟨scanner, symbols, accepted, scanned, carries⟩ :=
    docEnd_carries_reading_of_body .docComment (by decide : 2 ≤ 13)
      (by decide : Text.isBoundary "é@param x */".toList 2 = true) (by decide)
  obtain ⟨-, rfl⟩ := Scanner.bind_eq_ok_iff.mp accepted
  have drained := Scanner.drain_eq_history (n := 4)
    (by decide : (behind Scanner.advance
      (Scanner.ofRange "é@param x */".toList 2 13 .docComment) 4).rest ≠ []) (by decide)
  have stream := scanned
  rw [tokenizeRange, accepted] at stream
  replace stream := (Except.ok.inj stream).symm.trans drained
  obtain ⟨origin, body, starts, text, value⟩ := carries _ _ [] stream (by decide)
  rw [stream] at scanned
  exact ⟨_, _, scanned, by decide, origin, body, starts, text, value⟩

end Scan

end ClosureTemplate
