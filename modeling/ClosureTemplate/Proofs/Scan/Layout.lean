import ClosureTemplate.Proofs.Scan.Spelling

/-!
The layout of a token stream. A token stands in template text, in a doc comment, in a tag or in a
string of a tag. `Turn` says which tokens can stand in each of these places and which of them lead
to another place; the tokens of a source lead from template text through such places and never end
inside of a string or a comment (`leads_tokenize`).
-/

namespace ClosureTemplate

namespace Kind

def isText : Kind → Bool
  | .templateText | .blank | .strayBrace | .comment | .lineComment | .unterminatedComment
  | .literalText | .unterminatedLiteral => true
  | _ => false

/-- The kinds in a tag and outside of its strings. Braces do not nest in a tag that one of them
opens, where another one starts the tag afresh. -/
def isTagBody (isDoubled : Bool) : Kind → Bool
  | .lbrace | .rbrace => isDoubled
  | .unterminatedTag => !isDoubled
  | .blank => true
  | .stringBegin | .stringEnd | .docBegin | .docEnd | .eof => false
  | kind =>
    !(kind.isText || kind.opensTag || kind.closesTag || kind.isStringBody || kind.isDocBody)

end Kind

namespace Scan

inductive Place where
  | text
  | comment
  | tag (isDoubled : Bool)
  | string (isDoubled : Bool) (quote : Text)
  deriving DecidableEq, Repr

/-- A token with its kind and its text leads from one place to the next. -/
inductive Turn : Place → Kind → Text → Place → Prop
  | text {kind : Kind} {text : Text} (plain : kind.isText = true) : Turn .text kind text .text
  | opened {kind : Kind} {text : Text} {isDoubled : Bool} (opens : kind.opensTag = true)
      (spelled : kind.delimiter? isDoubled = some text) : Turn .text kind text (.tag isDoubled)
  | commented {text : Text} : Turn .text .docBegin text .comment
  | noted {kind : Kind} {text : Text} (body : kind.isDocBody = true) :
      Turn .comment kind text .comment
  | uncommented {text : Text} : Turn .comment .docEnd text .text
  | tagged {kind : Kind} {text : Text} {isDoubled : Bool}
      (body : kind.isTagBody isDoubled = true) :
      Turn (.tag isDoubled) kind text (.tag isDoubled)
  | quoted {text : Text} {isDoubled : Bool} :
      Turn (.tag isDoubled) .stringBegin text (.string isDoubled text)
  | spelled {kind : Kind} {text quote : Text} {isDoubled : Bool}
      (body : kind.isStringBody = true) :
      Turn (.string isDoubled quote) kind text (.string isDoubled quote)
  | unquoted {quote : Text} {isDoubled : Bool} :
      Turn (.string isDoubled quote) .stringEnd quote (.tag isDoubled)
  | closed {kind : Kind} {text : Text} {isDoubled : Bool} (closes : kind.closesTag = true)
      (spelled : kind.delimiter? isDoubled = some text) : Turn (.tag isDoubled) kind text .text

inductive Leads : Place → List Symbol → Place → Prop
  | nil {place : Place} : Leads place [] place
  | cons {place next last : Place} {symbol : Symbol} {symbols : List Symbol}
      (turn : Turn place symbol.kind symbol.text next) (leads : Leads next symbols last) :
      Leads place (symbol :: symbols) last

namespace State

theorem commandWord_isDoubled (state : State) (kind : Kind) (width : Nat) :
    (state.commandWord kind width).state.tag.isDoubled = state.tag.isDoubled := by
  unfold commandWord
  dsimp only
  split
  · rw [(sameTag_handOutDoc _ kind).tag]
    rfl
  · rfl

section Transition

variable {state after : State} {kind : Kind} {text : Text} {line : Nat}

theorem Transition.outside_tag (step : Transition state kind text line after)
    (outside : state.mode = .templateText ∨ state.mode = .literal) :
    kind.isText = true ∧ (after.mode = .templateText ∨ after.mode = .literal) ∨
      kind.opensTag = true ∧ after.mode.isInTag = true ∨
      kind = .docBegin ∧ after.mode = .docComment := by
  have keptText {mode : Mode} (outside : mode = .templateText ∨ mode = .literal) :
      ∀ kind ∈ mode.keptKinds, kind.isText = true := by
    rcases outside with rfl | rfl <;> decide
  cases step with
  | kept keeps => exact .inl ⟨keptText outside _ keeps, outside⟩
  | tagOpened isDoubled isClosing => exact .inr (.inl ⟨by cases isClosing <;> rfl, rfl⟩)
  | docOpened => exact .inr (.inr ⟨rfl, rfl⟩)
  | literalRead => exact .inl ⟨rfl, .inl rfl⟩
  | quoted terminator inAttribute mode =>
    rcases outside with outside | outside <;> rw [outside] at mode <;> cases inAttribute <;>
      cases mode
  | closed width mode | reopened mode =>
    rcases outside with outside | outside <;> rw [outside] at mode <;>
      rcases mode with mode | mode <;> cases mode
  | commanded width mode | named lexeme mode | miscommanded mode | escaped mode | valued mode
  | directed mode | piped mode | referred mode | unquoted mode | docClosed mode | docWord mode
  | docRead lexeme mode =>
    rcases outside with outside | outside <;> rw [outside] at mode <;> cases mode

theorem Transition.inside_tag (step : Transition state kind text line after)
    (coherent : state.IsCoherent) (inTag : state.mode.isInTag = true) :
    kind.closesTag = true ∧ (after.mode = .templateText ∨ after.mode = .literal) ∨
      kind = .stringBegin ∧ after.mode = .stringLiteral ∧ after.resume ≠ [] ∧
        after.tag = state.tag ∨
      (kind.isTagBody true = true ∨ kind = .unterminatedTag ∧ state.tag.isDoubled = false) ∧
        after.mode.isInTag = true ∧ after.tag.isDoubled = state.tag.isDoubled := by
  have keptBody {mode : Mode} (inTag : mode.isInTag = true) :
      ∀ kind ∈ mode.keptKinds, kind.isTagBody true = true := by
    revert inTag
    cases mode <;> decide
  cases step with
  | kept keeps => exact .inr (.inr ⟨.inl (keptBody inTag _ keeps), inTag, rfl⟩)
  | commanded width mode known =>
    have command : ∀ entry ∈ Kind.commands, entry.2.isTagBody true = true := by decide
    exact .inr (.inr ⟨.inl (command _ (mem_of_lookup known)),
      commandWord_mode_isInTag state kind width, commandWord_isDoubled state kind width⟩)
  | miscommanded => exact .inr (.inr ⟨.inl rfl, rfl, rfl⟩)
  | escaped => exact .inr (.inr ⟨.inl rfl, rfl, rfl⟩)
  | named lexeme mode declares =>
    have name : ∀ kind ∈ Mode.turningKinds .name, kind.isTagBody true = true := by decide
    refine .inr (.inr ⟨.inl (name _ (nameOf_kind_mem declares)), rfl, ?_⟩)
    exact congrArg Tag.isDoubled (sameTag_nameOf declares).tag
  | valued => exact .inr (.inr ⟨.inl rfl, rfl, rfl⟩)
  | quoted => exact .inr (.inl ⟨rfl, rfl, by simp [push], rfl⟩)
  | reopened mode single => exact .inr (.inr ⟨.inr ⟨rfl, single⟩, rfl, single.symm⟩)
  | closed width mode closes =>
    refine .inl ⟨by rcases closes with rfl | rfl <;> rfl, ?_⟩
    exact closeTag_mode (isTagState_of_body coherent mode).base kind width
  | directed => exact .inr (.inr ⟨.inl rfl, rfl, rfl⟩)
  | piped => exact .inr (.inr ⟨.inl rfl, rfl, rfl⟩)
  | referred mode =>
    have same := sameTag_referParameter state (text.drop 1)
    exact .inr (.inr ⟨.inl rfl, same.mode ▸ inTag, congrArg Tag.isDoubled same.tag⟩)
  | tagOpened isDoubled isClosing mode | docOpened mode | literalRead mode | unquoted mode
  | docClosed mode | docWord mode | docRead lexeme mode =>
    rw [mode] at inTag
    cases inTag

theorem Transition.inside_string (step : Transition state kind text line after)
    (inString : state.mode = .stringLiteral) :
    kind = .stringEnd ∧ after = { state.pop with quote := {} } ∨
      kind ≠ .stringEnd ∧ after = state := by
  cases step with
  | kept keeps =>
    refine .inr ⟨?_, rfl⟩
    rintro rfl
    rw [inString] at keeps
    revert keeps
    decide
  | unquoted => exact .inl ⟨rfl, rfl⟩
  | quoted terminator inAttribute mode =>
    rw [inString] at mode
    cases inAttribute <;> cases mode
  | closed width mode | reopened mode =>
    rw [inString] at mode
    rcases mode with mode | mode <;> cases mode
  | commanded width mode | named lexeme mode | tagOpened isDoubled isClosing mode
  | docOpened mode | literalRead mode | miscommanded mode | escaped mode | valued mode
  | directed mode | piped mode | referred mode | docClosed mode | docWord mode
  | docRead lexeme mode =>
    rw [inString] at mode
    cases mode

end Transition

end State

structure InString (state : State) (rest : Text) (isDoubled : Bool) (quote : Text) : Prop where
  mode : state.mode = .stringLiteral
  inTag : state.resume ≠ []
  isDoubled : state.tag.isDoubled = isDoubled
  quote : quote = [state.quote.terminator]
  isQuote : isQuote state.quote.terminator = true
  ahead : State.terminates state.quote.terminator rest = true

/-- A scan in the state, with `rest` to be read, stands at the place. -/
def Place.Holds (state : State) (rest : Text) : Place → Prop
  | .text => state.mode = .templateText ∨ state.mode = .literal
  | .comment => state.mode = .docComment ∧ ¬Doc.IsOpen rest
  | .tag isDoubled => state.mode.isInTag = true ∧ state.tag.isDoubled = isDoubled
  | .string isDoubled quote => InString state rest isDoubled quote

namespace State

variable {state : State} {rest : Text} {place : Place}

theorem Shift.holds {settled : State} (shift : Shift state settled)
    (holds : place.Holds state rest) : place.Holds settled rest := by
  cases place with
  | text =>
    cases shift with
    | literalEnded => exact .inl rfl
    | commandless mode | nameless mode | undirected mode =>
      rcases holds with outside | outside <;> rw [outside] at mode <;> cases mode
  | comment => exact absurd holds.1 shift.mode_of_docComment
  | tag isDoubled =>
    cases shift with
    | commandless => exact ⟨by cases state.tag.isClosing <;> rfl, holds.2⟩
    | nameless | undirected => exact ⟨rfl, holds.2⟩
    | literalEnded mode =>
      have inTag := holds.1
      rw [mode] at inTag
      cases inTag
  | string isDoubled quote =>
    cases shift <;> next mode => rw [holds.mode] at mode; cases mode

variable {view : View} {emission : Emission}

theorem turn_outside (emits : state.move view = .emit emission)
    (outside : state.mode = .templateText ∨ state.mode = .literal) :
    ∃ next : Place, Turn .text emission.kind (view.rest.take emission.width) next ∧
      next.Holds emission.state (view.rest.drop emission.width) := by
  have spells := move_spells view emits
  rcases (steps_of_emits view emits).outside_tag outside with plain | opened | commented
  · exact ⟨.text, .text plain.1, plain.2⟩
  · exact ⟨.tag emission.state.tag.isDoubled, .opened opened.1 (spells.opening opened.1),
      opened.2, rfl⟩
  · refine ⟨.comment, ?_, commented.2, spells.doc commented.1⟩
    rw [commented.1]
    exact .commented

theorem isTagBody_of_braces {kind : Kind} {isDoubled : Bool} (body : kind.isTagBody true = true)
    (brace : kind = .lbrace ∨ kind = .rbrace → isDoubled = true) :
    kind.isTagBody isDoubled = true := by
  cases isDoubled with
  | true => exact body
  | false =>
    have notBrace : ¬(kind = .lbrace ∨ kind = .rbrace) := fun isBrace => by cases brace isBrace
    revert body notBrace
    cases kind <;> decide

theorem turn_in_tag (coherent : state.IsCoherent) (emits : state.move view = .emit emission)
    (inTag : state.mode.isInTag = true) :
    ∃ next : Place,
      Turn (.tag state.tag.isDoubled) emission.kind (view.rest.take emission.width) next ∧
      next.Holds emission.state (view.rest.drop emission.width) := by
  have spells := move_spells view emits
  rcases (steps_of_emits view emits).inside_tag coherent inTag with
    closed | ⟨quoted, mode, resume, tag⟩ | ⟨body, stays, sameBraces⟩
  · exact ⟨.text, .closed closed.1 (spells.closing closed.1), closed.2⟩
  · obtain ⟨text, isQuote, ahead⟩ := spells.quote quoted
    refine ⟨.string state.tag.isDoubled (view.rest.take emission.width), ?_, mode, resume, ?_, text,
      isQuote, ahead⟩
    · rw [quoted]
      exact .quoted
    · rw [tag]
  · refine ⟨.tag state.tag.isDoubled, .tagged ?_, stays, sameBraces⟩
    -- a tag of one brace ends or starts afresh at another brace and has none for a token
    rcases body with body | ⟨reopened, single⟩
    · exact isTagBody_of_braces body spells.brace
    · rw [reopened, single]
      rfl

theorem turn_in_comment (coherent : state.IsCoherent) (emits : state.move view = .emit emission)
    (inComment : state.mode = .docComment) (closed : ¬Doc.IsOpen view.rest) :
    ∃ next : Place, Turn .comment emission.kind (view.rest.take emission.width) next ∧
      next.Holds emission.state (view.rest.drop emission.width) := by
  have scans : emission = state.scanDocComment view := by
    simp only [move, inComment] at emits
    exact (Move.emit.inj emits).symm
  have ahead : (state.scanDocComment view).kind = .docEnd ∨ _ := scanDocComment_seesEnd view closed
  rw [← scans] at ahead
  have step := steps_of_emits view emits
  rcases step.inside_docComment inComment with ⟨ends, after⟩ | ⟨body, doc, after⟩
  · refine ⟨.text, ends ▸ .uncommented, .inl ?_⟩
    rw [after]
    exact docClosed_mode coherent inComment
  · refine ⟨.comment, .noted body, ?_, ahead.resolve_left ?_⟩
    · rw [after]
      exact inComment
    · intro ends
      rw [ends] at body
      cases body

theorem isInTag_pop (coherent : state.IsCoherent) (inString : state.mode = .stringLiteral)
    (inTag : state.resume ≠ []) : state.pop.mode.isInTag = true := by
  have stack := coherent.stack
  rw [inString] at stack
  rcases stack with empty | ⟨top, base, body, -, shape⟩
  · exact absurd empty inTag
  · have back : state.pop.mode = top := by simp [pop, shape]
    rw [back]
    rcases body with rfl | rfl <;> rfl

theorem turn_in_string {isDoubled : Bool} {quote : Text} (coherent : state.IsCoherent)
    (emits : state.move view = .emit emission)
    (inString : InString state view.rest isDoubled quote) :
    ∃ next : Place,
      Turn (.string isDoubled quote) emission.kind (view.rest.take emission.width) next ∧
      next.Holds emission.state (view.rest.drop emission.width) := by
  have scans : emission = state.scanString view := by
    simp only [move, inString.mode] at emits
    exact (Move.emit.inj emits).symm
  have read := scanString_seesEnd view inString.isQuote inString.ahead
  rw [← scans] at read
  rcases read with ⟨ends, text⟩ | part
  · refine ⟨.tag isDoubled, ?_, ?_⟩
    · rw [ends, text, ← inString.quote]
      exact .unquoted
    · rcases (steps_of_emits view emits).inside_string inString.mode with ⟨-, after⟩ | ⟨other, -⟩
      · rw [after]
        exact ⟨isInTag_pop coherent inString.mode inString.inTag, inString.isDoubled⟩
      · exact absurd ends other
  · refine ⟨.string isDoubled quote, .spelled part.kind, ?_⟩
    rw [part.state]
    exact ⟨inString.mode, inString.inTag, inString.isDoubled, inString.quote, inString.isQuote,
      part.ahead inString.ahead⟩

theorem turn_of_emits (coherent : state.IsCoherent) (emits : state.move view = .emit emission)
    (holds : place.Holds state view.rest) :
    ∃ next : Place, Turn place emission.kind (view.rest.take emission.width) next ∧
      next.Holds emission.state (view.rest.drop emission.width) := by
  cases place with
  | text => exact turn_outside emits holds
  | comment => exact turn_in_comment coherent emits holds.1 holds.2
  | tag isDoubled =>
    obtain ⟨inTag, rfl⟩ := holds
    exact turn_in_tag coherent emits inTag
  | string isDoubled quote => exact turn_in_string coherent emits holds

end State

namespace Scanner

variable {scanner : Scanner} {place : Place}

theorem turn_advance (coherent : scanner.state.IsCoherent) (more : scanner.rest ≠ [])
    (holds : place.Holds scanner.state scanner.rest) :
    ∃ next : Place, Turn place scanner.advance.1.kind scanner.advance.1.text next ∧
      next.Holds scanner.advance.2.state scanner.advance.2.rest := by
  obtain ⟨head, tail, shape⟩ := List.exists_cons_of_ne_nil more
  obtain ⟨settled, origin, emits⟩ := scanner.state.emission_settled (scanner.viewOf head tail)
  have here : settled.IsCoherent ∧ place.Holds settled scanner.rest := by
    rcases origin with rfl | shift
    · exact ⟨coherent, holds⟩
    · exact ⟨shift.isCoherent coherent, shift.holds holds⟩
  obtain ⟨settledCoherent, settledHolds⟩ := here
  rw [shape] at settledHolds
  rw [advance_of_rest shape]
  simp only [take, shape]
  exact State.turn_of_emits settledCoherent emits settledHolds

theorem leads_drain (coherent : scanner.state.IsCoherent)
    (holds : place.Holds scanner.state scanner.rest) :
    ∃ last : Place, Leads place scanner.drain.1 last ∧ last.Holds scanner.drain.2.state [] := by
  induction scanner using drain_induction generalizing place with
  | ended scanner empty =>
    rw [drain_at_end empty]
    rw [empty] at holds
    exact ⟨place, .nil, holds⟩
  | more scanner nonempty ih =>
    obtain ⟨next, turn, reached⟩ := turn_advance coherent nonempty holds
    obtain ⟨last, leads, ended⟩ := ih (isCoherent_advance coherent) reached
    rw [drain_of_rest nonempty]
    exact ⟨last, .cons turn leads, ended⟩

end Scanner

/-- Strings and doc comments do not go on to the end of the source. -/
theorem Place.Holds.at_end {state : State} {place : Place} (holds : place.Holds state []) :
    place = .text ∨ ∃ isDoubled, place = .tag isDoubled := by
  cases place with
  | text => exact .inl rfl
  | comment =>
    refine absurd ?_ holds.2
    intro closes
    cases List.infix_nil.mp closes
  | tag isDoubled => exact .inr ⟨isDoubled, rfl⟩
  | string isDoubled quote => cases holds.ahead

theorem leads_tokenize (source : Text) :
    ∃ last, Leads .text (tokenize source) last ∧
      (last = .text ∨ ∃ isDoubled, last = .tag isDoubled) := by
  have coherent : (Scanner.ofRange source 0 source.byteSize .templateText).state.IsCoherent :=
    State.isCoherent_initial .templateText
  have starts : Place.text.Holds (Scanner.ofRange source 0 source.byteSize .templateText).state
      (Scanner.ofRange source 0 source.byteSize .templateText).rest := .inl rfl
  obtain ⟨last, leads, holds⟩ := Scanner.leads_drain coherent starts
  exact ⟨last, leads, holds.at_end⟩

end Scan

end ClosureTemplate
