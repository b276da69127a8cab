import ClosureTemplate.Proofs.Scan.Comment
import ClosureTemplate.Proofs.Scan.DocLexeme

/-!
What tokens look like and what they leave to be read. The tokens that open and close tags are
spelled with the braces of their tag, and a string or a doc comment is opened only if the text
behind it closes it (`move_spells`); reading on inside of it keeps that in sight
(`scanString_seesEnd`, `scanDocComment_seesEnd`).
-/

namespace ClosureTemplate

def braces (isDoubled : Bool) (brace : Char) : Text :=
  if isDoubled then [brace, brace] else [brace]

namespace Kind

def opensTag : Kind → Bool
  | .tagOpen | .endTagOpen => true
  | _ => false

def closesTag : Kind → Bool
  | .tagClose | .tagSelfClose => true
  | _ => false

def delimiter? (isDoubled : Bool) : Kind → Option Text
  | .tagOpen => some (braces isDoubled '{')
  | .endTagOpen => some (braces isDoubled '{' ++ ['/'])
  | .tagClose => some (braces isDoubled '}')
  | .tagSelfClose => some ('/' :: braces isDoubled '}')
  | _ => none

def isStringBody : Kind → Bool
  | .stringText | .stringEscape | .badStringEscape | .stringParameterRef => true
  | _ => false

def isMark : Kind → Bool
  | .tagOpen | .endTagOpen | .tagClose | .tagSelfClose | .lbrace | .rbrace | .stringBegin
  | .docBegin => true
  | _ => false

end Kind

namespace Scan

open Text

theorem textLexeme_tagOpen {c : Char} {cs : Text} {isDoubled isClosing : Bool} {width : Nat}
    (reads : textLexeme c cs = (.tagOpen isDoubled isClosing, width)) :
    (c :: cs).take width = braces isDoubled '{' ++ if isClosing then ['/'] else [] := by
  unfold textLexeme at reads
  split at reads <;> try cases reads
  · rfl
  · rfl
  · rfl
  · rfl
  · split at reads <;> cases reads

def isQuote (c : Char) : Bool := c == '\'' || c == '"'

def TagLexeme.Spells (c : Char) (cs : Text) : TagLexeme → Prop
  | .rbrace => c = '}'
  | .slashRbrace => c = '/' ∧ cs.head? = some '}'
  | .quote terminator => c = terminator ∧ isQuote terminator = true
  | .operator kind => kind.isMark = false
  | _ => True

def AttributeLexeme.Spells (c : Char) (cs : Text) : AttributeLexeme → Prop
  | .rbrace => c = '}'
  | .slashRbrace => c = '/' ∧ cs.head? = some '}'
  | .quote terminator => c = terminator ∧ isQuote terminator = true
  | _ => True

theorem tagLexeme?_spells {c : Char} {cs : Text} {lexeme : TagLexeme} {width : Nat}
    (matched : tagLexeme? c cs = some (lexeme, width)) : lexeme.Spells c cs := by
  rcases tagLexeme?_cases matched with classed | mark
  · simp only [List.mem_cons, List.not_mem_nil, or_false] at classed
    rcases classed with rfl | rfl | rfl | rfl | rfl | rfl <;> trivial
  · unfold punctuation? at mark
    split at mark <;> cases mark <;> simp [TagLexeme.Spells, Kind.isMark, isQuote]

theorem attributeLexeme?_spells {c : Char} {cs : Text} {lexeme : AttributeLexeme} {width : Nat}
    (matched : attributeLexeme? c cs = some (lexeme, width)) : lexeme.Spells c cs := by
  unfold attributeLexeme? at matched
  split at matched
  · cases matched
    trivial
  split at matched
  · cases matched
    trivial
  split at matched <;> cases matched <;> simp [AttributeLexeme.Spells, isQuote]

namespace State

/-- A token and the text behind it, as they have to be for its kind. -/
structure IsSpelled (state : State) (kind : Kind) (text rest : Text) (after : State) : Prop where
  opening : kind.opensTag = true → kind.delimiter? after.tag.isDoubled = some text
  closing : kind.closesTag = true → kind.delimiter? state.tag.isDoubled = some text
  brace : kind = .lbrace ∨ kind = .rbrace → state.tag.isDoubled = true
  quote : kind = .stringBegin → text = [after.quote.terminator] ∧
    isQuote after.quote.terminator = true ∧ terminates after.quote.terminator rest = true
  doc : kind = .docBegin → ¬Doc.IsOpen rest

def Spells (state : State) (view : View) (emission : Emission) : Prop :=
  IsSpelled state emission.kind (view.rest.take emission.width) (view.rest.drop emission.width)
    emission.state

variable {state : State} (view : View)

theorem spells_of_unmarked {emission : Emission} (unmarked : emission.kind.isMark = false) :
    state.Spells view emission where
  opening opens := by
    revert unmarked opens
    cases emission.kind <;> simp [Kind.isMark, Kind.opensTag]
  closing closes := by
    revert unmarked closes
    cases emission.kind <;> simp [Kind.isMark, Kind.closesTag]
  brace isBrace := by rcases isBrace with same | same <;> rw [same] at unmarked <;> cases unmarked
  quote same := by rw [same] at unmarked; cases unmarked
  doc same := by rw [same] at unmarked; cases unmarked

theorem openTag_spells {isDoubled isClosing : Bool} {width : Nat}
    (reads : textLexeme view.head view.tail = (.tagOpen isDoubled isClosing, width)) :
    state.Spells view (state.openTag view isDoubled isClosing width) := by
  have text : view.rest.take width = _ := textLexeme_tagOpen reads
  unfold Spells openTag
  dsimp only
  cases isClosing
  · refine ⟨fun _ => ?_, nofun, nofun, nofun, nofun⟩
    rw [text]
    exact congrArg some (List.append_nil _).symm
  · refine ⟨fun _ => ?_, nofun, nofun, nofun, nofun⟩
    rw [text]
    rfl

theorem blockComment_spells : state.Spells view (state.blockComment view) := by
  unfold blockComment
  split <;> exact spells_of_unmarked view rfl

theorem openDoc_spells : state.Spells view (state.openDoc view) := by
  unfold openDoc
  split
  · exact spells_of_unmarked view rfl
  split
  · exact spells_of_unmarked view rfl
  · next closed =>
    refine ⟨nofun, nofun, nofun, nofun, fun _ isOpen => ?_⟩
    rw [Option.isNone_iff_eq_none] at closed
    obtain ⟨body, found⟩ := Option.ne_none_iff_exists'.mp closed
    obtain ⟨after, split⟩ := before?_eq_some found
    exact isOpen ⟨body, after, split.symm⟩

theorem scanTemplateText_spells : state.Spells view (state.scanTemplateText view) := by
  unfold scanTemplateText
  dsimp only
  split
  · next shape => exact openTag_spells view (Prod.ext shape rfl)
  · exact spells_of_unmarked view rfl
  · exact blockComment_spells view
  · exact openDoc_spells view
  · split <;> exact spells_of_unmarked view rfl
  · exact spells_of_unmarked view rfl
  · exact spells_of_unmarked view rfl

theorem openString_spells {terminator : Char} (inAttribute : Bool)
    (spelled : view.head = terminator ∧ isQuote terminator = true) :
    state.Spells view (state.openString view terminator inAttribute) := by
  unfold openString
  split
  · next closed =>
    refine ⟨nofun, nofun, nofun, fun _ => ⟨?_, spelled.2, closed⟩, nofun⟩
    rw [← spelled.1]
    rfl
  · exact spells_of_unmarked view rfl

theorem closeTag_spells (isSelfClosing : Bool) {width : Nat}
    (text : view.rest.take width =
      (if isSelfClosing then ['/'] else []) ++ braces state.tag.isDoubled '}') :
    state.Spells view
      (state.closeTag (if isSelfClosing then .tagSelfClose else .tagClose) width) := by
  unfold Spells closeTag
  dsimp only
  rw [text]
  cases isSelfClosing
  · exact ⟨nofun, fun _ => rfl, nofun, nofun, nofun⟩
  · exact ⟨nofun, fun _ => rfl, nofun, nofun, nofun⟩

theorem closeBrace_spells (isSelfClosing : Bool)
    (shape : ∃ cs, view.rest = (if isSelfClosing then ['/'] else []) ++ '}' :: cs) :
    state.Spells view (state.closeBrace view isSelfClosing) := by
  obtain ⟨cs, shape⟩ := shape
  have behind : view.rest.drop (if isSelfClosing then 2 else 1) = cs := by
    rw [shape]
    cases isSelfClosing <;> rfl
  unfold closeBrace
  dsimp only
  -- a tag of two braces is closed by two only; a single one is a token of its own
  by_cases doubled : state.tag.isDoubled = true
  · rw [if_pos doubled, behind]
    by_cases another : cs.head? = some '}'
    · rw [if_pos another]
      obtain ⟨rest, rfl⟩ := List.head?_eq_some_iff.mp another
      apply closeTag_spells
      rw [shape, doubled]
      cases isSelfClosing <;> rfl
    · rw [if_neg another]
      cases isSelfClosing
      · exact ⟨nofun, nofun, fun _ => doubled, nofun, nofun⟩
      · exact spells_of_unmarked view rfl
  · rw [if_neg doubled]
    apply closeTag_spells
    rw [shape, Bool.eq_false_iff.mpr doubled]
    cases isSelfClosing <;> rfl

theorem lbrace_spells (width : Nat) :
    state.Spells view (if state.tag.isDoubled then { kind := .lbrace, width, state }
      else state.reopenTag view) := by
  split
  · next doubled => exact ⟨nofun, nofun, fun _ => doubled, nofun, nofun⟩
  · exact spells_of_unmarked view rfl

theorem rbrace_spells (spelled : view.head = '}') :
    state.Spells view (state.closeBrace view false) :=
  closeBrace_spells view false ⟨view.tail, by rw [View.rest, spelled]; rfl⟩

theorem slashRbrace_spells (spelled : view.head = '/' ∧ view.tail.head? = some '}') :
    state.Spells view (state.closeBrace view true) := by
  obtain ⟨cs, shape⟩ := List.head?_eq_some_iff.mp spelled.2
  exact closeBrace_spells view true ⟨cs, by rw [View.rest, spelled.1, shape]; rfl⟩

theorem scanAttributes_spells : state.Spells view (state.scanAttributes view) := by
  unfold scanAttributes
  split
  · exact spells_of_unmarked view rfl
  · exact spells_of_unmarked view rfl
  · exact spells_of_unmarked view rfl
  · split <;> exact spells_of_unmarked view rfl
  · next matched => exact openString_spells view true (attributeLexeme?_spells matched)
  · exact lbrace_spells view _
  · next matched => exact rbrace_spells view (attributeLexeme?_spells matched)
  · next matched => exact slashRbrace_spells view (attributeLexeme?_spells matched)
  · exact spells_of_unmarked view rfl

theorem keyword?_unmarked {word : List Char} {kind : Kind}
    (known : Kind.keyword? word = some kind) : kind.isMark = false := by
  have all : ∀ entry ∈ Kind.keywords, entry.2.isMark = false := by decide
  exact all _ (mem_of_lookup known)

theorem expressionWord_spells (width : Nat) :
    state.Spells view (state.expressionWord view width) := by
  unfold expressionWord
  dsimp only
  split
  · exact spells_of_unmarked view rfl
  · next known => exact spells_of_unmarked view (keyword?_unmarked known)
  · exact spells_of_unmarked view (by dsimp only; split <;> rfl)

theorem integerLiteral_spells (radix : Nat) (digits : Text) (width : Nat) :
    state.Spells view (state.integerLiteral radix digits width) := by
  unfold integerLiteral
  split <;> exact spells_of_unmarked view rfl

theorem scanExpression_spells : state.Spells view (state.scanExpression view) := by
  unfold scanExpression
  split
  · exact spells_of_unmarked view rfl
  · exact expressionWord_spells view _
  · exact spells_of_unmarked view rfl
  · exact integerLiteral_spells view _ _ _
  · exact integerLiteral_spells view _ _ _
  · exact spells_of_unmarked view rfl
  · next matched => exact spells_of_unmarked view (tagLexeme?_spells matched)
  · exact spells_of_unmarked view (by dsimp only; split <;> rfl)
  · exact spells_of_unmarked view (by dsimp only; split <;> rfl)
  · exact spells_of_unmarked view rfl
  · next matched => exact openString_spells view false (tagLexeme?_spells matched)
  · exact lbrace_spells view _
  · next matched => exact rbrace_spells view (tagLexeme?_spells matched)
  · next matched => exact slashRbrace_spells view (tagLexeme?_spells matched)
  · exact spells_of_unmarked view rfl

theorem unmarked_of_mode {mode : Mode}
    (other : mode ≠ .templateText ∧ mode ≠ .attributes ∧ mode ≠ .expression) :
    ∀ kind ∈ mode.kinds, kind.isMark = false := by
  revert other
  cases mode <;> decide

theorem move_spells {emission : Emission} (emits : state.move view = .emit emission) :
    state.Spells view emission := by
  by_cases other : state.mode ≠ .templateText ∧ state.mode ≠ .attributes ∧ state.mode ≠ .expression
  · have listed := (steps_of_emits view emits).kind_mem
    exact spells_of_unmarked view (unmarked_of_mode other _ listed)
  · unfold move at emits
    split at emits
    case h_1 =>
      cases emits
      exact scanTemplateText_spells view
    case h_3 =>
      cases emits
      exact scanExpression_spells view
    case h_5 =>
      cases emits
      exact scanAttributes_spells view
    all_goals
      next mode => simp [mode] at other

theorem terminates_cons {terminator c : Char} {cs : Text} (plain : c ≠ '\\') :
    terminates terminator (c :: cs) =
      if c = '\n' then false else if c = terminator then true else terminates terminator cs := by
  rw [terminates]
  · exact fun same => absurd same plain
  · exact fun _ _ same => absurd same plain

def IsInnocent (terminator c : Char) : Prop := c ≠ '\\' ∧ c ≠ '\n' ∧ c ≠ terminator

/-- Text on one line without a bare terminator: a string goes on behind it. -/
inductive IsPassed (terminator : Char) : Text → Prop
  | nil : IsPassed terminator []
  | plain {c : Char} {text : Text} (innocent : IsInnocent terminator c)
      (passed : IsPassed terminator text) : IsPassed terminator (c :: text)
  | escaped {c : Char} {text : Text} (sameLine : c ≠ '\n') (passed : IsPassed terminator text) :
      IsPassed terminator ('\\' :: c :: text)

theorem isPassed_of_innocent {terminator : Char} {text : Text}
    (innocent : ∀ c ∈ text, IsInnocent terminator c) : IsPassed terminator text := by
  induction text with
  | nil => exact .nil
  | cons c cs ih =>
    exact .plain (innocent c List.mem_cons_self)
      (ih fun d member => innocent d (List.mem_cons_of_mem _ member))

theorem terminates_append {terminator : Char} {text rest : Text}
    (passed : IsPassed terminator text) :
    terminates terminator (text ++ rest) = terminates terminator rest := by
  induction passed with
  | nil => rfl
  | plain innocent _ ih =>
    obtain ⟨notBackslash, notNewline, notTerminator⟩ := innocent
    rw [List.cons_append, terminates_cons notBackslash, if_neg notNewline, if_neg notTerminator]
    exact ih
  | escaped sameLine _ ih =>
    rw [List.cons_append, List.cons_append, terminates, if_neg sameLine]
    exact ih

def isStringPart (c : Char) : Bool := isStringText c || c == '$'

theorem isInnocent_of_isStringPart {terminator c : Char} (quote : isQuote terminator = true)
    (part : isStringPart c = true) : IsInnocent terminator c := by
  refine ⟨?_, ?_, ?_⟩ <;> rintro rfl
  · cases part
  · cases part
  · simp only [isQuote, Bool.or_eq_true, beq_iff_eq] at quote
    rcases quote with rfl | rfl <;> cases part

theorem isStringPart_of_test {test : Char → Bool}
    (excludes : ['\'', '"', '\\', '\n'].any test = false) {c : Char}
    (passes : test c = true) : isStringPart c = true := by
  apply Decidable.byContradiction
  intro special
  have listed : c ∈ ['\'', '"', '\\', '\n'] := by
    simp only [isStringPart, isStringText, Bool.or_eq_true, Bool.not_eq_true', beq_iff_eq, not_or,
      Bool.not_eq_false] at special
    rcases special with ⟨(((rfl | rfl) | rfl) | rfl) | rfl, notDollar⟩
    case inr => exact absurd rfl notDollar
    all_goals simp
  exact List.any_eq_false.mp excludes c listed passes

theorem stringLexeme?_cases {c : Char} {cs : Text} {lexeme : StringLexeme} {width : Nat}
    (matched : stringLexeme? c cs = some (lexeme, width)) :
    (lexeme = .quote c ∧ width = 1 ∧ isQuote c = true) ∨
      (lexeme = .escape ∧ c = '\\' ∧ ∃ d ds, cs = d :: ds ∧ d ≠ '\n') ∨
      ((lexeme = .variable ∨ lexeme = .text) ∧
        ∀ d ∈ (c :: cs).take width, isStringPart d = true) := by
  have single (only : width = 1) (part : isStringPart c = true) :
      ∀ d ∈ (c :: cs).take width, isStringPart d = true := by
    rw [only]
    intro d member
    rw [List.mem_singleton.mp member]
    exact part
  unfold stringLexeme? at matched
  split at matched
  · cases matched
    exact .inl ⟨rfl, rfl, rfl⟩
  · cases matched
    exact .inl ⟨rfl, rfl, rfl⟩
  · unfold variableLexeme? at matched
    split at matched
    · cases matched
      exact .inr (.inr ⟨.inr rfl, single rfl rfl⟩)
    · cases matched
      refine .inr (.inr ⟨.inl rfl, ?_⟩)
      rw [Nat.add_comm, List.take_succ_cons]
      intro d member
      rcases List.mem_cons.mp member with rfl | later
      · rfl
      · exact isStringPart_of_test rfl (all_take_identifierLength _ d later)
  · next d ds =>
    split at matched
    · cases matched
    · next notNewline =>
      cases matched
      exact .inr (.inl ⟨rfl, rfl, d, ds, rfl, notNewline⟩)
  · cases matched
  · cases matched
  · next noSingle noDouble noDollar noNewline noEscape noLone =>
    cases matched
    have noBackslash : c ≠ '\\' := by
      intro backslash
      cases cs with
      | nil => exact noLone backslash rfl
      | cons d ds => exact noEscape d ds backslash rfl
    refine .inr (.inr ⟨.inr rfl, ?_⟩)
    rw [Nat.add_comm, List.take_succ_cons, take_run]
    intro d member
    rcases List.mem_cons.mp member with rfl | later
    · simp [isStringPart, isStringText, beq_eq_false_iff_ne.mpr noSingle,
        beq_eq_false_iff_ne.mpr noDouble, beq_eq_false_iff_ne.mpr noNewline,
        beq_eq_false_iff_ne.mpr noDollar, noBackslash]
    · have text : isStringText d = true := List.all_eq_true.mp List.all_takeWhile d later
      rw [isStringPart, text]
      rfl

theorem stringLexeme?_none {terminator c : Char} {cs : Text}
    (unmatched : stringLexeme? c cs = none) : terminates terminator (c :: cs) = false := by
  unfold stringLexeme? at unmatched
  split at unmatched <;> try cases unmatched
  · next d ds =>
    split at unmatched
    · next newline =>
      rw [newline]
      rfl
    · cases unmatched
  · rfl
  · rfl

/-- A token inside of a string that leaves the scan inside of it. -/
structure ReadsPart (terminator : Char) (view : View) (state : State) (emission : Emission) :
    Prop where
  kind : emission.kind.isStringBody = true
  reference : emission.kind = .stringParameterRef → state.quote.inAttribute = true
  state : emission.state = state
  passed : IsPassed terminator (view.rest.take emission.width)

theorem ReadsPart.ahead {terminator : Char} {view : View} {state : State} {emission : Emission}
    (reads : ReadsPart terminator view state emission)
    (ahead : terminates terminator view.rest = true) :
    terminates terminator (view.rest.drop emission.width) = true := by
  rw [← List.take_append_drop emission.width view.rest, terminates_append reads.passed] at ahead
  exact ahead

theorem stringEscape_readsPart {terminator c : Char} {cs : Text}
    (quote : isQuote terminator = true) (backslash : view.head = '\\')
    (shape : view.tail = c :: cs) (sameLine : c ≠ '\n') :
    ReadsPart terminator view state (state.stringEscape view) := by
  have front (count : Nat) : view.rest.take (count + 2) = '\\' :: c :: cs.take count := by
    rw [View.rest, backslash, shape, List.take_succ_cons, List.take_succ_cons]
  have two : IsPassed terminator (view.rest.take 2) := by
    rw [front 0, List.take_zero]
    exact .escaped sameLine .nil
  unfold stringEscape
  split
  · next digits same =>
    obtain ⟨rfl, rfl⟩ := List.cons.inj (shape.symm.trans same)
    split
    · next four =>
      refine ⟨rfl, by simp, rfl, ?_⟩
      have hex : ∀ d ∈ cs.take 4, isHexDigit d = true :=
        all_of_run (four.symm ▸ List.length_take_le ..)
      have innocent : ∀ d ∈ cs.take 4, IsInnocent terminator d := fun d member =>
        isInnocent_of_isStringPart quote (isStringPart_of_test rfl (hex d member))
      dsimp only
      rw [front 4]
      exact .escaped sameLine (isPassed_of_innocent innocent)
    · exact ⟨rfl, by simp, rfl, two⟩
  · split
    · exact ⟨rfl, by simp, rfl, two⟩
    · exact ⟨rfl, by simp, rfl, two⟩
  · next empty =>
    rw [shape] at empty
    cases empty

/-- Inside of a string whose end is ahead the next token is that end or a part of the string. -/
theorem scanString_seesEnd (quote : isQuote state.quote.terminator = true)
    (ahead : terminates state.quote.terminator view.rest = true) :
    ((state.scanString view).kind = .stringEnd ∧
        view.rest.take (state.scanString view).width = [state.quote.terminator]) ∨
      ReadsPart state.quote.terminator view state (state.scanString view) := by
  have parts {lexeme : StringLexeme} {width : Nat}
      (matched : stringLexeme? view.head view.tail = some (lexeme, width))
      (plain : lexeme = .variable ∨ lexeme = .text) :
      IsPassed state.quote.terminator (view.rest.take width) := by
    obtain ⟨rfl, -⟩ | ⟨rfl, -⟩ | ⟨-, all⟩ := stringLexeme?_cases matched
    · rcases plain with plain | plain <;> cases plain
    · rcases plain with plain | plain <;> cases plain
    · exact isPassed_of_innocent fun c member => isInnocent_of_isStringPart quote (all c member)
  unfold scanString
  split
  · next found width matched =>
    obtain ⟨same, rfl, isQuote⟩ | ⟨escape, -⟩ | ⟨other, -⟩ := stringLexeme?_cases matched
    · obtain rfl := StringLexeme.quote.inj same
      split
      · next closes => exact .inl ⟨rfl, by rw [← closes]; rfl⟩
      · next notTerminator =>
        refine .inr ⟨rfl, nofun, rfl, isPassed_of_innocent fun c member => ?_⟩
        rw [List.mem_singleton.mp member]
        refine ⟨?_, ?_, notTerminator⟩ <;> intro same <;> rw [same] at isQuote <;> cases isQuote
    · cases escape
    · rcases other with other | other <;> cases other
  · next matched =>
    refine .inr ⟨?_, ?_, rfl, parts matched (.inl rfl)⟩
    · dsimp only
      split <;> rfl
    · dsimp only
      split
      · next inAttribute => exact fun _ => inAttribute
      · exact nofun
  · next matched =>
    obtain ⟨same, -⟩ | ⟨-, backslash, c, cs, shape, notNewline⟩ | ⟨other, -⟩ :=
      stringLexeme?_cases matched
    · cases same
    · exact .inr (stringEscape_readsPart view quote backslash shape notNewline)
    · rcases other with other | other <;> cases other
  · next matched => exact .inr ⟨rfl, nofun, rfl, parts matched (.inr rfl)⟩
  · next unmatched =>
    rw [View.rest, stringLexeme?_none unmatched] at ahead
    cases ahead

theorem scanDocComment_seesEnd (closed : ¬Doc.IsOpen view.rest) :
    (state.scanDocComment view).kind = .docEnd ∨
      ¬Doc.IsOpen (view.rest.drop (state.scanDocComment view).width) := by
  rw [scanDocComment_kind, scanDocComment_width]
  by_cases close : (docLexeme view.head view.tail).1 = .close
  · rw [close]
    exact .inl rfl
  · refine .inr fun isOpen => closed ?_
    have width : (view.rest.take (docLexeme view.head view.tail).2).length =
        (docLexeme view.head view.tail).2 :=
      List.length_take_of_le (docLexeme_le view.head view.tail)
    have shape := isDocLexeme_of_docLexeme (List.take_append_drop _ view.rest)
      (Prod.ext rfl width.symm) close
    rw [← List.take_append_drop (docLexeme view.head view.tail).2 view.rest]
    rcases shape.star_notMem with ⟨star, unclosed⟩ | noStar
    · rw [star, List.singleton_append, isOpen_cons_iff]
      exact ⟨fun closes => unclosed closes.2, isOpen⟩
    · exact isOpen_append noStar isOpen

end State

end Scan

end ClosureTemplate
