import ClosureTemplate.Proofs.Scan.Width

/-!
What one token can do to the state of a scan. `Transition` names every possibility once, with the
mode it belongs to, and `Shift` every change of mode that takes no text; a step is at most one
shift and then one transition (`emission_settles`). Facts about runs are derived from these two
relations and do not look into the modes again.
-/

namespace ClosureTemplate.Scan

/-- The kinds that a mode emits without any effect on the state. -/
def Mode.keptKinds : Mode → List Kind
  | .templateText =>
    [.strayBrace, .comment, .unterminatedComment, .lineComment, .templateText, .blank]
  | .expression =>
    [.blank, .notWord, .andWord, .orWord, .inWord, .booleanLiteral, .nullLiteral, .identifier,
      .functionIdentifier, .integerLiteral, .invalidInteger, .floatLiteral, .equal, .notEqual,
      .lessEqual, .greaterEqual, .less, .greater, .plus, .minus, .times, .divide, .modulo, .elvis,
      .questionDot, .question, .lparen, .rparen, .lbracket, .rbracket, .dot, .assign, .colon,
      .directiveColon, .comma, .directiveComma, .lbrace, .rbrace, .unterminatedString,
      .badCharacter]
  | .name | .directive => [.blank]
  | .attributes =>
    [.blank, .identifier, .assign, .lbrace, .rbrace, .divide, .unterminatedString, .badCharacter]
  | .stringLiteral =>
    [.stringText, .stringParameterRef, .stringEscape, .badStringEscape, .badCharacter]
  | .literal => [.unterminatedLiteral]
  | .tagCommand | .docComment => []

namespace State

/-- A change of mode that takes no text. -/
inductive Shift : State → State → Prop
  | commandless {state : State} (mode : state.mode = .tagCommand) :
      Shift state (state.enter (if state.tag.isClosing then .attributes else .expression))
  | nameless {state : State} (mode : state.mode = .name) : Shift state (state.enter .attributes)
  | undirected {state : State} (mode : state.mode = .directive) :
      Shift state (state.enter .expression)
  | literalEnded {state : State} (mode : state.mode = .literal) :
      Shift state (state.enter .templateText)

/-- A token with its kind, its text and the line it starts on takes one state to the next. -/
inductive Transition : State → Kind → Text → Nat → State → Prop
  | kept {state : State} {kind : Kind} {text : Text} {line : Nat}
      (keeps : kind ∈ state.mode.keptKinds) : Transition state kind text line state
  | tagOpened {state : State} {text : Text} {line : Nat} (isDoubled isClosing : Bool)
      (mode : state.mode = .templateText) :
      Transition state (if isClosing then .endTagOpen else .tagOpen) text line
        { state.push .tagCommand with tag := { isClosing, isDoubled }, tagLine := line }
  | docOpened {state : State} {text : Text} {line : Nat} (mode : state.mode = .templateText) :
      Transition state .docBegin text line
        { state.push .docComment with doc := state.doc.reset, docActive := true }
  | literalRead {state : State} {text : Text} {line : Nat} (mode : state.mode = .literal) :
      Transition state .literalText text line (state.enter .templateText)
  | commanded {state : State} {kind : Kind} {text : Text} {line : Nat} (width : Nat)
      (mode : state.mode = .tagCommand) (known : Kind.command? text = some kind) :
      Transition state kind text line (state.commandWord kind width).state
  | miscommanded {state : State} {text : Text} {line : Nat} (mode : state.mode = .tagCommand)
      (closing : state.tag.isClosing = true) :
      Transition state .illegalCloseTag text line (state.enter .attributes)
  | escaped {state : State} {text : Text} {line : Nat} (mode : state.mode = .tagCommand)
      (opening : state.tag.isClosing = false) :
      Transition state .specialChar text line
        { state.enter .attributes with tag := { state.tag with command := some .specialChar } }
  | named {state after : State} {kind : Kind} {text : Text} {line : Nat} (lexeme : NameLexeme)
      (mode : state.mode = .name) (declares : state.nameOf lexeme text line = some (kind, after)) :
      Transition state kind text line (after.enter .attributes)
  | valued {state : State} {text : Text} {line : Nat} (mode : state.mode = .attributes)
      (command : state.tag.command = some .paramWord ∨ state.tag.command = some .letWord) :
      Transition state .colon text line (state.enter .expression)
  | quoted {state : State} {text : Text} {line : Nat} (terminator : Char) (inAttribute : Bool)
      (mode : state.mode = if inAttribute then .attributes else .expression) :
      Transition state .stringBegin text line
        { state.push .stringLiteral with quote := { terminator, inAttribute } }
  | reopened {state : State} {text : Text} {line : Nat}
      (mode : state.mode = .attributes ∨ state.mode = .expression)
      (single : state.tag.isDoubled = false) :
      Transition state .unterminatedTag text line
        { state.enter .tagCommand with tag := {}, tagLine := line }
  | closed {state : State} {kind : Kind} {text : Text} {line : Nat} (width : Nat)
      (mode : state.mode = .attributes ∨ state.mode = .expression)
      (closes : kind = .tagClose ∨ kind = .tagSelfClose) :
      Transition state kind text line (state.closeTag kind width).state
  | directed {state : State} {text : Text} {line : Nat} (mode : state.mode = .directive) :
      Transition state .directiveIdentifier text line (state.enter .expression)
  | piped {state : State} {text : Text} {line : Nat} (mode : state.mode = .expression) :
      Transition state .directivePipe text line
        { state.enter .directive with tag := { state.tag with inDirective := true } }
  | referred {state : State} {text : Text} {line : Nat} (mode : state.mode = .expression) :
      Transition state .parameterRef text line (state.referParameter (text.drop 1))
  | unquoted {state : State} {text : Text} {line : Nat} (mode : state.mode = .stringLiteral) :
      Transition state .stringEnd text line { state.pop with quote := {} }
  | docClosed {state : State} {text : Text} {line : Nat} (mode : state.mode = .docComment) :
      Transition state .docEnd text line { state.pop with doc := state.doc.close }
  | docWord {state : State} {text : Text} {line : Nat} (mode : state.mode = .docComment) :
      Transition state (docKind .word text state.doc.anticipating.1) text line
        { state with doc := state.doc.anticipating.2.append text }
  | docRead {state : State} {text : Text} {line : Nat} (lexeme : DocLexeme)
      (mode : state.mode = .docComment) (body : lexeme ≠ .close ∧ lexeme ≠ .word) :
      Transition state (docKind lexeme text false) text line
        { state with doc := state.doc.append text }

/-- The loop behind one token: modes give way to each other, `silent` times in a row, until one
of them emits. -/
inductive Settles (view : View) : State → Nat → Emission → Prop
  | emits {state : State} {emission : Emission} (emits : state.move view = .emit emission) :
      Settles view state 0 emission
  | shifts {state : State} {mode : Mode} {silent : Nat} {emission : Emission}
      (shifts : state.move view = .shift mode)
      (settles : Settles view (state.enter mode) silent emission) :
      Settles view state (silent + 1) emission

def Steps (state : State) (view : View) (emission : Emission) : Prop :=
  Transition state emission.kind (view.rest.take emission.width) view.line emission.state

variable {state : State} (view : View)

theorem steps_of_kept {mode : Mode} {kind : Kind} (width : Nat) (current : state.mode = mode)
    (listed : kind ∈ mode.keptKinds) : state.Steps view { kind, width, state } :=
  .kept (current ▸ listed)

theorem blockComment_steps (mode : state.mode = .templateText) :
    state.Steps view (state.blockComment view) := by
  unfold blockComment
  split <;> exact steps_of_kept view _ mode (by decide)

theorem openDoc_steps (mode : state.mode = .templateText) :
    state.Steps view (state.openDoc view) := by
  unfold openDoc
  split
  · exact steps_of_kept view _ mode (by decide)
  split
  · exact steps_of_kept view _ mode (by decide)
  · exact .docOpened mode

theorem scanTemplateText_steps (mode : state.mode = .templateText) :
    state.Steps view (state.scanTemplateText view) := by
  unfold scanTemplateText
  dsimp only
  split
  · exact .tagOpened _ _ mode
  · exact steps_of_kept view _ mode (by decide)
  · exact blockComment_steps view mode
  · exact openDoc_steps view mode
  · split
    · exact steps_of_kept view _ mode (by decide)
    · exact steps_of_kept view _ mode (by decide)
  · exact steps_of_kept view _ mode (by decide)
  · exact steps_of_kept view _ mode (by decide)

theorem scanDocComment_steps (mode : state.mode = .docComment) :
    state.Steps view (state.scanDocComment view) := by
  unfold scanDocComment
  dsimp only
  split
  · exact .docClosed mode
  · exact .docWord mode
  · next lexeme notClose notWord => exact .docRead _ mode ⟨notClose, notWord⟩

theorem openString_steps (terminator : Char) (inAttribute : Bool)
    (mode : state.mode = if inAttribute then .attributes else .expression) :
    state.Steps view (state.openString view terminator inAttribute) := by
  unfold openString
  split
  · exact .quoted terminator inAttribute mode
  · exact steps_of_kept view _ mode (by cases inAttribute <;> decide)

theorem closeBrace_steps (isSelfClosing : Bool)
    (mode : state.mode = .attributes ∨ state.mode = .expression) :
    state.Steps view (state.closeBrace view isSelfClosing) := by
  have closes : (if isSelfClosing then Kind.tagSelfClose else .tagClose) = .tagClose ∨
      (if isSelfClosing then Kind.tagSelfClose else .tagClose) = .tagSelfClose := by
    cases isSelfClosing <;> simp
  unfold closeBrace
  dsimp only
  by_cases doubled : state.tag.isDoubled = true
  · rw [if_pos doubled]
    by_cases another : (view.rest.drop (if isSelfClosing then 2 else 1)).head? = some '}'
    · rw [if_pos another]
      exact .closed _ mode closes
    · rw [if_neg another]
      rcases mode with mode | mode
      · exact steps_of_kept view _ mode (by cases isSelfClosing <;> decide)
      · exact steps_of_kept view _ mode (by cases isSelfClosing <;> decide)
  · rw [if_neg doubled]
    exact .closed _ mode closes

theorem scanAttributes_steps (mode : state.mode = .attributes) :
    state.Steps view (state.scanAttributes view) := by
  unfold scanAttributes
  split
  · exact steps_of_kept view _ mode (by decide)
  · exact steps_of_kept view _ mode (by decide)
  · exact steps_of_kept view _ mode (by decide)
  · split
    · next command => exact .valued mode (by simpa using command)
    · exact steps_of_kept view _ mode (by decide)
  · exact openString_steps view _ true mode
  · split
    · exact steps_of_kept view _ mode (by decide)
    · next single => exact .reopened (.inl mode) (by simpa using single)
  · exact closeBrace_steps view _ (.inl mode)
  · exact closeBrace_steps view _ (.inl mode)
  · exact steps_of_kept view _ mode (by decide)

theorem punctuation?_operator {c : Char} {cs : Text} {kind : Kind} {width : Nat}
    (matched : punctuation? c cs = some (.operator kind, width)) :
    kind ∈ Mode.keptKinds .expression := by
  unfold punctuation? at matched
  split at matched <;> simp at matched
  all_goals
    obtain ⟨rfl, -⟩ := matched
    decide

theorem tagLexeme?_operator {c : Char} {cs : Text} {kind : Kind} {width : Nat}
    (matched : tagLexeme? c cs = some (.operator kind, width)) :
    kind ∈ Mode.keptKinds .expression := by
  rcases tagLexeme?_cases matched with classed | mark
  · simp at classed
  · exact punctuation?_operator mark

theorem mem_of_lookup {table : List (String × Kind)} {word : String} {kind : Kind}
    (found : table.lookup word = some kind) : (word, kind) ∈ table := by
  obtain ⟨before, after, rfl, -⟩ := List.lookup_eq_some_iff.mp found
  exact List.mem_append_right before (List.mem_cons_self ..)

theorem keyword?_kept {word : List Char} {kind : Kind} (known : Kind.keyword? word = some kind) :
    kind ∈ Mode.keptKinds .expression := by
  have all : ∀ entry ∈ Kind.keywords, entry.2 ∈ Mode.keptKinds .expression := by decide
  exact all _ (mem_of_lookup known)

theorem expressionWord_steps (width : Nat) (mode : state.mode = .expression) :
    state.Steps view (state.expressionWord view width) := by
  unfold expressionWord
  dsimp only
  split
  · exact steps_of_kept view _ mode (by decide)
  · next known => exact steps_of_kept view _ mode (keyword?_kept known)
  · exact steps_of_kept view _ mode (by split <;> decide)

theorem integerLiteral_steps (radix : Nat) (digits : Text) (width : Nat)
    (mode : state.mode = .expression) :
    state.Steps view (state.integerLiteral radix digits width) := by
  unfold integerLiteral
  split <;> exact steps_of_kept view _ mode (by decide)

theorem scanExpression_steps (mode : state.mode = .expression) :
    state.Steps view (state.scanExpression view) := by
  unfold scanExpression
  split
  · exact steps_of_kept view _ mode (by decide)
  · exact expressionWord_steps view _ mode
  · exact .referred mode
  · exact integerLiteral_steps view _ _ _ mode
  · exact integerLiteral_steps view _ _ _ mode
  · exact steps_of_kept view _ mode (by decide)
  · next matched => exact steps_of_kept view _ mode (tagLexeme?_operator matched)
  · exact steps_of_kept view _ mode (by split <;> decide)
  · exact steps_of_kept view _ mode (by split <;> decide)
  · exact .piped mode
  · exact openString_steps view _ false mode
  · split
    · exact steps_of_kept view _ mode (by decide)
    · next single => exact .reopened (.inr mode) (by simpa using single)
  · exact closeBrace_steps view _ (.inr mode)
  · exact closeBrace_steps view _ (.inr mode)
  · exact steps_of_kept view _ mode (by decide)

theorem stringEscape_steps (mode : state.mode = .stringLiteral) :
    state.Steps view (state.stringEscape view) := by
  unfold stringEscape
  split
  · split <;> exact steps_of_kept view _ mode (by decide)
  · split <;> exact steps_of_kept view _ mode (by decide)
  · exact steps_of_kept view _ mode (by decide)

theorem scanString_steps (mode : state.mode = .stringLiteral) :
    state.Steps view (state.scanString view) := by
  unfold scanString
  split
  · split
    · exact .unquoted mode
    · exact steps_of_kept view _ mode (by decide)
  · exact steps_of_kept view _ mode (by split <;> decide)
  · exact stringEscape_steps view mode
  · exact steps_of_kept view _ mode (by decide)
  · exact steps_of_kept view _ mode (by decide)

def Moves (state : State) (view : View) : Move → Prop
  | .emit emission => state.Steps view emission
  | .shift mode => Shift state (state.enter mode)

theorem scanLiteral_moves (mode : state.mode = .literal) :
    state.Moves view (state.scanLiteral view) := by
  unfold scanLiteral
  split
  · exact Shift.literalEnded mode
  · exact Transition.literalRead mode
  · exact steps_of_kept view _ mode (by decide)

theorem scanName_moves (mode : state.mode = .name) : state.Moves view (state.scanName view) := by
  unfold scanName
  split
  · exact steps_of_kept view _ mode (by decide)
  · split
    · next declares => exact Transition.named _ mode declares
    · exact Shift.nameless mode
  · exact Shift.nameless mode

theorem scanDirective_moves (mode : state.mode = .directive) :
    state.Moves view (state.scanDirective view) := by
  unfold scanDirective
  split
  · exact steps_of_kept view _ mode (by decide)
  · exact Transition.directed mode
  · exact Shift.undirected mode

theorem commandWord_kind (kind : Kind) (width : Nat) :
    (state.commandWord kind width).kind = kind := by
  unfold commandWord
  dsimp only
  split <;> rfl

theorem scanTagCommand_moves (mode : state.mode = .tagCommand) :
    state.Moves view (state.scanTagCommand view) := by
  have shifts := Shift.commandless mode
  unfold scanTagCommand
  split
  · next width _ =>
    split
    · next kind known =>
      have step : Transition state kind (view.rest.take width) view.line
          (state.commandWord kind width).state := .commanded width mode known
      rw [Moves, Steps, commandWord_kind, commandWord_width]
      exact step
    · by_cases closing : state.tag.isClosing = true
      · rw [if_pos closing]
        exact Transition.miscommanded mode closing
      · rw [if_neg closing] at shifts ⊢
        exact shifts
  · by_cases closing : state.tag.isClosing = true
    · rw [if_pos closing] at shifts ⊢
      exact shifts
    · rw [if_neg closing] at shifts ⊢
      split
      · exact Transition.escaped mode (Bool.eq_false_iff.mpr closing)
      · exact shifts

variable (state)

theorem move_moves : state.Moves view (state.move view) := by
  unfold move
  split
  · next mode => exact scanTemplateText_steps view mode
  · next mode => exact scanTagCommand_moves view mode
  · next mode => exact scanExpression_steps view mode
  · next mode => exact scanName_moves view mode
  · next mode => exact scanAttributes_steps view mode
  · next mode => exact scanDirective_moves view mode
  · next mode => exact scanString_steps view mode
  · next mode => exact scanDocComment_steps view mode
  · next mode => exact scanLiteral_moves view mode

variable {state}

theorem steps_of_emits {emission : Emission} (emits : state.move view = .emit emission) :
    state.Steps view emission := by
  have moves := state.move_moves view
  rw [emits] at moves
  exact moves

theorem shift_of_shifts {mode : Mode} (shifts : state.move view = .shift mode) :
    Shift state (state.enter mode) := by
  have moves := state.move_moves view
  rw [shifts] at moves
  exact moves

theorem Shift.emits {settled : State} (shift : Shift state settled) :
    ∃ emission, settled.move view = .emit emission := by
  cases shift with
  | commandless mode => cases state.tag.isClosing <;> exact ⟨_, rfl⟩
  | nameless mode => exact ⟨_, rfl⟩
  | undirected mode => exact ⟨_, rfl⟩
  | literalEnded mode => exact ⟨_, rfl⟩

variable (state)

/-- The next token comes from the state itself or from the one state it shifts to. -/
theorem emission_settled : ∃ settled, (settled = state ∨ Shift state settled) ∧
    settled.move view = .emit (state.emission view) := by
  unfold emission
  split
  · next emits => exact ⟨state, .inl rfl, emits⟩
  · next mode shifts =>
    have shift := shift_of_shifts view shifts
    obtain ⟨emission, emits⟩ := shift.emits view
    exact ⟨state.enter mode, .inr shift, by rw [emits]⟩

theorem emission_settles :
    ∃ silent, silent ≤ 1 ∧ Settles view state silent (state.emission view) := by
  unfold emission
  split
  · next emits => exact ⟨0, Nat.zero_le 1, .emits emits⟩
  · next mode shifts =>
    obtain ⟨emission, emits⟩ := (shift_of_shifts view shifts).emits view
    exact ⟨1, Nat.le_refl 1, .shifts shifts (.emits (by rw [emits]))⟩

theorem emission_le : (state.emission view).width ≤ view.rest.length := by
  obtain ⟨settled, -, emits⟩ := state.emission_settled view
  exact settled.move_emit_le view emits

theorem emission_steps : ∃ settled, (settled = state ∨ Shift state settled) ∧
    settled.Steps view (state.emission view) := by
  obtain ⟨settled, origin, emits⟩ := state.emission_settled view
  exact ⟨settled, origin, steps_of_emits view emits⟩

theorem keptKinds_ne_eof {mode : Mode} {kind : Kind} (kept : kind ∈ mode.keptKinds) :
    kind ≠ .eof := by
  rintro rfl
  cases mode <;> revert kept <;> decide

theorem command?_ne_eof {word : List Char} {kind : Kind} (known : Kind.command? word = some kind) :
    kind ≠ .eof := by
  have all : ∀ entry ∈ Kind.commands, entry.2 ≠ .eof := by decide
  exact all _ (mem_of_lookup known)

theorem nameOf_ne_eof {state after : State} {lexeme : NameLexeme} {text : Text} {line : Nat}
    {kind : Kind} (declares : state.nameOf lexeme text line = some (kind, after)) :
    kind ≠ .eof := by
  rintro rfl
  unfold nameOf at declares
  split at declares <;> cases declares

theorem docKind_ne_eof (lexeme : DocLexeme) (text : Text) (anticipating : Bool) :
    docKind lexeme text anticipating ≠ .eof := by
  cases lexeme <;> unfold docKind <;> dsimp only <;> try split
  all_goals decide

theorem Transition.kind_ne_eof {state after : State} {kind : Kind} {text : Text} {line : Nat}
    (step : Transition state kind text line after) : kind ≠ .eof := by
  cases step with
  | kept keeps => exact keptKinds_ne_eof keeps
  | tagOpened isDoubled isClosing => cases isClosing <;> decide
  | commanded _ _ known => exact command?_ne_eof known
  | named _ _ declares => exact nameOf_ne_eof declares
  | closed _ _ closes => rcases closes with rfl | rfl <;> decide
  | docWord => exact docKind_ne_eof _ _ _
  | docRead => exact docKind_ne_eof _ _ _
  | _ => decide

theorem emission_kind_ne_eof : (state.emission view).kind ≠ .eof := by
  obtain ⟨settled, -, step⟩ := state.emission_steps view
  exact step.kind_ne_eof

end State

end ClosureTemplate.Scan
