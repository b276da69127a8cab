import ClosureTemplate.Scan.Step

namespace ClosureTemplate.Scan

open Text (run)

theorem textLexeme_pos (c : Char) (cs : Text) : 0 < (textLexeme c cs).2 := by
  unfold textLexeme
  repeat' split
  all_goals dsimp only; omega

theorem variableLexeme?_pos {lexeme : Type} {found result : lexeme} {cs : Text} {width : Nat}
    (matched : variableLexeme? found cs = some (result, width)) : 0 < width := by
  unfold variableLexeme? at matched
  split at matched <;> simp at matched
  omega

theorem numberLexeme_pos (c : Char) (cs : Text) : 0 < (numberLexeme c cs).2 := by
  unfold numberLexeme
  split
  · dsimp only
    omega
  · dsimp only
    split <;> dsimp only <;> omega

theorem punctuation?_pos {c : Char} {cs : Text} {lexeme : TagLexeme} {width : Nat}
    (matched : punctuation? c cs = some (lexeme, width)) : 0 < width := by
  unfold punctuation? at matched
  split at matched <;> simp at matched <;> omega

theorem tagLexeme?_pos {c : Char} {cs : Text} {lexeme : TagLexeme} {width : Nat}
    (matched : tagLexeme? c cs = some (lexeme, width)) : 0 < width := by
  unfold tagLexeme? at matched
  split at matched
  · simp at matched; omega
  split at matched
  · simp at matched; omega
  split at matched
  · have := numberLexeme_pos c cs
    simp_all
  split at matched
  · exact variableLexeme?_pos matched
  · exact punctuation?_pos matched

theorem nameLexeme?_pos {c : Char} {cs : Text} {lexeme : NameLexeme} {width : Nat}
    (matched : nameLexeme? c cs = some (lexeme, width)) : 0 < width := by
  unfold nameLexeme? at matched
  split at matched
  · simp at matched; omega
  split at matched
  · exact variableLexeme?_pos matched
  split at matched <;> split at matched <;> simp at matched <;> omega

theorem attributeLexeme?_pos {c : Char} {cs : Text} {lexeme : AttributeLexeme} {width : Nat}
    (matched : attributeLexeme? c cs = some (lexeme, width)) : 0 < width := by
  unfold attributeLexeme? at matched
  split at matched
  · simp at matched; omega
  split at matched
  · simp at matched; omega
  split at matched <;> simp at matched <;> omega

theorem stringLexeme?_pos {c : Char} {cs : Text} {lexeme : StringLexeme} {width : Nat}
    (matched : stringLexeme? c cs = some (lexeme, width)) : 0 < width := by
  unfold stringLexeme? at matched
  split at matched
  · simp at matched; omega
  · simp at matched; omega
  · cases found : variableLexeme? StringLexeme.variable cs with
    | none => simp [found] at matched; omega
    | some entry =>
      obtain ⟨kind, size⟩ := entry
      have positive := variableLexeme?_pos found
      simp_all
  · split at matched <;> simp at matched
    omega
  · simp at matched
  · simp at matched
  · simp at matched; omega

theorem docLexeme_pos (c : Char) (cs : Text) : 0 < (docLexeme c cs).2 := by
  unfold docLexeme
  repeat' split
  all_goals dsimp only; omega

namespace State

variable (state : State) (view : View)

theorem rest_length_pos : 0 < view.rest.length := by simp [View.rest]

theorem closeBrace_pos (isSelfClosing : Bool) :
    0 < (state.closeBrace view isSelfClosing).width := by
  unfold closeBrace
  cases isSelfClosing <;> dsimp only <;> (repeat' split) <;> simp [closeTag] at *

theorem openDoc_pos : 0 < (state.openDoc view).width := by
  unfold openDoc
  split
  · simp
  split
  · exact rest_length_pos view
  · simp

theorem blockComment_pos : 0 < (state.blockComment view).width := by
  unfold blockComment
  split
  · simp
  · exact rest_length_pos view

theorem scanDocComment_pos : 0 < (state.scanDocComment view).width := by
  have positive := docLexeme_pos view.head view.tail
  unfold scanDocComment
  dsimp only
  split <;> exact positive

theorem scanTemplateText_pos : 0 < (state.scanTemplateText view).width := by
  have positive := textLexeme_pos view.head view.tail
  unfold scanTemplateText
  dsimp only
  split
  · exact positive
  · exact positive
  · exact state.blockComment_pos view
  · exact state.openDoc_pos view
  · split
    · exact positive
    · simp
  · exact positive
  · exact positive

theorem openString_pos (terminator : Char) (inAttribute : Bool)
    (present : view.head ≠ '\n') : 0 < (state.openString view terminator inAttribute).width := by
  unfold openString
  split
  · simp
  · simp [run, View.rest, present]

theorem stringEscape_pos : 0 < (state.stringEscape view).width := by
  unfold stringEscape
  split
  · split <;> simp
  · split <;> simp
  · simp [badCharacter]

theorem scanString_pos : 0 < (state.scanString view).width := by
  unfold scanString
  split
  · next matched =>
    split <;> exact stringLexeme?_pos matched
  · next matched => exact stringLexeme?_pos matched
  · exact state.stringEscape_pos view
  · next matched => exact stringLexeme?_pos matched
  · simp [badCharacter]

theorem attributeQuote_ne_newline {c : Char} {cs : Text} {terminator : Char} {width : Nat}
    (matched : attributeLexeme? c cs = some (.quote terminator, width)) : c ≠ '\n' := by
  rintro rfl
  simp [attributeLexeme?, Text.isTagBlank] at matched

theorem tagQuote_ne_newline {c : Char} {cs : Text} {terminator : Char} {width : Nat}
    (matched : tagLexeme? c cs = some (.quote terminator, width)) : c ≠ '\n' := by
  rintro rfl
  simp [tagLexeme?, Text.isTagBlank] at matched

theorem scanAttributes_pos : 0 < (state.scanAttributes view).width := by
  unfold scanAttributes
  split
  · next matched => exact attributeLexeme?_pos matched
  · next matched => exact attributeLexeme?_pos matched
  · next matched => exact attributeLexeme?_pos matched
  · next matched =>
    split
    · exact attributeLexeme?_pos matched
    · simp [badCharacter]
  · next matched => exact state.openString_pos view _ _ (attributeQuote_ne_newline matched)
  · next matched =>
    split
    · exact attributeLexeme?_pos matched
    · simp [reopenTag]
  · exact state.closeBrace_pos view _
  · exact state.closeBrace_pos view _
  · simp [badCharacter]

theorem expressionWord_pos {width : Nat} (positive : 0 < width) :
    0 < (state.expressionWord view width).width := by
  unfold expressionWord
  dsimp only
  split <;> exact positive

theorem integerLiteral_pos (radix : Nat) (digits : Text) {width : Nat} (positive : 0 < width) :
    0 < (state.integerLiteral radix digits width).width := by
  unfold integerLiteral
  split <;> exact positive

theorem scanExpression_pos : 0 < (state.scanExpression view).width := by
  unfold scanExpression
  split
  · next matched => exact tagLexeme?_pos matched
  · next matched => exact state.expressionWord_pos view (tagLexeme?_pos matched)
  · next matched => exact tagLexeme?_pos matched
  · next matched => exact state.integerLiteral_pos _ _ (tagLexeme?_pos matched)
  · next matched => exact state.integerLiteral_pos _ _ (tagLexeme?_pos matched)
  · next matched => exact tagLexeme?_pos matched
  · next matched => exact tagLexeme?_pos matched
  · next matched => exact tagLexeme?_pos matched
  · next matched => exact tagLexeme?_pos matched
  · next matched => exact tagLexeme?_pos matched
  · next matched => exact state.openString_pos view _ _ (tagQuote_ne_newline matched)
  · next matched =>
    split
    · exact tagLexeme?_pos matched
    · simp [reopenTag]
  · exact state.closeBrace_pos view _
  · exact state.closeBrace_pos view _
  · simp [badCharacter]

theorem commandWord_width (kind : Kind) (width : Nat) :
    (state.commandWord kind width).width = width := by
  unfold commandWord
  dsimp only
  split <;> rfl

theorem move_emit_pos {emission : Emission} (emits : state.move view = .emit emission) :
    0 < emission.width := by
  unfold move at emits
  split at emits
  · injection emits with same
    exact same ▸ state.scanTemplateText_pos view
  · unfold scanTagCommand at emits
    split at emits
    · next matched =>
      split at emits
      · injection emits with same
        exact same ▸ (state.commandWord_width _ _).symm ▸ tagLexeme?_pos matched
      · split at emits
        · injection emits with same
          exact same ▸ tagLexeme?_pos matched
        · simp at emits
    · split at emits
      · simp at emits
      · split at emits
        · injection emits with same
          exact same ▸ Nat.two_pos
        · simp at emits
  · injection emits with same
    exact same ▸ state.scanExpression_pos view
  · unfold scanName at emits
    split at emits
    · next matched =>
      injection emits with same
      exact same ▸ nameLexeme?_pos matched
    · next matched =>
      split at emits
      · injection emits with same
        exact same ▸ nameLexeme?_pos matched
      · simp at emits
    · simp at emits
  · injection emits with same
    exact same ▸ state.scanAttributes_pos view
  · unfold scanDirective at emits
    split at emits
    · next matched =>
      injection emits with same
      exact same ▸ tagLexeme?_pos matched
    · next matched =>
      injection emits with same
      exact same ▸ tagLexeme?_pos matched
    · simp at emits
  · injection emits with same
    exact same ▸ state.scanString_pos view
  · injection emits with same
    exact same ▸ state.scanDocComment_pos view
  · unfold scanLiteral at emits
    split at emits
    · simp at emits
    · next content nonempty =>
      injection emits with same
      subst same
      exact List.length_pos_iff.mpr (by rintro rfl; simp_all)
    · injection emits with same
      exact same ▸ rest_length_pos view

theorem emission_pos : 0 < (state.emission view).width := by
  unfold emission
  split
  · next emits => exact state.move_emit_pos view emits
  · split
    · next emits => exact move_emit_pos _ view emits
    · simp [badCharacter]

end State

end ClosureTemplate.Scan
