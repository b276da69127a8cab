import ClosureTemplate.Proofs.Text.Basic
import ClosureTemplate.Scan.Progress

namespace ClosureTemplate.Scan

open Text (run run_le run_add_dropWhile identifierLength identifierLength_le dottedLength
  dottedLength_le isDigit isHexDigit isLetter isNameChar isTagBlank before?_length_le)

theorem textLexeme_le (c : Char) (cs : Text) : (textLexeme c cs).2 ≤ cs.length + 1 := by
  unfold textLexeme
  split
  case h_8 cs => have := run_le (· != '\n') cs; simp only [List.length_cons]; omega
  case h_10 =>
    have blank := run_le isTagBlank cs
    have plain := run_le isPlainText cs
    split <;> dsimp only <;> omega
  all_goals simp only [List.length_cons]; omega

theorem exponentLength_le (text : Text) : exponentLength text ≤ text.length := by
  unfold exponentLength
  split
  · next mark cs =>
    split
    · split
      · next sign ds =>
        have signed := run_le isDigit ds
        have unsigned := run_le isDigit (sign :: ds)
        simp only [List.length_cons] at unsigned ⊢
        repeat' split
        all_goals omega
      · exact Nat.zero_le _
    · exact Nat.zero_le _
  · exact Nat.zero_le _

theorem fractionLength_le (text : Text) : fractionLength text ≤ text.length := by
  unfold fractionLength
  split
  · next cs =>
    have fits := run_le isDigit cs
    simp only [List.length_cons]
    split <;> omega
  · exact Nat.zero_le _

theorem hexLength_lt {text : Text} (present : 0 < hexLength text) :
    hexLength text < text.length := by
  unfold hexLength at *
  split at *
  · next mark cs =>
    have fits := run_le isHexDigit cs
    simp only [List.length_cons]
    split <;> omega
  · exact absurd present (Nat.lt_irrefl 0)

theorem numberLexeme_le (c : Char) (cs : Text) : (numberLexeme c cs).2 ≤ cs.length + 1 := by
  have digits := run_add_dropWhile isDigit cs
  have fraction := fractionLength_le (cs.dropWhile isDigit)
  have exponent := exponentLength_le
    ((cs.dropWhile isDigit).drop (fractionLength (cs.dropWhile isDigit)))
  simp only [List.length_drop] at exponent
  unfold numberLexeme
  split
  · next hex =>
    simp only [Bool.and_eq_true, decide_eq_true_eq] at hex
    have fits := hexLength_lt hex.2
    dsimp only
    omega
  · dsimp only
    split <;> dsimp only <;> omega

theorem variableLexeme?_le {lexeme : Type} {found result : lexeme} {cs : Text} {width : Nat}
    (matched : variableLexeme? found cs = some (result, width)) : width ≤ cs.length + 1 := by
  have fits := identifierLength_le cs
  unfold variableLexeme? at matched
  split at matched
  · cases matched
  · simp only [Option.some.injEq, Prod.mk.injEq] at matched
    omega

theorem punctuation?_le {c : Char} {cs : Text} {lexeme : TagLexeme} {width : Nat}
    (matched : punctuation? c cs = some (lexeme, width)) : width ≤ cs.length + 1 := by
  unfold punctuation? at matched
  split at matched <;> simp at matched
  all_goals
    obtain ⟨-, rfl⟩ := matched
    simp

theorem tagLexeme?_le {c : Char} {cs : Text} {lexeme : TagLexeme} {width : Nat}
    (matched : tagLexeme? c cs = some (lexeme, width)) : width ≤ cs.length + 1 := by
  have blank := run_le isTagBlank cs
  have word := run_le isNameChar cs
  have number := numberLexeme_le c cs
  unfold tagLexeme? at matched
  split at matched
  · simp only [Option.some.injEq, Prod.mk.injEq] at matched; omega
  split at matched
  · simp only [Option.some.injEq, Prod.mk.injEq] at matched; omega
  split at matched
  · rw [Option.some.inj matched] at number
    exact number
  split at matched
  · exact variableLexeme?_le matched
  · exact punctuation?_le matched

theorem tagLexeme?_cases {c : Char} {cs : Text} {lexeme : TagLexeme} {width : Nat}
    (matched : tagLexeme? c cs = some (lexeme, width)) :
    lexeme ∈ [.blank, .word, .variable, .decimal, .hex, .float] ∨
      punctuation? c cs = some (lexeme, width) := by
  unfold tagLexeme? at matched
  split at matched
  · cases matched; simp
  split at matched
  · cases matched; simp
  split at matched
  · left
    unfold numberLexeme at matched
    split at matched
    · cases matched; simp
    · dsimp only at matched
      split at matched <;> cases matched <;> simp
  split at matched
  · left
    unfold variableLexeme? at matched
    split at matched <;> cases matched
    simp
  · exact .inr matched

theorem nameLexeme?_le {c : Char} {cs : Text} {lexeme : NameLexeme} {width : Nat}
    (matched : nameLexeme? c cs = some (lexeme, width)) : width ≤ cs.length + 1 := by
  have blank := run_le isTagBlank cs
  have relative := dottedLength_le cs
  have absolute := dottedLength_le (c :: cs)
  rw [List.length_cons] at absolute
  unfold nameLexeme? at matched
  split at matched
  · simp only [Option.some.injEq, Prod.mk.injEq] at matched; omega
  split at matched
  · exact variableLexeme?_le matched
  split at matched <;> split at matched <;> simp at matched <;> omega

theorem attributeLexeme?_le {c : Char} {cs : Text} {lexeme : AttributeLexeme} {width : Nat}
    (matched : attributeLexeme? c cs = some (lexeme, width)) : width ≤ cs.length + 1 := by
  have blank := run_le isTagBlank cs
  have word := run_le isAttributeChar cs
  unfold attributeLexeme? at matched
  split at matched
  · simp only [Option.some.injEq, Prod.mk.injEq] at matched; omega
  split at matched
  · simp only [Option.some.injEq, Prod.mk.injEq] at matched; omega
  split at matched <;> simp at matched
  all_goals
    obtain ⟨-, rfl⟩ := matched
    simp

theorem stringLexeme?_le {c : Char} {cs : Text} {lexeme : StringLexeme} {width : Nat}
    (matched : stringLexeme? c cs = some (lexeme, width)) : width ≤ cs.length + 1 := by
  have text := run_le isStringText cs
  unfold stringLexeme? at matched
  split at matched
  · simp only [Option.some.injEq, Prod.mk.injEq] at matched; omega
  · simp only [Option.some.injEq, Prod.mk.injEq] at matched; omega
  · cases found : variableLexeme? StringLexeme.variable cs with
    | none => simp [found] at matched; omega
    | some entry =>
      obtain ⟨kind, size⟩ := entry
      have fits := variableLexeme?_le found
      simp_all
  · split at matched <;> simp at matched
    simp only [List.length_cons]
    omega
  · cases matched
  · cases matched
  · simp only [Option.some.injEq, Prod.mk.injEq] at matched; omega

theorem docTagLength_le (cs : Text) : docTagLength cs ≤ cs.length := by
  have letters := run_add_dropWhile isLetter cs
  unfold docTagLength
  split
  · next marked =>
    have : (cs.dropWhile isLetter).length ≠ 0 := by
      intro empty
      rw [List.eq_nil_of_length_eq_zero empty] at marked
      cases marked
    omega
  · omega

theorem docLexeme_le (c : Char) (cs : Text) : (docLexeme c cs).2 ≤ cs.length + 1 := by
  have blank := run_le isTagBlank cs
  have word := run_le isNameChar cs
  have tag := docTagLength_le cs
  have text := run_le isDocText cs
  unfold docLexeme
  repeat' split
  all_goals first | (dsimp only; omega) | (simp only [List.length_cons]; omega)

theorem View.rest_length (view : View) : view.rest.length = view.tail.length + 1 := rfl

namespace State

variable (state : State) (view : View)

theorem closeBrace_le (isSelfClosing : Bool)
    (present : (if isSelfClosing then 2 else 1) ≤ view.rest.length) :
    (state.closeBrace view isSelfClosing).width ≤ view.rest.length := by
  unfold closeBrace
  dsimp only
  by_cases doubled : state.tag.isDoubled = true
  · rw [if_pos doubled]
    by_cases another : (view.rest.drop (if isSelfClosing then 2 else 1)).head? = some '}'
    · rw [if_pos another]
      exact Text.lt_length_of_head?_drop another
    · rw [if_neg another]
      exact rest_length_pos view
  · rw [if_neg doubled]
    exact present

theorem blockComment_le (opened : 2 ≤ view.rest.length) :
    (state.blockComment view).width ≤ view.rest.length := by
  unfold blockComment
  split
  · next body found =>
    have fits := before?_length_le found
    have needle : "*/".toList.length = 2 := rfl
    rw [needle, List.length_drop] at fits
    dsimp only
    omega
  · exact Nat.le_refl _

theorem openDoc_le (opened : 3 ≤ view.rest.length) :
    (state.openDoc view).width ≤ view.rest.length := by
  unfold openDoc
  split
  · next another => exact Text.lt_length_of_head?_drop another
  split
  · exact Nat.le_refl _
  · exact opened

theorem scanDocComment_le : (state.scanDocComment view).width ≤ view.rest.length := by
  have fits := docLexeme_le view.head view.tail
  unfold scanDocComment
  dsimp only
  split <;> exact fits

/-- The widths that `scanTemplateText` does not take from its lexeme rest on what the lexeme says
about the text. -/
theorem textLexeme_length (c : Char) (cs : Text) :
    ((textLexeme c cs).1 = .comment → 2 ≤ cs.length + 1) ∧
    ((textLexeme c cs).1 = .doc → 3 ≤ cs.length + 1) ∧
    ((textLexeme c cs).1 = .lineComment → 2 ≤ cs.length + 1) := by
  unfold textLexeme
  split
  case h_10 => split <;> simp
  all_goals simp

theorem scanTemplateText_le : (state.scanTemplateText view).width ≤ view.rest.length := by
  have fits := textLexeme_le view.head view.tail
  obtain ⟨comment, doc, lineComment⟩ := textLexeme_length view.head view.tail
  unfold scanTemplateText
  dsimp only
  split
  · exact fits
  · exact fits
  · next found => exact state.blockComment_le view (comment found)
  · next found => exact state.openDoc_le view (doc found)
  · next found =>
    split
    · exact fits
    · exact lineComment found
  · exact fits
  · exact fits

theorem openString_le (terminator : Char) (inAttribute : Bool) :
    (state.openString view terminator inAttribute).width ≤ view.rest.length := by
  unfold openString
  split
  · exact rest_length_pos view
  · exact run_le _ _

theorem stringEscape_le (escaped : view.tail ≠ []) :
    (state.stringEscape view).width ≤ view.rest.length := by
  have more : 0 < view.tail.length := List.length_pos_iff.mpr escaped
  rw [view.rest_length]
  unfold stringEscape
  split
  · next cs shape =>
    split
    · next digits =>
      have four := run_le isHexDigit (cs.take 4)
      rw [digits, List.length_take] at four
      rw [shape, List.length_cons]
      dsimp only
      omega
    · exact Nat.succ_le_succ more
  · split <;> exact Nat.succ_le_succ more
  · exact absurd ‹_› escaped

theorem stringLexeme?_escape {c : Char} {cs : Text} {width : Nat}
    (matched : stringLexeme? c cs = some (.escape, width)) : cs ≠ [] := by
  rintro rfl
  unfold stringLexeme? at matched
  split at matched
  case h_4 shape => cases shape
  all_goals simp [variableLexeme?, identifierLength] at matched

theorem scanString_le : (state.scanString view).width ≤ view.rest.length := by
  unfold scanString
  split
  · next matched => split <;> exact stringLexeme?_le matched
  · next matched => exact stringLexeme?_le matched
  · next matched => exact state.stringEscape_le view (stringLexeme?_escape matched)
  · next matched => exact stringLexeme?_le matched
  · exact rest_length_pos view

theorem attributeLexeme?_slash {c : Char} {cs : Text} {width : Nat}
    (matched : attributeLexeme? c cs = some (.slashRbrace, width)) : 2 ≤ cs.length + 1 := by
  unfold attributeLexeme? at matched
  split at matched
  · cases matched
  split at matched
  · cases matched
  split at matched <;> simp at matched
  simp

theorem tagLexeme?_slash {c : Char} {cs : Text} {width : Nat}
    (matched : tagLexeme? c cs = some (.slashRbrace, width)) : 2 ≤ cs.length + 1 := by
  rcases tagLexeme?_cases matched with classed | mark
  · simp at classed
  · unfold punctuation? at mark
    split at mark <;> simp at mark
    simp

theorem scanAttributes_le : (state.scanAttributes view).width ≤ view.rest.length := by
  unfold scanAttributes
  split
  · next matched => exact attributeLexeme?_le matched
  · next matched => exact attributeLexeme?_le matched
  · next matched => exact attributeLexeme?_le matched
  · next matched =>
    split
    · exact attributeLexeme?_le matched
    · exact rest_length_pos view
  · exact state.openString_le view _ _
  · next matched =>
    split
    · exact attributeLexeme?_le matched
    · exact rest_length_pos view
  · exact state.closeBrace_le view _ (rest_length_pos view)
  · next matched => exact state.closeBrace_le view _ (attributeLexeme?_slash matched)
  · exact rest_length_pos view

theorem expressionWord_width (width : Nat) : (state.expressionWord view width).width = width := by
  unfold expressionWord
  dsimp only
  split <;> rfl

theorem integerLiteral_width (radix : Nat) (digits : Text) (width : Nat) :
    (state.integerLiteral radix digits width).width = width := by
  unfold integerLiteral
  split <;> rfl

theorem scanExpression_le : (state.scanExpression view).width ≤ view.rest.length := by
  unfold scanExpression
  split
  · next matched => exact tagLexeme?_le matched
  · next matched => exact (state.expressionWord_width view _).symm ▸ tagLexeme?_le matched
  · next matched => exact tagLexeme?_le matched
  · next matched => exact (state.integerLiteral_width _ _ _).symm ▸ tagLexeme?_le matched
  · next matched => exact (state.integerLiteral_width _ _ _).symm ▸ tagLexeme?_le matched
  · next matched => exact tagLexeme?_le matched
  · next matched => exact tagLexeme?_le matched
  · next matched => exact tagLexeme?_le matched
  · next matched => exact tagLexeme?_le matched
  · next matched => exact tagLexeme?_le matched
  · exact state.openString_le view _ _
  · next matched =>
    split
    · exact tagLexeme?_le matched
    · exact rest_length_pos view
  · exact state.closeBrace_le view _ (rest_length_pos view)
  · next matched => exact state.closeBrace_le view _ (tagLexeme?_slash matched)
  · exact rest_length_pos view

theorem isSpecialEscape_length {text : Text} (special : isSpecialEscape text = true) :
    2 ≤ text.length := by
  unfold isSpecialEscape at special
  split at special
  · simp
  · cases special

theorem move_emit_le {emission : Emission} (emits : state.move view = .emit emission) :
    emission.width ≤ view.rest.length := by
  unfold move at emits
  split at emits
  · injection emits with same
    exact same ▸ state.scanTemplateText_le view
  · unfold scanTagCommand at emits
    split at emits
    · next matched =>
      split at emits
      · injection emits with same
        exact same ▸ (state.commandWord_width _ _).symm ▸ tagLexeme?_le matched
      · split at emits
        · injection emits with same
          exact same ▸ tagLexeme?_le matched
        · cases emits
    · split at emits
      · cases emits
      · split at emits
        · next special =>
          injection emits with same
          exact same ▸ isSpecialEscape_length special
        · cases emits
  · injection emits with same
    exact same ▸ state.scanExpression_le view
  · unfold scanName at emits
    split at emits
    · next matched =>
      injection emits with same
      exact same ▸ nameLexeme?_le matched
    · next matched =>
      split at emits
      · injection emits with same
        exact same ▸ nameLexeme?_le matched
      · cases emits
    · cases emits
  · injection emits with same
    exact same ▸ state.scanAttributes_le view
  · unfold scanDirective at emits
    split at emits
    · next matched =>
      injection emits with same
      exact same ▸ tagLexeme?_le matched
    · next matched =>
      injection emits with same
      exact same ▸ tagLexeme?_le matched
    · cases emits
  · injection emits with same
    exact same ▸ state.scanString_le view
  · injection emits with same
    exact same ▸ state.scanDocComment_le view
  · unfold scanLiteral at emits
    split at emits
    · cases emits
    · next found =>
      injection emits with same
      have fits := before?_length_le found
      subst same
      exact Nat.le_trans (Nat.le_add_right _ _) fits
    · injection emits with same
      exact same ▸ Nat.le_refl _

end State

end ClosureTemplate.Scan
