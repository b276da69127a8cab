import ClosureTemplate.Proofs.Scan.Resynchronisation

namespace ClosureTemplate.Scan

namespace State

def onText (state : State) : State :=
  { state with resume := state.resume ++ [.templateText] }

@[simp]
theorem onText_mode (state : State) : state.onText.mode = state.mode := rfl

@[simp]
theorem onText_tag (state : State) : state.onText.tag = state.tag := rfl

end State

def Emission.onText (emission : Emission) : Emission :=
  { emission with state := emission.state.onText }

def Move.onText : Move → Move
  | .emit emission => .emit emission.onText
  | .shift mode => .shift mode

/-- The same token, and the same state up to template text at the bottom of the stack. -/
def Emission.Grounds (one other : Emission) : Prop := other = one ∨ other = one.onText

namespace State

variable (state : State) (view : View)

theorem pop_onText :
    state.onText.pop = state.pop ∨ state.onText.pop = state.pop.onText := by
  cases shape : state.resume with
  | nil => exact .inl (by simp [pop, onText, shape])
  | cons mode others => exact .inr (by simp [pop, onText, shape])

theorem closeTag_onText (kind : Kind) (width : Nat) :
    (state.closeTag kind width).Grounds (state.onText.closeTag kind width) := by
  unfold closeTag
  rw [onText_tag]
  -- the last pop takes template text off the stack, all others leave it there
  rcases state.pop_onText with same | same
  · rw [same]
    exact .inl rfl
  · rw [same]
    refine .inr ?_
    dsimp only
    split <;> rfl

theorem closeBrace_onText (isSelfClosing : Bool) :
    (state.closeBrace view isSelfClosing).Grounds (state.onText.closeBrace view isSelfClosing) := by
  unfold closeBrace
  rw [onText_tag]
  dsimp only
  by_cases doubled : state.tag.isDoubled = true
  · rw [if_pos doubled, if_pos doubled]
    by_cases another : (view.rest.drop (if isSelfClosing then 2 else 1)).head? = some '}'
    · rw [if_pos another, if_pos another]
      exact closeTag_onText _ _ _
    · rw [if_neg another, if_neg another]
      exact .inr rfl
  · rw [if_neg doubled, if_neg doubled]
    exact closeTag_onText _ _ _

theorem openString_onText (terminator : Char) (inAttribute : Bool) :
    state.onText.openString view terminator inAttribute =
      (state.openString view terminator inAttribute).onText := by
  unfold openString
  split <;> rfl

theorem scanAttributes_onText :
    (state.scanAttributes view).Grounds (state.onText.scanAttributes view) := by
  unfold scanAttributes
  rw [onText_tag]
  split
  · exact .inr rfl
  · exact .inr rfl
  · exact .inr rfl
  · split <;> exact .inr rfl
  · exact .inr (openString_onText _ _ _ _)
  · split <;> exact .inr rfl
  · exact closeBrace_onText _ _ _
  · exact closeBrace_onText _ _ _
  · exact .inr rfl

theorem expressionWord_onText (width : Nat) :
    state.onText.expressionWord view width = (state.expressionWord view width).onText := by
  unfold expressionWord
  dsimp only
  split <;> rfl

theorem integerLiteral_onText (radix : Nat) (digits : Text) (width : Nat) :
    state.onText.integerLiteral radix digits width =
      (state.integerLiteral radix digits width).onText := by
  unfold integerLiteral
  split <;> rfl

theorem referParameter_onText (name : Text) :
    state.onText.referParameter name = (state.referParameter name).onText := by
  unfold referParameter
  change (if state.docActive && state.templateName.isSome then _ else _) = _
  split <;> rfl

theorem scanExpression_onText :
    (state.scanExpression view).Grounds (state.onText.scanExpression view) := by
  unfold scanExpression
  rw [onText_tag]
  split
  case h_2 => exact .inr (expressionWord_onText _ _ _)
  case h_3 => exact .inr (by rw [referParameter_onText]; rfl)
  case h_4 => exact .inr (integerLiteral_onText _ _ _ _)
  case h_5 => exact .inr (integerLiteral_onText _ _ _ _)
  case h_11 => exact .inr (openString_onText _ _ _ _)
  case h_12 => split <;> exact .inr rfl
  case h_13 => exact closeBrace_onText _ _ _
  case h_14 => exact closeBrace_onText _ _ _
  all_goals exact .inr rfl

theorem stringEscape_onText :
    state.onText.stringEscape view = (state.stringEscape view).onText := by
  unfold stringEscape
  split
  · split <;> rfl
  · split <;> rfl
  · rfl

theorem scanString_onText : (state.scanString view).Grounds (state.onText.scanString view) := by
  unfold scanString
  split
  · change Emission.Grounds _ (if _ = state.quote.terminator then _ else _)
    split
    · rcases state.pop_onText with same | same
      · exact .inl (by rw [same])
      · exact .inr (by rw [same]; rfl)
    · exact .inr rfl
  · exact .inr rfl
  · exact .inr (stringEscape_onText _ _)
  · exact .inr rfl
  · exact .inr rfl

theorem scanDocComment_onText :
    (state.scanDocComment view).Grounds (state.onText.scanDocComment view) := by
  unfold scanDocComment
  dsimp only
  split
  · rcases state.pop_onText with same | same
    · exact .inl (by rw [same]; rfl)
    · exact .inr (by rw [same]; rfl)
  · exact .inr rfl
  · exact .inr rfl

theorem blockComment_onText :
    state.onText.blockComment view = (state.blockComment view).onText := by
  unfold blockComment
  split <;> rfl

theorem openDoc_onText : state.onText.openDoc view = (state.openDoc view).onText := by
  unfold openDoc
  split
  · rfl
  · split <;> rfl

theorem scanTemplateText_onText :
    state.onText.scanTemplateText view = (state.scanTemplateText view).onText := by
  unfold scanTemplateText
  dsimp only
  split
  case h_3 => exact blockComment_onText _ _
  case h_4 => exact openDoc_onText _ _
  case h_5 => split <;> rfl
  all_goals rfl

theorem scanLiteral_onText : state.onText.scanLiteral view = (state.scanLiteral view).onText := by
  unfold scanLiteral
  split <;> rfl

theorem scanDirective_onText :
    state.onText.scanDirective view = (state.scanDirective view).onText := by
  unfold scanDirective
  split <;> rfl

theorem declareTemplate_onText (name : Text) (line : Nat) :
    state.onText.declareTemplate name line = (state.declareTemplate name line).onText := by
  unfold declareTemplate
  change (if state.docActive then _ else _) = _
  dsimp only
  split <;> rfl

theorem nameOf_onText (lexeme : NameLexeme) (text : Text) (line : Nat) :
    state.onText.nameOf lexeme text line =
      (state.nameOf lexeme text line).map fun named => (named.1, named.2.onText) := by
  unfold nameOf
  rw [onText_tag]
  split
  case h_4 => exact congrArg (fun after => some (_, after)) (declareTemplate_onText state text line)
  case h_5 => exact congrArg (fun after => some (_, after)) (declareTemplate_onText state text line)
  all_goals rfl

theorem scanName_onText : state.onText.scanName view = (state.scanName view).onText := by
  unfold scanName
  split
  · rfl
  · rw [nameOf_onText]
    cases state.nameOf _ _ _ <;> rfl
  · rfl

theorem handOutDoc_onText (kind : Kind) :
    state.onText.handOutDoc kind =
      ((state.handOutDoc kind).1, (state.handOutDoc kind).2.onText) := by
  unfold handOutDoc
  split
  · change (if state.docActive then _ else _) = _
    dsimp only
    split <;> rfl
  · rfl

theorem commandWord_onText (kind : Kind) (width : Nat) :
    state.onText.commandWord kind width = (state.commandWord kind width).onText := by
  have handed := handOutDoc_onText
    ({ state with tag := { state.tag with command := some kind } }.enter .attributes) kind
  unfold commandWord
  rw [onText_tag]
  dsimp only
  split
  · exact congrArg (fun found : Option Value × State => Emission.mk kind width found.2 found.1)
      handed
  · rfl

theorem scanTagCommand_onText :
    state.onText.scanTagCommand view = (state.scanTagCommand view).onText := by
  unfold scanTagCommand
  rw [onText_tag]
  split
  · split
    · exact congrArg Move.emit (commandWord_onText _ _ _)
    · split <;> rfl
  · split
    · rfl
    · split <;> rfl

theorem move_onText : state.onText.move view = state.move view ∨
    state.onText.move view = (state.move view).onText := by
  have emits {one other : Emission} (grounds : one.Grounds other) :
      Move.emit other = .emit one ∨ Move.emit other = (Move.emit one).onText := by
    rcases grounds with same | same
    · exact .inl (by rw [same])
    · exact .inr (by rw [same]; rfl)
  unfold move
  rw [onText_mode]
  split
  · exact emits (.inr (scanTemplateText_onText _ _))
  · exact .inr (scanTagCommand_onText _ _)
  · exact emits (scanExpression_onText _ _)
  · exact .inr (scanName_onText _ _)
  · exact emits (scanAttributes_onText _ _)
  · exact .inr (scanDirective_onText _ _)
  · exact emits (scanString_onText _ _)
  · exact emits (scanDocComment_onText _ _)
  · exact .inr (scanLiteral_onText _ _)

theorem grounds_emission_of_emits {emission : Emission} (emits : state.move view = .emit emission) :
    (state.emission view).Grounds (state.onText.emission view) := by
  rw [emission_of_emits _ _ emits]
  rcases state.move_onText view with same | same
  · exact .inl (emission_of_emits _ _ (same.trans emits))
  · rw [emits] at same
    exact .inr (emission_of_emits _ _ same)

/-- Template text at the bottom of the stack shows in no token. -/
theorem grounds_emission : (state.emission view).Grounds (state.onText.emission view) := by
  cases own : state.move view with
  | emit emission => exact state.grounds_emission_of_emits view own
  | shift mode =>
    have shifts : state.onText.move view = .shift mode := by
      rcases state.move_onText view with same | same
      · exact same.trans own
      · rw [same, own]
        rfl
    -- entering a mode leaves the stack alone, and the mode that is entered emits
    obtain ⟨emission, emits⟩ := (shift_of_shifts view own).emits view
    rw [emission_of_shifts _ _ own, emission_of_shifts _ _ shifts]
    exact (state.enter mode).grounds_emission_of_emits view emits

end State

namespace Scanner

def onText (scanner : Scanner) : Scanner :=
  { scanner with state := scanner.state.onText }

def Grounds (one other : Scanner) : Prop := other = one ∨ other = one.onText

theorem Grounds.advance {one other : Scanner} (grounds : Grounds one other) :
    one.advance.1 = other.advance.1 ∧ Grounds one.advance.2 other.advance.2 := by
  rcases grounds with rfl | rfl
  · exact ⟨rfl, .inl rfl⟩
  cases shape : one.rest with
  | nil =>
    have ended : one.onText.rest = [] := shape
    rw [advance_at_end _ shape, advance_at_end _ ended]
    exact ⟨rfl, .inr rfl⟩
  | cons head tail =>
    have more : one.onText.rest = head :: tail := shape
    have grounded : one.onText.advance =
        one.take (one.state.onText.emission (one.viewOf head tail)) :=
      advance_of_rest more
    rw [advance_of_rest shape, grounded]
    rcases one.state.grounds_emission (one.viewOf head tail) with same | same
    · rw [same]
      exact ⟨rfl, .inl rfl⟩
    · rw [same]
      exact ⟨rfl, .inr rfl⟩

theorem isSimulation_grounds : IsSimulation Grounds id id where
  rest grounds := by rcases grounds with rfl | rfl <;> rfl
  symbol grounds := grounds.advance.1
  advance grounds := grounds.advance.2

theorem nth_onText (scanner : Scanner) (n : Nat) :
    nth advance scanner.onText n = nth advance scanner n :=
  (isSimulation_grounds.nth (.inr rfl) n).symm

end Scanner

end ClosureTemplate.Scan
