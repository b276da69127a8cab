import ClosureTemplate.Proofs.Scan.Coherence

namespace ClosureTemplate

/-- The tokens of a scan so far, the latest first. -/
abbrev History := List Symbol

namespace Scan

/-- The kinds that a mode emits with an effect on the state. -/
def Mode.turningKinds : Mode → List Kind
  | .templateText => [.tagOpen, .endTagOpen, .docBegin]
  | .tagCommand => Kind.commands.map Prod.snd ++ [.illegalCloseTag, .specialChar]
  | .expression =>
    [.stringBegin, .unterminatedTag, .tagClose, .tagSelfClose, .directivePipe, .parameterRef]
  | .name =>
    [.namespaceIdentifier, .packageIdentifier, .templateIdentifier, .deltemplateIdentifier,
      .parameterDef, .letIdentifier]
  | .attributes => [.colon, .stringBegin, .unterminatedTag, .tagClose, .tagSelfClose]
  | .directive => [.directiveIdentifier]
  | .stringLiteral => [.stringEnd]
  | .docComment => [.docBlank, .docText, .docTag, .docParamTag, .docIdentifier, .docEnd]
  | .literal => [.literalText]

def Mode.kinds (mode : Mode) : List Kind := mode.keptKinds ++ mode.turningKinds

namespace State

theorem nameOf_kind_mem {state after : State} {lexeme : NameLexeme} {text : Text} {line : Nat}
    {kind : Kind} (declares : state.nameOf lexeme text line = some (kind, after)) :
    kind ∈ Mode.turningKinds .name := by
  unfold nameOf at declares
  split at declares <;> cases declares <;> decide

theorem docKind_mem (lexeme : DocLexeme) (text : Text) (anticipating : Bool) :
    docKind lexeme text anticipating ∈ Mode.turningKinds .docComment := by
  cases lexeme <;> simp only [docKind] <;> try split
  all_goals decide

theorem Transition.kind_mem {state after : State} {kind : Kind} {text : Text} {line : Nat}
    (step : Transition state kind text line after) : kind ∈ state.mode.kinds := by
  have turning {mode : Mode} (current : state.mode = mode) (listed : kind ∈ mode.turningKinds) :
      kind ∈ state.mode.kinds := current ▸ List.mem_append_right _ listed
  cases step with
  | kept keeps => exact List.mem_append_left _ keeps
  | tagOpened isDoubled isClosing mode => exact turning mode (by cases isClosing <;> decide)
  | commanded width mode known =>
    have listed : kind ∈ Kind.commands.map Prod.snd :=
      List.mem_map.mpr ⟨_, mem_of_lookup known, rfl⟩
    exact turning mode (List.mem_append_left _ listed)
  | named lexeme mode declares => exact turning mode (nameOf_kind_mem declares)
  | quoted terminator inAttribute mode =>
    exact turning mode (by cases inAttribute <;> decide)
  | reopened mode => rcases mode with mode | mode <;> exact turning mode (by decide)
  | closed width mode closes =>
    rcases closes with rfl | rfl <;> rcases mode with mode | mode <;> exact turning mode (by decide)
  | docWord mode => exact turning mode (docKind_mem _ _ _)
  | docRead lexeme mode => exact turning mode (docKind_mem _ _ _)
  | docOpened mode | literalRead mode | miscommanded mode | escaped mode | valued mode
  | directed mode | piped mode | referred mode | unquoted mode | docClosed mode =>
    exact turning mode (by decide)

theorem Transition.docComment_of_kind {state after : State} {kind : Kind} {text : Text} {line : Nat}
    (step : Transition state kind text line after) (listed : kind ∈ Mode.kinds .docComment) :
    state.mode = .docComment := by
  have others : ∀ mode : Mode, mode ≠ .docComment → ∀ kind ∈ Mode.kinds .docComment,
      kind ∉ mode.kinds := by
    intro mode
    cases mode <;> decide
  apply Decidable.byContradiction
  intro other
  exact others _ other kind listed step.kind_mem

theorem Transition.tagCommand_of_kind {state after : State} {kind : Kind} {text : Text} {line : Nat}
    (step : Transition state kind text line after)
    (keyword : kind = .templateWord ∨ kind = .deltemplateWord) : state.mode = .tagCommand := by
  have others : ∀ mode : Mode, mode ≠ .tagCommand →
      Kind.templateWord ∉ mode.kinds ∧ Kind.deltemplateWord ∉ mode.kinds := by
    intro mode
    cases mode <;> decide
  apply Decidable.byContradiction
  intro other
  obtain ⟨noTemplate, noDeltemplate⟩ := others _ other
  rcases keyword with rfl | rfl
  · exact noTemplate step.kind_mem
  · exact noDeltemplate step.kind_mem

end State

namespace Scanner

theorem advance_steps {scanner : Scanner} (more : scanner.rest ≠ []) :
    ∃ settled, (settled = scanner.state ∨ State.Shift scanner.state settled) ∧
      State.Transition settled scanner.advance.1.kind scanner.advance.1.text
        scanner.advance.1.line scanner.advance.2.state := by
  obtain ⟨head, tail, shape⟩ := List.exists_cons_of_ne_nil more
  obtain ⟨settled, origin, step⟩ := scanner.state.emission_steps (scanner.viewOf head tail)
  refine ⟨settled, origin, ?_⟩
  rw [advance_of_rest shape]
  simp only [take, shape]
  exact step

def history (scanner : Scanner) : Nat → History
  | 0 => []
  | n + 1 => nth advance scanner n :: scanner.history n

theorem history_eq_reverse_take (scanner : Scanner) {n : Nat}
    (inside : n ≤ scanner.drain.1.length) :
    scanner.history n = (scanner.drain.1.take n).reverse := by
  induction n with
  | zero => rfl
  | succ n ih =>
    have token := scanner.yields_drain.token n inside
    rw [history, ih (Nat.le_of_succ_le inside), List.take_add_one, token]
    simp

theorem drain_eq_history {scanner : Scanner} {n : Nat}
    (more : (behind advance scanner n).rest ≠ [])
    (ended : (behind advance scanner (n + 1)).rest = []) :
    scanner.drain.1 = (scanner.history n).reverse ++ [nth advance scanner n] := by
  have atLeast : n < scanner.drain.1.length := by
    apply Nat.lt_of_not_le
    intro drained
    obtain ⟨k, rfl⟩ := Nat.exists_eq_add_of_le drained
    obtain ⟨token, same⟩ := behind_at_end scanner.drain_rest k
    rw [← behind_add, scanner.behind_drain, same] at more
    exact more scanner.drain_rest
  have atMost : scanner.drain.1.length ≤ n + 1 := by
    apply Nat.le_of_not_lt
    intro inside
    exact behind_rest_ne_nil inside ended
  rw [← List.reverse_cons]
  change _ = (scanner.history (n + 1)).reverse
  rw [history_eq_reverse_take scanner atLeast, List.reverse_reverse]
  exact (List.take_of_length_le atMost).symm

theorem history_induction {scanner : Scanner} (fact : History → Scanner → Prop)
    (holds : fact [] scanner)
    (keeps : ∀ n, (behind advance scanner n).rest ≠ [] →
      fact (scanner.history n) (behind advance scanner n) →
      fact (scanner.history (n + 1)) (behind advance scanner (n + 1)))
    {n : Nat} (inside : n ≤ scanner.drain.1.length) :
    fact (scanner.history n) (behind advance scanner n) := by
  induction n with
  | zero => exact holds
  | succ n ih => exact keeps n (behind_rest_ne_nil inside) (ih (Nat.le_of_succ_le inside))

theorem moment_of_split {scanner : Scanner} {before after : List Symbol} {symbol : Symbol}
    (split : scanner.drain.1 = before ++ symbol :: after) :
    before.length ≤ scanner.drain.1.length ∧
      scanner.history before.length = before.reverse ∧
      (behind advance scanner before.length).rest ≠ [] ∧
      (behind advance scanner before.length).advance.1 = symbol := by
  have inside : before.length < scanner.drain.1.length := by
    rw [split]
    simp
  have token := scanner.yields_drain.token before.length inside
  refine ⟨Nat.le_of_lt inside, ?_, behind_rest_ne_nil inside, ?_⟩
  · rw [history_eq_reverse_take scanner (Nat.le_of_lt inside), split]
    simp
  · simpa [split, nth] using token.symm

end Scanner

end Scan

end ClosureTemplate
