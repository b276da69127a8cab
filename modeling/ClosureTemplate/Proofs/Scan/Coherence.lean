import ClosureTemplate.Proofs.Doc.Buffer
import ClosureTemplate.Proofs.Scan.Run

/-!
The states that a scan can be in. Whatever the start mode, template text is only ever reached with
nothing left over of a tag, a string or a comment (`IsCoherent.templateText`), and every mode comes
with a stack, a tag and a string that fit it (`reachable_states_fit`).
-/

namespace ClosureTemplate.Scan

def Mode.isInTag : Mode → Bool
  | .tagCommand | .expression | .name | .attributes | .directive => true
  | _ => false

namespace State

def IsBase (resume : List Mode) : Prop := resume = [] ∨ resume = [.templateText]

/-- The stack under each mode. Strings are opened from expressions and attributes only. -/
def StackFits : Mode → List Mode → Prop
  | .templateText, resume | .literal, resume => resume = []
  | .stringLiteral, resume => resume = [] ∨
      ∃ mode base, (mode = .expression ∨ mode = .attributes) ∧ IsBase base ∧ resume = mode :: base
  | _, resume => IsBase resume

structure IsCoherent (state : State) : Prop where
  stack : StackFits state.mode state.resume
  tag : state.mode.isInTag = true ∨ state.mode = .stringLiteral ∧ state.resume ≠ [] ∨ state.tag = {}
  directive : state.tag.inDirective = true → state.mode = .directive ∨ state.mode = .expression ∨
    state.mode = .stringLiteral ∧ state.resume.head? = some .expression
  terminator : state.mode = .stringLiteral ∨ state.quote.terminator = '"'
  inAttribute : state.quote.inAttribute = true ↔
    state.mode = .stringLiteral ∧ state.resume.head? = some .attributes
  namespaceName : state.doc.namespaceName = state.namespaceName
  pending : state.mode = .docComment ∨ state.doc.pending = []

theorem isCoherent_initial (mode : Mode) : (initial mode).IsCoherent where
  stack := by cases mode <;> simp [initial, StackFits, IsBase]
  tag := .inr (.inr rfl)
  directive inside := by cases inside
  terminator := .inr rfl
  inAttribute := by simp [initial]
  namespaceName := rfl
  pending := .inr rfl

/-- Nothing is left over of a tag, a string or a comment. -/
structure IsClear (state : State) : Prop where
  resume : state.resume = []
  tag : state.tag = {}
  quote : state.quote = {}
  pending : state.doc.pending = []

theorem IsCoherent.quote {state : State} (coherent : state.IsCoherent)
    (outside : state.mode ≠ .stringLiteral) : state.quote = {} := by
  have terminator := coherent.terminator.resolve_left outside
  have plain : state.quote.inAttribute = false :=
    Bool.eq_false_iff.mpr fun inside => outside (coherent.inAttribute.mp inside).1
  cases shape : state.quote with
  | mk character inAttribute =>
    rw [shape] at terminator plain
    dsimp only at terminator plain
    rw [terminator, plain]

theorem IsCoherent.templateText {state : State} (coherent : state.IsCoherent)
    (mode : state.mode = .templateText ∨ state.mode = .literal) : state.IsClear where
  resume := by
    have stack := coherent.stack
    rcases mode with mode | mode <;> rw [mode] at stack <;> exact stack
  tag := by
    have tag := coherent.tag
    rcases mode with mode | mode <;> simpa [mode, Mode.isInTag] using tag
  quote := coherent.quote (by rcases mode with mode | mode <;> simp [mode])
  pending := by
    have pending := coherent.pending
    rcases mode with mode | mode <;> simpa [mode] using pending

theorem isCoherent_of_isClear {state : State} (clear : state.IsClear)
    (mode : state.mode = .templateText ∨ state.mode = .literal)
    (namespaceName : state.doc.namespaceName = state.namespaceName) : state.IsCoherent where
  stack := by rcases mode with mode | mode <;> rw [mode] <;> exact clear.resume
  tag := .inr (.inr clear.tag)
  directive inside := by rw [clear.tag] at inside; cases inside
  terminator := .inr (by rw [clear.quote])
  inAttribute := by rw [clear.quote]; rcases mode with mode | mode <;> simp [mode]
  namespaceName
  pending := .inr clear.pending

/-- Inside a tag it is enough to know these. -/
structure IsTagState (state : State) : Prop where
  mode : state.mode.isInTag = true
  base : IsBase state.resume
  directive : state.tag.inDirective = true → state.mode = .directive ∨ state.mode = .expression
  quote : state.quote = {}
  namespaceName : state.doc.namespaceName = state.namespaceName
  pending : state.doc.pending = []

theorem isCoherent_iff_isTagState {state : State} (mode : state.mode.isInTag = true) :
    state.IsCoherent ↔ state.IsTagState := by
  have noString : state.mode ≠ .stringLiteral := by
    intro string
    rw [string] at mode
    cases mode
  have noDoc : state.mode ≠ .docComment := by
    intro doc
    rw [doc] at mode
    cases mode
  constructor
  · intro coherent
    refine ⟨mode, ?_, ?_, coherent.quote noString, coherent.namespaceName,
      coherent.pending.resolve_left noDoc⟩
    · have stack := coherent.stack
      revert mode stack
      cases state.mode <;> simp [Mode.isInTag, StackFits]
    · intro inside
      rcases coherent.directive inside with directive | expression | string
      · exact .inl directive
      · exact .inr expression
      · exact absurd string.1 noString
  · intro tagState
    refine ⟨?_, .inl mode, ?_, .inr ?_, ?_, tagState.namespaceName, .inr tagState.pending⟩
    · have base := tagState.base
      revert mode
      cases state.mode <;> simp [Mode.isInTag, StackFits, base]
    · intro inside
      rcases tagState.directive inside with directive | expression
      · exact .inl directive
      · exact .inr (.inl expression)
    · rw [tagState.quote]
    · rw [tagState.quote]
      exact ⟨fun inside => (by cases inside), fun string => absurd string.1 noString⟩

theorem isTagState_of_mode {state : State} {mode : Mode} (coherent : state.IsCoherent)
    (current : state.mode = mode) (inTag : mode.isInTag = true) : state.IsTagState :=
  (isCoherent_iff_isTagState (current ▸ inTag)).mp coherent

theorem IsTagState.enter {state : State} (tagState : state.IsTagState) {mode : Mode}
    (inTag : mode.isInTag = true)
    (directive : state.tag.inDirective = true → mode = .directive ∨ mode = .expression) :
    (state.enter mode).IsCoherent :=
  (isCoherent_iff_isTagState inTag).mpr
    ⟨inTag, tagState.base, directive, tagState.quote, tagState.namespaceName, tagState.pending⟩

theorem IsTagState.notInDirective {state : State} {mode : Mode} (tagState : state.IsTagState)
    (current : state.mode = mode) (other : mode ≠ .directive ∧ mode ≠ .expression) :
    state.tag.inDirective = false := by
  apply Bool.eq_false_iff.mpr
  intro inside
  rcases tagState.directive inside with found | found
  · exact other.1 (current.symm.trans found)
  · exact other.2 (current.symm.trans found)

theorem Shift.isCoherent {state settled : State} (shift : Shift state settled)
    (coherent : state.IsCoherent) : settled.IsCoherent := by
  cases shift with
  | commandless mode =>
    have tagState := isTagState_of_mode coherent mode rfl
    have plain := tagState.notInDirective mode (by decide)
    apply tagState.enter
    · cases state.tag.isClosing <;> rfl
    · intro inside
      rw [plain] at inside
      cases inside
  | nameless mode =>
    have tagState := isTagState_of_mode coherent mode rfl
    have plain := tagState.notInDirective mode (by decide)
    apply tagState.enter rfl
    intro inside
    rw [plain] at inside
    cases inside
  | undirected mode =>
    have tagState := isTagState_of_mode coherent mode rfl
    exact tagState.enter rfl fun _ => .inr rfl
  | literalEnded mode =>
    have clear := coherent.templateText (.inr mode)
    exact isCoherent_of_isClear ⟨clear.resume, clear.tag, clear.quote, clear.pending⟩ (.inl rfl)
      coherent.namespaceName

theorem pop_of_isBase {state : State} (base : IsBase state.resume) :
    state.pop.mode = .templateText ∧ state.pop.resume = [] := by
  rcases base with empty | single
  · simp [pop, empty]
  · simp [pop, single]

theorem followMode_isInTag (kind : Kind) : (followMode kind).isInTag = true := by
  unfold followMode
  split <;> rfl

/-- What a token inside a tag leaves as it is when it only tells the doc comment something. -/
structure SameTag (state after : State) : Prop where
  mode : after.mode = state.mode
  resume : after.resume = state.resume
  tag : after.tag = state.tag
  quote : after.quote = state.quote
  pending : state.doc.pending = [] → after.doc.pending = []
  namespaceName : state.doc.namespaceName = state.namespaceName →
    after.doc.namespaceName = after.namespaceName

theorem SameTag.refl (state : State) : SameTag state state :=
  ⟨rfl, rfl, rfl, rfl, id, id⟩

theorem SameTag.isTagState {state after : State} (same : SameTag state after)
    (tagState : state.IsTagState) : after.IsTagState where
  mode := same.mode ▸ tagState.mode
  base := same.resume ▸ tagState.base
  directive inside := by
    rw [same.tag] at inside
    rw [same.mode]
    exact tagState.directive inside
  quote := same.quote ▸ tagState.quote
  namespaceName := same.namespaceName tagState.namespaceName
  pending := same.pending tagState.pending

theorem sameTag_declareTemplate (state : State) (name : Text) (line : Nat) :
    SameTag state (state.declareTemplate name line) := by
  unfold declareTemplate
  dsimp only
  split <;> exact ⟨rfl, rfl, rfl, rfl, id, id⟩

theorem sameTag_nameOf {state after : State} {lexeme : NameLexeme} {text : Text} {line : Nat}
    {kind : Kind} (declares : state.nameOf lexeme text line = some (kind, after)) :
    SameTag state after := by
  unfold nameOf at declares
  split at declares <;> cases declares
  case h_1 => exact ⟨rfl, rfl, rfl, rfl, id, fun _ => rfl⟩
  case h_4 => exact sameTag_declareTemplate _ _ _
  case h_5 => exact sameTag_declareTemplate _ _ _
  all_goals exact SameTag.refl _

theorem sameTag_referParameter (state : State) (name : Text) :
    SameTag state (state.referParameter name) := by
  unfold referParameter
  split <;> exact ⟨rfl, rfl, rfl, rfl, id, id⟩

theorem sameTag_handOutDoc (state : State) (kind : Kind) :
    SameTag state (state.handOutDoc kind).2 := by
  unfold handOutDoc
  split
  · dsimp only
    split
    · refine ⟨rfl, rfl, rfl, rfl, fun _ => rfl, fun same => ?_⟩
      exact (Doc.Buffer.close_namespaceName _).trans same
    · exact ⟨rfl, rfl, rfl, rfl, id, id⟩
  · exact SameTag.refl state

theorem commandWord_isCoherent {state : State} (tagState : state.IsTagState)
    (mode : state.mode = .tagCommand) (kind : Kind) (width : Nat) :
    (state.commandWord kind width).state.IsCoherent := by
  have plain := tagState.notInDirective mode (by decide)
  have entered (next : Mode) (inTag : next.isInTag = true) :
      ({ state with tag := { state.tag with command := some kind } }.enter next).IsTagState := by
    refine ⟨inTag, tagState.base, ?_, tagState.quote, tagState.namespaceName, tagState.pending⟩
    intro inside
    exact absurd inside (Bool.eq_false_iff.mp plain)
  unfold commandWord
  dsimp only
  split
  · have handed := (sameTag_handOutDoc _ kind).isTagState (entered .attributes rfl)
    exact (isCoherent_iff_isTagState handed.mode).mpr handed
  · have followed := entered (followMode kind) (followMode_isInTag kind)
    exact (isCoherent_iff_isTagState followed.mode).mpr followed

theorem closeTag_isCoherent {state : State} (tagState : state.IsTagState) (kind : Kind)
    (width : Nat) : (state.closeTag kind width).state.IsCoherent := by
  obtain ⟨mode, resume⟩ := pop_of_isBase tagState.base
  unfold closeTag
  dsimp only
  split
  · exact isCoherent_of_isClear ⟨resume, rfl, tagState.quote, tagState.pending⟩ (.inr rfl)
      tagState.namespaceName
  · exact isCoherent_of_isClear ⟨resume, rfl, tagState.quote, tagState.pending⟩ (.inl mode)
      tagState.namespaceName

theorem isTagState_of_body {state : State} (coherent : state.IsCoherent)
    (mode : state.mode = .attributes ∨ state.mode = .expression) : state.IsTagState := by
  rcases mode with mode | mode
  · exact isTagState_of_mode coherent mode rfl
  · exact isTagState_of_mode coherent mode rfl

theorem quoted_isCoherent {state : State} (coherent : state.IsCoherent) (terminator : Char)
    (inAttribute : Bool) (mode : state.mode = if inAttribute then .attributes else .expression) :
    State.IsCoherent
      { state.push .stringLiteral with quote := { terminator, inAttribute } } := by
  have body : state.mode = .expression ∨ state.mode = .attributes := by
    cases inAttribute
    · exact .inl mode
    · exact .inr mode
  have tagState := isTagState_of_body coherent body.symm
  refine ⟨.inr ⟨state.mode, state.resume, body, tagState.base, rfl⟩,
    .inr (.inl ⟨rfl, by simp [push]⟩), ?_, .inl rfl, ?_, tagState.namespaceName,
    .inr tagState.pending⟩
  · intro inside
    rcases tagState.directive inside with directive | expression
    · rcases body with body | body <;> rw [body] at directive <;> cases directive
    · exact .inr (.inr ⟨rfl, by simp [push, expression]⟩)
  · cases inAttribute <;> simp [push, mode]

theorem unquoted_isCoherent {state : State} (coherent : state.IsCoherent)
    (mode : state.mode = .stringLiteral) :
    ({ state.pop with quote := {} } : State).IsCoherent := by
  have stack := coherent.stack
  have pending : state.doc.pending = [] := by simpa [mode] using coherent.pending
  rw [mode] at stack
  rcases stack with empty | ⟨top, base, body, isBase, shape⟩
  · -- the scan was started inside the string, so no tag was ever opened
    have tag : state.tag = {} := by simpa [mode, Mode.isInTag, empty] using coherent.tag
    obtain ⟨outside, resume⟩ := pop_of_isBase (.inl empty)
    exact isCoherent_of_isClear ⟨resume, tag, rfl, pending⟩ (.inl outside) coherent.namespaceName
  · have inTag : top.isInTag = true := by rcases body with rfl | rfl <;> rfl
    have back : ({ state.pop with quote := {} } : State).IsTagState := by
      refine ⟨by simpa [pop, shape] using inTag, by simpa [pop, shape] using isBase, ?_, rfl,
        coherent.namespaceName, pending⟩
      intro inside
      have inExpression : top = .expression := by
        simpa [mode, shape] using coherent.directive inside
      exact .inr (by simpa [pop, shape] using inExpression)
    exact (isCoherent_iff_isTagState back.mode).mpr back

theorem docClosed_isCoherent {state : State} (coherent : state.IsCoherent)
    (mode : state.mode = .docComment) :
    ({ state.pop with doc := state.doc.close } : State).IsCoherent := by
  have base : IsBase state.resume := by simpa [mode, StackFits] using coherent.stack
  have tag : state.tag = {} := by simpa [mode, Mode.isInTag] using coherent.tag
  have quote := coherent.quote (by simp [mode])
  obtain ⟨outside, resume⟩ := pop_of_isBase base
  exact isCoherent_of_isClear ⟨resume, tag, quote, Doc.Buffer.close_pending _⟩ (.inl outside)
    ((Doc.Buffer.close_namespaceName _).trans coherent.namespaceName)

theorem docRead_isCoherent {state : State} (coherent : state.IsCoherent)
    (mode : state.mode = .docComment) {doc : Doc.Buffer}
    (namespaceName : doc.namespaceName = state.doc.namespaceName) :
    ({ state with doc } : State).IsCoherent :=
  ⟨coherent.stack, coherent.tag, coherent.directive, coherent.terminator, coherent.inAttribute,
    namespaceName.trans coherent.namespaceName, .inl mode⟩

theorem Transition.isCoherent {state after : State} {kind : Kind} {text : Text} {line : Nat}
    (step : Transition state kind text line after) (coherent : state.IsCoherent) :
    after.IsCoherent := by
  cases step with
  | kept => exact coherent
  | tagOpened isDoubled isClosing mode =>
    have clear := coherent.templateText (.inl mode)
    refine (isCoherent_iff_isTagState rfl).mpr ⟨rfl, .inr ?_, ?_, clear.quote,
      coherent.namespaceName, clear.pending⟩
    · simp [push, mode, clear.resume]
    · intro inside
      cases inside
  | docOpened mode =>
    have clear := coherent.templateText (.inl mode)
    refine ⟨.inr ?_, .inr (.inr clear.tag), ?_, .inr ?_, ?_, coherent.namespaceName, .inl rfl⟩
    · simp [push, mode, clear.resume]
    · intro inside
      change state.tag.inDirective = true at inside
      rw [clear.tag] at inside
      cases inside
    · simp [push, clear.quote]
    · simp [push, clear.quote]
  | literalRead mode =>
    have clear := coherent.templateText (.inr mode)
    exact isCoherent_of_isClear ⟨clear.resume, clear.tag, clear.quote, clear.pending⟩ (.inl rfl)
      coherent.namespaceName
  | commanded width mode =>
    exact commandWord_isCoherent (isTagState_of_mode coherent mode rfl) mode kind width
  | miscommanded mode =>
    have tagState := isTagState_of_mode coherent mode rfl
    have plain := tagState.notInDirective mode (by decide)
    exact tagState.enter rfl fun inside => absurd inside (Bool.eq_false_iff.mp plain)
  | escaped mode =>
    have tagState := isTagState_of_mode coherent mode rfl
    have plain := tagState.notInDirective mode (by decide)
    exact (isCoherent_iff_isTagState rfl).mpr ⟨rfl, tagState.base,
      fun inside => absurd inside (Bool.eq_false_iff.mp plain), tagState.quote,
      tagState.namespaceName, tagState.pending⟩
  | named lexeme mode declares =>
    have tagState := isTagState_of_mode coherent mode rfl
    have plain := tagState.notInDirective mode (by decide)
    have same := sameTag_nameOf declares
    rw [← same.tag] at plain
    exact (same.isTagState tagState).enter rfl
      fun inside => absurd inside (Bool.eq_false_iff.mp plain)
  | valued mode =>
    have tagState := isTagState_of_mode coherent mode rfl
    exact tagState.enter rfl fun _ => .inr rfl
  | quoted terminator inAttribute mode =>
    exact quoted_isCoherent coherent terminator inAttribute mode
  | reopened mode =>
    have tagState := isTagState_of_body coherent mode
    refine (isCoherent_iff_isTagState rfl).mpr ⟨rfl, tagState.base, ?_, tagState.quote,
      tagState.namespaceName, tagState.pending⟩
    intro inside
    cases inside
  | closed width mode => exact closeTag_isCoherent (isTagState_of_body coherent mode) kind width
  | directed mode =>
    have tagState := isTagState_of_mode coherent mode rfl
    exact tagState.enter rfl fun _ => .inr rfl
  | piped mode =>
    have tagState := isTagState_of_mode coherent mode rfl
    exact (isCoherent_iff_isTagState rfl).mpr ⟨rfl, tagState.base, fun _ => .inl rfl,
      tagState.quote, tagState.namespaceName, tagState.pending⟩
  | referred mode =>
    have tagState := isTagState_of_mode coherent mode rfl
    have after := (sameTag_referParameter state (text.drop 1)).isTagState tagState
    exact (isCoherent_iff_isTagState after.mode).mpr after
  | unquoted mode => exact unquoted_isCoherent coherent mode
  | docClosed mode => exact docClosed_isCoherent coherent mode
  | docWord mode => exact docRead_isCoherent coherent mode (Doc.Buffer.anticipating_namespaceName _)
  | docRead lexeme mode => exact docRead_isCoherent coherent mode rfl

theorem emission_isCoherent {state : State} (coherent : state.IsCoherent) (view : View) :
    (state.emission view).state.IsCoherent := by
  obtain ⟨settled, origin, step⟩ := state.emission_steps view
  rcases origin with rfl | shift
  · exact step.isCoherent coherent
  · exact step.isCoherent (shift.isCoherent coherent)

end State

theorem Scanner.isCoherent_advance {scanner : Scanner} (coherent : scanner.state.IsCoherent) :
    scanner.advance.2.state.IsCoherent := by
  unfold Scanner.advance
  split
  · exact coherent
  · exact State.emission_isCoherent coherent _

theorem Scanner.isCoherent_behind {source : Text} {start stop : Nat} {mode : Mode}
    {scanner : Scanner} (accepted : Scanner.bind source start stop mode = .ok scanner) (n : Nat) :
    (behind Scanner.advance scanner n).state.IsCoherent := by
  have initial : scanner.state.IsCoherent := by
    obtain ⟨-, rfl⟩ := Scanner.bind_eq_ok_iff.mp accepted
    exact State.isCoherent_initial mode
  exact behind_induction (fun current : Scanner => current.state.IsCoherent) initial
    (fun _ coherent => Scanner.isCoherent_advance coherent) n

namespace State

/-- A scan of a valid range, from any mode, is in the state after some calls. -/
def IsReachable (state : State) : Prop :=
  ∃ source start stop mode scanner n, Scanner.bind source start stop mode = .ok scanner ∧
    (behind Scanner.advance scanner n).state = state

theorem IsReachable.isCoherent {state : State} (reachable : state.IsReachable) :
    state.IsCoherent := by
  obtain ⟨source, start, stop, mode, scanner, n, accepted, rfl⟩ := reachable
  exact Scanner.isCoherent_behind accepted n

theorem length_le_of_isBase {resume : List Mode} (base : IsBase resume) : resume.length ≤ 1 := by
  rcases base with rfl | rfl <;> simp

theorem IsCoherent.resume_length {state : State} (coherent : state.IsCoherent) :
    state.resume.length ≤ 2 := by
  have stack := coherent.stack
  cases mode : state.mode with
  | templateText | literal =>
    rw [mode] at stack
    have empty : state.resume = [] := stack
    simp [empty]
  | stringLiteral =>
    rw [mode] at stack
    rcases stack with empty | ⟨top, base, -, isBase, shape⟩
    · simp [empty]
    · have short := length_le_of_isBase isBase
      simp only [shape, List.length_cons]
      omega
  | tagCommand | expression | name | attributes | directive | docComment =>
    rw [mode] at stack
    exact Nat.le_succ_of_le (length_le_of_isBase stack)

theorem IsCoherent.isBase {state : State} (coherent : state.IsCoherent)
    (mode : state.mode.isInTag = true ∨ state.mode = .docComment) : IsBase state.resume := by
  rcases mode with inTag | inComment
  · exact ((isCoherent_iff_isTagState inTag).mp coherent).base
  · simpa [inComment, StackFits] using coherent.stack

/-- The stack, the tag, the string and the doc comment of a scan fit the mode that it is in. -/
theorem reachable_states_fit {state : State} (reachable : state.IsReachable) :
    state.resume.length ≤ 2 ∧
    (state.mode = .templateText ∨ state.mode = .literal → state.resume = [] ∧ state.tag = {}) ∧
    (state.mode.isInTag = true ∨ state.mode = .docComment →
      state.resume = [] ∨ state.resume = [.templateText]) ∧
    (state.mode = .stringLiteral → state.resume = [] ∨
      ∃ top base, (top = .expression ∨ top = .attributes) ∧
        (base = [] ∨ base = [.templateText]) ∧ state.resume = top :: base) ∧
    (state.quote.inAttribute = true ↔
      state.mode = .stringLiteral ∧ state.resume.head? = some .attributes) ∧
    (state.mode ≠ .stringLiteral → state.quote.terminator = '"') ∧
    (state.tag.inDirective = true → state.mode = .directive ∨ state.mode = .expression ∨
      state.mode = .stringLiteral ∧ state.resume.head? = some .expression) ∧
    state.doc.namespaceName = state.namespaceName ∧
    (state.mode ≠ .docComment → state.doc.pending = []) := by
  have coherent := reachable.isCoherent
  refine ⟨coherent.resume_length, ?_, coherent.isBase, ?_, coherent.inAttribute,
    coherent.terminator.resolve_left, coherent.directive, coherent.namespaceName,
    coherent.pending.resolve_left⟩
  · intro outside
    have clear := coherent.templateText outside
    exact ⟨clear.resume, clear.tag⟩
  · intro inString
    have stack := coherent.stack
    rw [inString] at stack
    exact stack

theorem reachable_states_fit_in_directive : ∃ state : State, state.IsReachable ∧
    state.mode = .stringLiteral ∧ state.tag.inDirective = true ∧
    state.resume = [.expression, .templateText] ∧ state.resume.length ≤ 2 ∧
    state.resume.head? = some .expression ∧ state.quote.inAttribute = false ∧
    state.doc.pending = [] := by
  have reachable : (behind Scanner.advance (Scanner.ofRange "\x7b$a|b:'c'\x7d".toList 0 10
      .templateText) 6).state.IsReachable :=
    ⟨"\x7b$a|b:'c'\x7d".toList, 0, 10, .templateText, _, 6, rfl, rfl⟩
  obtain ⟨short, -, -, -, ofAttribute, -, ofDirective, -, pending⟩ := reachable_states_fit reachable
  have inDirective : (behind Scanner.advance (Scanner.ofRange "\x7b$a|b:'c'\x7d".toList 0 10
      .templateText) 6).state.tag.inDirective = true := by decide
  refine ⟨_, reachable, by decide, inDirective, by decide, short, ?_, ?_, pending (by decide)⟩
  · rcases ofDirective inDirective with other | other | inString
    · exact absurd other (by decide)
    · exact absurd other (by decide)
    · exact inString.2
  · exact Bool.eq_false_iff.mpr fun inAttribute =>
      absurd (ofAttribute.mp inAttribute).2 (by decide)

end State

end ClosureTemplate.Scan
