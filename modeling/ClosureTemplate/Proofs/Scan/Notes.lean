import ClosureTemplate.Proofs.Scan.Comment

/-!
What a stream of tokens tells about names and doc comments, told from the tokens alone. Each token
leaves at most one note, which depends on the tokens right before it; the records of a scan, that
is its names and the fact that a comment waits to be handed out, are functions of the notes so far
(`follows_behind`).
-/

namespace ClosureTemplate

inductive Note where
  | commentBegan
  | namespaceNamed (name : Text)
  | templateNamed (name : Text) (line : Nat)
  | templateEnded
  | parameterUsed (name : Text)
  deriving DecidableEq, Repr

/-- The notes of a stream, the latest first. -/
abbrev Notes := List Note

namespace Notes

def namespaceName : Notes → Option Text
  | [] => none
  | .namespaceNamed name :: _ => some name
  | _ :: earlier => namespaceName earlier

def templateName : Notes → Option Text
  | [] => none
  | .templateNamed name _ :: _ => some name
  | .templateEnded :: _ => none
  | _ :: earlier => templateName earlier

/-- A comment began and no template ended since. -/
def isDocumented : Notes → Bool
  | [] => false
  | .commentBegan :: _ => true
  | .templateEnded :: _ => false
  | _ :: earlier => isDocumented earlier

end Notes

namespace History

def lastWord (history : History) : Option Kind :=
  (history.find? fun symbol => symbol.kind ≠ .blank).map Symbol.kind

/-- What a token tells behind the tokens before it. A name is declared right behind its command
word, and a closing tag is one whose keyword stands right behind the opening of a closing tag. -/
def note? (earlier : History) (symbol : Symbol) : Option Note :=
  match symbol.kind with
  | .docBegin => some .commentBegan
  | .namespaceIdentifier =>
    if earlier.lastWord = some .namespaceWord then some (.namespaceNamed symbol.text) else none
  | .templateIdentifier | .deltemplateIdentifier =>
    if earlier.lastWord = some .templateWord || earlier.lastWord = some .deltemplateWord then
      some (.templateNamed symbol.text symbol.line)
    else none
  | .templateWord | .deltemplateWord =>
    if earlier.head?.map Symbol.kind = some .endTagOpen then some .templateEnded else none
  | .parameterRef => some (.parameterUsed (symbol.text.drop 1))
  | _ => none

def notes : History → Notes
  | [] => []
  | symbol :: earlier => (note? earlier symbol).toList ++ notes earlier

def noteKinds : List Kind :=
  [.docBegin, .namespaceIdentifier, .templateIdentifier, .deltemplateIdentifier, .templateWord,
    .deltemplateWord, .parameterRef]

theorem note?_eq_none {earlier : History} {symbol : Symbol} (plain : symbol.kind ∉ noteKinds) :
    note? earlier symbol = none := by
  unfold note?
  split <;> simp_all [noteKinds]

theorem notes_cons_of_plain {earlier : History} {symbol : Symbol}
    (plain : symbol.kind ∉ noteKinds) : notes (symbol :: earlier) = notes earlier := by
  rw [notes, note?_eq_none plain]
  rfl

theorem lastWord_cons_of_blank {earlier : History} {symbol : Symbol}
    (blank : symbol.kind = .blank) : lastWord (symbol :: earlier) = lastWord earlier := by
  simp [lastWord, blank]

theorem lastWord_cons_of_ne_blank {earlier : History} {symbol : Symbol}
    (word : symbol.kind ≠ .blank) : lastWord (symbol :: earlier) = some symbol.kind := by
  simp [lastWord, word]

end History

namespace Scan

namespace State

/-- The facts about the open tag as the tokens before tell them: whether it closes something, while
its command word is due, and its command, while a name is due. -/
structure FitsTag (state : State) (earlier : History) : Prop where
  closing : state.mode = .tagCommand →
    (state.tag.isClosing = true ↔ earlier.head?.map Symbol.kind = some .endTagOpen)
  command : state.mode = .name → state.tag.command = History.lastWord earlier

theorem fitsTag_of_mode {state : State} (earlier : History)
    (other : state.mode ≠ .tagCommand ∧ state.mode ≠ .name) : state.FitsTag earlier :=
  ⟨fun mode => absurd mode other.1, fun mode => absurd mode other.2⟩

theorem fitsTag_initial (mode : Mode) : (initial mode).FitsTag [] :=
  ⟨fun _ => by simp [initial], fun _ => rfl⟩

theorem Shift.fitsTag {state settled : State} (shift : Shift state settled) (earlier : History) :
    settled.FitsTag earlier := by
  apply fitsTag_of_mode
  cases shift with
  | commandless => cases state.tag.isClosing <;> simp [enter]
  | _ => simp [enter]

theorem commandWord_fitsTag (state : State) (symbol : Symbol) (earlier : History) (width : Nat)
    (known : Kind.command? symbol.text = some symbol.kind) :
    (state.commandWord symbol.kind width).state.FitsTag (symbol :: earlier) := by
  have word : symbol.kind ≠ .blank := by
    have all : ∀ entry ∈ Kind.commands, entry.2 ≠ .blank := by decide
    exact all _ (mem_of_lookup known)
  have follows : ∀ kind, followMode kind ≠ .tagCommand := by
    intro kind
    unfold followMode
    split <;> decide
  unfold commandWord
  dsimp only
  split
  · apply fitsTag_of_mode
    rw [(sameTag_handOutDoc _ symbol.kind).mode]
    simp [enter]
  · refine ⟨fun mode => absurd mode (follows symbol.kind), fun _ => ?_⟩
    rw [History.lastWord_cons_of_ne_blank word]
    rfl

theorem Transition.fitsTag {state after : State} {symbol : Symbol} {earlier : History}
    (step : Transition state symbol.kind symbol.text symbol.line after)
    (coherent : state.IsCoherent) (fits : state.FitsTag earlier) :
    after.FitsTag (symbol :: earlier) := by
  obtain ⟨kind, text, start, stop, line, column, value⟩ := symbol
  dsimp only at step
  cases step with
  | kept keeps =>
    constructor
    · intro mode
      rw [mode] at keeps
      cases keeps
    · intro mode
      have blank : kind = .blank := by simpa [mode, Mode.keptKinds] using keeps
      rw [History.lastWord_cons_of_blank blank]
      exact fits.command mode
  | tagOpened isDoubled isClosing =>
    constructor
    · intro
      cases isClosing <;> simp
    · intro mode
      cases mode
  | commanded width mode known =>
    exact commandWord_fitsTag state ⟨kind, text, start, stop, line, column, value⟩ earlier width
      known
  | reopened =>
    constructor
    · intro
      simp
    · intro mode
      cases mode
  | closed width mode =>
    apply fitsTag_of_mode
    have base := (isTagState_of_body coherent mode).base
    rcases closeTag_mode base kind width with outside | outside <;> rw [outside] <;> decide
  | unquoted mode =>
    apply fitsTag_of_mode
    show state.pop.mode ≠ .tagCommand ∧ state.pop.mode ≠ .name
    rcases unquoted_mode coherent mode with back | back | back <;> rw [back] <;> decide
  | docClosed mode =>
    apply fitsTag_of_mode
    show state.pop.mode ≠ .tagCommand ∧ state.pop.mode ≠ .name
    rw [docClosed_mode coherent mode]
    decide
  | referred mode =>
    apply fitsTag_of_mode
    rw [(sameTag_referParameter state (text.drop 1)).mode, mode]
    decide
  | docWord mode | docRead lexeme mode =>
    apply fitsTag_of_mode
    show state.mode ≠ .tagCommand ∧ state.mode ≠ .name
    rw [mode]
    decide
  | _ => exact fitsTag_of_mode _ (by simp [enter, push])

def noted (state : State) : Note → State
  | .commentBegan => { state with doc := state.doc.reset, docActive := true }
  | .namespaceNamed name => state.declareNamespace name
  | .templateNamed name line => state.declareTemplate name line
  | .templateEnded => (state.handOutDoc .templateWord).2
  | .parameterUsed name => state.referParameter name

structure SameRecords (state other : State) : Prop where
  namespaceName : state.namespaceName = other.namespaceName
  templateName : state.templateName = other.templateName
  doc : state.doc = other.doc
  docActive : state.docActive = other.docActive

theorem SameRecords.refl (state : State) : SameRecords state state := ⟨rfl, rfl, rfl, rfl⟩

theorem sameRecords_handOutDoc {state other : State} (same : SameRecords state other) {kind : Kind}
    (keyword : kind = .templateWord ∨ kind = .deltemplateWord) :
    SameRecords (state.handOutDoc kind).2 (other.handOutDoc .templateWord).2 := by
  have isKeyword : (decide (kind = .templateWord) || decide (kind = .deltemplateWord)) = true := by
    rcases keyword with rfl | rfl <;> rfl
  obtain ⟨namespaceName, -, doc, docActive⟩ := same
  by_cases active : other.docActive = true
  · simp [handOutDoc, isKeyword, docActive, active, doc]
    exact ⟨namespaceName, rfl, rfl, rfl⟩
  · simp [handOutDoc, isKeyword, docActive, active]
    exact ⟨namespaceName, rfl, doc, rfl⟩

theorem handOutDoc_of_other {kind : Kind} (state : State)
    (other : kind ≠ .templateWord ∧ kind ≠ .deltemplateWord) :
    state.handOutDoc kind = (none, state) := by
  simp [handOutDoc, other.1, other.2]

theorem commandWord_records {state : State} (symbol : Symbol) {earlier : History}
    (fits : state.FitsTag earlier) (mode : state.mode = .tagCommand) (width : Nat)
    (known : Kind.command? symbol.text = some symbol.kind) :
    SameRecords (state.commandWord symbol.kind width).state
      ((History.note? earlier symbol).elim state state.noted) := by
  by_cases keyword : symbol.kind = .templateWord ∨ symbol.kind = .deltemplateWord
  · -- the keyword of a template: it hands out if and only if the tag is a closing one
    by_cases closing : state.tag.isClosing = true
    · have note : History.note? earlier symbol = some .templateEnded := by
        have opener := (fits.closing mode).mp closing
        rcases keyword with kind | kind <;> simp [History.note?, kind, opener]
      rw [note]
      simp only [commandWord, closing, if_true, Option.elim_some, noted]
      apply sameRecords_handOutDoc _ keyword
      exact ⟨rfl, rfl, rfl, rfl⟩
    · have note : History.note? earlier symbol = none := by
        have opener := mt (fits.closing mode).mpr closing
        rcases keyword with kind | kind <;> simp [History.note?, kind, opener]
      rw [note]
      simp only [commandWord, closing, Option.elim_none]
      exact ⟨rfl, rfl, rfl, rfl⟩
  · have plain : symbol.kind ∉ History.noteKinds := by
      have all : ∀ entry ∈ Kind.commands, entry.2 ∈ History.noteKinds →
          entry.2 = .templateWord ∨ entry.2 = .deltemplateWord := by decide
      exact fun listed => keyword (all _ (mem_of_lookup known) listed)
    rw [History.note?_eq_none plain, Option.elim_none]
    have other := not_or.mp keyword
    by_cases closing : state.tag.isClosing = true
    · simp only [commandWord, closing, if_true, handOutDoc_of_other _ other]
      exact ⟨rfl, rfl, rfl, rfl⟩
    · simp only [commandWord, closing]
      exact ⟨rfl, rfl, rfl, rfl⟩

theorem nameOf_records {state after : State} {lexeme : NameLexeme} (symbol : Symbol)
    {earlier : History} (fits : state.FitsTag earlier) (mode : state.mode = .name)
    (declares : state.nameOf lexeme symbol.text symbol.line = some (symbol.kind, after)) :
    SameRecords (after.enter .attributes)
      ((History.note? earlier symbol).elim state state.noted) := by
  have command := fits.command mode
  unfold nameOf at declares
  rw [command] at declares
  split at declares
  all_goals
    try
      next word =>
        obtain ⟨kind, rfl⟩ := Prod.mk.inj (Option.some.inj declares)
        simp [History.note?, ← kind, word, noted]
        exact ⟨rfl, rfl, rfl, rfl⟩
  cases declares

theorem Shift.sameRecords {state settled : State} (shift : Shift state settled) :
    SameRecords settled state := by
  cases shift <;> exact ⟨rfl, rfl, rfl, rfl⟩

theorem Transition.records {state after : State} {symbol : Symbol} {earlier : History}
    (step : Transition state symbol.kind symbol.text symbol.line after)
    (outside : state.mode ≠ .docComment) (fits : state.FitsTag earlier) :
    SameRecords after ((History.note? earlier symbol).elim state state.noted) := by
  obtain ⟨kind, text, start, stop, line, column, value⟩ := symbol
  dsimp only at step
  have silent : ∀ {other : State}, kind ∉ History.noteKinds → SameRecords other state →
      SameRecords other ((History.note? earlier
        ⟨kind, text, start, stop, line, column, value⟩).elim state state.noted) := by
    intro other plain same
    rw [History.note?_eq_none plain]
    exact same
  cases step with
  | kept keeps =>
    have plain : ∀ mode : Mode, ∀ kind ∈ mode.keptKinds, kind ∉ History.noteKinds := by
      intro mode
      cases mode <;> decide
    exact silent (plain _ kind keeps) (.refl state)
  | tagOpened isDoubled isClosing =>
    exact silent (by cases isClosing <;> decide) ⟨rfl, rfl, rfl, rfl⟩
  | docOpened => exact ⟨rfl, rfl, rfl, rfl⟩
  | commanded width mode known =>
    exact commandWord_records
      ⟨kind, text, start, stop, line, column, value⟩ fits mode width known
  | named lexeme mode declares =>
    exact nameOf_records ⟨kind, text, start, stop, line, column, value⟩ fits mode declares
  | closed width mode closes =>
    have same : SameRecords (state.closeTag kind width).state state := by
      unfold closeTag
      dsimp only
      split <;> exact ⟨rfl, rfl, rfl, rfl⟩
    exact silent (by rcases closes with rfl | rfl <;> decide) same
  | referred => exact .refl _
  | docClosed mode | docWord mode | docRead lexeme mode => exact absurd mode outside
  | _ => exact silent (by decide) ⟨rfl, rfl, rfl, rfl⟩

theorem note?_inside_docComment {state after : State} {symbol : Symbol}
    (step : Transition state symbol.kind symbol.text symbol.line after)
    (inside : state.mode = .docComment) (earlier : History) :
    History.note? earlier symbol = none := by
  have plain : ∀ kind ∈ Mode.kinds .docComment, kind ∉ History.noteKinds := by decide
  exact History.note?_eq_none (plain _ (inside ▸ step.kind_mem))

structure Recalls (state : State) (notes : Notes) : Prop where
  namespaceName : state.namespaceName = notes.namespaceName
  templateName : state.templateName = notes.templateName
  docActive : state.docActive = notes.isDocumented

theorem SameRecords.recalls {state other : State} (same : SameRecords state other) {notes : Notes}
    (recalls : other.Recalls notes) : state.Recalls notes :=
  ⟨same.namespaceName.trans recalls.namespaceName, same.templateName.trans recalls.templateName,
    same.docActive.trans recalls.docActive⟩

theorem Recalls.noted {state : State} {notes : Notes} (recalls : state.Recalls notes)
    (note : Note) : (state.noted note).Recalls (note :: notes) := by
  obtain ⟨namespaceName, templateName, docActive⟩ := recalls
  cases note with
  | commentBegan => exact ⟨namespaceName, templateName, rfl⟩
  | namespaceNamed name => exact ⟨rfl, templateName, docActive⟩
  | templateNamed name line =>
    simp only [State.noted, declareTemplate]
    split
    · exact ⟨namespaceName, rfl, docActive⟩
    · exact ⟨namespaceName, rfl, docActive⟩
  | templateEnded =>
    cases active : state.docActive <;> simp [State.noted, handOutDoc, active]
    · exact ⟨namespaceName, rfl, rfl⟩
    · exact ⟨namespaceName, rfl, rfl⟩
  | parameterUsed name =>
    simp only [State.noted, referParameter]
    split
    · exact ⟨namespaceName, templateName, docActive⟩
    · exact ⟨namespaceName, templateName, docActive⟩

structure Follows (state : State) (history : History) : Prop where
  tag : state.FitsTag history
  records : state.Recalls history.notes

theorem follows_initial (mode : Mode) : (initial mode).Follows [] :=
  ⟨fitsTag_initial mode, rfl, rfl, rfl⟩

theorem Shift.follows {state settled : State} (shift : Shift state settled) {earlier : History}
    (follows : state.Follows earlier) : settled.Follows earlier := by
  refine ⟨shift.fitsTag earlier, shift.sameRecords.recalls follows.records⟩

theorem Transition.follows {state after : State} {symbol : Symbol} {earlier : History}
    (step : Transition state symbol.kind symbol.text symbol.line after)
    (coherent : state.IsCoherent) (follows : state.Follows earlier) :
    after.Follows (symbol :: earlier) := by
  refine ⟨step.fitsTag coherent follows.tag, ?_⟩
  by_cases inside : state.mode = .docComment
  · rw [History.notes, note?_inside_docComment step inside earlier]
    obtain ⟨-, namespaceName, templateName, docActive⟩ := follows
    rcases step.inside_docComment inside with ⟨-, rfl⟩ | ⟨-, doc, rfl⟩ <;>
      exact ⟨namespaceName, templateName, docActive⟩
  · apply (step.records inside follows.tag).recalls
    rw [History.notes]
    cases History.note? earlier symbol with
    | none => exact follows.records
    | some note => exact follows.records.noted note

end State

namespace Scanner

/-- At every moment of a scan the state is what the tokens so far make of it. -/
theorem follows_behind {source : Text} {mode : Mode} {start stop : Nat} {scanner : Scanner}
    (accepted : Scanner.bind source start stop mode = .ok scanner) {n : Nat}
    (bounded : n ≤ scanner.drain.1.length) :
    (behind advance scanner n).state.Follows (scanner.history n) := by
  have initial : scanner.state.Follows [] := by
    obtain ⟨-, rfl⟩ := bind_eq_ok_iff.mp accepted
    exact State.follows_initial mode
  refine history_induction (fun history current => current.state.Follows history) initial ?_ bounded
  intro n more follows
  obtain ⟨settled, origin, step⟩ := advance_steps more
  have coherent := isCoherent_behind accepted n
  rcases origin with rfl | shift
  · exact step.follows coherent follows
  · exact step.follows (shift.isCoherent coherent) (shift.follows follows)

end Scanner

end Scan

end ClosureTemplate
