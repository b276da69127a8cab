import ClosureTemplate.Proofs.Scan.Notes

/-!
The keyword of a closing template tag hands out the last doc comment, if one began since a template
was closed. What it hands out is a function of the tokens before it: the reading of the comment's
body, with the names and the references that were noted since.
-/

namespace ClosureTemplate

namespace Table

variable {κ ν : Type} [DecidableEq κ] (names : List κ) (name : κ) (value : ν)

theorem get?_map_const :
    get? (names.map (·, value)) name = if name ∈ names then some value else none := by
  induction names with
  | nil => rfl
  | cons first rest ih =>
    by_cases same : first = name
    · simp [get?, same]
    · simp [get?, same, Ne.symm same, ih]

theorem put_map_const :
    put (names.map (·, value)) name value =
      (if name ∈ names then names else names ++ [name]).map (·, value) := by
  induction names with
  | nil => simp [put]
  | cons first rest ih =>
    by_cases same : first = name
    · simp [put, same]
    · by_cases known : name ∈ rest <;> simp_all [put, Ne.symm same]

end Table

namespace Notes

/-- The template named last since the comment began, with the line of its name. -/
def declared? : Notes → Option (Text × Nat)
  | [] | .commentBegan :: _ => none
  | .templateNamed name line :: _ => some (name, line)
  | _ :: earlier => declared? earlier

/-- The parameters used inside of a template since the comment began, in order. -/
def references : Notes → List Text
  | [] | .commentBegan :: _ => []
  | .parameterUsed name :: earlier =>
    if (templateName earlier).isSome then references earlier ++ [name] else references earlier
  | _ :: earlier => references earlier

theorem isDocumented_of_cons {notes : Notes} {note : Note}
    (documented : isDocumented (note :: notes) = true) (notBegan : note ≠ .commentBegan) :
    notes.isDocumented = true := by
  cases note with
  | commentBegan => exact absurd rfl notBegan
  | templateEnded => cases documented
  | _ => exact documented

/-- The buffer of a comment with this body, at the end of these notes. -/
def docOf (notes : Notes) (body : Text) : Doc.Buffer :=
  { Doc.Buffer.ofText notes.namespaceName body with
    templateName := notes.declared?.map Prod.fst
    templateLine := notes.declared?.map Prod.snd
    usages := notes.references.eraseDups.map (·, .ambiguous) }

@[simp]
theorem docOf_pending (notes : Notes) (body : Text) : (notes.docOf body).pending = [] :=
  Doc.Buffer.close_pending _

theorem docOf_commentBegan (notes : Notes) (body : Text) :
    docOf (.commentBegan :: notes) body = Doc.Buffer.ofText notes.namespaceName body := by
  have plain := Doc.Buffer.ofText_eq notes.namespaceName body
  rw [docOf]
  simp only [namespaceName, declared?, references, plain]
  rfl

theorem docOf_namespaceNamed (notes : Notes) (body name : Text) :
    docOf (.namespaceNamed name :: notes) body =
      { notes.docOf body with namespaceName := some name } := by
  have filled := Doc.Buffer.ofText_namespaceName notes.namespaceName (some name) body
  rw [docOf]
  simp only [namespaceName, declared?, references, ← filled]
  rfl

theorem docOf_parameterUsed {notes : Notes} (body name : Text)
    (inTemplate : notes.templateName.isSome = true) :
    docOf (.parameterUsed name :: notes) body = (notes.docOf body).recordUse name := by
  have merged : (((notes.docOf body).usages.get? name).getD .undefined).merge .ambiguous =
      .ambiguous := by
    rw [docOf, Table.get?_map_const]
    split <;> rfl
  rw [Doc.Buffer.recordUse, merged]
  simp only [docOf, namespaceName, declared?, references, inTemplate, if_true, Table.put_map_const,
    List.mem_eraseDups, List.eraseDups_append]
  by_cases known : name ∈ notes.references
  · simp [List.removeAll, known]
  · simp [List.removeAll, known, List.eraseDups_cons]

end Notes

theorem History.docBegin_of_note? {earlier : History} {symbol : Symbol}
    (began : note? earlier symbol = some .commentBegan) : symbol.kind = .docBegin := by
  unfold note? at began
  split at began
  · assumption
  all_goals try split at began
  all_goals cases began

namespace Scan

namespace State

theorem noted_doc {state : State} {notes : Notes} {body : Text} (recalls : state.Recalls notes)
    (active : state.docActive = true) (held : state.doc = notes.docOf body) {note : Note}
    (kept : (state.noted note).docActive = true) (notBegan : note ≠ .commentBegan) :
    (state.noted note).doc = Notes.docOf (note :: notes) body := by
  cases note with
  | commentBegan => exact absurd rfl notBegan
  | namespaceNamed name =>
    rw [Notes.docOf_namespaceNamed, ← held]
    rfl
  | templateNamed name line =>
    simp only [State.noted, declareTemplate, active, if_true, held]
    rfl
  | templateEnded => simp [State.noted, handOutDoc, active] at kept
  | parameterUsed name =>
    have sameTemplate := recalls.templateName
    by_cases inTemplate : notes.templateName.isSome = true
    · rw [Notes.docOf_parameterUsed body name inTemplate, ← held]
      simp [State.noted, referParameter, active, sameTemplate, inTemplate]
    · simpa [State.noted, referParameter, sameTemplate, inTemplate, Notes.docOf,
        Notes.namespaceName, Notes.declared?, Notes.references] using held

theorem commandWord_value {state : State} {kind : Kind}
    (keyword : kind = .templateWord ∨ kind = .deltemplateWord) (width : Nat) :
    (state.commandWord kind width).value =
      if state.tag.isClosing && state.docActive then some (.doc state.doc.close) else none := by
  have isKeyword : (decide (kind = .templateWord) || decide (kind = .deltemplateWord)) = true := by
    rcases keyword with rfl | rfl <;> rfl
  cases closing : state.tag.isClosing with
  | false => simp [commandWord, closing]
  | true =>
    cases active : state.docActive <;>
      simp [commandWord, handOutDoc, enter, isKeyword, closing, active, Doc.Buffer.snapshot]

theorem scanTagCommand_keyword {state : State} {view : View} {emission : Emission}
    (emits : state.scanTagCommand view = .emit emission)
    (keyword : emission.kind = .templateWord ∨ emission.kind = .deltemplateWord) :
    ∃ width, emission = state.commandWord emission.kind width := by
  unfold scanTagCommand at emits
  split at emits
  · next width _ =>
    split at emits
    · next kind _ =>
      obtain rfl := Move.emit.inj emits
      exact ⟨width, by rw [commandWord_kind]⟩
    · split at emits <;> cases emits
      rcases keyword with kind | kind <;> cases kind
  · split at emits
    · cases emits
    · split at emits <;> cases emits
      rcases keyword with kind | kind <;> cases kind

theorem Shift.mode_ne_tagCommand {state settled : State} (shift : Shift state settled) :
    settled.mode ≠ .tagCommand := by
  cases shift with
  | commandless => cases state.tag.isClosing <;> simp [enter]
  | _ => simp [enter]

end State

/-- The symbol is a template keyword right behind the opening of a closing tag. -/
def EndsTemplate (before : List Symbol) (symbol : Symbol) : Prop :=
  (symbol.kind = .templateWord ∨ symbol.kind = .deltemplateWord) ∧
    before.getLast?.map Symbol.kind = some .endTagOpen

/-- A doc comment begins in the stream and no template is ended behind that. -/
def Documented (stream : List Symbol) : Prop :=
  ∃ earlier opening later, stream = earlier ++ opening :: later ∧ opening.kind = .docBegin ∧
    ∀ between symbol rest, later = between ++ symbol :: rest →
      ¬EndsTemplate (earlier ++ opening :: between) symbol

theorem documented_concat_iff {stream : List Symbol} {symbol : Symbol} :
    Documented (stream ++ [symbol]) ↔
      symbol.kind = .docBegin ∨ Documented stream ∧ ¬EndsTemplate stream symbol := by
  constructor
  · rintro ⟨earlier, opening, later, split, opens, quiet⟩
    rcases List.eq_nil_or_concat later with rfl | ⟨others, last, rfl⟩
    · obtain ⟨rfl, same⟩ := List.append_inj' split rfl
      cases same
      exact .inl opens
    · rw [List.concat_eq_append, ← List.cons_append, ← List.append_assoc] at split
      obtain ⟨rfl, same⟩ := List.append_inj' split rfl
      cases same
      refine .inr ⟨⟨earlier, opening, others, rfl, opens, ?_⟩, quiet others symbol [] (by simp)⟩
      intro between other rest cut
      exact quiet between other (rest ++ [symbol]) (by simp [cut])
  · rintro (opens | ⟨⟨earlier, opening, later, rfl, opens, quiet⟩, still⟩)
    · exact ⟨stream, symbol, [], rfl, opens, by simp⟩
    · refine ⟨earlier, opening, later ++ [symbol], by simp, opens, ?_⟩
      intro between other rest cut
      rcases List.eq_nil_or_concat rest with rfl | ⟨others, last, rfl⟩
      · obtain ⟨rfl, same⟩ := List.append_inj' cut rfl
        cases same
        exact still
      · rw [List.concat_eq_append, ← List.cons_append, ← List.append_assoc] at cut
        exact quiet between other others (List.append_inj' cut rfl).1

theorem isDocumented_notes_cons (earlier : History) (symbol : Symbol) :
    (History.notes (symbol :: earlier)).isDocumented = true ↔
      symbol.kind = .docBegin ∨
        earlier.notes.isDocumented = true ∧ ¬EndsTemplate earlier.reverse symbol := by
  simp only [History.notes, History.note?, EndsTemplate, List.getLast?_reverse]
  split
  all_goals try split
  all_goals simp_all [Notes.isDocumented]

theorem isDocumented_notes_iff (history : History) :
    history.notes.isDocumented = true ↔ Documented history.reverse := by
  induction history with
  | nil => simp [History.notes, Notes.isDocumented, Documented]
  | cons symbol earlier ih =>
    rw [isDocumented_notes_cons, ih, List.reverse_cons, documented_concat_iff]

/-- The last doc comment of a stream and the text between its delimiters. -/
def LastComment (source : Text) (stream : List Symbol) (body : Text) : Prop :=
  ∃ earlier opening inside closing later,
    stream = earlier ++ opening :: (inside ++ closing :: later) ∧
    opening.kind = .docBegin ∧ (∀ symbol ∈ inside, symbol.kind.isDocBody = true) ∧
    closing.kind = .docEnd ∧ (∀ symbol ∈ later, symbol.kind ≠ .docBegin) ∧
    source.slice? opening.stop closing.start = some body

theorem LastComment.concat {source body : Text} {stream : List Symbol}
    (last : LastComment source stream body) {symbol : Symbol} (other : symbol.kind ≠ .docBegin) :
    LastComment source (stream ++ [symbol]) body := by
  obtain ⟨earlier, opening, inside, closing, later, rfl, opens, isBody, closes, quiet, text⟩ := last
  refine ⟨earlier, opening, inside, closing, later ++ [symbol], by simp, opens, isBody, closes,
    ?_, text⟩
  intro candidate member
  rcases List.mem_append.mp member with former | new
  · exact quiet candidate former
  · rw [List.mem_singleton.mp new]
    exact other

theorem Commenting.notes {mode : Mode} {start origin : Nat} {history : History} {body : Text}
    (commenting : Commenting mode start history origin body)
    (documented : history.notes.isDocumented = true) :
    ∃ earlier, history.notes = .commentBegan :: earlier := by
  induction commenting with
  | started => cases documented
  | @begun symbol earlier opens =>
    exact ⟨earlier.notes, by simp [History.notes, History.note?, opens]⟩
  | @inside symbol earlier origin body isBody _ ih =>
    have plain : symbol.kind ∉ History.noteKinds := by
      intro listed
      have all : ∀ kind ∈ History.noteKinds, kind.isDocBody = false := by decide
      rw [all _ listed] at isBody
      cases isBody
    rw [History.notes_cons_of_plain plain] at documented ⊢
    exact ih documented

theorem Commenting.opening {mode : Mode} {start origin : Nat} {history : History} {body : Text}
    (commenting : Commenting mode start history origin body)
    (documented : history.notes.isDocumented = true) :
    ∃ earlier opening inside, EndsInside history.reverse earlier opening inside ∧
      origin = opening.stop := by
  rcases commenting.endsInside with ⟨earlier, opening, inside, ends, stops, -⟩ | ⟨-, all, -⟩
  · exact ⟨earlier, opening, inside, ends, stops⟩
  · obtain ⟨earlier, opening, later, split, opens, -⟩ :=
      (isDocumented_notes_iff history).mp documented
    have isBody := all opening (by simp [split])
    rw [opens] at isBody
    cases isBody

namespace Scanner

/-- A comment that waits outside of comments is the last one, as the notes so far complete it. -/
def Waits (source : Text) (history : History) (scanner : Scanner) : Prop :=
  scanner.state.docActive = true → scanner.state.mode ≠ .docComment →
    ∃ body, LastComment source history.reverse body ∧ scanner.state.doc = history.notes.docOf body

theorem waits_of_docEnd {source body : Text} {mode : Mode} {start origin : Nat} {history : History}
    {scanner : Scanner} (more : scanner.rest ≠ [])
    (reads : scanner.ReadsComment source mode start history origin body)
    (follows : scanner.state.Follows history) (closes : scanner.advance.1.kind = .docEnd)
    (closed : scanner.advance.2.state = { scanner.state.pop with doc := scanner.state.doc.close }) :
    scanner.advance.2.Waits source (scanner.advance.1 :: history) := by
  intro active _
  have documented : history.notes.isDocumented = true := by
    rw [← follows.records.docActive]
    rw [closed] at active
    exact active
  obtain ⟨earlier, opening, inside, ends, rfl⟩ := reads.commenting.opening documented
  obtain ⟨notes, began⟩ := reads.commenting.notes documented
  have plain : scanner.advance.1.kind ∉ History.noteKinds := by
    rw [closes]
    decide
  refine ⟨body, ⟨earlier, opening, inside, scanner.advance.1, [], ?_, ends.opens, ends.body,
    closes, by simp, ?_⟩, ?_⟩
  · rw [List.reverse_cons, ends.split]
    simp
  · rw [(advance_symbol_start more).1]
    exact reads.text
  · rw [History.notes_cons_of_plain plain, began, Notes.docOf_commentBegan, closed]
    have sameNamespace := follows.records.namespaceName
    rw [began] at sameNamespace
    change scanner.state.doc.close = _
    rw [reads.reading.close, sameNamespace]
    rfl

theorem waits_advance {source : Text} {mode : Mode} {start : Nat} {history : History}
    {scanner : Scanner} (more : scanner.rest ≠ []) (follows : scanner.state.Follows history)
    (reads : scanner.state.mode = .docComment →
      ∃ origin body, scanner.ReadsComment source mode start history origin body)
    (waits : scanner.Waits source history) :
    scanner.advance.2.Waits source (scanner.advance.1 :: history) := by
  obtain ⟨settled, origin, step⟩ := advance_steps more
  by_cases inside : scanner.state.mode = .docComment
  · have same : settled = scanner.state := by
      rcases origin with same | shift
      · exact same
      · exact absurd inside shift.mode_of_docComment
    subst same
    obtain ⟨origin, body, reads⟩ := reads inside
    rcases step.inside_docComment inside with ⟨closes, closed⟩ | ⟨-, doc, same⟩
    · exact waits_of_docEnd more reads follows closes closed
    · intro _ left
      rw [same] at left
      exact absurd inside left
  · have settledFollows : settled.Follows history := by
      rcases origin with rfl | shift
      · exact follows
      · exact shift.follows follows
    have settledRecords : State.SameRecords settled scanner.state := by
      rcases origin with rfl | shift
      · exact .refl _
      · exact shift.sameRecords
    have outside : settled.mode ≠ .docComment := by
      rcases origin with rfl | shift
      · exact inside
      · exact shift.mode_ne_docComment
    intro active left
    have notBegin : scanner.advance.1.kind ≠ .docBegin := mt step.mode_of_docBegin left
    have records := step.records outside settledFollows.tag
    rw [records.docActive] at active
    rw [records.doc, List.reverse_cons, History.notes]
    cases noted : History.note? history scanner.advance.1 with
    | none =>
      rw [noted, Option.elim_none, settledRecords.docActive] at active
      obtain ⟨body, last, held⟩ := waits active inside
      exact ⟨body, last.concat notBegin, settledRecords.doc.trans held⟩
    | some note =>
      rw [noted, Option.elim_some] at active
      have notBegan : note ≠ .commentBegan := by
        rintro rfl
        exact notBegin (History.docBegin_of_note? noted)
      have wasActive : settled.docActive = true := by
        rw [(settledFollows.records.noted note).docActive] at active
        rw [settledFollows.records.docActive]
        exact Notes.isDocumented_of_cons active notBegan
      obtain ⟨body, last, held⟩ := waits (settledRecords.docActive ▸ wasActive) inside
      refine ⟨body, last.concat notBegin, ?_⟩
      exact State.noted_doc settledFollows.records wasActive (settledRecords.doc.trans held) active
        notBegan

theorem waits_behind {source : Text} {mode : Mode} {start stop : Nat} {scanner : Scanner}
    (accepted : Scanner.bind source start stop mode = .ok scanner) {n : Nat}
    (bounded : n ≤ scanner.drain.1.length) :
    (behind advance scanner n).Waits source (scanner.history n) := by
  have initial : scanner.Waits source [] := by
    obtain ⟨-, rfl⟩ := bind_eq_ok_iff.mp accepted
    intro active
    cases active
  induction n with
  | zero => exact initial
  | succ n ih =>
    have earlier : n ≤ scanner.drain.1.length := Nat.le_of_succ_le bounded
    exact waits_advance (behind_rest_ne_nil bounded) (follows_behind accepted earlier)
      (readsComment_behind accepted earlier) (ih earlier)

theorem advance_keyword {scanner : Scanner} (more : scanner.rest ≠ [])
    (keyword : scanner.advance.1.kind = .templateWord ∨
      scanner.advance.1.kind = .deltemplateWord) :
    scanner.state.mode = .tagCommand ∧ scanner.advance.1.value =
      if scanner.state.tag.isClosing && scanner.state.docActive then
        some (.doc scanner.state.doc.close)
      else none := by
  obtain ⟨head, tail, shape⟩ := List.exists_cons_of_ne_nil more
  rw [advance_of_rest shape] at keyword ⊢
  obtain ⟨settled, origin, emits⟩ := scanner.state.emission_settled (scanner.viewOf head tail)
  have mode := (State.steps_of_emits _ emits).tagCommand_of_kind keyword
  have same : settled = scanner.state := by
    rcases origin with same | shift
    · exact same
    · exact absurd mode shift.mode_ne_tagCommand
  subst same
  have command : scanner.state.scanTagCommand (scanner.viewOf head tail) =
      .emit (scanner.state.emission (scanner.viewOf head tail)) := by
    rw [← emits, State.move, mode]
  obtain ⟨width, word⟩ := State.scanTagCommand_keyword command keyword
  refine ⟨mode, ?_⟩
  rw [← State.commandWord_value keyword width]
  exact congrArg Emission.value word

end Scanner

/-- A template keyword carries a doc comment if and only if it stands right behind the opening of a
closing tag and a comment began since the last such keyword. It is then the reading of the last
comment, under the last namespace declared, with the last template name declared since the comment
began and with the parameters that were referred to inside of a template since. -/
theorem closing_keyword_hands_out_last_comment {source : Text} {start stop : Nat} (mode : Mode)
    (ordered : start ≤ stop) (startBoundary : source.isBoundary start = true)
    (stopBoundary : source.isBoundary stop = true) :
    ∃ scanner symbols, Scanner.bind source start stop mode = .ok scanner ∧
      tokenizeRange source start stop mode = .ok symbols ∧
      (∀ n ≤ symbols.length, (behind Scanner.advance scanner n).state.templateName =
        (History.notes (symbols.take n).reverse).templateName) ∧
      ∀ before keyword after, symbols = before ++ keyword :: after →
        keyword.kind = .templateWord ∨ keyword.kind = .deltemplateWord →
        ((∃ doc, keyword.value = some (.doc doc)) ↔
          EndsTemplate before keyword ∧ Documented before) ∧
        ∀ doc, keyword.value = some (.doc doc) → ∃ body, LastComment source before body ∧
          doc = (History.notes before.reverse).docOf body := by
  obtain ⟨scanner, accepted⟩ : ∃ scanner, Scanner.bind source start stop mode = .ok scanner :=
    ⟨_, Scanner.bind_eq_ok_iff.mpr ⟨⟨ordered, startBoundary, stopBoundary⟩, rfl⟩⟩
  refine ⟨scanner, scanner.drain.1, accepted, by rw [tokenizeRange, accepted]; rfl, ?_, ?_⟩
  · intro n bounded
    rw [← scanner.history_eq_reverse_take bounded]
    exact (Scanner.follows_behind accepted bounded).records.templateName
  intro before keyword after split isKeyword
  obtain ⟨bounded, past, more, symbol⟩ := Scanner.moment_of_split split
  have follows := Scanner.follows_behind accepted bounded
  have waits := Scanner.waits_behind accepted bounded
  rw [past] at follows waits
  rw [← symbol] at isKeyword ⊢
  obtain ⟨inCommand, value⟩ := Scanner.advance_keyword more isKeyword
  have closing := follows.tag.closing inCommand
  rw [List.head?_reverse] at closing
  have documented := isDocumented_notes_iff before.reverse
  rw [← follows.records.docActive, List.reverse_reverse] at documented
  rw [value]
  refine ⟨?_, ?_⟩
  · rw [EndsTemplate, ← closing, ← documented]
    constructor
    · rintro ⟨doc, carried⟩
      split at carried
      · next both =>
        obtain ⟨closes, active⟩ := Bool.and_eq_true_iff.mp both
        exact ⟨⟨isKeyword, closes⟩, active⟩
      · cases carried
    · rintro ⟨⟨-, closes⟩, active⟩
      exact ⟨_, by rw [closes, active]; rfl⟩
  · intro doc carried
    split at carried
    · next both =>
      have active := (Bool.and_eq_true_iff.mp both).2
      obtain ⟨body, last, held⟩ := waits active (by rw [inCommand]; decide)
      rw [List.reverse_reverse] at last
      refine ⟨body, last, ?_⟩
      have closed := Doc.Buffer.close_of_pending (held ▸ Notes.docOf_pending _ _)
      rw [← held, ← closed]
      exact (Value.doc.inj (Option.some.inj carried)).symm
    · cases carried

theorem closing_keyword_hands_out_last_comment_unread :
    ∃ before keyword after,
      tokenizeRange "/***/\x7btemplate .a\x7d\x7b$x\x7d\x7b/template\x7d".toList 0 33 .templateText =
        .ok (before ++ keyword :: after) ∧
      EndsTemplate before keyword ∧ Documented before ∧
      ∃ body, LastComment "/***/\x7btemplate .a\x7d\x7b$x\x7d\x7b/template\x7d".toList before body ∧
        keyword.value = some (.doc ((History.notes before.reverse).docOf body)) := by
  obtain ⟨scanner, symbols, accepted, scanned, -, hands⟩ :=
    closing_keyword_hands_out_last_comment .templateText (by decide : 0 ≤ 33)
      (by decide : Text.isBoundary
        "/***/\x7btemplate .a\x7d\x7b$x\x7d\x7b/template\x7d".toList 0 = true) (by decide)
  obtain ⟨-, rfl⟩ := Scanner.bind_eq_ok_iff.mp accepted
  have drained := Scanner.drain_eq_history (n := 12)
    (by decide +kernel : (behind Scanner.advance (Scanner.ofRange
      "/***/\x7btemplate .a\x7d\x7b$x\x7d\x7b/template\x7d".toList 0 33 .templateText) 12).rest ≠ [])
    (by decide +kernel)
  rw [Scanner.history, List.reverse_cons, List.append_assoc] at drained
  have stream := scanned
  rw [tokenizeRange, accepted] at stream
  replace stream := (Except.ok.inj stream).symm.trans drained
  have carried : (nth Scanner.advance (Scanner.ofRange
      "/***/\x7btemplate .a\x7d\x7b$x\x7d\x7b/template\x7d".toList 0 33 .templateText) 11).value =
      some (.doc
        { templateName := some ".a".toList
          templateLine := some 1
          usages := [("x".toList, .ambiguous)] }) := by
    decide +kernel
  obtain ⟨exactly, payload⟩ := hands _ _ _ stream (by decide +kernel)
  obtain ⟨ends, documented⟩ := exactly.mp ⟨_, carried⟩
  obtain ⟨body, last, completed⟩ := payload _ carried
  rw [stream] at scanned
  exact ⟨_, _, _, scanned, ends, documented, body, last, carried.trans (by rw [completed])⟩

end Scan

end ClosureTemplate
