import ClosureTemplate.Proofs.Scan.HandOut

/-!
Whose doc comment the keyword of a closing template tag hands out. The scan remembers the template
that was named last (`LastNamed`) and, apart from it, the comment that began last. The two go
together as long as no comment begins inside of the template; a comment that does takes the place
of the template's own and knows nothing of the template.
-/

namespace ClosureTemplate

namespace Scan

/-- The symbol is the name behind a template's command word. -/
def NamesTemplate (before : List Symbol) (symbol : Symbol) : Prop :=
  (symbol.kind = .templateIdentifier ∨ symbol.kind = .deltemplateIdentifier) ∧
    (History.lastWord before.reverse = some .templateWord ∨
      History.lastWord before.reverse = some .deltemplateWord)

/-- The stream names a template, and none behind that. -/
structure LastNamed (stream earlier : List Symbol) (declaration : Symbol) (later : List Symbol) :
    Prop where
  split : stream = earlier ++ declaration :: later
  names : NamesTemplate earlier declaration
  last : ∀ between symbol rest, later = between ++ symbol :: rest →
    ¬NamesTemplate (earlier ++ declaration :: between) symbol

theorem lastNamed_concat {stream : List Symbol} {symbol : Symbol}
    (names : NamesTemplate stream symbol) : LastNamed (stream ++ [symbol]) stream symbol [] :=
  ⟨rfl, names, by simp⟩

theorem LastNamed.concat {stream earlier later : List Symbol} {declaration symbol : Symbol}
    (named : LastNamed stream earlier declaration later) (other : ¬NamesTemplate stream symbol) :
    LastNamed (stream ++ [symbol]) earlier declaration (later ++ [symbol]) := by
  obtain ⟨rfl, names, last⟩ := named
  refine ⟨by simp, names, ?_⟩
  intro between candidate rest cut
  rcases List.eq_nil_or_concat rest with rfl | ⟨others, final, rfl⟩
  · obtain ⟨rfl, same⟩ := List.append_inj' cut rfl
    cases same
    exact other
  · rw [List.concat_eq_append, ← List.cons_append, ← List.append_assoc] at cut
    exact last between candidate others (List.append_inj' cut rfl).1

section Notes

variable {earlier : History} {symbol : Symbol}

theorem notes_cons_of_names (names : NamesTemplate earlier.reverse symbol) :
    History.notes (symbol :: earlier) =
      .templateNamed symbol.text symbol.line :: earlier.notes := by
  obtain ⟨identifier, word⟩ := names
  rw [List.reverse_reverse] at word
  have note : earlier.note? symbol = some (.templateNamed symbol.text symbol.line) := by
    rcases identifier with kind | kind <;> simp [History.note?, kind, word]
  rw [History.notes, note]
  rfl

theorem templateName_notes_cons (other : ¬NamesTemplate earlier.reverse symbol) {name : Text}
    (inTemplate : (History.notes (symbol :: earlier)).templateName = some name) :
    earlier.notes.templateName = some name := by
  revert inTemplate
  rw [NamesTemplate, List.reverse_reverse] at other
  simp only [History.notes, History.note?]
  split
  all_goals try split
  all_goals simp_all [Notes.templateName]

theorem declared?_notes_cons (other : ¬NamesTemplate earlier.reverse symbol) {name : Text}
    (inTemplate : (History.notes (symbol :: earlier)).templateName = some name) :
    (History.notes (symbol :: earlier)).declared? =
      if symbol.kind = .docBegin then none else earlier.notes.declared? := by
  revert inTemplate
  rw [NamesTemplate, List.reverse_reverse] at other
  simp only [History.notes, History.note?]
  split
  all_goals try split
  all_goals simp_all [Notes.templateName, Notes.declared?]

theorem references_notes_cons (other : ¬NamesTemplate earlier.reverse symbol) {name : Text}
    (inTemplate : (History.notes (symbol :: earlier)).templateName = some name)
    (notBegin : symbol.kind ≠ .docBegin) :
    (History.notes (symbol :: earlier)).references =
      if symbol.kind = .parameterRef then earlier.notes.references ++ [symbol.text.drop 1]
      else earlier.notes.references := by
  have inside := templateName_notes_cons other inTemplate
  revert inTemplate
  rw [NamesTemplate, List.reverse_reverse] at other
  simp only [History.notes, History.note?]
  split
  all_goals try split
  all_goals simp_all [Notes.templateName, Notes.references]

/-- What the notes keep of a template that was named: its name and the parameters used since, unless
a comment began since; then they keep nothing of it. -/
structure Keeps (history : History) (declaration : Symbol) (later : List Symbol) : Prop where
  declared : (∀ symbol ∈ later, symbol.kind ≠ .docBegin) →
    history.notes.declared? = some (declaration.text, declaration.line)
  references : (∀ symbol ∈ later, symbol.kind ≠ .docBegin) →
    ∀ symbol ∈ later, symbol.kind = .parameterRef → symbol.text.drop 1 ∈ history.notes.references
  forgotten : (∃ symbol ∈ later, symbol.kind = .docBegin) → history.notes.declared? = none

theorem keeps_of_names (names : NamesTemplate earlier.reverse symbol) :
    Keeps (symbol :: earlier) symbol [] where
  declared _ := by rw [notes_cons_of_names names, Notes.declared?]
  references _ := by simp
  forgotten := by simp

theorem Keeps.cons {declaration : Symbol} {later : List Symbol}
    (keeps : Keeps earlier declaration later) (other : ¬NamesTemplate earlier.reverse symbol)
    {name : Text} (inTemplate : (History.notes (symbol :: earlier)).templateName = some name) :
    Keeps (symbol :: earlier) declaration (later ++ [symbol]) := by
  have before (quiet : ∀ candidate ∈ later ++ [symbol], candidate.kind ≠ .docBegin) :
      (∀ candidate ∈ later, candidate.kind ≠ .docBegin) ∧ symbol.kind ≠ .docBegin :=
    ⟨fun candidate member => quiet candidate (List.mem_append_left _ member),
      quiet symbol (by simp)⟩
  constructor
  · intro quiet
    obtain ⟨earlierQuiet, notBegin⟩ := before quiet
    rw [declared?_notes_cons other inTemplate, if_neg notBegin]
    exact keeps.declared earlierQuiet
  · intro quiet candidate member reference
    obtain ⟨earlierQuiet, notBegin⟩ := before quiet
    rw [references_notes_cons other inTemplate notBegin]
    rcases List.mem_append.mp member with former | new
    · have used := keeps.references earlierQuiet candidate former reference
      split
      · exact List.mem_append_left _ used
      · exact used
    · obtain rfl := List.mem_singleton.mp new
      simp [reference]
  · rintro ⟨candidate, member, begins⟩
    rw [declared?_notes_cons other inTemplate]
    split
    · rfl
    · next notBegin =>
      rcases List.mem_append.mp member with former | new
      · exact keeps.forgotten ⟨candidate, former, begins⟩
      · rw [List.mem_singleton.mp new] at begins
        exact absurd begins notBegin

end Notes

theorem lastNamed_of_templateName {history : History} {name : Text}
    (inTemplate : history.notes.templateName = some name) :
    ∃ earlier declaration later, LastNamed history.reverse earlier declaration later ∧
      declaration.text = name ∧ Keeps history declaration later := by
  induction history with
  | nil => cases inTemplate
  | cons symbol former ih =>
    rw [List.reverse_cons]
    -- a name starts over, and any other token that leaves the template open is put behind it
    by_cases names : NamesTemplate former.reverse symbol
    · refine ⟨_, symbol, [], lastNamed_concat names, ?_, keeps_of_names names⟩
      rw [notes_cons_of_names names] at inTemplate
      exact Option.some.inj inTemplate
    · obtain ⟨earlier, declaration, later, named, text, keeps⟩ :=
        ih (templateName_notes_cons names inTemplate)
      exact ⟨earlier, declaration, later ++ [symbol], named.concat names, text,
        keeps.cons names inTemplate⟩

namespace Scanner

variable {source : Text} {start stop : Nat} {mode : Mode} {scanner : Scanner}

theorem docOf_keyword (accepted : Scanner.bind source start stop mode = .ok scanner)
    {before after : List Symbol} {keyword : Symbol} {doc : Doc.Buffer}
    (split : scanner.drain.1 = before ++ keyword :: after)
    (isKeyword : keyword.kind = .templateWord ∨ keyword.kind = .deltemplateWord)
    (carries : keyword.value = some (.doc doc)) :
    ∃ body, LastComment source before body ∧ doc = (History.notes before.reverse).docOf body := by
  obtain ⟨bounded, past, more, symbol⟩ := moment_of_split split
  have waits := waits_behind accepted bounded
  rw [past] at waits
  rw [← symbol] at isKeyword carries
  obtain ⟨inCommand, value⟩ := advance_keyword more isKeyword
  rw [value] at carries
  split at carries
  · next both =>
    have active := (Bool.and_eq_true_iff.mp both).2
    obtain ⟨body, last, held⟩ := waits active (by rw [inCommand]; decide)
    rw [List.reverse_reverse] at last
    have closed := Doc.Buffer.close_of_pending (held ▸ Notes.docOf_pending _ _)
    refine ⟨body, last, ?_⟩
    rw [← held, ← closed]
    exact (Value.doc.inj (Option.some.inj carries)).symm
  · cases carries

end Scanner

/-- The comment that the keyword of a closing tag carries inside of a template. If none began since
the template was named, it has the name of that template, the line of the name and all parameters
used since; else it has neither name nor line. -/
theorem closing_keyword_carries_comment_of_template {source : Text} {start stop : Nat} {mode : Mode}
    {scanner : Scanner} (accepted : Scanner.bind source start stop mode = .ok scanner)
    {before after : List Symbol} {keyword : Symbol}
    (split : scanner.drain.1 = before ++ keyword :: after)
    (isKeyword : keyword.kind = .templateWord ∨ keyword.kind = .deltemplateWord)
    {doc : Doc.Buffer} (carries : keyword.value = some (.doc doc)) {name : Text}
    (inTemplate :
      (behind Scanner.advance scanner before.length).state.templateName = some name) :
    ∃ earlier declaration later, LastNamed before earlier declaration later ∧
      declaration.text = name ∧
      ((∀ symbol ∈ later, symbol.kind ≠ .docBegin) →
        doc.templateName = some name ∧ doc.templateLine = some declaration.line ∧
        ∀ symbol ∈ later, symbol.kind = .parameterRef →
          doc.usages.get? (symbol.text.drop 1) = some .ambiguous) ∧
      ((∃ symbol ∈ later, symbol.kind = .docBegin) →
        doc.templateName = none ∧ doc.templateLine = none) := by
  obtain ⟨bounded, past, -⟩ := Scanner.moment_of_split split
  have recalls := (Scanner.follows_behind accepted bounded).records.templateName
  rw [past, inTemplate] at recalls
  obtain ⟨earlier, declaration, later, named, text, keeps⟩ :=
    lastNamed_of_templateName recalls.symm
  rw [List.reverse_reverse] at named
  obtain ⟨body, -, rfl⟩ := Scanner.docOf_keyword accepted split isKeyword carries
  refine ⟨earlier, declaration, later, named, text, ?_, ?_⟩
  · intro quiet
    have declared := keeps.declared quiet
    rw [text] at declared
    refine ⟨by simp [Notes.docOf, declared], by simp [Notes.docOf, declared], ?_⟩
    intro symbol member reference
    have used := keeps.references quiet symbol member reference
    simp only [Notes.docOf]
    rw [Table.get?_map_const, if_pos (List.mem_eraseDups.mpr used)]
  · intro begun
    have forgotten := keeps.forgotten begun
    exact ⟨by simp [Notes.docOf, forgotten], by simp [Notes.docOf, forgotten]⟩

theorem closing_keyword_carries_comment_of_template_above :
    ∃ scanner before keyword after doc,
      Scanner.bind "/***/\x7btemplate .a\x7d\x7b$x\x7d\x7b/template\x7d".toList 0 33
        .templateText = .ok scanner ∧
      scanner.drain.1 = before ++ keyword :: after ∧ keyword.kind = .templateWord ∧
      keyword.value = some (.doc doc) ∧
      (behind Scanner.advance scanner before.length).state.templateName = some ".a".toList ∧
      doc.templateName = some ".a".toList ∧
      ∃ earlier declaration later, LastNamed before earlier declaration later ∧
        doc.templateLine = some declaration.line ∧
        ∀ symbol ∈ later, symbol.kind = .parameterRef →
          doc.usages.get? (symbol.text.drop 1) = some .ambiguous := by
  have accepted : Scanner.bind "/***/\x7btemplate .a\x7d\x7b$x\x7d\x7b/template\x7d".toList 0 33
      .templateText = .ok (Scanner.ofRange
        "/***/\x7btemplate .a\x7d\x7b$x\x7d\x7b/template\x7d".toList 0 33 .templateText) := rfl
  have stream := Scanner.drain_eq_history (n := 12)
    (by decide +kernel : (behind Scanner.advance (Scanner.ofRange
      "/***/\x7btemplate .a\x7d\x7b$x\x7d\x7b/template\x7d".toList 0 33
      .templateText) 12).rest ≠ [])
    (by decide +kernel)
  rw [Scanner.history, List.reverse_cons, List.append_assoc] at stream
  have carries : (nth Scanner.advance (Scanner.ofRange
      "/***/\x7btemplate .a\x7d\x7b$x\x7d\x7b/template\x7d".toList 0 33 .templateText) 11).value =
      some (.doc
        { templateName := some ".a".toList
          templateLine := some 1
          usages := [("x".toList, .ambiguous)] }) := by
    decide +kernel
  have inTemplate : (behind Scanner.advance (Scanner.ofRange
      "/***/\x7btemplate .a\x7d\x7b$x\x7d\x7b/template\x7d".toList 0 33 .templateText)
      11).state.templateName = some ".a".toList := by
    decide +kernel
  obtain ⟨earlier, declaration, later, named, -, own, -⟩ :=
    closing_keyword_carries_comment_of_template accepted stream (.inl (by decide +kernel)) carries
      inTemplate
  -- the only comment begins with the first token
  have others : ∀ symbol ∈ (List.reverse (Scanner.history (Scanner.ofRange
      "/***/\x7btemplate .a\x7d\x7b$x\x7d\x7b/template\x7d".toList 0 33 .templateText) 11)).tail,
      symbol.kind ≠ .docBegin := by
    decide +kernel
  have quiet : ∀ symbol ∈ later, symbol.kind ≠ .docBegin := by
    intro symbol member
    rw [named.split] at others
    exact others symbol (by cases earlier <;> simp [member])
  obtain ⟨sameName, line, usages⟩ := own quiet
  exact ⟨_, _, _, _, _, accepted, stream, by decide +kernel, carries, inTemplate, sameName, earlier,
    declaration, later, named, line, usages⟩

/-- A comment in the body takes the place of the one above the template, and neither the template
nor its parameters are known to it. -/
theorem closing_keyword_loses_comment_of_template :
    ∃ scanner before keyword after doc,
      Scanner.bind "/** a */\x7btemplate .t\x7d\x7b$x\x7d/** b */\x7b/template\x7d".toList 0 44
        .templateText = .ok scanner ∧
      scanner.drain.1 = before ++ keyword :: after ∧ keyword.kind = .templateWord ∧
      (behind Scanner.advance scanner before.length).state.templateName = some ".t".toList ∧
      keyword.value = some (.doc doc) ∧
      doc.templateName = none ∧ doc.templateLine = none ∧ doc.usages = [] := by
  have stream := Scanner.drain_eq_history (n := 20)
    (by decide +kernel : (behind Scanner.advance (Scanner.ofRange
      "/** a */\x7btemplate .t\x7d\x7b$x\x7d/** b */\x7b/template\x7d".toList 0 44
      .templateText) 20).rest ≠ [])
    (by decide +kernel)
  rw [Scanner.history, List.reverse_cons, List.append_assoc] at stream
  refine ⟨_, _, _, _, Doc.Buffer.ofText none " b ".toList, rfl, stream, ?_⟩
  decide +kernel

end Scan

end ClosureTemplate
