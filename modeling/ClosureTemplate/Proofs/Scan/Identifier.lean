import ClosureTemplate.Proofs.Scan.Comment
import ClosureTemplate.Proofs.Scan.DocLexeme

/-!
Identifiers in doc comments. The scanner decides in front of a word whether it names a parameter,
the buffer decides it behind the line; the two agree up to lines that repeat the delimiter and
markers that stray.
-/

namespace ClosureTemplate

namespace Scan

open Text

namespace State

theorem docKind_eq_docIdentifier_iff {lexeme : DocLexeme} {text : Text} {anticipating : Bool} :
    docKind lexeme text anticipating = .docIdentifier ↔ lexeme = .word ∧ anticipating = true := by
  cases lexeme with
  | tag =>
    unfold docKind
    dsimp only
    split <;> simp
  | word => cases anticipating <;> simp [docKind]
  | _ => simp [docKind]

end State

/-- What stands before the tokens behind `front` on their line. -/
def lineBefore (front : List Symbol) : Text := (Doc.splitLines (front.flatMap Symbol.text)).2

/-- The line of the comment that the tokens behind `front` start on. -/
def lineOf (front tokens : List Symbol) : Text :=
  Doc.lineAt (front.flatMap Symbol.text) (tokens.flatMap Symbol.text)

section Word

variable {after : Text} {front back : List Symbol} {symbol : Symbol}
  (lexed : Lexed after [] (front ++ symbol :: back))

include lexed

theorem Lexed.isOpen_lineOf (nonempty : symbol.text ≠ []) :
    Doc.IsOpen (lineOf front (symbol :: back)) := by
  have whole := lexed.isOpen
  rw [List.flatMap_append] at whole
  have more : (symbol :: back).flatMap Symbol.text ≠ [] := by simp [nonempty]
  have listed := Doc.lineAt_mem_linesOf (front.flatMap Symbol.text) more
  obtain ⟨-, before, behind, split, -⟩ := Doc.exists_place_of_mem_linesOf listed
  intro closes
  apply whole
  rw [split]
  exact closes.trans ⟨before, behind, by simp [lineOf]⟩

theorem Lexed.lineOf_word (identifier : symbol.text.isIdentifier = true) :
    ∃ rest, (∀ c, rest.head? = some c → isNameChar c = false) ∧
      lineOf front (symbol :: back) = lineBefore front ++ (symbol.text ++ rest) := by
  refine ⟨(back.flatMap Symbol.text).takeWhile (· != '\n'), ?_, ?_⟩
  · obtain ⟨lexeme, reads⟩ := lexed.reads_of_split
    have shape := reads.shape
    obtain rfl := shape.isIdentifier_iff.mp identifier
    cases shape with
    | word _ ends =>
      intro c found
      rw [List.head?_takeWhile, Option.filter_eq_some_iff] at found
      apply ends c
      rw [List.head?_append, found.1]
      rfl
  · have inLine : ∀ c ∈ symbol.text, (c != '\n') = true := by
      intro c member
      apply bne_iff_ne.mpr
      rintro rfl
      cases isNameChar_of_mem identifier member
    rw [lineOf, Doc.lineAt, List.flatMap_cons, List.takeWhile_append_of_pos inLine]
    rfl

/-- A token is an identifier exactly if it is a word at which its line declares a parameter, but for
lines that repeat the delimiter and announcements that stray. -/
theorem Lexed.docIdentifier_iff :
    symbol.kind = .docIdentifier ↔ symbol.text.isIdentifier = true ∧
      (Doc.DeclaresAt (lineOf front (symbol :: back)) (lineBefore front).length symbol.text ∧
          ¬Doc.Reopens (lineOf front (symbol :: back)) ∨
        Doc.Strays (lineBefore front)) := by
  obtain ⟨lexeme, reads⟩ := lexed.reads_of_split
  rw [List.nil_append] at reads
  rw [reads.kind, State.docKind_eq_docIdentifier_iff, ← reads.shape.isIdentifier_iff]
  apply and_congr_right
  intro identifier
  obtain ⟨rest, ends, line⟩ := lexed.lineOf_word identifier
  have isOpen := lexed.isOpen_lineOf (ne_nil_of_isIdentifier identifier)
  rw [line] at isOpen ⊢
  exact Doc.anticipatesName_iff_declaresAt identifier ends isOpen

theorem Lexed.not_declaresAt_of_strays (identifier : symbol.text.isIdentifier = true)
    (strays : Doc.Strays (lineBefore front)) :
    ¬Doc.DeclaresAt (lineOf front (symbol :: back)) (lineBefore front).length symbol.text := by
  obtain ⟨rest, ends, line⟩ := lexed.lineOf_word identifier
  have isOpen := lexed.isOpen_lineOf (ne_nil_of_isIdentifier identifier)
  rw [line] at isOpen ⊢
  exact Doc.not_declaresAt_of_strays identifier ends isOpen strays

end Word

theorem Lexed.parameter_of_docIdentifier {after : Text} {front back : List Symbol} {symbol : Symbol}
    (lexed : Lexed after [] (front ++ symbol :: back)) (isIdentifier : symbol.kind = .docIdentifier)
    (proper : ¬Doc.Strays (lineBefore front)) (namespaceName : Option Text) :
    ∃ name ∈ (Doc.Buffer.ofText namespaceName
        ((front ++ symbol :: back).flatMap Symbol.text)).parameterNames,
      firstSegment name = symbol.text := by
  obtain ⟨identifier, ⟨declares, -⟩ | strays⟩ := lexed.docIdentifier_iff.mp isIdentifier
  · obtain ⟨rest, ends, line⟩ := lexed.lineOf_word identifier
    have more : (symbol :: back).flatMap Symbol.text ≠ [] := by
      simp [ne_nil_of_isIdentifier identifier]
    have listed := Doc.lineAt_mem_linesOf (front.flatMap Symbol.text) more
    have place : Doc.declaration? (lineOf front (symbol :: back)) =
        some (trimEnd (symbol.text ++ rest)) := by
      rw [line] at declares ⊢
      exact (Doc.declaresAt_iff identifier ends).mp declares
    obtain ⟨name, declared, segment⟩ := Doc.declaredName?_of_place identifier ends place
    rw [List.flatMap_append]
    exact ⟨name, Doc.Buffer.mem_parameterNames_ofText.mpr ⟨_, listed, declared⟩, segment⟩
  · exact absurd strays proper

theorem Lexed.exists_docIdentifier {after raw name : Text} {tokens : List Symbol}
    (lexed : Lexed after [] tokens) (listed : raw ∈ Doc.linesOf (tokens.flatMap Symbol.text))
    (declared : Doc.declaredName? raw = some name) (single : ¬Doc.Reopens raw) :
    ∃ word ∈ tokens, word.kind = .docIdentifier ∧ word.text = firstSegment name := by
  obtain ⟨inLine, before, behind, split, atStart, ends⟩ := Doc.exists_place_of_mem_linesOf listed
  have isOpen : Doc.IsOpen raw := by
    intro closes
    apply lexed.isOpen
    rw [split]
    exact closes.trans ⟨before, behind, by simp⟩
  obtain ⟨body, found, -⟩ := Option.map_eq_some_iff.mp declared
  obtain ⟨start, trail, d, rfl, trimmed, last, separates⟩ := Doc.declaration?_start isOpen found
  -- the name starts a token of its own
  obtain ⟨c, cs, rfl, starts⟩ :=
    dottedLength_pos_iff.mp (Doc.declaration?_eq_some_iff.mp found).1
  have apart : ∀ e, (before ++ start).getLast? = some e → isNameChar e = false ∧ e ≠ '@' := by
    intro e ends
    rw [List.getLast?_append, last] at ends
    obtain rfl : d = e := Option.some.inj ends
    rcases separates with rfl | blank
    · exact ⟨by decide, by decide⟩
    · constructor
      · apply Bool.eq_false_iff.mpr
        intro name
        rw [isBlank_of_isNameChar name] at blank
        cases blank
      · rintro rfl
        cases blank
  have cut : tokens.flatMap Symbol.text = before ++ start ++ c :: (cs ++ (trail ++ behind)) := by
    simpa using split
  obtain ⟨front, word, back, rfl, text, identifier⟩ := lexed.exists_word cut starts apart
  -- and the line around this token is the one that declares the name
  have tail : (word :: back).flatMap Symbol.text = c :: cs ++ trail ++ behind := by
    rw [List.flatMap_append, text] at cut
    simpa using List.append_cancel_left cut
  obtain ⟨lineStart, line⟩ := Doc.lineAt_of_place atStart inLine ends
  rw [← text, ← tail] at line
  rw [← text] at lineStart
  obtain ⟨rest, wordEnds, wordLine⟩ := lexed.lineOf_word identifier
  have beginning : lineBefore front = start := lineStart
  have same : c :: cs ++ trail = word.text ++ rest := by
    rw [beginning] at wordLine
    exact List.append_cancel_left (line.symm.trans wordLine)
  have place : Doc.declaration? (start ++ (word.text ++ rest)) =
      some (trimEnd (word.text ++ rest)) := by
    rw [← same, trimmed]
    exact found
  refine ⟨word, by simp, lexed.docIdentifier_iff.mpr ⟨identifier, .inl ⟨?_, ?_⟩⟩, ?_⟩
  · rw [wordLine, beginning]
    exact (Doc.declaresAt_iff identifier wordEnds).mpr place
  · rw [wordLine, beginning, ← same]
    exact single
  · obtain ⟨other, again, segment⟩ := Doc.declaredName?_of_place identifier wordEnds place
    rw [← same, declared] at again
    obtain rfl := Option.some.inj again
    exact segment.symm

theorem Commenting.unique {mode : Mode} {start origin other : Nat} {history : History}
    {body text : Text} (one : Commenting mode start history origin body)
    (two : Commenting mode start history other text) : origin = other ∧ body = text := by
  induction one generalizing text with
  | started =>
    cases two
    exact ⟨rfl, rfl⟩
  | begun opens =>
    cases two with
    | begun => exact ⟨rfl, rfl⟩
    | inside isBody =>
      rw [opens] at isBody
      cases isBody
  | inside isBody _ ih =>
    cases two with
    | begun opens =>
      rw [opens] at isBody
      cases isBody
    | inside _ commenting =>
      obtain ⟨rfl, rfl⟩ := ih commenting
      exact ⟨rfl, rfl⟩

namespace Scanner

theorem rest_eq_flatMap (scanner : Scanner) :
    scanner.rest = scanner.drain.1.flatMap Symbol.text := by
  induction scanner using drain_induction with
  | ended scanner empty => rw [drain_at_end empty, empty]; rfl
  | more scanner nonempty ih =>
    rw [drain_of_rest nonempty, List.flatMap_cons, ← ih, text_append_rest_advance]

theorem advance_of_upcoming {scanner : Scanner} {n : Nat} {symbol : Symbol} {rest : List Symbol}
    (upcoming : scanner.drain.1.drop n = symbol :: rest) :
    n < scanner.drain.1.length ∧ (behind advance scanner n).advance.1 = symbol ∧
      scanner.drain.1.drop (n + 1) = rest := by
  have inside : n < scanner.drain.1.length := by
    apply Nat.lt_of_not_le
    intro past
    rw [List.drop_of_length_le past] at upcoming
    cases upcoming
  have drained := scanner.drain_behind n
  rw [drain_of_rest (behind_rest_ne_nil inside), upcoming] at drained
  refine ⟨inside, (List.cons.inj drained).1, ?_⟩
  rw [← List.drop_drop, upcoming]
  rfl

theorem readsLexeme_advance {scanner : Scanner} {before : Text} (more : scanner.rest ≠ [])
    (mode : scanner.state.mode = .docComment)
    (reading : scanner.state.doc.IsReading scanner.state.namespaceName before)
    (notEnd : scanner.advance.1.kind ≠ .docEnd) :
    ∃ lexeme, ReadsLexeme before scanner.advance.1 scanner.advance.2.rest lexeme := by
  obtain ⟨head, tail, shape⟩ := List.exists_cons_of_ne_nil more
  have emits := advance_of_docComment shape mode
  have kind : scanner.advance.1.kind = State.docKind (docLexeme head tail).1
      (scanner.rest.take (docLexeme head tail).2) scanner.state.doc.anticipating.1 := by
    rw [emits, shape]
    exact scanner.state.scanDocComment_kind (scanner.viewOf head tail)
  have text : scanner.advance.1.text = scanner.rest.take (docLexeme head tail).2 := by
    rw [emits]
    exact congrArg scanner.rest.take (scanner.state.scanDocComment_width _)
  have width : scanner.advance.1.text.length = (docLexeme head tail).2 := by
    have fits := scanner.state.scanDocComment_le (scanner.viewOf head tail)
    rw [State.scanDocComment_width] at fits
    rw [text, List.length_take, shape]
    exact Nat.min_eq_left fits
  rw [← text, reading.anticipates] at kind
  have notClose : (docLexeme head tail).1 ≠ .close := by
    intro close
    rw [close] at kind
    exact notEnd kind
  refine ⟨(docLexeme head tail).1, isDocLexeme_of_docLexeme ?_ (Prod.ext rfl width.symm) notClose,
    kind⟩
  exact scanner.text_append_rest_advance.trans shape

theorem lexed_through {source : Text} {mode : Mode} {start stop : Nat} {scanner : Scanner}
    (accepted : Scanner.bind source start stop mode = .ok scanner) {inside later : List Symbol}
    {n origin : Nat} {before : Text} (bounded : n ≤ scanner.drain.1.length)
    (inComment : (behind advance scanner n).state.mode = .docComment)
    (commenting : Commenting mode start (scanner.history n) origin before)
    (upcoming : scanner.drain.1.drop n = inside ++ later)
    (noEnd : ∀ symbol ∈ inside, symbol.kind ≠ .docEnd) :
    Lexed (later.flatMap Symbol.text) before inside ∧
      ∃ m ≤ scanner.drain.1.length, scanner.drain.1.drop m = later ∧
        (behind advance scanner m).state.mode = .docComment ∧
        Commenting mode start (scanner.history m) origin
          (before ++ inside.flatMap Symbol.text) := by
  induction inside generalizing n before with
  | nil => exact ⟨.nil, n, bounded, upcoming, inComment, by simpa using commenting⟩
  | cons symbol rest ih =>
    rw [List.cons_append] at upcoming
    obtain ⟨within, rfl, others⟩ := advance_of_upcoming upcoming
    have more := behind_rest_ne_nil within
    -- the buffer has read what stands before the token
    obtain ⟨_, _, reads⟩ := readsComment_behind accepted bounded inComment
    obtain ⟨rfl, rfl⟩ := reads.commenting.unique commenting
    obtain ⟨lexeme, lexes⟩ := readsLexeme_advance more inComment reads.reading
      (noEnd _ List.mem_cons_self)
    have remaining : (behind advance scanner n).advance.2.rest =
        rest.flatMap Symbol.text ++ later.flatMap Symbol.text := by
      change (behind advance scanner (n + 1)).rest = _
      rw [rest_eq_flatMap, drain_behind, others, List.flatMap_append]
    rw [remaining] at lexes
    -- and the token leaves the scan inside of the comment
    obtain ⟨settled, origin, step⟩ := advance_steps more
    obtain rfl : settled = (behind advance scanner n).state := by
      rcases origin with same | shift
      · exact same
      · exact absurd inComment shift.mode_of_docComment
    rcases step.inside_docComment inComment with ⟨ends, -⟩ | ⟨isBody, doc, same⟩
    · exact absurd ends (noEnd _ List.mem_cons_self)
    · have still : (behind advance scanner (n + 1)).state.mode = .docComment := by
        change (behind advance scanner n).advance.2.state.mode = .docComment
        rw [same]
        exact inComment
      obtain ⟨lexed, m, inRange, reached, inside, past⟩ := ih within still
        (.inside isBody reads.commenting) others
        (fun symbol member => noEnd symbol (List.mem_cons_of_mem _ member))
      refine ⟨.cons lexes lexed, m, inRange, reached, inside, ?_⟩
      rw [List.flatMap_cons, ← List.append_assoc]
      exact past

end Scanner

/-- A doc comment of a stream: an opening delimiter, and the tokens up to the next closing one. -/
structure IsComment (stream earlier : List Symbol) (opening : Symbol) (inside : List Symbol)
    (closing : Symbol) (later : List Symbol) : Prop where
  split : stream = earlier ++ opening :: (inside ++ closing :: later)
  opens : opening.kind = .docBegin
  closes : closing.kind = .docEnd
  body : ∀ symbol ∈ inside, symbol.kind ≠ .docEnd

theorem IsComment.lexed {source : Text} {mode : Mode} {start stop : Nat} {scanner : Scanner}
    (accepted : Scanner.bind source start stop mode = .ok scanner)
    {earlier inside later : List Symbol} {opening closing : Symbol}
    (comment : IsComment scanner.drain.1 earlier opening inside closing later) :
    Lexed ((closing :: later).flatMap Symbol.text) [] inside ∧
      source.slice? opening.stop closing.start = some (inside.flatMap Symbol.text) ∧
      ∃ namespaceName, closing.value =
        some (.doc (Doc.Buffer.ofText namespaceName (inside.flatMap Symbol.text))) := by
  obtain ⟨-, past, more, rfl⟩ := Scanner.moment_of_split comment.split
  have upcoming : scanner.drain.1.drop (earlier.length + 1) = inside ++ closing :: later := by
    rw [comment.split]
    simp
  have bounded : earlier.length + 1 ≤ scanner.drain.1.length := by
    rw [comment.split, List.length_append, List.length_cons]
    omega
  obtain ⟨settled, -, step⟩ := Scanner.advance_steps more
  have inComment : (behind Scanner.advance scanner (earlier.length + 1)).state.mode = .docComment :=
    step.mode_of_docBegin comment.opens
  have commenting : Commenting mode start (scanner.history (earlier.length + 1))
      (behind Scanner.advance scanner earlier.length).advance.1.stop [] := .begun comment.opens
  obtain ⟨lexed, m, inRange, reached, still, body⟩ :=
    Scanner.lexed_through accepted bounded inComment commenting upcoming comment.body
  obtain ⟨within, rfl, -⟩ := Scanner.advance_of_upcoming reached
  have next := Scanner.behind_rest_ne_nil within
  obtain ⟨_, _, reads⟩ := Scanner.readsComment_behind accepted inRange still
  obtain ⟨rfl, rfl⟩ := reads.commenting.unique body
  refine ⟨lexed, ?_, (behind Scanner.advance scanner m).state.namespaceName, ?_⟩
  · rw [(Scanner.advance_symbol_start next).1]
    exact reads.text
  · rw [(Scanner.advance_docEnd next comment.closes).2, reads.reading.close]
    rfl

theorem bind_whole (source : Text) :
    Scanner.bind source 0 source.byteSize .templateText =
      .ok (Scanner.ofRange source 0 source.byteSize .templateText) := by
  apply Scanner.bind_eq_ok_iff.mpr
  refine ⟨⟨Nat.zero_le _, ?_, ?_⟩, rfl⟩
  · exact isBoundary_iff.mpr ⟨[], source, rfl, rfl⟩
  · exact isBoundary_iff.mpr ⟨source, [], by simp, rfl⟩

/-- In every doc comment a token is an identifier if and only if it is a word and the line it stands
on declares a parameter whose name begins at that word, but for two deviations: a line that opens
with another delimiter declares a parameter without an identifier, and a marker behind more than
one star or right before the word makes an identifier that is not declared. -/
theorem docIdentifiers_name_parameters {source : Text} {earlier inside later : List Symbol}
    {opening closing : Symbol}
    (comment : IsComment (tokenize source) earlier opening inside closing later) :
    ∃ body doc, source.slice? opening.stop closing.start = some body ∧
      inside.flatMap Symbol.text = body ∧ closing.value = some (.doc doc) ∧
      (∀ front word back, inside = front ++ word :: back →
        (word.kind = .docIdentifier ↔ word.text.isIdentifier = true ∧
          (Doc.DeclaresAt (lineOf front (word :: back)) (lineBefore front).length word.text ∧
              ¬Doc.Reopens (lineOf front (word :: back)) ∨
            Doc.Strays (lineBefore front))) ∧
        (word.text.isIdentifier = true → Doc.Strays (lineBefore front) →
          ¬Doc.DeclaresAt (lineOf front (word :: back)) (lineBefore front).length word.text) ∧
        (word.kind = .docIdentifier → ¬Doc.Strays (lineBefore front) →
          ∃ name ∈ doc.parameterNames, firstSegment name = word.text)) ∧
      ∀ name ∈ doc.parameterNames,
        (∃ word ∈ inside, word.kind = .docIdentifier ∧ word.text = firstSegment name) ∨
          ∀ raw ∈ Doc.linesOf body, Doc.declaredName? raw = some name → Doc.Reopens raw := by
  obtain ⟨lexed, text, namespaceName, value⟩ := comment.lexed (bind_whole source)
  refine ⟨_, _, text, rfl, value, ?_, ?_⟩
  · rintro front word back rfl
    refine ⟨lexed.docIdentifier_iff, fun identifier strays =>
      lexed.not_declaresAt_of_strays identifier strays, fun isIdentifier proper =>
      lexed.parameter_of_docIdentifier isIdentifier proper namespaceName⟩
  · intro name member
    apply Classical.or_iff_not_imp_left.mpr
    intro none raw listed declared
    apply Classical.byContradiction
    intro single
    exact none (lexed.exists_docIdentifier listed declared single)

theorem head_reverse_history (scanner : Scanner) (n : Nat) :
    (scanner.history (n + 1)).reverse =
      nth Scanner.advance scanner 0 :: (scanner.history (n + 1)).reverse.tail := by
  induction n with
  | zero => rfl
  | succ n ih =>
    rw [Scanner.history, List.reverse_cons, ih]
    rfl

theorem isComment_of_history (source : Text) {scanner : Scanner} {n : Nat}
    (whole : scanner = Scanner.ofRange source 0 source.byteSize .templateText)
    (more : (behind Scanner.advance scanner (n + 1)).rest ≠ [])
    (ended : (behind Scanner.advance scanner (n + 2)).rest = [])
    (opens : (nth Scanner.advance scanner 0).kind = .docBegin)
    (closes : (nth Scanner.advance scanner (n + 1)).kind = .docEnd)
    (body : ∀ symbol ∈ (scanner.history (n + 1)).reverse.tail, symbol.kind ≠ .docEnd) :
    IsComment (tokenize source) [] (nth Scanner.advance scanner 0)
      (scanner.history (n + 1)).reverse.tail (nth Scanner.advance scanner (n + 1)) [] := by
  subst whole
  refine ⟨?_, opens, closes, body⟩
  have drained := Scanner.drain_eq_history more ended
  rw [head_reverse_history] at drained
  exact drained

theorem docIdentifiers_name_parameters_plain :
    ∃ opening inside closing,
      IsComment (tokenize "/** @param x */".toList) [] opening inside closing [] ∧
      ∃ word ∈ inside, word.kind = .docIdentifier ∧ word.text = firstSegment "x".toList := by
  have comment := isComment_of_history "/** @param x */".toList (n := 5) rfl (by decide +kernel)
    (by decide +kernel) (by decide +kernel) (by decide +kernel) (by decide +kernel)
  obtain ⟨body, doc, text, -, value, -, names⟩ := docIdentifiers_name_parameters comment
  refine ⟨_, _, _, comment, ?_⟩
  have carried : (nth Scanner.advance (Scanner.ofRange "/** @param x */".toList 0
      (byteSize "/** @param x */".toList) .templateText) 6).value = some (.doc
        { parameters := [("x".toList, {})]
          current := .parameter "x".toList
          captured := [" @param x ".toList] }) := by
    decide +kernel
  obtain rfl := Value.doc.inj (Option.some.inj (carried.symm.trans value))
  rcases names "x".toList (by decide) with found | reopened
  · exact found
  · have cut : slice? "/** @param x */".toList 3 13 = some " @param x ".toList := by decide
    obtain rfl := Option.some.inj (cut.symm.trans text)
    have single : ¬"/**".toList <+: trimStart " @param x ".toList := by decide
    exact absurd (reopened " @param x ".toList (by decide) (by decide +kernel)) single

/-- Behind two stars and right behind the marker a word is an identifier without a parameter, and
behind another delimiter a parameter has no identifier. -/
theorem docIdentifiers_deviate_from_parameters :
    (∃ opening inside closing doc,
      IsComment (tokenize "/** ** @param x */".toList) [] opening inside closing [] ∧
      closing.value = some (.doc doc) ∧ doc.parameterNames = [] ∧
      ∃ word ∈ inside, word.kind = .docIdentifier) ∧
    (∃ opening inside closing doc,
      IsComment (tokenize "/** @param_x */".toList) [] opening inside closing [] ∧
      closing.value = some (.doc doc) ∧ doc.parameterNames = [] ∧
      ∃ word ∈ inside, word.kind = .docIdentifier) ∧
    ∃ opening inside closing doc,
      IsComment (tokenize "/** /** @param x */".toList) [] opening inside closing [] ∧
      closing.value = some (.doc doc) ∧ doc.parameterNames = ["x".toList] ∧
      ∀ word ∈ inside, word.kind ≠ .docIdentifier := by
  refine ⟨?_, ?_, ?_⟩
  · have comment := isComment_of_history "/** ** @param x */".toList (n := 8) rfl
      (by decide +kernel) (by decide +kernel) (by decide +kernel) (by decide +kernel)
      (by decide +kernel)
    refine ⟨_, _, _, { description := some "* @param x".toList
                       captured := [" ** @param x ".toList] }, comment, ?_, rfl, ?_⟩
    · decide +kernel
    · decide +kernel
  · have comment := isComment_of_history "/** @param_x */".toList (n := 4) rfl (by decide +kernel)
      (by decide +kernel) (by decide +kernel) (by decide +kernel) (by decide +kernel)
    refine ⟨_, _, _, { description := some "@param_x".toList
                       captured := [" @param_x ".toList] }, comment, ?_, rfl, ?_⟩
    · decide +kernel
    · decide +kernel
  · have comment := isComment_of_history "/** /** @param x */".toList (n := 9) rfl
      (by decide +kernel) (by decide +kernel) (by decide +kernel) (by decide +kernel)
      (by decide +kernel)
    refine ⟨_, _, _, { parameters := [("x".toList, {})]
                       current := .parameter "x".toList
                       captured := [" /** @param x ".toList] }, comment, ?_, rfl, ?_⟩
    · decide +kernel
    · decide +kernel

end Scan

end ClosureTemplate
