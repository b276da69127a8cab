import ClosureTemplate.Proofs.Doc.Delimiter
import ClosureTemplate.Proofs.Scan.CommentExtent
import ClosureTemplate.Proofs.Scan.Identifier

namespace ClosureTemplate

namespace Scan

open Text

namespace State

theorem textLexeme_doc {c : Char} {cs : Text} (reads : (textLexeme c cs).1 = .doc) :
    (c :: cs).take 3 = "/**".toList := by
  unfold textLexeme at reads
  split at reads <;> try cases reads
  · rfl
  · split at reads <;> cases reads

theorem scanTemplateText_docBegin {state : State} {view : View}
    (opens : (state.scanTemplateText view).kind = .docBegin) :
    view.rest.take (state.scanTemplateText view).width = "/**".toList := by
  unfold scanTemplateText at opens ⊢
  dsimp only at opens ⊢
  split at opens
  · next isClosing _ => cases isClosing <;> cases opens
  · cases opens
  · unfold blockComment at opens
    split at opens <;> cases opens
  · next doc =>
    unfold openDoc at opens ⊢
    split at opens
    · cases opens
    split at opens
    · cases opens
    · next notBlock closed =>
      rw [if_neg notBlock, if_neg closed]
      exact textLexeme_doc doc
  · split at opens <;> cases opens
  · cases opens
  · cases opens

theorem Transition.templateText_of_docBegin {state after : State} {kind : Kind} {text : Text}
    {line : Nat} (step : Transition state kind text line after) (opens : kind = .docBegin) :
    state.mode = .templateText := by
  have others : ∀ mode : Mode, mode ≠ .templateText → Kind.docBegin ∉ mode.kinds := by
    intro mode
    cases mode <;> decide
  apply Decidable.byContradiction
  intro other
  exact others _ other (opens ▸ step.kind_mem)

end State

namespace Scanner

theorem advance_docBegin_text {scanner : Scanner} (more : scanner.rest ≠ [])
    (opens : scanner.advance.1.kind = .docBegin) : scanner.advance.1.text = "/**".toList := by
  obtain ⟨head, tail, shape⟩ := List.exists_cons_of_ne_nil more
  have moves := scanner.state.move_settled (scanner.viewOf head tail)
  have step := State.steps_of_emits _ moves
  rw [advance_of_rest shape] at opens ⊢
  have kind : (scanner.state.emission (scanner.viewOf head tail)).kind = .docBegin := opens
  have mode := step.templateText_of_docBegin kind
  simp only [State.move, mode] at moves
  have emits := Move.emit.inj moves
  change scanner.rest.take (scanner.state.emission (scanner.viewOf head tail)).width = _
  rw [← emits] at kind ⊢
  rw [shape]
  exact State.scanTemplateText_docBegin kind

theorem advance_docEnd_text {scanner : Scanner} (coherent : scanner.state.IsCoherent)
    (more : scanner.rest ≠ []) (ends : scanner.advance.1.kind = .docEnd) :
    scanner.advance.1.text = "*/".toList := by
  obtain ⟨mode, -⟩ := advance_docEnd more ends
  obtain ⟨head, tail, shape⟩ := List.exists_cons_of_ne_nil more
  rw [advance_of_docComment shape mode] at ends
  have close : (docLexeme head tail).1 = .close := by
    have kind : State.docKind (docLexeme head tail).1
        ((head :: tail).take (docLexeme head tail).2) scanner.state.doc.anticipating.1 = .docEnd :=
      (scanner.state.scanDocComment_kind (scanner.viewOf head tail)).symm.trans ends
    apply Decidable.byContradiction
    intro notClose
    have body := State.docKind_isDocBody ((head :: tail).take (docLexeme head tail).2)
      scanner.state.doc.anticipating.1 notClose
    rw [kind] at body
    cases body
  have inside : scanner.InsideComment [] :=
    ⟨mode, coherent, by rw [shape]; exact docLexeme_close_iff.mp close⟩
  exact inside.closes.2.2.1

end Scanner

section Comment

variable {source : Text} {mode : Mode} {start stop : Nat} {scanner : Scanner}
  (accepted : Scanner.bind source start stop mode = .ok scanner)

include accepted

theorem slice?_of_split {before after : List Symbol} {symbol : Symbol}
    (split : scanner.drain.1 = before ++ symbol :: after) :
    source.slice? symbol.start symbol.stop = some symbol.text := by
  obtain ⟨-, -, more, rfl⟩ := Scanner.moment_of_split split
  have onRange := (Scanner.onRange_of_bind accepted).behind before.length
  obtain ⟨consumed, held⟩ := onRange.consumed
  have piece := Scanner.advance_isPieceOf held more
  rw [onRange.source] at piece
  exact piece.text

variable {earlier inside later : List Symbol} {opening closing : Symbol}
  (comment : IsComment scanner.drain.1 earlier opening inside closing later)

include comment

theorem IsComment.slice?_whole :
    source.slice? opening.start closing.stop =
      some (Doc.enclosed (inside.flatMap Symbol.text)) := by
  have last : scanner.drain.1 = (earlier ++ opening :: inside) ++ closing :: later := by
    rw [comment.split, List.append_assoc, List.cons_append]
  obtain ⟨-, body, -⟩ := comment.lexed accepted
  have first := slice?_of_split accepted comment.split
  have final := slice?_of_split accepted last
  have openingText : opening.text = "/**".toList := by
    obtain ⟨-, -, more, same⟩ := Scanner.moment_of_split comment.split
    have opens := comment.opens
    rw [← same] at opens ⊢
    exact Scanner.advance_docBegin_text more opens
  have closingText : closing.text = "*/".toList := by
    obtain ⟨-, -, more, same⟩ := Scanner.moment_of_split last
    have closes := comment.closes
    rw [← same] at closes ⊢
    exact Scanner.advance_docEnd_text (Scanner.isCoherent_behind accepted _) more closes
  rw [openingText] at first
  rw [closingText] at final
  exact slice?_append first (slice?_append body final)

end Comment

/-- In a scan from template text every delimiter that ends a comment has one that opens it. -/
theorem exists_isComment {source : Text} {start stop : Nat} {scanner : Scanner}
    (accepted : Scanner.bind source start stop .templateText = .ok scanner)
    {before after : List Symbol} {closing : Symbol}
    (split : scanner.drain.1 = before ++ closing :: after) (ends : closing.kind = .docEnd) :
    ∃ earlier opening inside, IsComment scanner.drain.1 earlier opening inside closing after := by
  obtain ⟨bounded, past, more, symbol⟩ := Scanner.moment_of_split split
  rw [← symbol] at ends
  obtain ⟨mode, -⟩ := Scanner.advance_docEnd more ends
  obtain ⟨origin, body, reads⟩ := Scanner.readsComment_behind accepted bounded mode
  obtain ⟨earlier, opening, inside, inner, -, -⟩ | ⟨⟨⟩, -⟩ := reads.commenting.endsInside
  rw [past, List.reverse_reverse] at inner
  refine ⟨earlier, opening, inside, ?_, inner.opens, symbol ▸ ends, ?_⟩
  · rw [split, inner.split, List.append_assoc, List.cons_append]
  · intro token member same
    have isBody := inner.body token member
    rw [same] at isBody
    cases isBody

/-- A doc comment says the same with its delimiters as without. The token that ends a comment
carries the reading of the body, and it agrees with a reading of the whole comment, but for a first
line that opens with another delimiter and for a last line of several that makes one with the
closing delimiter, unless that line is dropped. -/
theorem comments_read_alike_with_delimiters {source : Text} {start stop : Nat}
    (ordered : start ≤ stop) (startBoundary : source.isBoundary start = true)
    (stopBoundary : source.isBoundary stop = true) :
    ∃ symbols, tokenizeRange source start stop .templateText = .ok symbols ∧
      ∀ before closing after, symbols = before ++ closing :: after → closing.kind = .docEnd →
        ∃ earlier opening inside body doc,
          IsComment symbols earlier opening inside closing after ∧
          source.slice? opening.stop closing.start = some body ∧
          source.slice? opening.start closing.stop = some (Doc.enclosed body) ∧
          closing.value = some (.doc doc) ∧
          ∀ namespaceName,
            (Doc.Buffer.ofText namespaceName (Doc.enclosed body)).SameDocumentation doc ↔
              ¬Doc.Reopens (Doc.firstLine body) ∧
                (Doc.SharesDelimiter body → doc.current = .discarded) := by
  obtain ⟨scanner, accepted⟩ := Scanner.exists_bind .templateText ordered startBoundary stopBoundary
  refine ⟨scanner.drain.1, by rw [tokenizeRange, accepted]; rfl, ?_⟩
  intro before closing after split ends
  obtain ⟨earlier, opening, inside, comment⟩ := exists_isComment accepted split ends
  obtain ⟨lexed, text, namespaceName, value⟩ := comment.lexed accepted
  refine ⟨earlier, opening, inside, _, _, comment, text, comment.slice?_whole accepted, value, ?_⟩
  intro other
  exact Doc.Buffer.sameDocumentation_enclosed_iff lexed.isOpen other namespaceName

theorem comments_read_alike_with_delimiters_plain :
    ∃ before closing doc, tokenizeRange "/** a\n * @param x b */".toList 0 22 .templateText =
        .ok (before ++ [closing]) ∧ closing.value = some (.doc doc) ∧
      (Doc.Buffer.ofText none "/** a\n * @param x b */".toList).SameDocumentation doc := by
  obtain ⟨symbols, scanned, alike⟩ := @comments_read_alike_with_delimiters
    "/** a\n * @param x b */".toList 0 22 (by decide) (by decide) (by decide)
  have drained := Scanner.drain_eq_history (n := 12)
    (by decide +kernel : (behind Scanner.advance (Scanner.ofRange
      "/** a\n * @param x b */".toList 0 22 .templateText) 12).rest ≠ []) (by decide +kernel)
  obtain rfl := (Except.ok.inj scanned).symm.trans drained
  obtain ⟨earlier, opening, inside, body, doc, comment, text, -, value, same⟩ :=
    alike _ _ [] rfl (by decide +kernel)
  -- there is one opening delimiter, so the body is what stands behind it
  have single : ∀ symbol ∈ (Scanner.history (Scanner.ofRange "/** a\n * @param x b */".toList 0 22
        .templateText) 12).reverse ++ [nth Scanner.advance (Scanner.ofRange
          "/** a\n * @param x b */".toList 0 22 .templateText) 12],
      symbol.kind = .docBegin → symbol.stop = 3 := by
    decide +kernel
  have begins : opening.stop = 3 := by
    apply single opening _ comment.opens
    rw [comment.split]
    simp
  have cut : slice? "/** a\n * @param x b */".toList 3 20 = some " a\n * @param x b ".toList := by
    decide
  rw [begins] at text
  obtain rfl := Option.some.inj (text.symm.trans cut)
  refine ⟨_, _, doc, scanned, value, (same none).mpr ⟨?_, ?_⟩⟩
  · exact (by decide : ¬"/**".toList <+: trimStart " a".toList)
  · intro shares
    exact absurd shares.2 (by decide)

/-- A second delimiter on the first line is lost without the first one, and a `/*` at the end is
lost with the closing one. -/
theorem comments_read_differently_with_delimiters :
    (∃ opening inside closing doc,
      IsComment (tokenize "/** /** a */".toList) [] opening inside closing [] ∧
      closing.value = some (.doc doc) ∧ doc.description? = some "a".toList ∧
      (Doc.Buffer.ofText none "/** /** a */".toList).description? = some "/** a".toList) ∧
    ∃ opening inside closing doc,
      IsComment (tokenize "/** a\n/**/".toList) [] opening inside closing [] ∧
      closing.value = some (.doc doc) ∧ doc.description? = some "a /*".toList ∧
      (Doc.Buffer.ofText none "/** a\n/**/".toList).description? = some "a /".toList := by
  constructor
  · have comment := isComment_of_history "/** /** a */".toList (n := 7) rfl
      (by decide +kernel) (by decide +kernel) (by decide +kernel) (by decide +kernel)
      (by decide +kernel)
    refine ⟨_, _, _, { description := some "a".toList
                       captured := [" /** a ".toList] }, comment, ?_, rfl, ?_⟩
    · decide +kernel
    · decide +kernel
  · have comment := isComment_of_history "/** a\n/**/".toList (n := 5) rfl
      (by decide +kernel) (by decide +kernel) (by decide +kernel) (by decide +kernel)
      (by decide +kernel)
    refine ⟨_, _, _, { description := some "a /*".toList
                       captured := [" a".toList, "/*".toList] }, comment, ?_, rfl, ?_⟩
    · decide +kernel
    · decide +kernel

end Scan

end ClosureTemplate
