import ClosureTemplate.Proofs.Scan.Notes
import ClosureTemplate.Proofs.Scan.Passage
import ClosureTemplate.Proofs.Text.Occurrence

/-!
Literal blocks. The command word `literal` of an opening tag is kept to the brace that closes the
tag (`InLiteralTag`), and this brace starts the raw content. The content goes on to the first end
tag, which is left to the reader of template text and is read as any other tag; on the whole way the
names and the doc comment of the scan stay as they are (`ReadsQuietly`).
-/

namespace ClosureTemplate

namespace Scan

open Text

def literalEnd : Text := "\x7b/literal\x7d".toList

namespace State

/-- In an opening tag with the command word `literal`; only attributes can follow the word. -/
structure InLiteralTag (state : State) : Prop where
  command : state.tag.command = some .literalWord
  opening : state.tag.isClosing = false
  place : state.mode = .attributes ∨
    state.mode = .stringLiteral ∧ state.resume.head? = some .attributes

section Transition

variable {state after : State} {kind : Kind} {text : Text} {line : Nat}

theorem InLiteralTag.not_shift (inTag : state.InLiteralTag) : ¬Shift state after := by
  intro shift
  cases shift <;>
    next mode => rcases inTag.place with place | ⟨place, -⟩ <;> rw [place] at mode <;> cases mode

theorem Transition.opens_literal (step : Transition state kind text line after)
    (word : kind = .literalWord)
    (opening : state.mode = .tagCommand → state.tag.isClosing = false) : after.InLiteralTag := by
  have others : ∀ mode : Mode, mode ≠ .tagCommand → Kind.literalWord ∉ mode.kinds := by
    intro mode
    cases mode <;> decide
  have inCommand : state.mode = .tagCommand := by
    apply Decidable.byContradiction
    intro other
    exact others _ other (word ▸ step.kind_mem)
  cases step with
  | commanded width mode known =>
    subst word
    simp only [commandWord, opening mode, Bool.false_eq_true, if_false]
    exact ⟨rfl, rfl, .inl rfl⟩
  | kept keeps =>
    rw [inCommand] at keeps
    cases keeps
  | miscommanded | escaped => cases word
  | quoted terminator inAttribute mode =>
    rw [inCommand] at mode
    cases inAttribute <;> cases mode
  | closed width mode | reopened mode =>
    rw [inCommand] at mode
    rcases mode with mode | mode <;> cases mode
  | tagOpened isDoubled isClosing mode | docOpened mode | literalRead mode | named lexeme mode
  | valued mode | directed mode | piped mode | referred mode | unquoted mode | docClosed mode
  | docWord mode | docRead lexeme mode =>
    rw [inCommand] at mode
    cases mode

theorem Transition.inLiteralTag (step : Transition state kind text line after)
    (inTag : state.InLiteralTag) (stays : kind ≠ .unterminatedTag ∧ kind.closesTag = false) :
    after.InLiteralTag := by
  obtain ⟨command, opening, place⟩ := inTag
  cases step with
  | kept => exact ⟨command, opening, place⟩
  | quoted terminator inAttribute mode =>
    have inAttributes : state.mode = .attributes := by
      rcases place with place | ⟨place, -⟩
      · exact place
      · rw [place] at mode
        cases inAttribute <;> cases mode
    exact ⟨command, opening, .inr ⟨rfl, by simp [push, inAttributes]⟩⟩
  | unquoted mode =>
    rcases place with place | ⟨-, back⟩
    · rw [place] at mode
      cases mode
    · exact ⟨command, opening, .inl (by simp [pop, List.headD_eq_head?_getD, back])⟩
  | valued mode other =>
    rw [command] at other
    rcases other with other | other <;> cases other
  | reopened => exact absurd rfl stays.1
  | closed width mode closes =>
    rcases closes with rfl | rfl <;> cases stays.2
  | tagOpened isDoubled isClosing mode | docOpened mode | literalRead mode | named lexeme mode
  | commanded width mode | miscommanded mode | escaped mode | directed mode | piped mode
  | referred mode | docClosed mode | docWord mode | docRead lexeme mode =>
    rcases place with place | ⟨place, -⟩ <;> rw [place] at mode <;> cases mode

theorem Transition.closes_literal (step : Transition state kind text line after)
    (inTag : state.InLiteralTag) (closes : kind = .tagClose) : after.mode = .literal := by
  obtain ⟨command, opening, place⟩ := inTag
  have inAttributes : state.mode = .attributes := by
    rcases place with place | ⟨place, -⟩
    · exact place
    · have listed := step.kind_mem
      rw [closes, place] at listed
      exact absurd listed (by decide)
  cases step with
  | closed width mode =>
    subst closes
    simp [closeTag, command, opening, enter]
  | kept keeps =>
    rw [closes, inAttributes] at keeps
    exact absurd keeps (by decide)
  | quoted | valued | reopened => cases closes
  | tagOpened isDoubled isClosing mode | docOpened mode | literalRead mode | named lexeme mode
  | commanded width mode | miscommanded mode | escaped mode | directed mode | piped mode
  | referred mode | unquoted mode | docClosed mode | docWord mode | docRead lexeme mode =>
    rw [inAttributes] at mode
    cases mode

end Transition

end State

namespace Scanner

theorem inLiteralTag_through {scanner : Scanner} {inside others : List Symbol}
    (inTag : scanner.state.InLiteralTag) (stream : scanner.drain.1 = inside ++ others)
    (stays : ∀ symbol ∈ inside, symbol.kind ≠ .unterminatedTag ∧ symbol.kind.closesTag = false) :
    (behind advance scanner inside.length).state.InLiteralTag := by
  induction inside generalizing scanner with
  | nil => exact inTag
  | cons symbol inside ih =>
    have more : scanner.rest ≠ [] := by
      intro ended
      rw [drain_at_end ended] at stream
      cases stream
    rw [drain_of_rest more] at stream
    obtain ⟨first, later⟩ := List.cons.inj stream
    obtain ⟨settled, origin, step⟩ := advance_steps more
    obtain rfl := origin.resolve_right inTag.not_shift
    rw [first] at step
    have still := step.inLiteralTag inTag (stays symbol List.mem_cons_self)
    rw [List.length_cons, ← behind_advance]
    exact ih still later fun other member => stays other (List.mem_cons_of_mem _ member)

/-- Calls give the symbols and lead to another scanner, and none of them changes the names or the
doc comment of the scan. -/
inductive ReadsQuietly : Scanner → List Symbol → Scanner → Prop
  | done {scanner : Scanner} : ReadsQuietly scanner [] scanner
  | next {scanner last : Scanner} {symbols : List Symbol} (more : scanner.rest ≠ [])
      (same : State.SameRecords scanner.advance.2.state scanner.state)
      (reads : ReadsQuietly scanner.advance.2 symbols last) :
      ReadsQuietly scanner (scanner.advance.1 :: symbols) last

structure Takes (scanner : Scanner) (kind : Kind) (text after : Text) : Prop where
  more : scanner.rest ≠ []
  isText : scanner.advance.1.text = text
  covers : scanner.advance.1.Covers kind scanner.cursor.offset
    (scanner.cursor.offset + text.byteSize)
  rest : scanner.advance.2.rest = after
  offset : scanner.advance.2.cursor.offset = scanner.cursor.offset + text.byteSize

section Block

variable {scanner : Scanner} {content after : Text}

theorem takes_of_take {emission : Emission} {text : Text}
    (reads : scanner.advance = scanner.take emission) (shape : scanner.rest = text ++ after)
    (width : emission.width = text.length) (nonempty : text ≠ []) :
    scanner.Takes emission.kind text after := by
  have more : scanner.rest ≠ [] := by
    intro ended
    rw [ended] at shape
    exact nonempty (List.append_eq_nil_iff.mp shape.symm).1
  have isText : scanner.advance.1.text = text := by
    rw [reads]
    simp only [take, shape]
    exact List.take_left' width.symm
  have isKind : scanner.advance.1.kind = emission.kind := by
    rw [reads]
    rfl
  refine ⟨more, isText, covers_advance more isKind isText, ?_, ?_⟩
  · rw [reads]
    simp only [take, shape]
    exact List.drop_left' width.symm
  · rw [advance_cursor_offset, isText]

theorem rest_ne_nil_of_before? (found : before? literalEnd scanner.rest = some content) :
    scanner.rest ≠ [] := by
  intro ended
  rw [ended] at found
  cases found

theorem advance_literalText (inBlock : scanner.state.mode = .literal)
    (found : before? literalEnd scanner.rest = some content) (nonempty : content ≠ []) :
    scanner.advance = scanner.take
      { kind := .literalText
        width := content.length
        state := scanner.state.enter .templateText } := by
  obtain ⟨head, tail, shape⟩ := List.exists_cons_of_ne_nil (rest_ne_nil_of_before? found)
  obtain ⟨c, cs, rfl⟩ := List.exists_cons_of_ne_nil nonempty
  have search : before? "\x7b/literal\x7d".toList (scanner.viewOf head tail).rest =
      some (c :: cs) := by
    rw [shape] at found
    exact found
  rw [advance_of_rest shape]
  simp only [State.emission, State.move, inBlock, State.scanLiteral, search]

theorem settled_of_literalEnd (inBlock : scanner.state.mode = .literal)
    (found : before? literalEnd scanner.rest = some []) :
    scanner.settled = scanner.state.enter .templateText := by
  obtain ⟨head, tail, shape⟩ := List.exists_cons_of_ne_nil (rest_ne_nil_of_before? found)
  have search : before? "\x7b/literal\x7d".toList (scanner.viewOf head tail).rest = some [] := by
    rw [shape] at found
    exact found
  rw [settled_of_rest shape]
  simp only [State.settled, State.move, inBlock, State.scanLiteral, search]

theorem advance_unterminatedLiteral (inBlock : scanner.state.mode = .literal)
    (more : scanner.rest ≠ []) (missing : before? literalEnd scanner.rest = none) :
    scanner.advance = scanner.take
      { kind := .unterminatedLiteral, width := scanner.rest.length, state := scanner.state } := by
  obtain ⟨head, tail, shape⟩ := List.exists_cons_of_ne_nil more
  have search : before? "\x7b/literal\x7d".toList (scanner.viewOf head tail).rest = none := by
    rw [shape] at missing
    exact missing
  rw [advance_of_rest shape, shape]
  simp only [State.emission, State.move, inBlock, State.scanLiteral, search]
  rfl

theorem settled_sameRecords (scanner : Scanner) :
    State.SameRecords scanner.settled scanner.state := by
  unfold settled
  split
  · exact .refl _
  · next head tail shape =>
    rcases scanner.state.settled_cases (scanner.viewOf head tail) with same | shift
    · rw [same]
      exact .refl _
    · exact shift.sameRecords

theorem advance_endTagOpen {tail : Text} (inText : scanner.settled.mode = .templateText)
    (shape : scanner.rest = '{' :: '/' :: tail) :
    scanner.advance = scanner.take
      { kind := .endTagOpen
        width := 2
        state := { scanner.settled.push .tagCommand with
          tag := { isClosing := true }, tagLine := scanner.cursor.line } } := by
  apply advance_of_settled shape
  simp only [State.move, inText]
  rfl

theorem advance_literalWord (inCommand : scanner.state.mode = .tagCommand)
    (closing : scanner.state.tag.isClosing = true)
    (shape : scanner.rest = "literal\x7d".toList ++ after) :
    scanner.advance = scanner.take
      { kind := .literalWord
        width := 7
        state := { scanner.state.enter .attributes with
          tag := { scanner.state.tag with command := some .literalWord } } } := by
  have lexeme : tagLexeme? 'l' ("iteral\x7d".toList ++ after) = some (.word, 7) := rfl
  have known : Kind.command?
      ((scanner.viewOf 'l' ("iteral\x7d".toList ++ after)).rest.take 7) = some .literalWord := by
    change Kind.command? "literal".toList = _
    decide
  have command : scanner.state.move (scanner.viewOf 'l' ("iteral\x7d".toList ++ after)) =
      .emit (scanner.state.commandWord .literalWord 7) := by
    simp only [State.move, inCommand, State.scanTagCommand, viewOf, lexeme]
    simp only [viewOf] at known
    rw [known]
  have shaped : scanner.rest = 'l' :: ("iteral\x7d".toList ++ after) := shape
  rw [advance_of_rest shaped, State.emission, command]
  simp only [State.commandWord, closing, if_true,
    State.handOutDoc_of_other _ (by decide : Kind.literalWord ≠ .templateWord ∧ _)]
  rfl

theorem advance_tagClose {tail : Text} (inAttributes : scanner.state.mode = .attributes)
    (single : scanner.state.tag.isDoubled = false) (shape : scanner.rest = '}' :: tail) :
    scanner.advance = scanner.take (scanner.state.closeTag .tagClose 1) := by
  rw [advance_of_rest shape]
  simp only [State.emission, State.move, inAttributes]
  change scanner.take (scanner.state.closeBrace (scanner.viewOf '}' tail) false) = _
  simp [State.closeBrace, single]

/-- The three symbols of an end tag at an offset. -/
def SpellEndTag (offset : Nat) (symbols : List Symbol) : Prop :=
  ∃ opening word closing, symbols = [opening, word, closing] ∧
    opening.Covers .endTagOpen offset (offset + 2) ∧
    word.Covers .literalWord (offset + 2) (offset + 9) ∧
    closing.Covers .tagClose (offset + 9) (offset + 10)

theorem reads_endTag (coherent : scanner.state.IsCoherent)
    (inText : scanner.settled.mode = .templateText)
    (shape : scanner.rest = literalEnd ++ after) :
    ∃ symbols there, scanner.ReadsQuietly symbols there ∧
      SpellEndTag scanner.cursor.offset symbols ∧
      there.state.mode = .templateText ∧ there.state.resume = [] := by
  have clear := (settled_isCoherent coherent).templateText (.inl inText)
  have records := scanner.settled_sameRecords
  have opens := advance_endTagOpen inText shape
  have opening : scanner.Takes .endTagOpen "\x7b/".toList ("literal\x7d".toList ++ after) :=
    takes_of_take opens shape rfl (by decide)
  have names := advance_literalWord (by rw [opens]; rfl) (by rw [opens]; rfl) opening.rest
  have word : scanner.advance.2.Takes .literalWord "literal".toList ('}' :: after) :=
    takes_of_take names opening.rest rfl (by decide)
  have closes := advance_tagClose (by rw [names]; rfl) (by rw [names, opens]; rfl) word.rest
  have closing : scanner.advance.2.advance.2.Takes .tagClose ['}'] after :=
    takes_of_take closes word.rest rfl (by decide)
  have wordCovers := word.covers
  have closingCovers := closing.covers
  rw [opening.offset] at wordCovers
  rw [word.offset, opening.offset] at closingCovers
  refine ⟨_, _, .next opening.more ?_ (.next word.more ?_ (.next closing.more ?_ .done)),
    ⟨_, _, _, rfl, opening.covers, wordCovers, closingCovers⟩, ?_⟩
  · rw [opens]
    exact ⟨records.namespaceName, records.templateName, records.doc, records.docActive⟩
  · rw [names]
    exact ⟨rfl, rfl, rfl, rfl⟩
  · rw [closes, names, opens]
    exact ⟨rfl, rfl, rfl, rfl⟩
  · rw [closes, names, opens]
    exact ⟨inText, clear.resume⟩

/-- The symbols of a block from its content on: the content between two offsets, if there is any,
and then the end tag. -/
def SpellBlock (source : Text) (opening closing : Nat) (symbols : List Symbol) : Prop :=
  ∃ content tag, symbols = content ++ tag ∧ SpellEndTag closing tag ∧
    (opening = closing ∧ content = [] ∨
      opening < closing ∧ ∃ symbol, content = [symbol] ∧
        symbol.Covers .literalText opening closing ∧
        source.slice? opening closing = some symbol.text)

/-- The next symbols are those of a block with its end tag at an offset. -/
def ReadsBlock (scanner : Scanner) (source : Text) (closing : Nat) : Prop :=
  ∃ symbols there, scanner.ReadsQuietly symbols there ∧
    SpellBlock source scanner.cursor.offset closing symbols ∧
    there.state.mode = .templateText ∧ there.state.resume = []

def GivesUpBlock (scanner : Scanner) (stop : Nat) : Prop :=
  ∃ symbol there, scanner.ReadsQuietly [symbol] there ∧
    symbol.Covers .unterminatedLiteral scanner.cursor.offset stop ∧
    there.advance.1.kind = .eof

theorem settled_of_templateText (inText : scanner.state.mode = .templateText) :
    scanner.settled = scanner.state := by
  unfold settled
  split
  · rfl
  · simp only [State.settled, State.move, inText]

variable {source : Text} {start stop : Nat}

theorem readsBlock {closing : Nat} (inBlock : scanner.state.mode = .literal)
    (onRange : scanner.OnRange source start stop) (coherent : scanner.state.IsCoherent)
    (first : IsLeast {offset | scanner.cursor.offset ≤ offset ∧
      OccursAt source stop literalEnd offset} closing) : scanner.ReadsBlock source closing := by
  cases found : before? literalEnd scanner.rest with
  | none => exact absurd first.1.2 (not_occursAt_of_before? onRange.rest found first.1.1)
  | some content =>
    obtain rfl := first.unique (isLeast_of_before? onRange.rest found)
    obtain ⟨after, shape⟩ := before?_eq_some found
    rw [List.append_assoc] at shape
    by_cases empty : content = []
    · subst empty
      have inText : scanner.settled.mode = .templateText := by
        rw [settled_of_literalEnd inBlock found]
        rfl
      obtain ⟨tag, there, reads, spells, ended⟩ := reads_endTag coherent inText shape
      exact ⟨tag, there, reads, ⟨[], tag, rfl, spells, .inl ⟨rfl, rfl⟩⟩, ended⟩
    · have text := advance_literalText inBlock found empty
      have takes : scanner.Takes .literalText content (literalEnd ++ after) :=
        takes_of_take text shape rfl empty
      have inText : scanner.advance.2.settled.mode = .templateText := by
        rw [settled_of_templateText (by rw [text]; rfl), text]
        rfl
      obtain ⟨tag, there, reads, spells, ended⟩ :=
        reads_endTag (isCoherent_advance coherent) inText takes.rest
      rw [takes.offset] at spells
      have positive : content.byteSize ≠ 0 := fun zero => empty (byteSize_eq_zero_iff.mp zero)
      have cut : source.slice? scanner.cursor.offset stop =
          some (content ++ (literalEnd ++ after)) := by
        rw [onRange.rest, shape]
      refine ⟨_, there, .next takes.more (by rw [text]; exact ⟨rfl, rfl, rfl, rfl⟩) reads,
        ⟨[_], tag, rfl, spells, .inr ⟨by omega, _, rfl, takes.covers, ?_⟩⟩, ended⟩
      rw [takes.isText]
      exact slice?_front cut

theorem givesUpBlock (inBlock : scanner.state.mode = .literal)
    (onRange : scanner.OnRange source start stop) (inside : scanner.cursor.offset < stop)
    (unclosed : ∀ offset, scanner.cursor.offset ≤ offset →
      ¬OccursAt source stop literalEnd offset) : scanner.GivesUpBlock stop := by
  obtain ⟨consumed, held⟩ := onRange.consumed
  have reached := held.stop
  rw [onRange.stop] at reached
  have more : scanner.rest ≠ [] := by
    intro ended
    rw [ended, byteSize_nil] at reached
    omega
  have missing : before? literalEnd scanner.rest = none := by
    cases found : before? literalEnd scanner.rest with
    | none => rfl
    | some content =>
      have least := (isLeast_of_before? onRange.rest found).1
      exact absurd least.2 (unclosed _ least.1)
  have gives := advance_unterminatedLiteral inBlock more missing
  have takes : scanner.Takes .unterminatedLiteral scanner.rest [] :=
    takes_of_take gives (by simp) rfl more
  have covers := takes.covers
  rw [reached] at covers
  exact ⟨_, _, .next more (by rw [gives]; exact ⟨rfl, rfl, rfl, rfl⟩) .done, covers,
    advance_kind.mpr takes.rest⟩

end Block

end Scanner

/-- An opening tag with the command word `literal`, from that word to the brace that closes it. -/
structure OpensLiteral (before : List Symbol) (word : Symbol) (inside : List Symbol)
    (close : Symbol) : Prop where
  word : word.kind = .literalWord
  opening : before.getLast?.map Symbol.kind ≠ some .endTagOpen
  stays : ∀ symbol ∈ inside, symbol.kind ≠ .unterminatedTag ∧ symbol.kind.closesTag = false
  closes : close.kind = .tagClose

theorem OpensLiteral.inBlock {source : Text} {start stop : Nat} {mode : Mode} {scanner : Scanner}
    {before inside after : List Symbol} {word close : Symbol}
    (accepted : Scanner.bind source start stop mode = .ok scanner)
    (split : scanner.drain.1 = before ++ word :: (inside ++ close :: after))
    (opens : OpensLiteral before word inside close) :
    (behind Scanner.advance scanner (before.length + inside.length + 2)).state.mode = .literal ∧
      (behind Scanner.advance scanner (before.length + inside.length + 2)).cursor.offset =
        close.stop := by
  -- the tag is the one that the word belongs to, and it opens a block unless it closes one
  obtain ⟨bounded, past, more, symbol⟩ := Scanner.moment_of_split split
  have follows := Scanner.follows_behind accepted bounded
  rw [past] at follows
  obtain ⟨settled, origin, step⟩ := Scanner.advance_steps more
  have fits : settled.FitsTag before.reverse := by
    rcases origin with rfl | shift
    · exact follows.tag
    · exact (shift.follows follows).tag
  have begun : (behind Scanner.advance scanner (before.length + 1)).state.InLiteralTag := by
    refine step.opens_literal (symbol ▸ opens.word) fun inCommand => ?_
    have closing := fits.closing inCommand
    rw [List.head?_reverse] at closing
    exact Bool.eq_false_iff.mpr (mt closing.mp opens.opening)
  -- attributes and strings keep it up to the brace
  have stream : (behind Scanner.advance scanner (before.length + 1)).drain.1 =
      inside ++ close :: after := by
    rw [Scanner.drain_behind, split, ← List.drop_drop, List.drop_left]
    rfl
  have inTag := Scanner.inLiteralTag_through begun stream opens.stays
  have position : before.length + 1 + inside.length = before.length + inside.length + 1 := by
    omega
  rw [behind_add, position] at inTag
  have again : scanner.drain.1 = (before ++ word :: inside) ++ close :: after := by
    simpa using split
  obtain ⟨-, -, moreCloses, closingSymbol⟩ := Scanner.moment_of_split again
  have length : (before ++ word :: inside).length = before.length + inside.length + 1 := by
    simp only [List.length_append, List.length_cons]
    omega
  rw [length] at moreCloses closingSymbol
  obtain ⟨closing, source, last⟩ := Scanner.advance_steps moreCloses
  obtain rfl := source.resolve_right inTag.not_shift
  have stops := (Scanner.advance_symbol_start moreCloses).2
  rw [closingSymbol] at stops last
  exact ⟨last.closes_literal inTag opens.closes, stops.symm⟩

/-- A literal block swallows exactly its content. Behind the brace that closes an opening `literal`
tag, in any scan, all text up to the first end tag is one token, whatever it holds, and the end tag
leads back to template text; without an end tag the rest of the range is one token. No token of the
block changes the names or the doc comment of the scan. -/
theorem literal_blocks_swallow_their_content {source : Text} {start stop : Nat} (mode : Mode)
    (ordered : start ≤ stop) (startBoundary : source.isBoundary start = true)
    (stopBoundary : source.isBoundary stop = true) :
    ∃ scanner symbols, Scanner.bind source start stop mode = .ok scanner ∧
      tokenizeRange source start stop mode = .ok symbols ∧
      ∀ before word inside close after, symbols = before ++ word :: (inside ++ close :: after) →
        OpensLiteral before word inside close →
        ∃ block, block = behind Scanner.advance scanner (before.length + inside.length + 2) ∧
          block.cursor.offset = close.stop ∧
          (∀ closing, IsLeast {offset | close.stop ≤ offset ∧
            OccursAt source stop literalEnd offset} closing → block.ReadsBlock source closing) ∧
          (close.stop < stop →
            (∀ offset, close.stop ≤ offset → ¬OccursAt source stop literalEnd offset) →
            block.GivesUpBlock stop) := by
  obtain ⟨scanner, accepted⟩ := Scanner.exists_bind mode ordered startBoundary stopBoundary
  refine ⟨scanner, scanner.drain.1, accepted, by rw [tokenizeRange, accepted]; rfl, ?_⟩
  intro before word inside close after split opens
  have onRange := (Scanner.onRange_of_bind accepted).behind (before.length + inside.length + 2)
  have coherent := Scanner.isCoherent_behind accepted (before.length + inside.length + 2)
  obtain ⟨inBlock, offset⟩ := opens.inBlock accepted split
  refine ⟨_, rfl, offset, ?_, ?_⟩
  · intro closing first
    rw [← offset] at first
    exact Scanner.readsBlock inBlock onRange coherent first
  · intro more unclosed
    rw [← offset] at more unclosed
    exact Scanner.givesUpBlock inBlock onRange more unclosed

/-- A block with openings of a closing tag and of a comment in it. -/
theorem literal_blocks_swallow_their_content_openings :
    ∃ scanner symbols,
      Scanner.bind "\x7bliteral\x7d\x7b/**\x7b/literal\x7d".toList 0 23 .templateText =
        .ok scanner ∧
      tokenizeRange "\x7bliteral\x7d\x7b/**\x7b/literal\x7d".toList 0 23 .templateText =
        .ok symbols ∧
      ∃ before word close after, symbols = before ++ word :: ([] ++ close :: after) ∧
        OpensLiteral before word [] close ∧ close.stop = 9 ∧
        (behind Scanner.advance scanner 3).ReadsBlock
          "\x7bliteral\x7d\x7b/**\x7b/literal\x7d".toList 13 := by
  obtain ⟨scanner, symbols, accepted, scanned, blocks⟩ :=
    literal_blocks_swallow_their_content .templateText (by decide : 0 ≤ 23)
      (by decide : Text.isBoundary
        "\x7bliteral\x7d\x7b/**\x7b/literal\x7d".toList 0 = true) (by decide)
  refine ⟨scanner, symbols, accepted, scanned, ?_⟩
  obtain ⟨-, rfl⟩ := Scanner.bind_eq_ok_iff.mp accepted
  have drained := Scanner.drain_eq_history (n := 6)
    (by decide : (behind Scanner.advance (Scanner.ofRange
      "\x7bliteral\x7d\x7b/**\x7b/literal\x7d".toList 0 23 .templateText) 6).rest ≠ [])
    (by decide)
  have stream := scanned
  rw [tokenizeRange, accepted] at stream
  replace stream := (Except.ok.inj stream).symm.trans drained
  have first := Text.isLeast_of_before?
    (by decide : Text.slice? "\x7bliteral\x7d\x7b/**\x7b/literal\x7d".toList 9 23 =
      some "\x7b/**\x7b/literal\x7d".toList)
    (by decide : Text.before? literalEnd "\x7b/**\x7b/literal\x7d".toList =
      some "\x7b/**".toList)
  have tag := blocks [_] _ [] _ _ stream
  obtain ⟨_, rfl, -, reads, -⟩ := tag ⟨by decide, by decide, by simp, by decide⟩
  exact ⟨[_], _, _, _, stream, ⟨by decide, by decide, by simp, by decide⟩, by decide,
    reads 13 first⟩

end Scan

end ClosureTemplate
