import ClosureTemplate.Proofs.Scan.Passage
import ClosureTemplate.Proofs.Text.Occurrence

/-!
How far a comment reaches. A block comment is one token and its end is looked for once; a doc
comment is opened if an end is ahead and is then read lexeme by lexeme. Both end at the first
delimiter behind the `/*`, because no lexeme reads past the start of it (`IsDocLexeme.before?`).
-/

namespace ClosureTemplate

namespace Scan

open Text

section Delimiter

variable {text rest : Text}

theorem before?_cons_of_notClosing {c : Char} (apart : ¬(c = '*' ∧ rest.head? = some '/')) :
    before? "*/".toList (c :: rest) = (before? "*/".toList rest).map (c :: ·) := by
  have notHere : ¬"*/".toList.isPrefixOf (c :: rest) = true := by
    rw [List.isPrefixOf_iff_prefix, closes_cons_iff]
    exact apart
  rw [before?, if_neg notHere]

theorem before?_append_of_star_notMem (noStar : '*' ∉ text) :
    before? "*/".toList (text ++ rest) = (before? "*/".toList rest).map (text ++ ·) := by
  induction text with
  | nil => simp
  | cons c cs ih =>
    rw [List.mem_cons, not_or] at noStar
    have apart : ¬(c = '*' ∧ (cs ++ rest).head? = some '/') := fun closes => noStar.1 closes.1.symm
    rw [List.cons_append, before?_cons_of_notClosing apart, ih noStar.2, Option.map_map]
    rfl

theorem IsDocLexeme.before? {lexeme : DocLexeme} (shape : IsDocLexeme lexeme text rest) :
    before? "*/".toList (text ++ rest) = (before? "*/".toList rest).map (text ++ ·) := by
  rcases shape.star_notMem with ⟨rfl, unclosed⟩ | noStar
  · exact before?_cons_of_notClosing fun closes => unclosed closes.2
  · exact before?_append_of_star_notMem noStar

theorem docLexeme_close_iff {head : Char} {tail : Text} :
    (docLexeme head tail).1 = .close ↔ before? "*/".toList (head :: tail) = some [] := by
  constructor
  · intro close
    unfold docLexeme at close
    split at close
    · rfl
    · cases close
    · split at close <;> cases close
    · split at close
      · cases close
      · split at close <;> cases close
  · intro found
    obtain ⟨after, split⟩ := before?_eq_some found
    obtain ⟨rfl, rfl⟩ := List.cons.inj split
    rfl

end Delimiter

namespace State

theorem scanTemplateText_of_comment (state : State) {view : View} {tail : Text}
    (shape : view.rest = '/' :: '*' :: tail) :
    state.scanTemplateText view =
      if tail.head? = some '*' then state.openDoc view else state.blockComment view := by
  obtain ⟨slash, star⟩ := List.cons.inj shape
  unfold scanTemplateText
  rw [slash, star]
  cases tail with
  | nil => rfl
  | cons c cs =>
    by_cases doubled : c = '*'
    · subst doubled
      rfl
    · have lexeme : textLexeme '/' ('*' :: c :: cs) = (.comment, 2) := by
        unfold textLexeme
        split <;> simp_all
      rw [lexeme, List.head?_cons, if_neg (fun same => doubled (Option.some.inj same))]

end State

namespace Scanner

/-- The scanner is in a doc comment, and `body` is what the comment has in front of its end. -/
structure InsideComment (body : Text) (scanner : Scanner) : Prop where
  mode : scanner.state.mode = .docComment
  coherent : scanner.state.IsCoherent
  ends : before? "*/".toList scanner.rest = some body

section InsideComment

variable {body : Text} {scanner : Scanner}

theorem InsideComment.rest_ne_nil (inside : scanner.InsideComment body) : scanner.rest ≠ [] := by
  intro empty
  have ends := inside.ends
  rw [empty] at ends
  cases ends

theorem InsideComment.emits (inside : scanner.InsideComment body) {head : Char} {tail : Text}
    (shape : scanner.rest = head :: tail) :
    scanner.state.move (scanner.viewOf head tail) =
        .emit (scanner.state.scanDocComment (scanner.viewOf head tail)) ∧
      scanner.advance = scanner.take (scanner.state.scanDocComment (scanner.viewOf head tail)) := by
  have moves : scanner.state.move (scanner.viewOf head tail) =
      .emit (scanner.state.scanDocComment (scanner.viewOf head tail)) := by
    simp only [State.move, inside.mode]
  refine ⟨moves, advance_of_settled shape ?_⟩
  rw [settled_of_rest shape, State.settled_eq_of_mode _ (.inr inside.mode)]
  exact moves

theorem InsideComment.text (inside : scanner.InsideComment body) {head : Char} {tail : Text}
    (shape : scanner.rest = head :: tail) :
    scanner.advance.1.text = scanner.rest.take (docLexeme head tail).2 := by
  rw [(inside.emits shape).2]
  exact congrArg scanner.rest.take (State.scanDocComment_width _ _)

theorem InsideComment.advance (inside : scanner.InsideComment body) (unread : body ≠ []) :
    scanner.rest ≠ [] ∧ scanner.advance.1.kind.isDocBody = true ∧
      ∃ left, body = scanner.advance.1.text ++ left ∧ scanner.advance.2.InsideComment left := by
  obtain ⟨head, tail, shape⟩ := List.exists_cons_of_ne_nil inside.rest_ne_nil
  obtain ⟨moves, emits⟩ := inside.emits shape
  have notClose : (docLexeme head tail).1 ≠ .close := by
    intro close
    have closes := docLexeme_close_iff.mp close
    rw [← shape, inside.ends] at closes
    exact unread (Option.some.inj closes)
  have width : scanner.advance.1.text.length = (docLexeme head tail).2 := by
    rw [inside.text shape, shape]
    exact List.length_take_of_le (docLexeme_le head tail)
  have split := scanner.text_append_rest_advance
  have lexeme := isDocLexeme_of_docLexeme (split.trans shape) (Prod.ext rfl width.symm) notClose
  have ends := inside.ends
  rw [← split, lexeme.before?] at ends
  obtain ⟨left, found, rfl⟩ := Option.map_eq_some_iff.mp ends
  have coherent := isCoherent_advance inside.coherent
  have isBody :
      (scanner.state.scanDocComment (scanner.viewOf head tail)).kind.isDocBody = true := by
    rw [State.scanDocComment_kind]
    exact State.docKind_isDocBody _ _ notClose
  rcases (State.steps_of_emits _ moves).inside_docComment inside.mode with
    ⟨closes, -⟩ | ⟨-, doc, after⟩
  · rw [closes] at isBody
    cases isBody
  · refine ⟨inside.rest_ne_nil, by rw [emits]; exact isBody, left, rfl, ?_, coherent, found⟩
    rw [emits]
    exact (congrArg State.mode after).trans inside.mode

theorem InsideComment.closes (inside : scanner.InsideComment []) :
    scanner.rest ≠ [] ∧ scanner.advance.1.kind = .docEnd ∧
      scanner.advance.1.text = "*/".toList ∧ scanner.advance.2.state.mode = .templateText := by
  obtain ⟨after, shape⟩ := before?_eq_some inside.ends
  have emits := (inside.emits shape).2
  refine ⟨inside.rest_ne_nil, by rw [emits]; rfl, ?_, ?_⟩
  · rw [inside.text shape, shape]
    rfl
  · rw [emits]
    exact State.docClosed_mode inside.coherent inside.mode

theorem InsideComment.reads {source : Text} {start stop : Nat}
    (inside : scanner.InsideComment body) (onRange : scanner.OnRange source start stop) :
    ∃ symbols last there, scanner.Reads (symbols ++ [last]) there ∧
      Tiles source scanner.cursor.offset (scanner.cursor.offset + byteSize body) symbols ∧
      (∀ symbol ∈ symbols, symbol.kind.isDocBody = true) ∧
      last.Covers .docEnd (scanner.cursor.offset + byteSize body)
        (scanner.cursor.offset + byteSize body + 2) ∧
      there.state.mode = .templateText :=
  @reads_enclosed source start stop InsideComment (fun kind => kind.isDocBody = true) .docEnd
    "*/".toList (fun state => state.mode = .templateText)
    (fun still unread => still.advance unread) (fun reached => reached.closes) body scanner onRange
    inside

end InsideComment

/-- The scanner is in front of a `/*` that it reads as template text. -/
structure MeetsComment (scanner : Scanner) (offset : Nat) : Prop where
  mode : scanner.settled.mode = .templateText
  meets : scanner.Meets "/*".toList offset

/-- A `/**` that is not an empty block comment. -/
def MeetsDoc (scanner : Scanner) (offset : Nat) : Prop :=
  scanner.Meets "/**".toList offset ∧ ¬scanner.Meets "/**/".toList offset

/-- The delimiters of a doc comment at two offsets, and parts of its body between them. -/
def SpellDoc (opening closing : Nat) (symbols : List Symbol) : Prop :=
  ∃ first inside last, symbols = first :: (inside ++ [last]) ∧
    first.Covers .docBegin opening (opening + 3) ∧
    (∀ symbol ∈ inside, symbol.kind.isDocBody = true) ∧
    last.Covers .docEnd closing (closing + 2)

/-- The next symbols are those of a comment that ends with the delimiter at an offset. -/
def ReadsToDelimiter (scanner : Scanner) (source : Text) (opening closing : Nat) : Prop :=
  ∃ symbols there, scanner.Reads symbols there ∧ Tiles source opening (closing + 2) symbols ∧
    there.state.mode = .templateText ∧
    (scanner.MeetsDoc opening → SpellDoc opening closing symbols) ∧
    (¬scanner.MeetsDoc opening → ∃ symbol, symbols = [symbol] ∧ symbol.kind = .comment)

section Comments

variable {source tail : Text} {start stop opening : Nat} {scanner : Scanner}

theorem MeetsComment.rest (meets : scanner.MeetsComment opening) :
    ∃ tail, scanner.rest = '/' :: '*' :: tail := by
  obtain ⟨tail, split⟩ := meets.meets.text
  exact ⟨tail, split.symm⟩

theorem MeetsComment.slice? (meets : scanner.MeetsComment opening)
    (onRange : scanner.OnRange source start stop) (shape : scanner.rest = '/' :: '*' :: tail) :
    source.slice? (opening + 2) stop = some tail := by
  have whole : scanner.rest = "/*".toList ++ tail := shape
  exact meets.meets.slice? onRange whole

theorem MeetsComment.advance (meets : scanner.MeetsComment opening)
    (shape : scanner.rest = '/' :: '*' :: tail) :
    scanner.advance = scanner.take
      (if tail.head? = some '*' then scanner.settled.openDoc (scanner.viewOf '/' ('*' :: tail))
        else scanner.settled.blockComment (scanner.viewOf '/' ('*' :: tail))) := by
  apply advance_of_settled shape
  simp only [State.move, meets.mode]
  rw [State.scanTemplateText_of_comment _ rfl]

theorem MeetsComment.meetsDoc_iff (meets : scanner.MeetsComment opening)
    (shape : scanner.rest = '/' :: '*' :: tail) :
    scanner.MeetsDoc opening ↔ ∃ inner, tail = '*' :: inner ∧ inner.head? ≠ some '/' := by
  constructor
  · intro meetsDoc
    obtain ⟨inner, split⟩ := meetsDoc.1.text
    rw [shape] at split
    have behind : '*' :: inner = tail := (List.cons.inj (List.cons.inj split).2).2
    refine ⟨inner, behind.symm, fun slash => meetsDoc.2 ⟨meets.meets.offset, ?_⟩⟩
    obtain ⟨after, rfl⟩ := List.head?_eq_some_iff.mp slash
    rw [shape, ← behind]
    exact ⟨after, rfl⟩
  · rintro ⟨inner, rfl, notSlash⟩
    refine ⟨⟨meets.meets.offset, ?_⟩, fun block => notSlash ?_⟩
    · rw [shape]
      exact ⟨inner, rfl⟩
    · obtain ⟨after, split⟩ := block.text
      rw [shape] at split
      obtain rfl : '/' :: after = inner := (@List.append_cancel_left _ "/**".toList _ _ split)
      rfl

theorem MeetsComment.advance_block {body : Text} (meets : scanner.MeetsComment opening)
    (shape : scanner.rest = '/' :: '*' :: tail) (notDoc : ¬scanner.MeetsDoc opening)
    (found : before? "*/".toList tail = some body) :
    scanner.advance = scanner.take
      { kind := .comment, width := body.length + 4, state := scanner.settled } := by
  rw [meets.advance shape]
  split
  · next star =>
    obtain ⟨inner, rfl⟩ := List.head?_eq_some_iff.mp star
    have slash : inner.head? = some '/' := by
      apply Classical.byContradiction
      intro notSlash
      exact notDoc ((meets.meetsDoc_iff shape).mpr ⟨inner, rfl, notSlash⟩)
    obtain ⟨after, rfl⟩ := List.head?_eq_some_iff.mp slash
    obtain rfl : [] = body := Option.some.inj found
    rfl
  · have search :
        before? "*/".toList ((scanner.viewOf '/' ('*' :: tail)).rest.drop 2) = some body := found
    simp only [State.blockComment, search]

theorem MeetsComment.advance_doc {inner body : Text} (meets : scanner.MeetsComment opening)
    (shape : scanner.rest = '/' :: '*' :: '*' :: inner) (notSlash : inner.head? ≠ some '/')
    (found : before? "*/".toList inner = some body) :
    scanner.advance = scanner.take
      { kind := .docBegin
        width := 3
        state := { scanner.settled.push .docComment with
          doc := scanner.settled.doc.reset, docActive := true } } := by
  have search : ¬(before? "*/".toList inner).isNone = true := by
    rw [found]
    exact Bool.false_ne_true
  rw [meets.advance shape, if_pos (by rfl), State.openDoc, if_neg (by exact notSlash),
    if_neg (by exact search)]

theorem MeetsComment.advance_open (meets : scanner.MeetsComment opening)
    (shape : scanner.rest = '/' :: '*' :: tail) (missing : before? "*/".toList tail = none) :
    scanner.advance = scanner.take
      { kind := .unterminatedComment, width := scanner.rest.length, state := scanner.settled } := by
  rw [meets.advance shape, shape]
  split
  · next star =>
    obtain ⟨inner, rfl⟩ := List.head?_eq_some_iff.mp star
    have notSlash : inner.head? ≠ some '/' := by
      intro slash
      obtain ⟨after, rfl⟩ := List.head?_eq_some_iff.mp slash
      cases missing
    rw [before?_cons_of_notClosing fun closes => notSlash closes.2] at missing
    have search := Option.isNone_iff_eq_none.mpr (Option.map_eq_none_iff.mp missing)
    rw [State.openDoc, if_neg (by exact notSlash), if_pos (by exact search)]
    rfl
  · have search : before? "*/".toList ((scanner.viewOf '/' ('*' :: tail)).rest.drop 2) = none :=
      missing
    simp only [State.blockComment, search]
    rfl

theorem MeetsComment.reads_doc {inner body : Text} (meets : scanner.MeetsComment opening)
    (onRange : scanner.OnRange source start stop) (coherent : scanner.state.IsCoherent)
    (shape : scanner.rest = '/' :: '*' :: '*' :: inner)
    (notSlash : inner.head? ≠ some '/') (found : before? "*/".toList inner = some body) :
    ∃ symbols there, scanner.Reads symbols there ∧
      there.cursor.offset = opening + 3 + byteSize body + 2 ∧
      there.state.mode = .templateText ∧
      SpellDoc opening (opening + 3 + byteSize body) symbols := by
  have opens := meets.advance_doc shape notSlash found
  have more : scanner.rest ≠ [] := by simp [shape]
  have begins : scanner.advance.1.kind = .docBegin := by rw [opens]; rfl
  have text : scanner.advance.1.text = "/**".toList := by
    rw [opens]
    simp only [take, shape]
    rfl
  have inside : scanner.advance.2.InsideComment body := by
    refine ⟨by rw [opens]; rfl, isCoherent_advance coherent, ?_⟩
    rw [opens]
    simp only [take, shape]
    exact found
  have covers := covers_advance more begins text
  have offset := scanner.advance_cursor_offset
  rw [text, meets.meets.offset] at offset
  rw [meets.meets.offset] at covers
  obtain ⟨symbols, last, there, reads, -, allowed, closes, mode⟩ := inside.reads onRange.advance
  rw [offset] at closes
  exact ⟨_, there, .next more reads, reads.offset_eq_stop.trans closes.stop, mode, _, symbols, last,
    rfl, covers, allowed, closes⟩

theorem MeetsComment.readsToDelimiter {closing : Nat} (meets : scanner.MeetsComment opening)
    (onRange : scanner.OnRange source start stop) (coherent : scanner.state.IsCoherent)
    (first : IsLeast {offset | opening + 2 ≤ offset ∧ OccursAt source stop "*/".toList offset}
      closing) : scanner.ReadsToDelimiter source opening closing := by
  obtain ⟨tail, shape⟩ := meets.rest
  have cut := meets.slice? onRange shape
  cases found : before? "*/".toList tail with
  | none => exact absurd first.1.2 (not_occursAt_of_before? cut found first.1.1)
  | some body =>
    obtain rfl := first.unique (isLeast_of_before? cut found)
    by_cases isDoc : scanner.MeetsDoc opening
    · obtain ⟨inner, rfl, notSlash⟩ := (meets.meetsDoc_iff shape).mp isDoc
      rw [before?_cons_of_notClosing fun closes => notSlash closes.2] at found
      obtain ⟨body, search, rfl⟩ := Option.map_eq_some_iff.mp found
      obtain ⟨symbols, there, reads, ended, mode, spells⟩ :=
        meets.reads_doc onRange coherent shape notSlash search
      have tiles := reads.tiles onRange
      have size : opening + 2 + byteSize ('*' :: body) = opening + 3 + byteSize body := by
        change opening + 2 + (1 + byteSize body) = _
        omega
      rw [meets.meets.offset, ended] at tiles
      rw [size]
      exact ⟨symbols, there, reads, tiles, mode, fun _ => spells, fun notDoc => absurd isDoc notDoc⟩
    · have more : scanner.rest ≠ [] := by simp [shape]
      have reads := meets.advance_block shape isDoc found
      obtain ⟨after, rfl⟩ := before?_eq_some found
      have whole : scanner.rest = "/*".toList ++ (body ++ "*/".toList) ++ after := shape
      have text : scanner.advance.1.text = "/*".toList ++ (body ++ "*/".toList) := by
        rw [reads]
        simp only [take, whole]
        exact List.take_left' (by simp)
      have size : byteSize ("/*".toList ++ (body ++ "*/".toList)) = 2 + byteSize body + 2 := by
        rw [byteSize_append, byteSize_append, ← Nat.add_assoc]
        rfl
      have tiles := (reads_one more).tiles onRange
      rw [advance_cursor_offset, text, size, meets.meets.offset, ← Nat.add_assoc, ← Nat.add_assoc]
        at tiles
      refine ⟨_, _, reads_one more, tiles, ?_, fun doc => absurd doc isDoc, fun _ => ⟨_, rfl, ?_⟩⟩
      · rw [reads]
        exact meets.mode
      · rw [reads]
        rfl

theorem MeetsComment.givesUpRange (meets : scanner.MeetsComment opening)
    (onRange : scanner.OnRange source start stop)
    (unclosed : ∀ offset, opening + 2 ≤ offset → ¬OccursAt source stop "*/".toList offset) :
    ∃ symbol there, scanner.Reads [symbol] there ∧
      symbol.Covers .unterminatedComment opening stop := by
  obtain ⟨tail, shape⟩ := meets.rest
  have cut := meets.slice? onRange shape
  have missing : before? "*/".toList tail = none := by
    cases found : before? "*/".toList tail with
    | none => rfl
    | some body =>
      have least := (isLeast_of_before? cut found).1
      exact absurd least.2 (unclosed _ least.1)
  have more : scanner.rest ≠ [] := by simp [shape]
  have gives := meets.advance_open shape missing
  have kind : scanner.advance.1.kind = .unterminatedComment := by rw [gives]; rfl
  have text : scanner.advance.1.text = scanner.rest := by
    rw [gives]
    exact List.take_length
  have covers := covers_advance more kind text
  obtain ⟨consumed, held⟩ := onRange.consumed
  rw [held.stop, onRange.stop, meets.meets.offset] at covers
  exact ⟨_, _, reads_one more, covers⟩

end Comments

end Scanner

/-- All readers of comments agree where a comment ends. A `/*` that is met in template text, at any
moment of any scan, starts a comment up to the first delimiter behind it; if there is none, the rest
of the range is one token. -/
theorem comments_end_at_first_delimiter {source : Text} {start stop : Nat} (mode : Mode)
    (ordered : start ≤ stop) (startBoundary : source.isBoundary start = true)
    (stopBoundary : source.isBoundary stop = true) :
    ∃ scanner, Scanner.bind source start stop mode = .ok scanner ∧
      ∀ n opening, (behind Scanner.advance scanner n).MeetsComment opening →
        (∀ closing, IsLeast {offset | opening + 2 ≤ offset ∧
            OccursAt source stop "*/".toList offset} closing →
          (behind Scanner.advance scanner n).ReadsToDelimiter source opening closing) ∧
        ((∀ offset, opening + 2 ≤ offset → ¬OccursAt source stop "*/".toList offset) →
          ∃ symbol there, (behind Scanner.advance scanner n).Reads [symbol] there ∧
            symbol.Covers .unterminatedComment opening stop) := by
  obtain ⟨scanner, accepted⟩ := Scanner.exists_bind mode ordered startBoundary stopBoundary
  refine ⟨scanner, accepted, ?_⟩
  intro n opening meets
  have onRange := (Scanner.onRange_of_bind accepted).behind n
  have coherent := Scanner.isCoherent_behind accepted n
  exact ⟨fun closing first => meets.readsToDelimiter onRange coherent first,
    meets.givesUpRange onRange⟩

/-- The shortest doc comment: a star that is followed by no slash opens it, and another one ends it
together with the slash. -/
theorem comments_end_at_first_delimiter_stars :
    ∃ scanner, Scanner.bind "/***/".toList 0 5 .templateText = .ok scanner ∧
      scanner.MeetsDoc 0 ∧ scanner.ReadsToDelimiter "/***/".toList 0 3 := by
  obtain ⟨scanner, accepted, comments⟩ :=
    @comments_end_at_first_delimiter "/***/".toList 0 5 .templateText (by decide) (by decide)
      (by decide)
  refine ⟨scanner, accepted, ?_⟩
  obtain ⟨-, rfl⟩ := Scanner.bind_eq_ok_iff.mp accepted
  have meets : (Scanner.ofRange "/***/".toList 0 5 .templateText).MeetsComment 0 :=
    ⟨rfl, rfl, by decide⟩
  have first := @isLeast_of_before? "/***/".toList _ _ "*/".toList 2 5 rfl rfl
  refine ⟨⟨⟨rfl, by decide⟩, fun block => ?_⟩, (comments 0 0 meets).1 3 first⟩
  exact absurd block.text (by decide)

end Scan

end ClosureTemplate
