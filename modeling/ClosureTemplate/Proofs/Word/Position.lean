import ClosureTemplate.Proofs.Scan.Comment
import ClosureTemplate.Proofs.Scan.Spelling
import ClosureTemplate.Proofs.Text.Occurrence
import ClosureTemplate.Proofs.Word.Refinement
import Mathlib.Data.List.DropRight

/-!
Where tokens stand. A cursor that has passed a text is on the line that the newlines in it count and
in the column that the characters behind the last of them count (`advance_line`, `advance_column`).
Every token stands where the cursor was, and what a token shows as its end is where the next one
stands. Words are placed by the columns of their token alone, which is right because a token that is
cut into words never holds a newline (`emission_onOneLine`).
-/

namespace ClosureTemplate

namespace Point

theorem advance_concat (point : Point) (text : Text) (c : Char) :
    point.advance (text ++ [c]) = (point.advance text).advanceChar c := by
  rw [advance_append]
  rfl

theorem advance_line (point : Point) (text : Text) :
    (point.advance text).line = point.line + text.count '\n' := by
  induction text using List.reverseRecOn with
  | nil => rfl
  | append_singleton text c ih =>
    rw [advance_concat, advanceChar, List.count_append, ← Nat.add_assoc, ← ih]
    split
    · next newline => rw [newline, List.count_singleton_self]
    · next other => simp [other]

theorem advance_column (offset : Nat) (text : Text) :
    ((startOf offset).advance text).column = 1 + (text.rtakeWhile (· != '\n')).length := by
  induction text using List.reverseRecOn with
  | nil => rfl
  | append_singleton text c ih =>
    rw [advance_concat, advanceChar, List.rtakeWhile_concat]
    split
    · next newline => simp [newline]
    · next other => simp [other, ih, Nat.add_assoc]

theorem one_le_column {point : Point} (inside : 1 ≤ point.column) (text : Text) :
    1 ≤ (point.advance text).column := by
  induction text using List.reverseRecOn with
  | nil => exact inside
  | append_singleton text c ih =>
    rw [advance_concat, advanceChar]
    split
    · exact Nat.le_refl 1
    · exact Nat.le_succ_of_le ih

theorem advance_of_line (point : Point) {text : Text} (oneLine : '\n' ∉ text) :
    point.advance text =
      ⟨point.line, point.column + text.length, point.offset + text.byteSize⟩ := by
  induction text generalizing point with
  | nil => rfl
  | cons c cs ih =>
    rw [List.mem_cons, not_or] at oneLine
    have step : point.advanceChar c = ⟨point.line, point.column + 1, point.offset + c.utf8Size⟩ :=
      if_neg (Ne.symm oneLine.1)
    change (point.advanceChar c).advance cs = _
    rw [step, ih _ oneLine.2, Text.byteSize_cons, List.length_cons, Nat.add_assoc, Nat.add_assoc,
      Nat.add_comm 1]

end Point

namespace Symbol

def point (symbol : Symbol) : Point := ⟨symbol.line, symbol.column, symbol.start⟩

/-- The line counts the newlines between the start of the range and the token, and the column the
characters behind the last of them. -/
def IsPlaced (source : Text) (start : Nat) (symbol : Symbol) : Prop :=
  ∃ before, source.slice? start symbol.start = some before ∧
    symbol.line = 1 + before.count '\n' ∧
    symbol.column = 1 + (before.rtakeWhile (· != '\n')).length

theorem isPlaced_iff {source : Text} {start : Nat} {symbol : Symbol} :
    symbol.IsPlaced source start ↔ ∃ before, source.slice? start symbol.start = some before ∧
      symbol.point = (Point.startOf start).advance before := by
  apply exists_congr
  intro before
  apply and_congr_right
  intro cut
  obtain ⟨-, -, -, -, size⟩ := Text.slice?_eq_some_iff.mp cut
  have line : ((Point.startOf start).advance before).line = 1 + before.count '\n' :=
    Point.advance_line ..
  have column := Point.advance_column start before
  have offset : ((Point.startOf start).advance before).offset = symbol.start :=
    (Point.advance_offset ..).trans size
  rw [← line, ← column]
  constructor
  · intro ⟨sameLine, sameColumn⟩
    rw [point, sameLine, sameColumn, ← offset]
  · intro same
    rw [← same]
    exact ⟨rfl, rfl⟩

/-- A character that moves a screen as it moves a cursor. -/
def IsSteady (c : Char) : Prop := c ≠ '\t' ∧ c ≠ '\r' ∧ c ≠ '\x08'

theorem screenStep_eq {point : Point} {c : Char} (inside : 1 ≤ point.column) (steady : IsSteady c) :
    screenStep (point.line, point.column - 1) c =
      ((point.advanceChar c).line, (point.advanceChar c).column - 1) := by
  obtain ⟨noTab, noReturn, noBackspace⟩ := steady
  unfold Point.advanceChar
  by_cases newline : c = '\n'
  · simp [screenStep, newline]
  · simp only [screenStep, newline, noTab, noReturn, noBackspace, if_false]
    rw [Nat.sub_add_cancel inside, Nat.add_sub_cancel]

theorem foldl_screenStep {point : Point} {text : Text} (inside : 1 ≤ point.column)
    (steady : ∀ c ∈ text, IsSteady c) :
    text.foldl screenStep (point.line, point.column - 1) =
      ((point.advance text).line, (point.advance text).column - 1) := by
  induction text generalizing point with
  | nil => rfl
  | cons c cs ih =>
    rw [List.foldl_cons, screenStep_eq inside (steady c List.mem_cons_self)]
    apply ih (Point.one_le_column inside [c])
    intro d member
    exact steady d (List.mem_cons_of_mem c member)

theorem locationEnd_eq {symbol : Symbol} (inside : 1 ≤ symbol.column)
    (steady : ∀ c ∈ symbol.text, IsSteady c) :
    symbol.locationEnd = ((symbol.point.advance symbol.text).line,
      (symbol.point.advance symbol.text).column) := by
  have screen := foldl_screenStep (show 1 ≤ symbol.point.column from inside) steady
  have behind : 1 ≤ (symbol.point.advance symbol.text).column := Point.one_le_column inside _
  simp only [locationEnd]
  rw [show (symbol.line, symbol.column - 1) = (symbol.point.line, symbol.point.column - 1) from rfl,
    screen, Nat.sub_add_cancel behind]

end Symbol

namespace Text

def isNamePart (c : Char) : Bool := isNameChar c || c == '.' || c == '$'

theorem newline_notMem {text : Text} (named : ∀ c ∈ text, isNamePart c = true) : '\n' ∉ text := by
  intro member
  cases named '\n' member

theorem isNamePart_identifier (text : Text) :
    ∀ c ∈ text.take (identifierLength text), isNamePart c = true := by
  intro c member
  rw [isNamePart, all_take_identifierLength text c member]
  rfl

theorem isNamePart_segments (text : Text) :
    ∀ c ∈ text.take (segmentsLength text), isNamePart c = true := by
  fun_induction segmentsLength text with
  | case1 => simp
  | case2 cs width present ih =>
    rw [Nat.add_assoc, Nat.add_comm, List.take_succ_cons, List.take_add]
    intro c member
    rcases List.mem_cons.mp member with rfl | later
    · rfl
    · rcases List.mem_append.mp later with first | further
      · exact isNamePart_identifier cs c first
      · exact ih c further
  | case3 => simp

theorem isNamePart_dotted (text : Text) :
    ∀ c ∈ text.take (dottedLength text), isNamePart c = true := by
  unfold dottedLength
  dsimp only
  split
  · simp
  · rw [List.take_add]
    intro c member
    rcases List.mem_append.mp member with first | further
    · exact isNamePart_identifier text c first
    · exact isNamePart_segments _ c further

end Text

namespace Scan

open Text (isNamePart isNamePart_identifier isNamePart_dotted)

theorem isNamePart_cons {mark : Char} {cs : Text} {width : Nat} (isMark : isNamePart mark = true)
    (named : ∀ c ∈ cs.take width, isNamePart c = true) :
    ∀ c ∈ (mark :: cs).take (1 + width), isNamePart c = true := by
  rw [Nat.add_comm, List.take_succ_cons]
  intro c member
  rcases List.mem_cons.mp member with rfl | later
  · exact isMark
  · exact named c later

theorem variableLexeme?_isNamePart {lexeme : Type} {found result : lexeme} {cs : Text}
    {width : Nat} (matched : variableLexeme? found cs = some (result, width)) :
    ∀ c ∈ ('$' :: cs).take width, isNamePart c = true := by
  unfold variableLexeme? at matched
  split at matched
  · cases matched
  · cases matched
    exact isNamePart_cons rfl (isNamePart_identifier cs)

theorem nameLexeme?_isNamePart {c : Char} {cs : Text} {lexeme : NameLexeme} {width : Nat}
    (matched : nameLexeme? c cs = some (lexeme, width)) (name : lexeme ≠ .blank) :
    ∀ d ∈ (c :: cs).take width, isNamePart d = true := by
  unfold nameLexeme? at matched
  split at matched
  · cases matched
    exact absurd rfl name
  · split at matched
    · next dollar =>
      rw [dollar]
      exact variableLexeme?_isNamePart matched
    · split at matched
      · next dot =>
        split at matched
        · cases matched
        · cases matched
          rw [dot]
          exact isNamePart_cons rfl (isNamePart_dotted cs)
      · split at matched
        · cases matched
        · cases matched
          exact isNamePart_dotted (c :: cs)

theorem numberLexeme_ne_variable (c : Char) (cs : Text) : (numberLexeme c cs).1 ≠ .variable := by
  unfold numberLexeme
  split
  · nofun
  · dsimp only
    split <;> nofun

theorem punctuation?_ne_variable {c : Char} {cs : Text} {lexeme : TagLexeme} {width : Nat}
    (matched : punctuation? c cs = some (lexeme, width)) : lexeme ≠ .variable := by
  unfold punctuation? at matched
  split at matched <;> cases matched <;> nofun

theorem tagLexeme?_isNamePart {c : Char} {cs : Text} {width : Nat}
    (matched : tagLexeme? c cs = some (.variable, width)) :
    ∀ d ∈ (c :: cs).take width, isNamePart d = true := by
  unfold tagLexeme? at matched
  split at matched
  · cases matched
  split at matched
  · cases matched
  split at matched
  · have number := numberLexeme_ne_variable c cs
    rw [Option.some.inj matched] at number
    exact absurd rfl number
  split at matched
  · next dollar =>
    rw [dollar]
    exact variableLexeme?_isNamePart matched
  · exact absurd rfl (punctuation?_ne_variable matched)

namespace State

/-- If the token is cut into words, it stands on one line. -/
def OnOneLine (view : View) (emission : Emission) : Prop :=
  emission.kind.isFragmentable = true → '\n' ∉ view.rest.take emission.width

variable {state : State} (view : View)

theorem onOneLine_of_uncut {emission : Emission} (uncut : emission.kind.isFragmentable = false) :
    OnOneLine view emission := by
  intro fragmentable
  rw [uncut] at fragmentable
  cases fragmentable

theorem kept_uncut {kind : Kind} (kept : kind ∈ Mode.keptKinds .expression) :
    kind.isFragmentable = false := by
  revert kind
  decide

theorem expressionWord_uncut (width : Nat) :
    (state.expressionWord view width).kind.isFragmentable = false := by
  unfold expressionWord
  dsimp only
  split
  · rfl
  · next known => exact kept_uncut (keyword?_kept known)
  · dsimp only
    split <;> rfl

theorem integerLiteral_uncut (radix : Nat) (digits : Text) (width : Nat) :
    (state.integerLiteral radix digits width).kind.isFragmentable = false := by
  unfold integerLiteral
  split <;> rfl

theorem openString_uncut (terminator : Char) (inAttribute : Bool) :
    (state.openString view terminator inAttribute).kind.isFragmentable = false := by
  unfold openString
  split <;> rfl

theorem closeBrace_uncut (isSelfClosing : Bool) :
    (state.closeBrace view isSelfClosing).kind.isFragmentable = false := by
  unfold closeBrace
  cases isSelfClosing <;> dsimp only <;> (repeat' split) <;> rfl

theorem scanExpression_onOneLine : OnOneLine view (state.scanExpression view) := by
  unfold scanExpression
  split
  · exact onOneLine_of_uncut view rfl
  · exact onOneLine_of_uncut view (expressionWord_uncut view _)
  · next matched => exact fun _ => Text.newline_notMem (tagLexeme?_isNamePart matched)
  · exact onOneLine_of_uncut view (integerLiteral_uncut _ _ _)
  · exact onOneLine_of_uncut view (integerLiteral_uncut _ _ _)
  · exact onOneLine_of_uncut view rfl
  · next matched => exact onOneLine_of_uncut view (kept_uncut (tagLexeme?_operator matched))
  · exact onOneLine_of_uncut view (by dsimp only; split <;> rfl)
  · exact onOneLine_of_uncut view (by dsimp only; split <;> rfl)
  · exact onOneLine_of_uncut view rfl
  · exact onOneLine_of_uncut view (openString_uncut view _ _)
  · exact onOneLine_of_uncut view (by split <;> rfl)
  · exact onOneLine_of_uncut view (closeBrace_uncut view _)
  · exact onOneLine_of_uncut view (closeBrace_uncut view _)
  · exact onOneLine_of_uncut view rfl

theorem scanName_onOneLine {emission : Emission} (emits : state.scanName view = .emit emission) :
    OnOneLine view emission := by
  unfold scanName at emits
  split at emits
  · cases emits
    exact onOneLine_of_uncut view rfl
  · next lexeme width notBlank matched =>
    split at emits
    · cases emits
      intro _
      exact Text.newline_notMem (nameLexeme?_isNamePart matched notBlank)
    · cases emits
  · cases emits

theorem stringEscape_uncut : (state.stringEscape view).kind.isFragmentable = false := by
  unfold stringEscape
  (repeat' split) <;> rfl

theorem scanString_onOneLine : OnOneLine view (state.scanString view) := by
  unfold scanString
  split
  · exact onOneLine_of_uncut view (by split <;> rfl)
  · next matched =>
    intro _ newline
    rcases stringLexeme?_cases matched with ⟨quote, -⟩ | ⟨escape, -⟩ | ⟨-, parts⟩
    · cases quote
    · cases escape
    · cases parts _ newline
  · exact onOneLine_of_uncut view (stringEscape_uncut view)
  · exact onOneLine_of_uncut view rfl
  · exact onOneLine_of_uncut view rfl

theorem uncut_of_mode {mode : Mode}
    (other : mode ≠ .expression ∧ mode ≠ .name ∧ mode ≠ .stringLiteral) :
    ∀ kind ∈ mode.kinds, kind.isFragmentable = false := by
  revert other
  cases mode <;> decide

theorem move_onOneLine {emission : Emission} (emits : state.move view = .emit emission) :
    OnOneLine view emission := by
  by_cases other : state.mode ≠ .expression ∧ state.mode ≠ .name ∧ state.mode ≠ .stringLiteral
  · have listed := (steps_of_emits view emits).kind_mem
    exact onOneLine_of_uncut view (uncut_of_mode other _ listed)
  · unfold move at emits
    split at emits
    case h_3 =>
      cases emits
      exact scanExpression_onOneLine view
    case h_4 => exact scanName_onOneLine view emits
    case h_7 =>
      cases emits
      exact scanString_onOneLine view
    all_goals
      next mode => simp [mode] at other

theorem emission_onOneLine (state : State) : OnOneLine view (state.emission view) := by
  obtain ⟨settled, -, emits⟩ := state.emission_settled view
  exact move_onOneLine view emits

end State

namespace Scanner

theorem rest_ne_nil_of_fragmentable {scanner : Scanner}
    (fragmentable : scanner.advance.1.kind.isFragmentable = true) : scanner.rest ≠ [] := by
  intro ended
  rw [advance_kind.mpr ended] at fragmentable
  cases fragmentable

theorem advance_onOneLine {scanner : Scanner}
    (fragmentable : scanner.advance.1.kind.isFragmentable = true) :
    '\n' ∉ scanner.advance.1.text := by
  obtain ⟨head, tail, shape⟩ :=
    List.exists_cons_of_ne_nil (rest_ne_nil_of_fragmentable fragmentable)
  rw [advance_of_rest shape] at fragmentable ⊢
  have oneLine := scanner.state.emission_onOneLine (scanner.viewOf head tail) fragmentable
  change '\n' ∉ scanner.rest.take _
  rw [shape]
  exact oneLine

theorem advance_point {scanner : Scanner} {consumed : Text} (held : scanner.Consumed consumed) :
    scanner.advance.1.point = scanner.cursor := by
  cases shape : scanner.rest with
  | nil =>
    have reached := held.stop
    rw [shape, Text.byteSize_nil, Nat.add_zero] at reached
    rw [advance_at_end scanner shape]
    simp only [Symbol.point, eof, ← reached]
  | cons head tail =>
    rw [advance_of_rest shape]
    rfl

theorem OnRange.isPlaced {source : Text} {start stop : Nat} {scanner : Scanner}
    (onRange : scanner.OnRange source start stop) :
    scanner.advance.1.IsPlaced source start := by
  obtain ⟨rfl, rfl, -, consumed, held⟩ := onRange
  have point := advance_point held
  have offset : scanner.advance.1.start = scanner.cursor.offset := congrArg Point.offset point
  refine Symbol.isPlaced_iff.mpr ⟨consumed, ?_, point.trans held.cursor⟩
  rw [offset, held.offset]
  exact Text.slice?_front held.range

/-- What a token shows as its end is where the next one stands. -/
theorem OnRange.locationEnd {source : Text} {start stop : Nat} {scanner : Scanner}
    (onRange : scanner.OnRange source start stop)
    (steady : ∀ c ∈ scanner.advance.1.text, Symbol.IsSteady c) :
    scanner.advance.1.locationEnd =
      (scanner.advance.2.advance.1.line, scanner.advance.2.advance.1.column) := by
  obtain ⟨-, -, -, consumed, held⟩ := onRange
  have point := advance_point held
  have next : scanner.advance.2.advance.1.point =
      scanner.advance.1.point.advance scanner.advance.1.text := calc
    _ = scanner.advance.2.cursor := advance_point (consumed_advance held)
    _ = (Point.startOf scanner.start).advance (consumed ++ scanner.advance.1.text) := by
      rw [(consumed_advance held).cursor, advance_start]
    _ = scanner.advance.1.point.advance scanner.advance.1.text := by
      rw [Point.advance_append, ← held.cursor, point]
  have inside : 1 ≤ scanner.advance.1.point.column := by
    rw [point, held.cursor]
    exact Point.one_le_column (Nat.le_refl 1) consumed
  rw [Symbol.locationEnd_eq inside steady, ← next]
  rfl

end Scanner

end Scan

namespace Word

open Scan (Scanner Mode)

theorem piece_point {parent : Symbol} {before piece after : Text} (kind : Kind)
    (shape : parent.text = before ++ piece ++ after) (oneLine : '\n' ∉ parent.text) :
    ((⟨kind, before.byteSize, before.byteSize + piece.byteSize⟩ : Fragment).symbol parent).point =
      parent.point.advance before := by
  have lead : parent.text.slice? 0 before.byteSize = some before := by
    refine Text.slice?_eq_some_iff.mpr ⟨[], piece ++ after, ?_, rfl, Nat.zero_add _⟩
    rw [shape, List.nil_append, List.append_assoc]
  have leadLine : '\n' ∉ before := by
    intro newline
    rw [shape, List.append_assoc] at oneLine
    exact oneLine (List.mem_append_left _ newline)
  rw [Point.advance_of_line _ leadLine]
  simp only [Symbol.point, Fragment.symbol]
  rw [lead]
  rfl

theorem isPlaced_of_mem_split {source : Text} {start : Nat} {symbol : Symbol} {fragment : Fragment}
    (placed : symbol.IsPlaced source start) (piece : symbol.IsPieceOf source)
    (oneLine : '\n' ∉ symbol.text) (listed : fragment ∈ split symbol.text symbol.kind) :
    (fragment.symbol symbol).IsPlaced source start := by
  obtain ⟨lead, part, after, shape, rfl⟩ := exists_piece_of_mem_split listed
  obtain ⟨front, cut, point⟩ := Symbol.isPlaced_iff.mp placed
  have upto : source.slice? symbol.start (symbol.start + lead.byteSize) = some lead := by
    have text := piece.text
    rw [shape, List.append_assoc] at text
    exact Text.slice?_front text
  refine Symbol.isPlaced_iff.mpr ⟨front ++ lead, Text.slice?_append cut upto, ?_⟩
  rw [piece_point _ shape oneLine, point, Point.advance_append]

theorem isPlaced_of_mem_wordsOf {source : Text} {start stop : Nat} {scanner : Scanner}
    {word : Symbol} (onRange : scanner.OnRange source start stop)
    (member : word ∈ wordsOf scanner.advance.1) : word.IsPlaced source start := by
  unfold wordsOf at member
  split at member
  · next fragmentable =>
    obtain ⟨fragment, listed, rfl⟩ := List.mem_map.mp member
    have more := Scanner.rest_ne_nil_of_fragmentable fragmentable
    have piece : scanner.advance.1.IsPieceOf source := by
      obtain ⟨rfl, -, -, consumed, held⟩ := onRange
      exact Scanner.advance_isPieceOf held more
    exact isPlaced_of_mem_split onRange.isPlaced piece (Scanner.advance_onOneLine fragmentable)
      listed
  · rw [List.mem_singleton.mp member]
    exact onRange.isPlaced

theorem exists_token (scanner : Scanner) (n : Nat) :
    ∃ k, nth Lexer.advance { scanner } n ∈ wordsOf (nth Scanner.advance scanner k) := by
  have coherent : ({ scanner : Lexer }).IsCoherent := .inl rfl
  have tokens := scanner.yields_drain
  have words := Lexer.yields_drain coherent
  rw [Lexer.drain_eq_words coherent, Lexer.drain_scanner coherent] at words
  rcases Nat.lt_or_ge n (scanner.drain.1.flatMap wordsOf).length with inside | outside
  · have given : nth Lexer.advance { scanner } n ∈ scanner.drain.1.flatMap wordsOf :=
      List.mem_of_getElem? (words.token n inside)
    obtain ⟨symbol, listed, word⟩ := List.mem_flatMap.mp given
    obtain ⟨k, bound, rfl⟩ := List.mem_iff_getElem.mp listed
    have token := tokens.token k bound
    rw [List.getElem?_eq_getElem bound, Option.some.injEq] at token
    exact ⟨k, token ▸ word⟩
  · have last := tokens.ended _ (Nat.le_refl _)
    refine ⟨scanner.drain.1.length, ?_⟩
    rw [words.ended n outside, last]
    exact List.mem_singleton_self _

/-- In every range, from every mode, the tokens and the words stand where the newlines and the
characters before them say, the end token among them. Without tabs, returns and backspaces in a
token, the place that it shows as its end is the one where the next token stands. -/
theorem tokens_stand_where_counted {source : Text} {start stop : Nat} (mode : Mode)
    (ordered : start ≤ stop) (startBoundary : source.isBoundary start = true)
    (stopBoundary : source.isBoundary stop = true) :
    ∃ scanner lexer, Scanner.bind source start stop mode = .ok scanner ∧
      Lexer.bind source start stop mode = .ok lexer ∧
      (∀ n, (nth Scanner.advance scanner n).IsPlaced source start) ∧
      (∀ n, (nth Lexer.advance lexer n).IsPlaced source start) ∧
      ∀ n, (∀ c ∈ (nth Scanner.advance scanner n).text, c ≠ '\t' ∧ c ≠ '\r' ∧ c ≠ '\x08') →
        (nth Scanner.advance scanner n).locationEnd =
          ((nth Scanner.advance scanner (n + 1)).line,
            (nth Scanner.advance scanner (n + 1)).column) := by
  obtain ⟨scanner, accepted⟩ := Scanner.exists_bind mode ordered startBoundary stopBoundary
  have onRange := Scanner.onRange_of_bind accepted
  refine ⟨scanner, { scanner }, accepted, ?_, ?_, ?_, ?_⟩
  · rw [Lexer.bind, accepted]
    rfl
  · intro n
    exact (onRange.behind n).isPlaced
  · intro n
    obtain ⟨k, member⟩ := exists_token scanner n
    exact isPlaced_of_mem_wordsOf (onRange.behind k) member
  · intro n steady
    exact (onRange.behind n).locationEnd steady

theorem tokens_stand_where_counted_second_line :
    let source := "é\né\x7bcall .a.b /\x7d".toList
    let scanner := Scanner.ofRange source 2 18 .templateText
    (Text.isBoundary source 2 = true ∧ Text.isBoundary source 18 = true) ∧
    ((nth Lexer.advance { scanner } 8).IsPlaced source 2 ∧
      (nth Lexer.advance { scanner } 8).text = ['b'] ∧
      (nth Lexer.advance { scanner } 8).point = ⟨2, 11, 14⟩) ∧
    (nth Scanner.advance scanner 0).text = ['\n'] ∧
      (nth Scanner.advance scanner 0).locationEnd = (2, 1) := by
  intro source scanner
  have startBoundary : Text.isBoundary source 2 = true := by decide
  have stopBoundary : Text.isBoundary source 18 = true := by decide
  obtain ⟨bound, lexer, scanned, lexed, -, words, ends⟩ :=
    tokens_stand_where_counted .templateText (Nat.le_add_left 2 16) startBoundary stopBoundary
  have same : bound = scanner := (Scanner.bind_eq_ok_iff.mp scanned).2
  have alone : lexer = { scanner := bound } := by
    rw [Lexer.bind, scanned] at lexed
    exact (Except.ok.inj lexed).symm
  subst alone same
  have text : (nth Scanner.advance scanner 0).text = ['\n'] := by decide
  have steady : ∀ c ∈ (nth Scanner.advance scanner 0).text, c ≠ '\t' ∧ c ≠ '\r' ∧ c ≠ '\x08' := by
    intro c member
    rw [text] at member
    rw [List.mem_singleton.mp member]
    decide
  have next : ((nth Scanner.advance scanner 1).line, (nth Scanner.advance scanner 1).column) =
      (2, 1) := by decide
  exact ⟨⟨startBoundary, stopBoundary⟩, ⟨words 8, by decide +kernel, by decide +kernel⟩, text,
    (ends 0 steady).trans next⟩

end Word

end ClosureTemplate
