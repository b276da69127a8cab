import ClosureTemplate.Proofs.Scan.Passage
import ClosureTemplate.Proofs.Text.Occurrence

/-!
How far a string reaches. A quote opens a string if the same quote comes again on its line and no
backslash hides it, and the tokens of the string then end at the first such quote; else the rest of
the line is one token. The look ahead counts backslashes in pairs and the tokens are cut by other
rules; both agree on the text that a string goes on behind (`IsPassed`).
-/

namespace ClosureTemplate

namespace Scan

open Text

/-- Whether the next character stands right behind a backslash that is not hidden itself. -/
def hidesNext (text : Text) : Bool := text.foldl (fun hidden c => c == '\\' && !hidden) false

/-- At the offset stands the quote that was read at `opening`, on the same line and not hidden. -/
def ClosesAt (source : Text) (stop : Nat) (quote : Char) (opening offset : Nat) : Prop :=
  ∃ body after, source.slice? (opening + 1) offset = some body ∧
    source.slice? offset stop = some (quote :: after) ∧ '\n' ∉ body ∧ hidesNext body = false

theorem hidesNext_append {front back : Text} (bare : hidesNext front = false) :
    hidesNext (front ++ back) = hidesNext back := by
  unfold hidesNext at bare ⊢
  rw [List.foldl_append, bare]

theorem hidesNext_plain {c : Char} (plain : c ≠ '\\') : hidesNext [c] = false := by
  simp [hidesNext, plain]

theorem hidesNext_escaped (c : Char) : hidesNext ['\\', c] = false := by
  simp [hidesNext]

theorem ne_backslash_of_isQuote {quote : Char} (isQuote : isQuote quote = true) :
    quote ≠ '\\' := by
  rintro rfl
  cases isQuote

theorem byteSize_quote {quote : Char} (isQuote : isQuote quote = true) : byteSize [quote] = 1 := by
  simp only [Scan.isQuote, Bool.or_eq_true, beq_iff_eq] at isQuote
  rcases isQuote with rfl | rfl <;> rfl

namespace State

section IsPassed

variable {quote : Char} {text : Text}

theorem IsPassed.bare (passed : IsPassed quote text) : hidesNext text = false := by
  induction passed with
  | nil => rfl
  | @plain c text innocent _ ih =>
    change hidesNext ([c] ++ text) = false
    rw [hidesNext_append (hidesNext_plain innocent.1), ih]
  | @escaped c text _ _ ih =>
    change hidesNext (['\\', c] ++ text) = false
    rw [hidesNext_append (hidesNext_escaped c), ih]

theorem IsPassed.newline_notMem (passed : IsPassed quote text) : '\n' ∉ text := by
  induction passed with
  | nil => exact List.not_mem_nil
  | plain innocent _ ih =>
    rw [List.mem_cons, not_or]
    exact ⟨innocent.2.1.symm, ih⟩
  | escaped sameLine _ ih =>
    rw [List.mem_cons, List.mem_cons, not_or, not_or]
    exact ⟨by decide, sameLine.symm, ih⟩

theorem IsPassed.head_ne {c : Char} (passed : IsPassed quote (c :: text))
    (isQuote : isQuote quote = true) : c ≠ quote := by
  cases passed with
  | plain innocent => exact innocent.2.2
  | escaped => exact (ne_backslash_of_isQuote isQuote).symm

theorem IsPassed.hides {front back : Text} (passed : IsPassed quote text)
    (isQuote : isQuote quote = true) (split : text = front ++ quote :: back) :
    hidesNext front = true := by
  induction passed generalizing front with
  | nil => simp at split
  | @plain c text innocent _ ih =>
    cases front with
    | nil => exact absurd (List.cons.inj split).1 innocent.2.2
    | cons d front =>
      obtain ⟨rfl, rest⟩ := List.cons.inj split
      change hidesNext ([c] ++ front) = true
      rw [hidesNext_append (hidesNext_plain innocent.1)]
      exact ih rest
  | @escaped c text _ _ ih =>
    match front with
    | [] => exact absurd (List.cons.inj split).1.symm (ne_backslash_of_isQuote isQuote)
    | [d] =>
      obtain ⟨rfl, -⟩ := List.cons.inj split
      rfl
    | d :: e :: front =>
      obtain ⟨rfl, others⟩ := List.cons.inj split
      obtain ⟨rfl, rest⟩ := List.cons.inj others
      change hidesNext (['\\', c] ++ front) = true
      rw [hidesNext_append (hidesNext_escaped c)]
      exact ih rest

theorem IsPassed.prefix_of_bare {body front after back : Text} (passed : IsPassed quote body)
    (isQuote : isQuote quote = true) (bare : hidesNext front = false)
    (split : body ++ quote :: after = front ++ quote :: back) : body <+: front := by
  rcases List.append_eq_append_iff.mp split with ⟨gap, rfl, -⟩ | ⟨gap, longer, cut⟩
  · exact List.prefix_append body gap
  · cases gap with
    | nil =>
      have same : body = front := longer.trans (List.append_nil front)
      exact same ▸ List.prefix_rfl
    | cons c gap =>
      obtain ⟨rfl, -⟩ := List.cons.inj cut
      have hidden := passed.hides isQuote longer
      rw [bare] at hidden
      cases hidden

theorem IsPassed.append {front back : Text} (passed : IsPassed quote front)
    (others : IsPassed quote back) : IsPassed quote (front ++ back) := by
  induction passed with
  | nil => exact others
  | plain innocent _ ih => exact .plain innocent ih
  | escaped sameLine _ ih => exact .escaped sameLine ih

theorem IsPassed.unique {front back after later : Text} (passed : IsPassed quote front)
    (others : IsPassed quote back) (isQuote : isQuote quote = true)
    (split : front ++ quote :: after = back ++ quote :: later) : front = back ∧ after = later := by
  have shorter := passed.prefix_of_bare isQuote others.bare split
  have longer := others.prefix_of_bare isQuote passed.bare split.symm
  have same : front = back :=
    shorter.eq_of_length (Nat.le_antisymm shorter.length_le longer.length_le)
  subst same
  exact ⟨rfl, (List.cons.inj (List.append_cancel_left split)).2⟩

end IsPassed

theorem ne_backslash_of_other {c : Char} {cs : Text} (noLone : c = '\\' → cs = [] → False)
    (noPair : ∀ d ds, c = '\\' → cs = d :: ds → False) : c ≠ '\\' := by
  intro backslash
  cases cs with
  | nil => exact noLone backslash rfl
  | cons d ds => exact noPair d ds backslash rfl

theorem isPassed_of_terminates {quote : Char} {text : Text} (ends : terminates quote text = true) :
    ∃ body after, text = body ++ quote :: after ∧ IsPassed quote body := by
  fun_induction terminates quote text with
  | case1 | case2 | case3 | case5 => cases ends
  | case4 c cs sameLine ih =>
    obtain ⟨body, after, rfl, passed⟩ := ih ends
    exact ⟨'\\' :: c :: body, after, rfl, .escaped sameLine passed⟩
  | case6 cs => exact ⟨[], cs, rfl, .nil⟩
  | case7 c cs noLone noPair sameLine other ih =>
    obtain ⟨body, after, rfl, passed⟩ := ih ends
    have plain := ne_backslash_of_other noLone noPair
    exact ⟨c :: body, after, rfl, .plain ⟨plain, sameLine, other⟩ passed⟩

theorem terminates_of_bare {quote : Char} {text body after : Text}
    (isQuote : isQuote quote = true) (split : text = body ++ quote :: after)
    (sameLine : '\n' ∉ body) (bare : hidesNext body = false) :
    terminates quote text = true := by
  have notBackslash := ne_backslash_of_isQuote isQuote
  have notNewline : quote ≠ '\n' := by
    rintro rfl
    cases isQuote
  fun_induction terminates quote text generalizing body with
  | case1 => simp at split
  | case2 =>
    cases body with
    | nil => exact absurd (List.cons.inj split).1.symm notBackslash
    | cons d body => simp at split
  | case3 cs =>
    match body with
    | [] => exact absurd (List.cons.inj split).1.symm notBackslash
    | [d] =>
      obtain ⟨rfl, -⟩ := List.cons.inj split
      cases bare
    | d :: e :: body =>
      obtain ⟨rfl, -⟩ := List.cons.inj (List.cons.inj split).2
      simp at sameLine
  | case4 c cs _ ih =>
    match body with
    | [] => exact absurd (List.cons.inj split).1.symm notBackslash
    | [d] =>
      obtain ⟨rfl, -⟩ := List.cons.inj split
      cases bare
    | d :: e :: body =>
      obtain ⟨rfl, others⟩ := List.cons.inj split
      obtain ⟨rfl, rest⟩ := List.cons.inj others
      change hidesNext (['\\', c] ++ body) = false at bare
      rw [hidesNext_append (hidesNext_escaped c)] at bare
      exact ih rest (fun member => sameLine (by simp [member])) bare
  | case5 cs =>
    cases body with
    | nil => exact absurd (List.cons.inj split).1.symm notNewline
    | cons d body =>
      obtain ⟨rfl, -⟩ := List.cons.inj split
      exact absurd List.mem_cons_self sameLine
  | case6 => rfl
  | case7 c cs noLone noPair _ other ih =>
    cases body with
    | nil => exact absurd (List.cons.inj split).1 other
    | cons d body =>
      obtain ⟨rfl, rest⟩ := List.cons.inj split
      have plain := ne_backslash_of_other noLone noPair
      change hidesNext ([c] ++ body) = false at bare
      rw [hidesNext_append (hidesNext_plain plain)] at bare
      exact ih rest (fun member => sameLine (List.mem_cons_of_mem _ member)) bare

section Offsets

variable {source tail : Text} {stop opening : Nat} {quote : Char}

theorem terminates_of_closesAt {offset : Nat} (isQuote : isQuote quote = true)
    (cut : source.slice? (opening + 1) stop = some tail)
    (closes : ClosesAt source stop quote opening offset) : terminates quote tail = true := by
  obtain ⟨body, after, front, back, sameLine, bare⟩ := closes
  have whole := slice?_append front back
  obtain rfl := Option.some.inj (cut.symm.trans whole)
  exact terminates_of_bare isQuote rfl sameLine bare

theorem isLeast_closesAt {body after : Text} (isQuote : isQuote quote = true)
    (passed : IsPassed quote body)
    (cut : source.slice? (opening + 1) stop = some (body ++ quote :: after)) :
    IsLeast {offset | ClosesAt source stop quote opening offset}
      (opening + 1 + byteSize body) := by
  constructor
  · exact ⟨body, after, slice?_front cut, slice?_drop cut, passed.newline_notMem, passed.bare⟩
  · rintro offset ⟨other, later, front, back, -, bare⟩
    have whole := slice?_append front back
    have split := Option.some.inj (cut.symm.trans whole)
    obtain ⟨gap, rfl⟩ := passed.prefix_of_bare isQuote bare split
    obtain ⟨before, rest, -, startSize, size⟩ := slice?_eq_some_iff.mp front
    rw [byteSize_append] at size
    omega

end Offsets

section Tokens

variable {state : State} {view : View}

theorem move_of_quote {inAttribute : Bool}
    (mode : state.mode = if inAttribute then .attributes else .expression)
    (isQuote : isQuote view.head = true) :
    state.move view = .emit (state.openString view view.head inAttribute) := by
  simp only [Scan.isQuote, Bool.or_eq_true, beq_iff_eq] at isQuote
  cases inAttribute with
  | false =>
    have inExpression : state.mode = .expression := mode
    have lexeme : tagLexeme? view.head view.tail = some (.quote view.head, 1) := by
      rcases isQuote with isQuote | isQuote <;> rw [isQuote] <;> rfl
    simp only [move, inExpression, scanExpression, lexeme]
  | true =>
    have inAttributes : state.mode = .attributes := mode
    have lexeme : attributeLexeme? view.head view.tail = some (.quote view.head, 1) := by
      rcases isQuote with isQuote | isQuote <;> rw [isQuote] <;> rfl
    simp only [move, inAttributes, scanAttributes, lexeme]

end Tokens

end State

namespace Scanner

theorem advance_in_string {scanner : Scanner} (mode : scanner.state.mode = .stringLiteral)
    (isQuote : isQuote scanner.state.quote.terminator = true)
    (ahead : State.terminates scanner.state.quote.terminator scanner.rest = true) :
    scanner.advance.1.kind = .stringEnd ∧
        scanner.advance.1.text = [scanner.state.quote.terminator] ∧
        scanner.advance.2.state = { scanner.state.pop with quote := {} } ∨
      scanner.advance.1.kind.isStringBody = true ∧
        (scanner.advance.1.kind = .stringParameterRef → scanner.state.quote.inAttribute = true) ∧
        scanner.advance.2.state = scanner.state ∧
        State.IsPassed scanner.state.quote.terminator scanner.advance.1.text ∧
        State.terminates scanner.state.quote.terminator scanner.advance.2.rest = true := by
  have more : scanner.rest ≠ [] := by
    intro empty
    rw [empty] at ahead
    cases ahead
  obtain ⟨head, tail, shape⟩ := List.exists_cons_of_ne_nil more
  have view : (scanner.viewOf head tail).rest = scanner.rest := shape.symm
  rw [← view] at ahead
  have emits : scanner.settled.move (scanner.viewOf head tail) =
      .emit (scanner.state.scanString (scanner.viewOf head tail)) := by
    rw [settled_of_rest shape, State.settled_eq_of_mode _ (.inl mode)]
    simp only [State.move, mode]
  rw [advance_of_settled shape emits]
  rw [settled_of_rest shape, State.settled_eq_of_mode _ (.inl mode)] at emits
  simp only [take, ← view]
  rcases State.scanString_seesEnd (scanner.viewOf head tail) isQuote ahead with ⟨ends, text⟩ | part
  · refine .inl ⟨ends, text, ?_⟩
    rcases (State.steps_of_emits _ emits).inside_string mode with ⟨-, after⟩ | ⟨other, -⟩
    · exact after
    · exact absurd ends other
  · exact .inr ⟨part.kind, part.reference, part.state, part.passed, part.ahead ahead⟩

/-- The scanner reads a string in a state, up to the quote with `after` behind it. -/
structure InsideString (state : State) (after body : Text) (scanner : Scanner) : Prop where
  inState : scanner.state = state
  rest : scanner.rest = body ++ state.quote.terminator :: after
  passed : State.IsPassed state.quote.terminator body

section InsideString

variable {state : State} {after body : Text} {scanner : Scanner}

theorem InsideString.ahead (inside : scanner.InsideString state after body)
    (isQuote : isQuote state.quote.terminator = true) :
    State.terminates state.quote.terminator scanner.rest = true := by
  rw [inside.rest]
  exact State.terminates_of_bare isQuote rfl inside.passed.newline_notMem inside.passed.bare

theorem InsideString.advance (inside : scanner.InsideString state after body)
    (mode : state.mode = .stringLiteral) (isQuote : isQuote state.quote.terminator = true)
    (unread : body ≠ []) :
    scanner.rest ≠ [] ∧
      (scanner.advance.1.kind.isStringBody = true ∧
        (scanner.advance.1.kind = .stringParameterRef → state.quote.inAttribute = true)) ∧
      ∃ left, body = scanner.advance.1.text ++ left ∧
        scanner.advance.2.InsideString state after left := by
  have ahead := inside.ahead isQuote
  obtain ⟨rfl, rest, passed⟩ := inside
  have split := scanner.text_append_rest_advance
  rw [rest] at split
  rcases advance_in_string mode isQuote ahead with
    ⟨-, text, -⟩ | ⟨kind, reference, same, part, still⟩
  · -- the end comes first only if nothing of the string is left
    obtain ⟨c, cs, rfl⟩ := List.exists_cons_of_ne_nil unread
    rw [text] at split
    exact absurd (List.cons.inj split).1.symm (passed.head_ne isQuote)
  · refine ⟨by simp [rest], ⟨kind, reference⟩, ?_⟩
    obtain ⟨left, later, behind, others⟩ := State.isPassed_of_terminates still
    rw [behind, ← List.append_assoc] at split
    obtain ⟨rfl, rfl⟩ := (part.append others).unique passed isQuote split
    exact ⟨left, rfl, same, behind, others⟩

theorem InsideString.closes (inside : scanner.InsideString state after [])
    (mode : state.mode = .stringLiteral) (isQuote : isQuote state.quote.terminator = true) :
    scanner.rest ≠ [] ∧ scanner.advance.1.kind = .stringEnd ∧
      scanner.advance.1.text = [state.quote.terminator] ∧
      scanner.advance.2.state = { state.pop with quote := {} } := by
  have ahead := inside.ahead isQuote
  obtain ⟨rfl, rest, -⟩ := inside
  have more : scanner.rest ≠ [] := by simp [rest]
  rcases advance_in_string mode isQuote ahead with ends | ⟨-, -, -, part, -⟩
  · exact ⟨more, ends⟩
  · -- a part would have to pass the quote that the text starts with
    obtain ⟨c, cs, shape⟩ := List.exists_cons_of_ne_nil (advance_text_ne_nil more)
    have split := scanner.text_append_rest_advance
    rw [rest, shape] at split
    rw [shape] at part
    exact absurd (List.cons.inj split).1 (part.head_ne isQuote)

theorem InsideString.reads {source : Text} {start stop : Nat}
    (inside : scanner.InsideString state after body) (onRange : scanner.OnRange source start stop)
    (mode : state.mode = .stringLiteral) (isQuote : isQuote state.quote.terminator = true) :
    ∃ symbols last there, scanner.Reads (symbols ++ [last]) there ∧
      Tiles source scanner.cursor.offset (scanner.cursor.offset + byteSize body) symbols ∧
      (∀ symbol ∈ symbols, symbol.kind.isStringBody = true ∧
        (symbol.kind = .stringParameterRef → state.quote.inAttribute = true)) ∧
      last.Covers .stringEnd (scanner.cursor.offset + byteSize body)
        (scanner.cursor.offset + byteSize body + 1) ∧
      there.state = { state.pop with quote := {} } := by
  have size : byteSize [state.quote.terminator] = 1 := byteSize_quote isQuote
  rw [← size]
  exact @reads_enclosed source start stop (InsideString state after)
    (fun kind => kind.isStringBody = true ∧
      (kind = .stringParameterRef → state.quote.inAttribute = true)) .stringEnd
    [state.quote.terminator] (fun left => left = { state.pop with quote := {} })
    (fun still unread => still.advance mode isQuote unread)
    (fun reached => reached.closes mode isQuote) body scanner onRange inside

end InsideString

/-- The scanner is in front of a quote that it reads as part of an expression or an attribute. -/
structure MeetsQuote (scanner : Scanner) (quote : Char) (offset : Nat) : Prop where
  mode : scanner.settled.mode = .expression ∨ scanner.settled.mode = .attributes
  isQuote : isQuote quote = true
  meets : scanner.Meets [quote] offset

/-- The next symbols are those of a string between two quotes, behind which the scan goes on as it
was; parameters are told apart in attributes only. -/
def ReadsString (scanner : Scanner) (source : Text) (opening closing : Nat) : Prop :=
  ∃ first inside last there, scanner.Reads (first :: (inside ++ [last])) there ∧
    first.Covers .stringBegin opening (opening + 1) ∧
    Tiles source (opening + 1) closing inside ∧
    (∀ symbol ∈ inside, symbol.kind.isStringBody = true ∧
      (symbol.kind = .stringParameterRef → scanner.settled.mode = .attributes)) ∧
    last.Covers .stringEnd closing (closing + 1) ∧
    there.state = scanner.settled

/-- The next symbol is an open string that ends with its line or with the range, and the scan goes
on as it was. -/
def GivesUpLine (scanner : Scanner) (source : Text) (stop opening : Nat) : Prop :=
  ∃ symbol there, scanner.Reads [symbol] there ∧
    symbol.kind = .unterminatedString ∧ Tiles source opening symbol.stop [symbol] ∧
    '\n' ∉ symbol.text ∧ (symbol.stop = stop ∨ OccursAt source stop ['\n'] symbol.stop) ∧
    there.state = scanner.settled

section Quotes

variable {source : Text} {start stop opening : Nat} {quote : Char} {scanner : Scanner}

theorem MeetsQuote.rest (meets : scanner.MeetsQuote quote opening) :
    ∃ tail, scanner.rest = quote :: tail := by
  obtain ⟨tail, split⟩ := meets.meets.text
  exact ⟨tail, split.symm⟩

theorem MeetsQuote.slice? (meets : scanner.MeetsQuote quote opening) {tail : Text}
    (onRange : scanner.OnRange source start stop) (shape : scanner.rest = quote :: tail) :
    source.slice? (opening + 1) stop = some tail := by
  have behind := meets.meets.slice? onRange shape
  rw [byteSize_quote meets.isQuote] at behind
  exact behind

theorem MeetsQuote.advance (meets : scanner.MeetsQuote quote opening) {tail : Text}
    (shape : scanner.rest = quote :: tail) :
    scanner.advance = scanner.take (scanner.settled.openString (scanner.viewOf quote tail) quote
      (scanner.settled.mode == .attributes)) := by
  apply advance_of_settled shape
  refine State.move_of_quote ?_ meets.isQuote
  rcases meets.mode with mode | mode <;> rw [mode] <;> rfl

theorem unquoted_of_quoted {state : State} (coherent : state.IsCoherent)
    (mode : state.mode = .expression ∨ state.mode = .attributes) (quote : Quote) :
    { ({ state.push .stringLiteral with quote } : State).pop with quote := {} } = state := by
  have outside : state.mode ≠ .stringLiteral := by
    rcases mode with mode | mode <;> rw [mode] <;> decide
  have unquoted := coherent.quote outside
  cases state
  dsimp only at unquoted
  subst unquoted
  rfl

theorem MeetsQuote.readsString (meets : scanner.MeetsQuote quote opening)
    (onRange : scanner.OnRange source start stop) (coherent : scanner.state.IsCoherent)
    {closing : Nat} (first : IsLeast {offset | ClosesAt source stop quote opening offset} closing) :
    scanner.ReadsString source opening closing := by
  obtain ⟨tail, shape⟩ := meets.rest
  have cut := meets.slice? onRange shape
  have ends := State.terminates_of_closesAt meets.isQuote cut first.1
  obtain ⟨body, after, rfl, passed⟩ := State.isPassed_of_terminates ends
  obtain rfl := first.unique (State.isLeast_closesAt meets.isQuote passed cut)
  have more : scanner.rest ≠ [] := by simp [shape]
  have opens := meets.advance shape
  rw [State.openString, if_pos (by exact ends)] at opens
  have text : scanner.advance.1.text = [quote] := by
    rw [opens]
    simp only [take, shape]
    rfl
  have inside : scanner.advance.2.InsideString scanner.advance.2.state after body := by
    refine ⟨rfl, ?_, ?_⟩
    · rw [opens]
      simp only [take, shape]
      rfl
    · rw [opens]
      exact passed
  have begins : scanner.advance.1.kind = .stringBegin := by rw [opens]; rfl
  have covers := covers_advance more begins text
  have offset := scanner.advance_cursor_offset
  rw [text, meets.meets.offset, byteSize_quote meets.isQuote] at offset
  rw [meets.meets.offset, byteSize_quote meets.isQuote] at covers
  obtain ⟨symbols, last, there, reads, tiles, allowed, closes, state⟩ :=
    inside.reads onRange.advance (by rw [opens]; rfl) (by rw [opens]; exact meets.isQuote)
  rw [offset] at tiles closes
  refine ⟨_, symbols, last, there, .next more reads, covers, tiles, ?_, closes, ?_⟩
  · intro symbol member
    obtain ⟨kind, reference⟩ := allowed symbol member
    refine ⟨kind, fun refers => ?_⟩
    have inAttribute := reference refers
    rw [opens] at inAttribute
    exact eq_of_beq inAttribute
  · rw [state, opens]
    exact unquoted_of_quoted (settled_isCoherent coherent) meets.mode _

theorem MeetsQuote.givesUpLine (meets : scanner.MeetsQuote quote opening)
    (onRange : scanner.OnRange source start stop)
    (unclosed : ∀ offset, ¬ClosesAt source stop quote opening offset) :
    scanner.GivesUpLine source stop opening := by
  obtain ⟨tail, shape⟩ := meets.rest
  have cut := meets.slice? onRange shape
  have isOpen : ¬State.terminates quote tail = true := by
    intro ends
    obtain ⟨body, after, rfl, passed⟩ := State.isPassed_of_terminates ends
    exact unclosed _ (State.isLeast_closesAt meets.isQuote passed cut).1
  have more : scanner.rest ≠ [] := by simp [shape]
  have gives := meets.advance shape
  rw [State.openString, if_neg (by exact isOpen)] at gives
  have text : scanner.advance.1.text = scanner.rest.takeWhile (· != '\n') := by
    rw [gives, ← take_run]
    simp only [take, shape]
    rfl
  have left : scanner.advance.2.rest = scanner.rest.dropWhile (· != '\n') := by
    have split := scanner.text_append_rest_advance
    rw [text] at split
    exact List.append_cancel_left (split.trans List.takeWhile_append_dropWhile.symm)
  obtain ⟨-, symbolStop⟩ := advance_symbol_start more
  have tiles := (reads_one more).tiles onRange
  rw [meets.meets.offset, ← symbolStop] at tiles
  refine ⟨_, _, reads_one more, by rw [gives]; rfl, tiles, ?_, ?_, by rw [gives]; rfl⟩
  · rw [text]
    intro member
    have other := List.all_eq_true.mp List.all_takeWhile _ member
    simp at other
  · rw [symbolStop]
    have rest := onRange.advance.rest
    cases behind : scanner.advance.2.rest with
    | nil =>
      left
      obtain ⟨consumed, held⟩ := onRange.advance.consumed
      have reached := held.stop
      rw [behind, byteSize_nil, Nat.add_zero, onRange.advance.stop] at reached
      exact reached
    | cons c cs =>
      right
      have newline : c = '\n' := by
        have stopped : (scanner.rest.dropWhile (· != '\n')).head? = some c := by
          rw [← left, behind]
          rfl
        simpa using head_dropWhile stopped
      rw [behind, newline] at rest
      exact ⟨cs, rest⟩

theorem meetsQuote_of_stringBegin (more : scanner.rest ≠ [])
    (begins : scanner.advance.1.kind = .stringBegin) :
    ∃ quote, scanner.MeetsQuote quote scanner.cursor.offset := by
  obtain ⟨head, tail, shape⟩ := List.exists_cons_of_ne_nil more
  have emits := scanner.state.move_settled (scanner.viewOf head tail)
  rw [← settled_of_rest shape] at emits
  rw [advance_of_settled shape emits] at begins
  have listed := (State.steps_of_emits _ emits).kind_mem
  rw [show (scanner.state.emission (scanner.viewOf head tail)).kind = .stringBegin from begins]
    at listed
  have others : ∀ mode : Mode, Kind.stringBegin ∈ mode.kinds →
      mode = .expression ∨ mode = .attributes := by
    intro mode
    cases mode <;> decide
  obtain ⟨text, isQuote, -⟩ := (State.move_spells _ emits).quote begins
  refine ⟨_, others _ listed, isQuote, rfl, ?_⟩
  rw [← text, shape]
  exact List.take_prefix _ _

theorem readsString_of_stringBegin (onRange : scanner.OnRange source start stop)
    (coherent : scanner.state.IsCoherent) (more : scanner.rest ≠ [])
    (begins : scanner.advance.1.kind = .stringBegin) :
    ∃ closing, scanner.ReadsString source scanner.cursor.offset closing := by
  obtain ⟨quote, meets⟩ := meetsQuote_of_stringBegin more begins
  obtain ⟨tail, shape⟩ := meets.rest
  have opens := meets.advance shape
  have ends : State.terminates quote tail = true := by
    apply Classical.byContradiction
    intro isOpen
    rw [opens, State.openString, if_neg (by exact isOpen)] at begins
    cases begins
  obtain ⟨body, after, rfl, passed⟩ := State.isPassed_of_terminates ends
  have first := State.isLeast_closesAt meets.isQuote passed (meets.slice? onRange shape)
  exact ⟨_, meets.readsString onRange coherent first⟩

end Quotes

end Scanner

/-- The look ahead at a quote and the tokens of the string agree. A quote that is met in an
expression or an attribute, at any moment of any scan, begins a string that ends at the first bare
quote on its line; if there is none, the rest of the line is one token. So every string that begins
ends, and there is nothing but parts of it in between. -/
theorem strings_end_at_first_bare_quote {source : Text} {start stop : Nat} (mode : Mode)
    (ordered : start ≤ stop) (startBoundary : source.isBoundary start = true)
    (stopBoundary : source.isBoundary stop = true) :
    ∃ scanner symbols, Scanner.bind source start stop mode = .ok scanner ∧
      tokenizeRange source start stop mode = .ok symbols ∧
      (∀ n quote opening, (behind Scanner.advance scanner n).MeetsQuote quote opening →
        (∀ closing, IsLeast {offset | ClosesAt source stop quote opening offset} closing →
          (behind Scanner.advance scanner n).ReadsString source opening closing) ∧
        ((∀ offset, ¬ClosesAt source stop quote opening offset) →
          (behind Scanner.advance scanner n).GivesUpLine source stop opening)) ∧
      ∀ before opening after, symbols = before ++ opening :: after →
        opening.kind = .stringBegin → ∃ inside closing later,
          after = inside ++ closing :: later ∧ closing.kind = .stringEnd ∧
            ∀ symbol ∈ inside, symbol.kind.isStringBody = true := by
  obtain ⟨scanner, accepted⟩ := Scanner.exists_bind mode ordered startBoundary stopBoundary
  have onRange := Scanner.onRange_of_bind accepted
  have coherent := Scanner.isCoherent_behind accepted
  refine ⟨scanner, scanner.drain.1, accepted, ?_, ?_, ?_⟩
  · rw [tokenizeRange, accepted]
    rfl
  · intro n quote opening meets
    exact ⟨fun closing first => meets.readsString (onRange.behind n) (coherent n) first,
      meets.givesUpLine (onRange.behind n)⟩
  · intro before opening after split begins
    obtain ⟨-, -, more, rfl⟩ := Scanner.moment_of_split split
    obtain ⟨closing, first, inside, last, there, reads, -, -, body, ends, -⟩ :=
      Scanner.readsString_of_stringBegin (onRange.behind _) (coherent _) more begins
    have tokens := reads.drain
    rw [Scanner.drain_behind, split, List.drop_left] at tokens
    refine ⟨inside, last, there.drain.1, ?_, ends.kind, fun symbol member => (body symbol member).1⟩
    simpa using (List.cons.inj tokens).2

/-- The quote behind the backslash is hidden, and the string goes on to the next one. -/
theorem strings_end_at_first_bare_quote_hidden :
    ∃ scanner, Scanner.bind "'a\\'b'".toList 0 6 .expression = .ok scanner ∧
      scanner.ReadsString "'a\\'b'".toList 0 5 := by
  obtain ⟨scanner, symbols, accepted, -, strings, -⟩ :=
    @strings_end_at_first_bare_quote "'a\\'b'".toList 0 6 .expression (by decide) (by decide)
      (by decide)
  refine ⟨scanner, accepted, ?_⟩
  obtain ⟨-, rfl⟩ := Scanner.bind_eq_ok_iff.mp accepted
  have meets : (Scanner.ofRange "'a\\'b'".toList 0 6 .expression).MeetsQuote '\'' 0 :=
    ⟨.inl rfl, rfl, rfl, by decide⟩
  have passed : State.IsPassed '\'' ['a', '\\', '\'', 'b'] := by
    refine .plain ?_ (.escaped ?_ (.plain ?_ .nil)) <;> simp [State.IsInnocent]
  have first := @State.isLeast_closesAt "'a\\'b'".toList 6 0 '\'' _ [] rfl passed (by decide)
  exact (strings 0 '\'' 0 meets).1 5 first

end Scan

end ClosureTemplate
