import ClosureTemplate.Proofs.Scan.Interruption
import ClosureTemplate.Scan.Window

/-!
A window sees of the source what a scanner has at hand. Each of its reads, with the bound it has,
gives what is left of the range (`Shows`), so that it emits the tokens of the scanner
(`Shows.emission_eq`, `Follows.nth_eq`).
-/

namespace ClosureTemplate.Scan

open Text

def Emission.inBytes (emission : Emission) (rest : Text) : Emission :=
  { emission with width := byteSize (rest.take emission.width) }

def Move.inBytes : Move → Text → Move
  | .emit emission, rest => .emit (emission.inBytes rest)
  | .shift mode, _ => .shift mode

/-- How a text starts, as far as its lexeme tells more than the first character. -/
def TextLexeme.Starts (width : Nat) (text : Text) : TextLexeme → Prop
  | .comment => ∃ back, text = '/' :: '*' :: back
  | .doc => width = 3 ∧ ∃ back, text = '/' :: '*' :: '*' :: back
  | .lineComment => ∃ back, text = '/' :: '/' :: back
  | _ => True

theorem textLexeme_starts (c : Char) (cs : Text) :
    (textLexeme c cs).1.Starts (textLexeme c cs).2 (c :: cs) := by
  unfold textLexeme
  split <;> try trivial
  · exact ⟨rfl, _, rfl⟩
  · exact ⟨_, rfl⟩
  · exact ⟨_, rfl⟩
  · split <;> trivial

theorem isSpecialEscape_iff {text : Text} : State.isSpecialEscape text = true ↔
    ∃ c cs, text = '\\' :: c :: cs ∧ c ∈ ['n', 'r', 't'] := by
  constructor
  · intro special
    unfold State.isSpecialEscape at special
    split at special
    · next c cs => exact ⟨c, cs, rfl, by simpa [or_assoc] using special⟩
    · cases special
  · rintro ⟨c, cs, rfl, listed⟩
    simpa [State.isSpecialEscape, or_assoc] using listed

theorem byteSize_take_specialEscape {text : Text} (special : State.isSpecialEscape text = true) :
    byteSize (text.take 2) = 2 := by
  obtain ⟨c, cs, rfl, listed⟩ := isSpecialEscape_iff.mp special
  have narrow : c.utf8Size = 1 := by
    simp only [List.mem_cons, List.not_mem_nil, or_false] at listed
    rcases listed with rfl | rfl | rfl <;> rfl
  rw [List.take_succ_cons, List.take_succ_cons, List.take_zero, byteSize_cons, byteSize_cons,
    narrow]
  rfl

theorem stringLexeme?_escape_starts {c : Char} {cs : Text} {width : Nat}
    (matched : stringLexeme? c cs = some (.escape, width)) :
    width = 2 ∧ ∃ d ds, c :: cs = '\\' :: d :: ds := by
  have forms := State.stringLexeme?_cases matched
  rcases forms with ⟨other, -⟩ | ⟨-, rfl, d, ds, rfl, plain⟩ | ⟨other, -⟩
  · cases other
  · rw [stringLexeme?, if_neg plain] at matched
    cases matched
    exact ⟨rfl, d, ds, rfl⟩
  · rcases other with other | other <;> cases other

theorem byteSize_of_isHexDigit {text : Text} (all : ∀ c ∈ text, isHexDigit c = true) :
    text.byteSize = text.length := by
  induction text with
  | nil => rfl
  | cons c cs ih =>
    have code := toNat_of_isHexDigit (all c (List.mem_cons_self ..))
    have narrow : c.utf8Size = 1 := Char.utf8Size_eq_one_iff.mpr (Nat.le_trans code (by decide))
    rw [byteSize_cons, List.length_cons, narrow, Nat.add_comm,
      ih fun d member => all d (List.mem_cons_of_mem c member)]

theorem byteSize_take_unicodeEscape {cs : Text} (digits : run isHexDigit (cs.take 4) = 4) :
    byteSize (('\\' :: 'u' :: cs).take 6) = byteSize (('\\' :: 'u' :: cs).take 2) + 4 := by
  have fits := run_le isHexDigit (cs.take 4)
  have four : (cs.take 4).length = 4 := by
    have short := List.length_take_le 4 cs
    omega
  have narrow := byteSize_of_isHexDigit (all_of_run (four.trans digits.symm).le)
  simp only [List.take_succ_cons, List.take_zero, byteSize_cons, byteSize_nil, narrow, four]
  omega

theorem State.stringEscape_of_unicode {state : State} {view : View} {cs : Text}
    (shape : view.tail = 'u' :: cs) :
    state.stringEscape view =
      if run isHexDigit (cs.take 4) = 4 then { kind := .stringEscape, width := 6, state }
      else { kind := .badStringEscape, width := 2, state } := by
  unfold stringEscape
  rw [shape]
  rfl

theorem State.stringEscape_of_plain {state : State} {view : View} {c : Char} {cs : Text}
    (shape : view.tail = c :: cs) (plain : c ≠ 'u') :
    state.stringEscape view =
      { kind := if "nrtbf\\'\"".toList.contains c then .stringEscape else .badStringEscape
        width := 2
        state } := by
  unfold stringEscape
  rw [shape]
  split
  · next same => exact absurd (List.cons.inj same).1 plain
  · next same =>
    cases same
    split <;> rfl
  · next empty => cases empty

theorem shape_of_spells {c : Char} {cs : Text} (spells : c = '/' ∧ cs.head? = some '}') :
    c :: cs = '/' :: '}' :: cs.tail := by
  obtain ⟨ds, rfl⟩ := List.head?_eq_some_iff.mp spells.2
  rw [spells.1, List.tail_cons]

namespace Window

/-- The view is what there is to see at the cursor of the window. -/
structure Shows (window : Window) (view : View) : Prop where
  rest : window.source.slice? window.offset window.stop = some view.rest
  previous : window.previous? = view.previous
  line : window.cursor.line = view.line

namespace Shows

variable {window : Window} {view : View} {front back : Text}

theorem rest_eq (shows : window.Shows view) : window.rest = view.rest := by
  rw [Window.rest, shows.rest, Option.getD_some]

theorem slice?_eq (shows : window.Shows view) (shape : view.rest = front ++ back) :
    window.source.slice? (window.offset + front.byteSize) window.stop = some back :=
  slice?_drop (shape ▸ shows.rest)

theorem charAt?_eq (shows : window.Shows view) (shape : view.rest = front ++ back) :
    window.charAt? (window.offset + front.byteSize) = back.head? := by
  rw [charAt?, shows.slice?_eq shape, Option.bind_some]

theorem charAt?_take (shows : window.Shows view) (width : Nat) :
    window.charAt? (window.offset + byteSize (view.rest.take width)) =
      (view.rest.drop width).head? :=
  shows.charAt?_eq (List.take_append_drop width view.rest).symm

theorem findFrom?_eq (shows : window.Shows view) (shape : view.rest = front ++ back)
    (needle : Text) :
    window.findFrom? (window.offset + front.byteSize) needle =
      (before? needle back).map fun body => window.offset + front.byteSize + body.byteSize := by
  rw [findFrom?, shows.slice?_eq shape, Option.bind_some]

theorem remaining (shows : window.Shows view) :
    window.stop - window.offset = view.rest.byteSize := by
  obtain ⟨before, after, -, -, size⟩ := slice?_eq_some_iff.mp shows.rest
  omega

theorem ahead_take (shows : window.Shows view) (width : Nat) :
    window.ahead (byteSize (view.rest.take width)) = view.rest.take width := by
  have split := takeBytes?_append (view.rest.take width) (view.rest.drop width)
  rw [List.take_append_drop] at split
  rw [ahead, shows.rest_eq, split, Option.getD_some]

theorem peek?_eq (shows : window.Shows view) {lexeme : Type}
    (lexeme? : Char → Text → Option (lexeme × Nat)) :
    window.peek? lexeme? = (lexeme? view.head view.tail).map fun (found, width) =>
      (found, byteSize (view.rest.take width)) := by
  rw [peek?, shows.rest_eq]
  rfl

theorem badCharacter_eq (shows : window.Shows view) :
    window.badCharacter = window.state.badCharacter.inBytes view.rest := by
  rw [badCharacter, shows.rest_eq]
  rfl

theorem emit_rest (shows : window.Shows view) (kind : Kind) :
    window.emit kind (window.stop - window.offset) =
      Emission.inBytes { kind, width := view.rest.length, state := window.state } view.rest := by
  rw [shows.remaining, emit, Emission.inBytes, List.take_length]

theorem openTag_eq (shows : window.Shows view) (isDoubled isClosing : Bool) (width : Nat) :
    window.openTag isDoubled isClosing (byteSize (view.rest.take width)) =
      (window.state.openTag view isDoubled isClosing width).inBytes view.rest := by
  rw [openTag, shows.line]
  rfl

theorem reopenTag_eq (shows : window.Shows view) (brace : view.head = '{') :
    window.reopenTag = (window.state.reopenTag view).inBytes view.rest := by
  rw [reopenTag, shows.line, Emission.inBytes, View.rest, brace]
  rfl

theorem closeBrace_eq (shows : window.Shows view) (isSelfClosing : Bool)
    (shape : view.rest = (if isSelfClosing then ['/', '}'] else ['}']) ++ back) :
    window.closeBrace isSelfClosing =
      (window.state.closeBrace view isSelfClosing).inBytes view.rest := by
  have seen := shows.charAt?_eq shape
  have size : byteSize (if isSelfClosing then ['/', '}'] else ['}']) =
      if isSelfClosing then 2 else 1 := by
    cases isSelfClosing <;> rfl
  have behind : view.rest.drop (if isSelfClosing then 2 else 1) = back := by
    rw [shape]
    cases isSelfClosing <;> rfl
  rw [size] at seen
  simp only [closeBrace, State.closeBrace, seen, behind]
  rw [shape]
  split
  · split
    · next another =>
      obtain ⟨more, rfl⟩ := List.head?_eq_some_iff.mp another
      cases isSelfClosing <;> rfl
    · cases isSelfClosing <;> rfl
  · cases isSelfClosing <;> rfl

theorem blockComment_eq (shows : window.Shows view) (shape : view.rest = '/' :: '*' :: back) :
    window.blockComment = (window.state.blockComment view).inBytes view.rest := by
  have found : window.findFrom? (window.offset + 2) "*/".toList =
      (before? "*/".toList back).map fun body => window.offset + 2 + body.byteSize :=
    @findFrom?_eq window view ['/', '*'] back shows shape _
  rw [blockComment, State.blockComment, found, shape, List.drop_succ_cons, List.drop_succ_cons,
    List.drop_zero]
  cases inside : before? "*/".toList back with
  | none => exact shape ▸ shows.emit_rest .unterminatedComment
  | some body =>
    obtain ⟨after, rfl⟩ := before?_eq_some inside
    have whole : byteSize (('/' :: '*' :: (body ++ "*/".toList ++ after)).take (body.length + 4)) =
        body.byteSize + 4 := by
      have cut : ('/' :: '*' :: (body ++ "*/".toList ++ after)).take (body.length + 4) =
          '/' :: '*' :: (body ++ "*/".toList) := by
        rw [List.take_succ_cons, List.take_succ_cons]
        exact congrArg _ (congrArg _ (List.take_left' (by simp)))
      rw [cut, byteSize_cons, byteSize_cons, byteSize_append]
      have slash : '/'.utf8Size = 1 := rfl
      have star : '*'.utf8Size = 1 := rfl
      have delimiter : byteSize "*/".toList = 2 := rfl
      omega
    have length : window.offset + 2 + body.byteSize + 2 - window.offset = body.byteSize + 4 := by
      omega
    simp only [Option.map_some, emit, Emission.inBytes, whole, length]

theorem openDoc_eq (shows : window.Shows view) (shape : view.rest = '/' :: '*' :: '*' :: back) :
    window.openDoc 3 = (window.state.openDoc view).inBytes view.rest := by
  have next : window.charAt? (window.offset + 3) = back.head? :=
    @charAt?_eq window view ['/', '*', '*'] back shows shape
  have found : window.findFrom? (window.offset + 3) "*/".toList =
      (before? "*/".toList back).map fun body => window.offset + 3 + body.byteSize :=
    @findFrom?_eq window view ['/', '*', '*'] back shows shape _
  have ended := shows.emit_rest .unterminatedComment
  simp only [openDoc, State.openDoc, next, found, shape, List.drop_succ_cons, List.drop_zero,
    Option.isNone_map] at ended ⊢
  split
  · next another =>
    obtain ⟨more, rfl⟩ := List.head?_eq_some_iff.mp another
    rfl
  split
  · exact ended
  · rfl

theorem scanDocComment_eq (shows : window.Shows view) :
    window.scanDocComment = (window.state.scanDocComment view).inBytes view.rest := by
  rw [scanDocComment, State.scanDocComment, shows.peek?_eq]
  simp only [Option.map_some, shows.ahead_take]
  cases (docLexeme view.head view.tail).1 <;> rfl

theorem scanTemplateText_eq (shows : window.Shows view) :
    window.scanTemplateText = (window.state.scanTemplateText view).inBytes view.rest := by
  have starts := textLexeme_starts view.head view.tail
  rw [scanTemplateText, State.scanTemplateText, shows.peek?_eq, shows.previous]
  cases lexeme : textLexeme view.head view.tail with
  | mk found width =>
    rw [lexeme] at starts
    dsimp only at starts
    cases found with
    | tagOpen isDoubled isClosing => exact shows.openTag_eq isDoubled isClosing width
    | comment =>
      obtain ⟨back, shape⟩ := starts
      exact shows.blockComment_eq shape
    | doc =>
      obtain ⟨rfl, back, shape⟩ := starts
      have three : byteSize (view.rest.take 3) = 3 := by
        rw [View.rest, shape]
        rfl
      simp only [Option.map_some, three]
      exact shows.openDoc_eq shape
    | lineComment =>
      obtain ⟨back, shape⟩ := starts
      have two : byteSize (view.rest.take 2) = 2 := by
        rw [View.rest, shape]
        rfl
      simp only [Option.map_some]
      split
      · rfl
      · rw [emit, Emission.inBytes, two]
    | close => rfl
    | blank => rfl
    | text => rfl

theorem scanLiteral_eq (shows : window.Shows view) :
    window.scanLiteral = (window.state.scanLiteral view).inBytes view.rest := by
  have found : window.findFrom? window.offset "\x7b/literal\x7d".toList =
      (before? "\x7b/literal\x7d".toList view.rest).map fun body =>
        window.offset + body.byteSize :=
    @findFrom?_eq window view [] view.rest shows rfl _
  rw [scanLiteral, State.scanLiteral, found]
  cases inside : before? "\x7b/literal\x7d".toList view.rest with
  | none => exact congrArg Move.emit (shows.emit_rest .unterminatedLiteral)
  | some body =>
    obtain ⟨after, shape⟩ := before?_eq_some inside
    rw [List.append_assoc] at shape
    cases body with
    | nil => exact if_pos rfl
    | cons c cs =>
      have positive := c.utf8Size_pos
      have further : window.offset + byteSize (c :: cs) ≠ window.offset := by
        rw [byteSize_cons]
        omega
      have content : view.rest.take (c :: cs).length = c :: cs := by
        rw [shape]
        exact List.take_left
      rw [Option.map_some]
      dsimp only
      rw [if_neg further, Nat.add_sub_cancel_left, Move.inBytes, Emission.inBytes, content]

theorem isSpecialEscape_ahead (shows : window.Shows view) :
    State.isSpecialEscape (window.ahead 2) = State.isSpecialEscape view.rest := by
  rw [Bool.eq_iff_iff]
  constructor
  · intro special
    obtain ⟨c, cs, same, listed⟩ := isSpecialEscape_iff.mp special
    rw [ahead, shows.rest_eq] at same
    cases cut : view.rest.takeBytes? 2 with
    | none =>
      rw [cut] at same
      cases same
    | some front =>
      obtain ⟨after, shape, -⟩ := takeBytes?_eq_some_iff.mp cut
      rw [cut, Option.getD_some] at same
      rw [shape, same]
      exact isSpecialEscape_iff.mpr ⟨c, cs ++ after, rfl, listed⟩
  · intro special
    have cut := shows.ahead_take 2
    rw [byteSize_take_specialEscape special] at cut
    obtain ⟨c, cs, shape, listed⟩ := isSpecialEscape_iff.mp special
    rw [cut, shape]
    exact isSpecialEscape_iff.mpr ⟨c, [], rfl, listed⟩

theorem commandWord_inBytes (state : State) (kind : Kind) (width : Nat) (rest : Text) :
    (state.commandWord kind width).inBytes rest =
      state.commandWord kind (byteSize (rest.take width)) := by
  unfold State.commandWord
  dsimp only
  split <;> rfl

theorem scanTagCommand_eq (shows : window.Shows view) :
    window.scanTagCommand = (window.state.scanTagCommand view).inBytes view.rest := by
  let escape : Emission :=
    { kind := .specialChar
      width := 2
      state :=
        { window.state.enter .attributes with
          tag := { window.state.tag with command := some .specialChar } } }
  have otherwise :
      (if window.state.tag.isClosing then .shift .attributes
        else if State.isSpecialEscape view.rest then .emit escape else .shift .expression) =
      Move.inBytes
        (if window.state.tag.isClosing then .shift .attributes
          else if State.isSpecialEscape view.rest then .emit escape else .shift .expression)
        view.rest := by
    split
    · rfl
    split
    · next special =>
      rw [Move.inBytes, Emission.inBytes, byteSize_take_specialEscape special]
    · rfl
  rw [scanTagCommand, State.scanTagCommand, shows.peek?_eq, shows.isSpecialEscape_ahead]
  cases tagLexeme? view.head view.tail with
  | none => exact otherwise
  | some found =>
    obtain ⟨lexeme, width⟩ := found
    cases lexeme with
    | word =>
      simp only [Option.map_some, shows.ahead_take]
      cases Kind.command? (view.rest.take width) with
      | some kind => exact congrArg Move.emit (commandWord_inBytes _ _ _ _).symm
      | none =>
        dsimp only
        split <;> rfl
    | _ => exact otherwise

theorem scanName_eq (shows : window.Shows view) :
    window.scanName = (window.state.scanName view).inBytes view.rest := by
  rw [scanName, State.scanName, shows.peek?_eq, shows.line]
  cases nameLexeme? view.head view.tail with
  | none => rfl
  | some found =>
    obtain ⟨lexeme, width⟩ := found
    cases lexeme with
    | blank => rfl
    | _ =>
      simp only [Option.map_some, shows.ahead_take]
      generalize window.state.nameOf _ _ _ = named
      cases named <;> rfl

theorem openString_eq (shows : window.Shows view) {terminator : Char} (inAttribute : Bool)
    (opens : view.head = terminator) (quote : isQuote terminator = true) :
    window.openString terminator inAttribute =
      (window.state.openString view terminator inAttribute).inBytes view.rest := by
  have one : byteSize (view.rest.take 1) = 1 := by
    rw [View.rest, List.take_succ_cons, List.take_zero, byteSize_cons, byteSize_nil, opens]
    rcases Bool.or_eq_true_iff.mp quote with single | double
    · rw [beq_iff_eq.mp single]
      rfl
    · rw [beq_iff_eq.mp double]
      rfl
  rw [openString, State.openString, stringTerminates, lineRemainder, shows.rest_eq]
  change (if State.terminates terminator view.tail = true then _ else _) = _
  split
  · rw [Emission.inBytes, one]
  · rw [emit, Emission.inBytes, take_run]

theorem stringEscape_eq (shows : window.Shows view) {c : Char} {cs : Text}
    (shape : view.rest = '\\' :: c :: cs) :
    window.stringEscape (byteSize (view.rest.take 2)) =
      (window.state.stringEscape view).inBytes view.rest := by
  have tail : view.tail = c :: cs := (List.cons.inj shape).2
  have seen : window.ahead (byteSize (view.rest.take 2)) = ['\\', c] := by
    rw [shows.ahead_take, shape]
    rfl
  have behind : window.escapeDigits (byteSize (view.rest.take 2)) =
      run isHexDigit (cs.take 4) := by
    have cut := dropBytes?_append (view.rest.take 2) (view.rest.drop 2)
    rw [List.take_append_drop] at cut
    rw [escapeDigits, shows.rest_eq, cut, shape]
    rfl
  rw [stringEscape, seen, behind]
  split
  · next same =>
    cases same
    rw [State.stringEscape_of_unicode tail]
    split
    · next digits => rw [emit, Emission.inBytes, shape, byteSize_take_unicodeEscape digits]
    · rfl
  · next plain same =>
    cases same
    rw [State.stringEscape_of_plain tail plain]
    split <;> rfl
  · next other => exact absurd rfl (other _ _ _)

theorem scanString_eq (shows : window.Shows view) :
    window.scanString = (window.state.scanString view).inBytes view.rest := by
  rw [scanString, State.scanString, shows.peek?_eq]
  cases matched : stringLexeme? view.head view.tail with
  | none => exact shows.badCharacter_eq
  | some found =>
    obtain ⟨lexeme, width⟩ := found
    cases lexeme with
    | quote terminator =>
      simp only [Option.map_some]
      split <;> rfl
    | escape =>
      obtain ⟨rfl, c, cs, shape⟩ := stringLexeme?_escape_starts matched
      exact shows.stringEscape_eq shape
    | _ => rfl

theorem scanAttributes_eq (shows : window.Shows view) :
    window.scanAttributes = (window.state.scanAttributes view).inBytes view.rest := by
  rw [scanAttributes, State.scanAttributes, shows.peek?_eq]
  cases matched : attributeLexeme? view.head view.tail with
  | none => exact shows.badCharacter_eq
  | some found =>
    obtain ⟨lexeme, width⟩ := found
    have spells := attributeLexeme?_spells matched
    cases lexeme with
    | colon =>
      simp only [Option.map_some]
      split
      · rfl
      · exact shows.badCharacter_eq
    | quote terminator => exact shows.openString_eq true spells.1 spells.2
    | lbrace =>
      simp only [Option.map_some]
      split
      · rfl
      · exact shows.reopenTag_eq (State.attributeLexeme?_lbrace matched)
    | rbrace => exact shows.closeBrace_eq false (congrArg (· :: view.tail) spells)
    | slashRbrace => exact shows.closeBrace_eq true (shape_of_spells spells)
    | _ => rfl

theorem expressionWord_eq (shows : window.Shows view) (width : Nat) :
    window.expressionWord (byteSize (view.rest.take width)) =
      (window.state.expressionWord view width).inBytes view.rest := by
  unfold expressionWord State.expressionWord
  simp only [shows.ahead_take, shows.charAt?_take]
  generalize Kind.keyword? (view.rest.take width) = found
  cases found with
  | none => rfl
  | some keyword => cases keyword <;> rfl

theorem integerLiteral_inBytes (state : State) (radix : Nat) (digits : Text) (width : Nat)
    (rest : Text) :
    (state.integerLiteral radix digits width).inBytes rest =
      state.integerLiteral radix digits (byteSize (rest.take width)) := by
  unfold State.integerLiteral
  split <;> rfl

theorem scanExpression_eq (shows : window.Shows view) :
    window.scanExpression = (window.state.scanExpression view).inBytes view.rest := by
  rw [scanExpression, State.scanExpression, shows.peek?_eq]
  cases matched : tagLexeme? view.head view.tail with
  | none => exact shows.badCharacter_eq
  | some found =>
    obtain ⟨lexeme, width⟩ := found
    have spells := tagLexeme?_spells matched
    cases lexeme with
    | word => exact shows.expressionWord_eq width
    | decimal =>
      simp only [Option.map_some, shows.ahead_take]
      exact (integerLiteral_inBytes _ _ _ _ _).symm
    | hex =>
      simp only [Option.map_some, shows.ahead_take]
      exact (integerLiteral_inBytes _ _ _ _ _).symm
    | «variable» =>
      simp only [Option.map_some, shows.ahead_take]
      rfl
    | float =>
      simp only [Option.map_some, shows.ahead_take]
      rfl
    | quote terminator => exact shows.openString_eq false spells.1 spells.2
    | lbrace =>
      simp only [Option.map_some]
      split
      · rfl
      · exact shows.reopenTag_eq (State.tagLexeme?_lbrace matched)
    | rbrace => exact shows.closeBrace_eq false (congrArg (· :: view.tail) spells)
    | slashRbrace => exact shows.closeBrace_eq true (shape_of_spells spells)
    | _ => rfl

theorem scanDirective_eq (shows : window.Shows view) :
    window.scanDirective = (window.state.scanDirective view).inBytes view.rest := by
  rw [scanDirective, State.scanDirective, shows.peek?_eq]
  cases tagLexeme? view.head view.tail with
  | none => rfl
  | some found =>
    obtain ⟨lexeme, width⟩ := found
    cases lexeme <;> rfl

theorem move_eq (shows : window.Shows view) :
    window.move = (window.state.move view).inBytes view.rest := by
  unfold move State.move
  cases window.state.mode with
  | templateText => exact congrArg Move.emit shows.scanTemplateText_eq
  | tagCommand => exact shows.scanTagCommand_eq
  | expression => exact congrArg Move.emit shows.scanExpression_eq
  | name => exact shows.scanName_eq
  | attributes => exact congrArg Move.emit shows.scanAttributes_eq
  | directive => exact shows.scanDirective_eq
  | stringLiteral => exact congrArg Move.emit shows.scanString_eq
  | docComment => exact congrArg Move.emit shows.scanDocComment_eq
  | literal => exact shows.scanLiteral_eq

theorem enter (shows : window.Shows view) (mode : Mode) : (window.enter mode).Shows view :=
  ⟨shows.rest, shows.previous, shows.line⟩

theorem emission_eq (shows : window.Shows view) :
    window.emission = (window.state.emission view).inBytes view.rest := by
  rw [emission, State.emission, shows.move_eq]
  cases window.state.move view with
  | emit emission => rfl
  | shift mode =>
    have again : (window.enter mode).move =
        ((window.state.enter mode).move view).inBytes view.rest :=
      (shows.enter mode).move_eq
    simp only [Move.inBytes, again]
    cases (window.state.enter mode).move view with
    | emit emission => rfl
    | shift mode => exact (shows.enter mode).badCharacter_eq

end Shows

/-- A window and a scanner at the same place of the same range. -/
structure Follows (window : Window) (scanner : Scanner) : Prop where
  source : window.source = scanner.source
  start : window.start = scanner.start
  stop : window.stop = scanner.stop
  cursor : window.cursor = scanner.cursor
  state : window.state = scanner.state
  consumed : ∃ consumed, scanner.Consumed consumed

namespace Follows

variable {window : Window} {scanner : Scanner} {head : Char} {tail : Text}

theorem slice?_rest (follows : window.Follows scanner) :
    window.source.slice? window.offset window.stop = some scanner.rest := by
  obtain ⟨consumed, held⟩ := follows.consumed
  rw [follows.source, follows.stop, offset, follows.cursor, held.offset]
  exact slice?_drop held.range

theorem shows (follows : window.Follows scanner) (shape : scanner.rest = head :: tail) :
    window.Shows (scanner.viewOf head tail) where
  rest := follows.slice?_rest.trans (congrArg some shape)
  previous := by
    obtain ⟨consumed, held⟩ := follows.consumed
    rw [previous?, follows.source, follows.start, offset, follows.cursor, held.offset,
      slice?_front held.range, Option.bind_some]
    exact held.previous.symm
  line := congrArg Point.line follows.cursor

theorem take (follows : window.Follows scanner) (emission : Emission) :
    (window.take (emission.inBytes scanner.rest)).1 = (scanner.take emission).1 ∧
      (window.take (emission.inBytes scanner.rest)).2.Follows (scanner.take emission).2 := by
  obtain ⟨consumed, held⟩ := follows.consumed
  have whole := follows.slice?_rest
  rw [← List.take_append_drop emission.width scanner.rest] at whole
  have text := slice?_front whole
  have width : (emission.inBytes scanner.rest).width =
      byteSize (scanner.rest.take emission.width) := rfl
  refine ⟨?_, ?_⟩
  · rw [Window.take, Scanner.take, width, text, Option.getD_some, Point.advance_offset, offset,
      follows.cursor]
    rfl
  · refine ⟨follows.source, follows.start, follows.stop, ?_, rfl, _, Scanner.consumed_take _ held⟩
    rw [Window.take, Scanner.take, width, text, Option.getD_some, follows.cursor]

theorem advance (follows : window.Follows scanner) :
    window.advance.1 = scanner.advance.1 ∧ window.advance.2.Follows scanner.advance.2 := by
  obtain ⟨consumed, held⟩ := follows.consumed
  have size := held.stop
  rw [← follows.stop, ← follows.cursor] at size
  cases shape : scanner.rest with
  | nil =>
    rw [shape, byteSize_nil, Nat.add_zero] at size
    have ended : window.stop ≤ window.offset := size.ge
    rw [Window.advance, if_pos ended, Scanner.advance_at_end _ shape, Window.eof, Scanner.eof,
      follows.stop, follows.cursor]
    exact ⟨rfl, follows.source, follows.start, follows.stop, follows.cursor, follows.state,
      consumed, held.range, held.cursor, held.previous⟩
  | cons head tail =>
    have positive := head.utf8Size_pos
    rw [shape, byteSize_cons] at size
    have inside : ¬window.stop ≤ window.offset := by
      rw [offset]
      omega
    rw [Window.advance, if_neg inside, Scanner.advance_of_rest shape,
      (follows.shows shape).emission_eq, follows.state, View.rest]
    have taken := follows.take (scanner.state.emission (scanner.viewOf head tail))
    rw [shape] at taken
    exact taken

theorem behind (follows : window.Follows scanner) (n : Nat) :
    (behind Window.advance window n).Follows (behind Scanner.advance scanner n) := by
  induction n with
  | zero => exact follows
  | succ n ih => exact ih.advance.2

theorem nth_eq (follows : window.Follows scanner) (n : Nat) :
    nth Window.advance window n = nth Scanner.advance scanner n :=
  (follows.behind n).advance.1

end Follows

theorem follows_ofRange {source part : Text} {start stop : Nat} (mode : Mode)
    (found : source.slice? start stop = some part) :
    (ofRange source start stop mode).Follows (Scanner.ofRange source start stop mode) :=
  ⟨rfl, rfl, rfl, rfl, rfl, [], Scanner.consumed_ofRange mode found⟩

end Window

end ClosureTemplate.Scan
