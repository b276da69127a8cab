import ClosureTemplate.Proofs.Number.Numeral
import ClosureTemplate.Proofs.Text.CharClass
import ClosureTemplate.Proofs.Scan.Passage

namespace ClosureTemplate

namespace Scan

open Text Number

inductive ContinuesFloat : Text → Prop
  | fraction {d : Char} {rest : Text} (digit : isDigit d = true) : ContinuesFloat ('.' :: d :: rest)
  | exponent {mark d : Char} {rest : Text} (isMark : mark = 'e' ∨ mark = 'E')
      (digit : isDigit d = true) : ContinuesFloat (mark :: d :: rest)
  | signed {mark sign d : Char} {rest : Text} (isMark : mark = 'e' ∨ mark = 'E')
      (isSign : sign = '+' ∨ sign = '-') (digit : isDigit d = true) :
      ContinuesFloat (mark :: sign :: d :: rest)

inductive ContinuesHex : Text → Prop
  | intro {mark d : Char} {rest : Text} (isMark : mark = 'x' ∨ mark = 'X')
      (digit : isHexDigit d = true) : ContinuesHex (mark :: d :: rest)

/-- What leads an integer literal, its radix, its digits, and the text behind it. -/
inductive IsLiteral : Text → Nat → Text → Text → Prop
  | decimal {digits rest : Text} (some : digits ≠ []) (all : ∀ c ∈ digits, isDigit c = true)
      (ends : ∀ c, rest.head? = .some c → isDigit c = false) (notFloat : ¬ContinuesFloat rest)
      (notHex : ¬(digits = ['0'] ∧ ContinuesHex rest)) : IsLiteral [] 10 digits rest
  | hex {mark : Char} {digits rest : Text} (isMark : mark = 'x' ∨ mark = 'X') (some : digits ≠ [])
      (all : ∀ c ∈ digits, isHexDigit c = true)
      (ends : ∀ c, rest.head? = .some c → isHexDigit c = false) : IsLiteral ['0', mark] 16 digits rest

section Lexemes

variable {c mark : Char} {cs digits rest lead : Text} {radix : Nat}

theorem fractionLength_eq_zero (notFloat : ¬ContinuesFloat rest) : fractionLength rest = 0 := by
  unfold fractionLength
  split
  · rw [if_pos]
    apply run_eq_zero
    rintro d ds rfl digit
    exact notFloat (.fraction digit)
  · rfl

theorem exponentLength_eq_zero (notFloat : ¬ContinuesFloat rest) : exponentLength rest = 0 := by
  unfold exponentLength
  split
  · next mark cs =>
    split
    · next isMark =>
      rw [Bool.or_eq_true, beq_iff_eq, beq_iff_eq] at isMark
      split
      · next sign ds =>
        split
        · next isSign =>
          rw [Bool.or_eq_true, beq_iff_eq, beq_iff_eq] at isSign
          rw [if_pos]
          apply run_eq_zero
          rintro d es rfl digit
          exact notFloat (.signed isMark isSign digit)
        · rw [if_pos]
          apply run_eq_zero
          rintro d es shape digit
          cases shape
          exact notFloat (.exponent isMark digit)
      · rfl
    · rfl
  · rfl

theorem hexLength_eq_zero (notHex : ¬ContinuesHex rest) : hexLength rest = 0 := by
  unfold hexLength
  split
  · next mark cs =>
    split
    · next isMark =>
      rw [Bool.or_eq_true, beq_iff_eq, beq_iff_eq] at isMark
      apply run_eq_zero
      rintro d ds rfl digit
      exact notHex (.intro isMark digit)
    · rfl
  · rfl

theorem ContinuesHex.isMark (continues : ContinuesHex (c :: rest)) : c = 'x' ∨ c = 'X' := by
  cases continues with
  | intro isMark => exact isMark

theorem not_continuesHex (all : ∀ d ∈ cs, isDigit d = true)
    (notHex : ¬('0' :: cs = ['0'] ∧ ContinuesHex rest)) : ¬ContinuesHex (cs ++ rest) := by
  intro continues
  cases cs with
  | nil => exact notHex ⟨rfl, continues⟩
  | cons d ds =>
    have digit := all d (List.mem_cons_self ..)
    rcases ContinuesHex.isMark continues with rfl | rfl <;> cases digit

theorem numberLexeme_decimal (all : ∀ d ∈ cs, isDigit d = true)
    (ends : ∀ d, rest.head? = some d → isDigit d = false) (notFloat : ¬ContinuesFloat rest)
    (notHex : ¬(c :: cs = ['0'] ∧ ContinuesHex rest)) :
    numberLexeme c (cs ++ rest) = (.decimal, (c :: cs).length) := by
  have plain : ¬(c = '0' && 0 < hexLength (cs ++ rest)) = true := by
    intro hex
    obtain ⟨zero, longer⟩ := Bool.and_eq_true_iff.mp hex
    rw [decide_eq_true_eq] at zero longer
    subst zero
    rw [hexLength_eq_zero (not_continuesHex all notHex)] at longer
    cases longer
  rw [numberLexeme, if_neg plain]
  simp only [dropWhile_append_of_stop all ends, fractionLength_eq_zero notFloat, List.drop_zero,
    exponentLength_eq_zero notFloat, run_append all ends, if_pos, List.length_cons]
  rw [Nat.add_comm]

theorem numberLexeme_hex (isMark : mark = 'x' ∨ mark = 'X') (some : digits ≠ [])
    (all : ∀ d ∈ digits, isHexDigit d = true)
    (ends : ∀ d, rest.head? = .some d → isHexDigit d = false) :
    numberLexeme '0' (mark :: (digits ++ rest)) = (.hex, digits.length + 2) := by
  have length : hexLength (mark :: (digits ++ rest)) = digits.length := by
    have marked : (mark == 'x' || mark == 'X') = true := by
      rcases isMark with rfl | rfl <;> rfl
    rw [hexLength, if_pos marked, run_append all ends]
  have present : ('0' = '0' && 0 < digits.length) = true := by
    simpa using List.length_pos_iff.mpr some
  rw [numberLexeme, length, if_pos present, Nat.add_comm]

theorem tagLexeme?_of_digit (digit : isDigit c = true) :
    tagLexeme? c cs = some (numberLexeme c cs) := by
  rw [tagLexeme?, isTagBlank_of_isDigit digit, isNameStart_of_isDigit digit, digit]
  rfl

theorem IsLiteral.lexeme (literal : IsLiteral lead radix digits rest)
    (shape : c :: cs = lead ++ digits ++ rest) :
    lead = [] ∧ radix = 10 ∧ tagLexeme? c cs = some (.decimal, (lead ++ digits).length) ∨
      lead.length = 2 ∧ radix = 16 ∧ tagLexeme? c cs = some (.hex, (lead ++ digits).length) := by
  cases literal with
  | decimal present all ends notFloat notHex =>
    left
    obtain ⟨d, ds, rfl⟩ := List.exists_cons_of_ne_nil present
    obtain ⟨rfl, rfl⟩ := List.cons.inj shape
    have others : ∀ e ∈ ds, isDigit e = true := fun e member => all e (List.mem_cons_of_mem c member)
    rw [tagLexeme?_of_digit (all c (List.mem_cons_self ..))]
    exact ⟨rfl, rfl, congrArg some (numberLexeme_decimal others ends notFloat notHex)⟩
  | hex isMark present all ends =>
    right
    obtain ⟨rfl, rfl⟩ := List.cons.inj shape
    rw [tagLexeme?_of_digit rfl]
    exact ⟨rfl, rfl, congrArg some (numberLexeme_hex isMark present all ends)⟩

theorem IsLiteral.ne_nil (literal : IsLiteral lead radix digits rest) : lead ++ digits ≠ [] := by
  cases literal with
  | decimal present => exact present
  | hex => exact List.cons_ne_nil _ _

theorem IsLiteral.exists_isNumeral (literal : IsLiteral lead radix digits rest) :
    ∃ value, IsNumeral radix digits value := by
  apply Number.exists_isNumeral
  cases literal with
  | decimal _ all => exact fun c member => exists_denotes_of_isDigit (all c member)
  | hex _ _ all => exact fun c member => exists_denotes_of_isHexDigit (all c member)

theorem State.scanExpression_of_literal (state : State) (view : View)
    (literal : IsLiteral lead radix digits rest) (shape : view.rest = lead ++ digits ++ rest) :
    state.scanExpression view =
      state.integerLiteral radix digits (lead ++ digits).length := by
  have whole : view.rest.take (lead ++ digits).length = lead ++ digits := by
    rw [shape]
    exact List.take_left
  unfold State.scanExpression
  rcases literal.lexeme shape with ⟨rfl, rfl, lexeme⟩ | ⟨two, rfl, lexeme⟩
  · rw [List.nil_append] at whole lexeme ⊢
    rw [lexeme]
    simp only [whole]
  · rw [lexeme]
    simp only [whole, ← two, List.drop_left]

end Lexemes

namespace Scanner

/-- The scanner is in front of a literal that it reads as a part of an expression. -/
structure MeetsLiteral (scanner : Scanner) (lead : Text) (radix : Nat) (digits : Text) : Prop where
  mode : scanner.settled.mode = .expression
  literal : ∃ rest, scanner.rest = lead ++ digits ++ rest ∧ IsLiteral lead radix digits rest

/-- The next token is the literal. It carries the number, or tells that the number is too large. -/
structure ReadsInteger (scanner : Scanner) (source lead : Text) (radix : Nat) (digits : Text) :
    Prop where
  text : scanner.advance.1.text = lead ++ digits
  start : scanner.advance.1.start = scanner.cursor.offset
  slice : source.slice? scanner.advance.1.start scanner.advance.1.stop = some (lead ++ digits)
  denotes : ∃ value, IsNumeral radix digits value
  fits : ∀ value, IsNumeral radix digits value → value ≤ 2 ^ 63 - 1 →
    scanner.advance.1.kind = .integerLiteral ∧ scanner.advance.1.value = some (.integer value)
  overflows : ∀ value, IsNumeral radix digits value → 2 ^ 63 - 1 < value →
    scanner.advance.1.kind = .invalidInteger ∧ scanner.advance.1.value = none

variable {source lead digits : Text} {radix start stop : Nat} {scanner : Scanner}

theorem MeetsLiteral.rest_ne_nil (meets : scanner.MeetsLiteral lead radix digits) :
    scanner.rest ≠ [] := by
  obtain ⟨rest, shape, literal⟩ := meets.literal
  rw [shape]
  exact List.append_ne_nil_of_left_ne_nil literal.ne_nil rest

theorem MeetsLiteral.readsInteger (meets : scanner.MeetsLiteral lead radix digits)
    (onRange : scanner.OnRange source start stop) :
    scanner.ReadsInteger source lead radix digits := by
  have more := meets.rest_ne_nil
  obtain ⟨rest, shape, literal⟩ := meets.literal
  obtain ⟨head, tail, split⟩ := List.exists_cons_of_ne_nil more
  have reads : scanner.advance = scanner.take
      (scanner.settled.integerLiteral radix digits (lead ++ digits).length) := by
    apply advance_of_settled split
    simp only [State.move, meets.mode]
    rw [State.scanExpression_of_literal _ (scanner.viewOf head tail) literal
      (split.symm.trans shape)]
  have text : scanner.advance.1.text = lead ++ digits := by
    rw [reads]
    simp only [take, State.integerLiteral_width, shape]
    exact List.take_left
  obtain ⟨consumed, held⟩ := onRange.consumed
  have piece := advance_isPieceOf held more
  rw [onRange.source] at piece
  refine ⟨text, (advance_symbol_start more).1, text ▸ piece.text, literal.exists_isNumeral, ?_, ?_⟩
  · intro value numeral fits
    rw [reads, State.integerLiteral, ofDigits?_eq_some_iff.mpr ⟨numeral, fits⟩]
    exact ⟨rfl, rfl⟩
  · intro value numeral overflows
    have tooLarge : ofDigits? radix digits = none := by
      cases read : ofDigits? radix digits with
      | none => rfl
      | some other =>
        obtain ⟨also, fits⟩ := ofDigits?_eq_some_iff.mp read
        rw [numeral.unique also] at overflows
        exact absurd fits (Nat.not_le_of_lt overflows)
    rw [reads, State.integerLiteral, tooLarge]
    exact ⟨rfl, rfl⟩

theorem getElem?_drain_of_rest {n : Nat} (more : (behind Scanner.advance scanner n).rest ≠ []) :
    scanner.drain.1[n]? = some (nth Scanner.advance scanner n) := by
  have yields := scanner.yields_drain
  apply yields.token
  apply Nat.lt_of_not_le
  intro outside
  have ended := congrArg Symbol.kind (yields.ended n outside)
  exact more (advance_kind.mp ended)

end Scanner

/-- Reading digits is exact in every radix, with any number of zeros before them. So every integer
literal that is met in an expression, at any moment of any scan, is one token that carries its
number, or none at all if that is too large. -/
theorem integer_literals_are_exact :
    (∀ radix digits, 2 ≤ radix → radix ≤ 36 →
      (∃ answer, Number.parse digits radix = .ok answer) ∧
      (∀ value, Number.parse digits radix = .ok (some value) ↔
        IsNumeral radix digits value ∧ value ≤ 2 ^ 63 - 1) ∧
      ∀ zeros, Number.parse (List.replicate zeros '0' ++ digits) radix =
        Number.parse digits radix) ∧
    ∀ (source : Text) start stop mode, start ≤ stop → source.isBoundary start = true →
      source.isBoundary stop = true →
      ∃ scanner symbols, Scanner.bind source start stop mode = .ok scanner ∧
        tokenizeRange source start stop mode = .ok symbols ∧
        ∀ n lead radix digits,
          (behind Scanner.advance scanner n).MeetsLiteral lead radix digits →
          symbols[n]? = some (nth Scanner.advance scanner n) ∧
            (behind Scanner.advance scanner n).ReadsInteger source lead radix digits := by
  constructor
  · intro radix digits least most
    have valid : isRadix radix = true := by
      rw [isRadix, decide_eq_true least, decide_eq_true most]
      rfl
    refine ⟨⟨_, parse_of_isRadix valid⟩, fun value => ?_, fun zeros => ?_⟩
    · rw [parse_of_isRadix valid, Except.ok.injEq, ofDigits?_eq_some_iff]
      rfl
    · rw [parse_of_isRadix valid, parse_of_isRadix valid, ofDigits?_zeros_append (by omega)]
  · intro source start stop mode ordered startBoundary stopBoundary
    obtain ⟨scanner, accepted⟩ := Scanner.exists_bind mode ordered startBoundary stopBoundary
    refine ⟨scanner, scanner.drain.1, accepted, ?_, ?_⟩
    · rw [tokenizeRange, accepted]
      rfl
    · intro n lead radix digits meets
      exact ⟨Scanner.getElem?_drain_of_rest meets.rest_ne_nil,
        meets.readsInteger ((Scanner.onRange_of_bind accepted).behind n)⟩

/-- The least number that is too large is still one token, behind its prefix. -/
theorem integer_literals_are_exact_overflow :
    (∀ value, Number.parse "7fffffffffffffff".toList 16 = .ok (some value) ↔
      IsNumeral 16 "7fffffffffffffff".toList value ∧ value ≤ 2 ^ 63 - 1) ∧
    ∃ scanner symbols,
      Scanner.bind "\x7b0x8000000000000000\x7d".toList 0 20 .templateText = .ok scanner ∧
      tokenizeRange "\x7b0x8000000000000000\x7d".toList 0 20 .templateText = .ok symbols ∧
      symbols[1]? = some (nth Scanner.advance scanner 1) ∧
      (behind Scanner.advance scanner 1).ReadsInteger "\x7b0x8000000000000000\x7d".toList
        "0x".toList 16 "8000000000000000".toList := by
  refine ⟨(integer_literals_are_exact.1 16 _ (by decide) (by decide)).2.1, ?_⟩
  obtain ⟨scanner, symbols, accepted, tokens, literals⟩ :=
    integer_literals_are_exact.2 "\x7b0x8000000000000000\x7d".toList 0 20 .templateText (by decide)
      (by decide) (by decide)
  refine ⟨scanner, symbols, accepted, tokens, ?_⟩
  obtain ⟨-, rfl⟩ := Scanner.bind_eq_ok_iff.mp accepted
  apply literals
  refine ⟨by decide, ['\x7d'], rfl, .hex (.inl rfl) (by decide) (List.all_eq_true.mp rfl) ?_⟩
  rintro c head
  cases head
  rfl

end Scan

end ClosureTemplate
