import ClosureTemplate.Number.Digits
import ClosureTemplate.Proofs.Text.CharClass
import Mathlib.Data.List.Forall2
import Mathlib.Data.List.Induction
import Mathlib.Data.Nat.Digits.Defs

/-!
Digit strings and the numbers they denote in positional notation (`IsNumeral`). Reading checks the
bound at every digit; no check fires early, because a number is at least as large as each of its
fronts (`ofDigits?_eq_some_iff`).
-/

namespace ClosureTemplate.Number

def lowerDigits : Text := "0123456789abcdefghijklmnopqrstuvwxyz".toList

def upperDigits : Text := "0123456789ABCDEFGHIJKLMNOPQRSTUVWXYZ".toList

def Denotes (radix : Nat) (c : Char) (value : Nat) : Prop :=
  value < radix ∧ (lowerDigits[value]? = some c ∨ upperDigits[value]? = some c)

/-- Digits denote a number in positional notation, the last one first. -/
def IsNumeral (radix : Nat) (digits : Text) (value : Nat) : Prop :=
  ∃ ranks, List.Forall₂ (Denotes radix) digits.reverse ranks ∧ Nat.ofDigits radix ranks = value

variable {radix value total : Nat} {c : Char} {digits : Text}

theorem getElem?_of_codes {order : Text} {rank code count : Nat}
    (every : ∀ place < count, order[place + rank]? = some (Char.ofNat (code + place)))
    (least : code ≤ c.toNat) (most : c.toNat < code + count) :
    order[c.toNat - code + rank]? = some c := by
  have here := every (c.toNat - code) (by omega)
  rw [Nat.add_sub_cancel' least, Char.ofNat_toNat] at here
  exact here

theorem digitRank?_of_getElem? {order : Text}
    (every : ∀ rank < order.length, order[rank]?.bind digitRank? = some rank)
    (found : order[value]? = some c) : digitRank? c = some value := by
  have here := every value (List.getElem?_eq_some_iff.mp found).1
  rw [found, Option.bind_some] at here
  exact here

theorem digitRank?_eq_some_iff :
    digitRank? c = some value ↔ lowerDigits[value]? = some c ∨ upperDigits[value]? = some c := by
  constructor
  · intro found
    unfold digitRank? at found
    split at found
    · next digit =>
      obtain ⟨least, most⟩ := Text.toNat_of_isDigit digit
      cases found
      exact .inl (@getElem?_of_codes c lowerDigits 0 48 10 (by decide) least (by omega))
    split at found
    · next lower =>
      obtain ⟨least, most⟩ := Bool.and_eq_true_iff.mp lower
      cases found
      exact .inl (@getElem?_of_codes c lowerDigits 10 97 26 (by decide) (of_decide_eq_true least)
        (Nat.lt_succ_of_le (of_decide_eq_true most)))
    split at found
    · next upper =>
      have bounds : 65 ≤ c.toNat ∧ c.toNat ≤ 90 := of_decide_eq_true upper
      cases found
      exact .inr (@getElem?_of_codes c upperDigits 10 65 26 (by decide) bounds.1
        (Nat.lt_succ_of_le bounds.2))
    · cases found
  · rintro (found | found)
    · exact digitRank?_of_getElem? (by decide) found
    · exact digitRank?_of_getElem? (by decide) found

theorem digit?_eq_some_iff : digit? radix c = some value ↔ Denotes radix c value := by
  rw [digit?, Option.filter_eq_some_iff, digitRank?_eq_some_iff, decide_eq_true_eq, Denotes,
    and_comm]

theorem Denotes.unique {other : Nat} (denotes : Denotes radix c value)
    (also : Denotes radix c other) : value = other := by
  rw [← digit?_eq_some_iff] at denotes also
  exact Option.some.inj (denotes.symm.trans also)

theorem exists_denotes_of_class {test : Char → Bool} {bound : Nat} (passed : test c = true)
    (below : c.toNat < bound) (every : ∀ code < bound, test (Char.ofNat code) = true →
      (digit? radix (Char.ofNat code)).isSome = true) : ∃ value, Denotes radix c value := by
  have here := every c.toNat below
  rw [Char.ofNat_toNat] at here
  obtain ⟨value, found⟩ := Option.isSome_iff_exists.mp (here passed)
  exact ⟨value, digit?_eq_some_iff.mp found⟩

theorem exists_denotes_of_isDigit (digit : Text.isDigit c = true) :
    ∃ value, Denotes 10 c value :=
  exists_denotes_of_class digit (Nat.lt_succ_of_le (Text.toNat_of_isDigit digit).2) (by decide)

theorem exists_denotes_of_isHexDigit (digit : Text.isHexDigit c = true) :
    ∃ value, Denotes 16 c value :=
  exists_denotes_of_class digit (Nat.lt_succ_of_le (Text.toNat_of_isHexDigit digit)) (by decide)

theorem isNumeral_nil : IsNumeral radix [] value ↔ value = 0 := by
  constructor
  · rintro ⟨ranks, none, rfl⟩
    cases none
    rfl
  · rintro rfl
    exact ⟨[], .nil, rfl⟩

theorem isNumeral_concat : IsNumeral radix (digits ++ [c]) value ↔
    ∃ total digit, IsNumeral radix digits total ∧ Denotes radix c digit ∧
      total * radix + digit = value := by
  constructor
  · rintro ⟨ranks, each, rfl⟩
    rw [List.reverse_concat] at each
    cases each with
    | @cons _ digit _ ranks last others =>
      refine ⟨_, digit, ⟨ranks, others, rfl⟩, last, ?_⟩
      rw [Nat.ofDigits_cons, Nat.mul_comm, Nat.add_comm]
  · rintro ⟨total, digit, ⟨ranks, each, rfl⟩, last, rfl⟩
    refine ⟨digit :: ranks, ?_, ?_⟩
    · rw [List.reverse_concat]
      exact .cons last each
    · rw [Nat.ofDigits_cons, Nat.mul_comm, Nat.add_comm]

theorem IsNumeral.unique {other : Nat} (numeral : IsNumeral radix digits value)
    (also : IsNumeral radix digits other) : value = other := by
  obtain ⟨ranks, each, rfl⟩ := numeral
  obtain ⟨others, same, rfl⟩ := also
  rw [List.right_unique_forall₂' (fun _ _ _ denotes again => denotes.unique again) each same]

theorem exists_isNumeral (every : ∀ c ∈ digits, ∃ digit, Denotes radix c digit) :
    ∃ value, IsNumeral radix digits value := by
  induction digits using List.reverseRecOn with
  | nil => exact ⟨0, isNumeral_nil.mpr rfl⟩
  | append_singleton digits c ih =>
    obtain ⟨total, front⟩ := ih fun d member => every d (List.mem_append_left _ member)
    obtain ⟨digit, last⟩ := every c (by simp)
    exact ⟨_, isNumeral_concat.mpr ⟨total, digit, front, last, rfl⟩⟩

theorem checked?_eq_some_iff : checked? total = some value ↔ total = value ∧ value ≤ maxInteger := by
  unfold checked?
  split
  · next fits =>
    rw [Option.some.injEq]
    constructor
    · rintro rfl
      exact ⟨rfl, fits⟩
    · exact fun result => result.1
  · next tooLarge =>
    refine iff_of_false nofun ?_
    rintro ⟨rfl, fits⟩
    exact tooLarge fits

/-- The check of the sum decides, since the product is at most the sum. -/
theorem pushDigit?_eq_some_iff : pushDigit? radix total c = some value ↔
    ∃ digit, Denotes radix c digit ∧ total * radix + digit = value ∧ value ≤ maxInteger := by
  simp only [pushDigit?, Option.bind_eq_bind, Option.bind_eq_some_iff, digit?_eq_some_iff,
    checked?_eq_some_iff]
  constructor
  · rintro ⟨digit, denotes, product, ⟨rfl, -⟩, sum, fits⟩
    exact ⟨digit, denotes, sum, fits⟩
  · rintro ⟨digit, denotes, sum, fits⟩
    exact ⟨digit, denotes, _, ⟨rfl, by omega⟩, sum, fits⟩

theorem ofDigits?_concat (radix : Nat) (digits : Text) (c : Char) :
    ofDigits? radix (digits ++ [c]) =
      (ofDigits? radix digits).bind fun total => pushDigit? radix total c := by
  rw [ofDigits?, List.foldlM_append]
  simp [ofDigits?]

theorem ofDigits?_eq_some_iff :
    ofDigits? radix digits = some value ↔ IsNumeral radix digits value ∧ value ≤ maxInteger := by
  induction digits using List.reverseRecOn generalizing value with
  | nil =>
    rw [isNumeral_nil]
    constructor
    · intro read
      cases read
      exact ⟨rfl, Nat.zero_le _⟩
    · rintro ⟨rfl, -⟩
      rfl
  | append_singleton digits c ih =>
    rw [ofDigits?_concat, Option.bind_eq_some_iff, isNumeral_concat]
    constructor
    · rintro ⟨total, front, pushed⟩
      obtain ⟨digit, last, sum, fits⟩ := pushDigit?_eq_some_iff.mp pushed
      exact ⟨⟨total, digit, (ih.mp front).1, last, sum⟩, fits⟩
    · rintro ⟨⟨total, digit, front, last, sum⟩, fits⟩
      -- a digit below the radix is there, so the front is at most the whole
      have grows : total ≤ total * radix :=
        Nat.le_mul_of_pos_right total (Nat.zero_lt_of_lt last.1)
      exact ⟨total, ih.mpr ⟨front, by omega⟩,
        pushDigit?_eq_some_iff.mpr ⟨digit, last, sum, fits⟩⟩

theorem parse_of_isRadix (valid : isRadix radix = true) :
    parse digits radix = .ok (ofDigits? radix digits) := by
  rw [parse, valid, Bool.or_true, if_pos rfl]

theorem ofDigits?_zeros (positive : 0 < radix) (zeros : Nat) :
    ofDigits? radix (List.replicate zeros '0') = some 0 := by
  induction zeros with
  | zero => rfl
  | succ zeros ih =>
    rw [List.replicate_succ', ofDigits?_concat, ih, Option.bind_some, pushDigit?_eq_some_iff]
    exact ⟨0, ⟨positive, .inl rfl⟩, by omega, Nat.zero_le _⟩

theorem ofDigits?_zeros_append (positive : 0 < radix) (zeros : Nat) (digits : Text) :
    ofDigits? radix (List.replicate zeros '0' ++ digits) = ofDigits? radix digits := by
  have front := ofDigits?_zeros positive zeros
  unfold ofDigits? at front ⊢
  rw [List.foldlM_append, front]
  rfl

end ClosureTemplate.Number
