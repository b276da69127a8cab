import ClosureTemplate.Text.Blank
import ClosureTemplate.Text.Identifier

namespace ClosureTemplate.Text

theorem toNat_of_isDigit {c : Char} (digit : isDigit c = true) : 48 ≤ c.toNat ∧ c.toNat ≤ 57 := by
  obtain ⟨first, last⟩ := Bool.and_eq_true_iff.mp digit
  exact ⟨of_decide_eq_true first, of_decide_eq_true last⟩

theorem toNat_of_isHexDigit {c : Char} (digit : isHexDigit c = true) : c.toNat ≤ 102 := by
  rcases Bool.or_eq_true_iff.mp digit with others | upper
  · rcases Bool.or_eq_true_iff.mp others with digit | lower
    · exact Nat.le_trans (toNat_of_isDigit digit).2 (by decide)
    · exact of_decide_eq_true (Bool.and_eq_true_iff.mp lower).2
  · have high : c.toNat ≤ 70 := of_decide_eq_true (Bool.and_eq_true_iff.mp upper).2
    omega

theorem toNat_of_isNameStart {c : Char} (starts : isNameStart c = true) :
    65 ≤ c.toNat ∧ c.toNat ≤ 122 := by
  rw [isNameStart, Bool.or_eq_true, beq_iff_eq] at starts
  rcases starts with letter | rfl
  · have cased : c.isUpper = true ∨ c.isLower = true := Bool.or_eq_true_iff.mp letter
    rcases cased with upper | lower
    · have bounds : 'A'.val ≤ c.val ∧ c.val ≤ 'Z'.val := of_decide_eq_true upper
      exact ⟨bounds.1, Nat.le_trans bounds.2 (by decide)⟩
    · obtain ⟨first, last⟩ := Bool.and_eq_true_iff.mp lower
      have bounds : 'a'.val ≤ c.val ∧ c.val ≤ 'z'.val :=
        ⟨of_decide_eq_true first, of_decide_eq_true last⟩
      exact ⟨Nat.le_trans (by decide) bounds.1, bounds.2⟩
  · decide

theorem isBlank_of_isNameStart {c : Char} (starts : isNameStart c = true) : isBlank c = false := by
  have bounds := toNat_of_isNameStart starts
  simp [isBlank]
  omega

theorem isBlank_of_isDigit {c : Char} (digit : isDigit c = true) : isBlank c = false := by
  have bounds := toNat_of_isDigit digit
  simp [isBlank]
  omega

theorem isBlank_of_isNameChar {c : Char} (name : isNameChar c = true) : isBlank c = false := by
  rcases Bool.or_eq_true_iff.mp name with starts | digit
  · exact isBlank_of_isNameStart starts
  · exact isBlank_of_isDigit digit

theorem isTagBlank_of_isDigit {c : Char} (digit : isDigit c = true) : isTagBlank c = false := by
  cases blank : isTagBlank c with
  | false => rfl
  | true =>
    have isBlank := isBlank_of_isTagBlank blank
    rw [isBlank_of_isDigit digit] at isBlank
    cases isBlank

theorem isNameStart_of_isDigit {c : Char} (digit : isDigit c = true) : isNameStart c = false := by
  cases starts : isNameStart c with
  | false => rfl
  | true =>
    have above := toNat_of_isNameStart starts
    have below := toNat_of_isDigit digit
    omega

theorem isNameChar_of_mem {word : Text} (identifier : word.isIdentifier = true) {c : Char}
    (member : c ∈ word) : isNameChar c = true := by
  cases word with
  | nil => cases identifier
  | cons d ds =>
    obtain ⟨starts, continues⟩ := Bool.and_eq_true_iff.mp identifier
    rcases List.mem_cons.mp member with rfl | later
    · exact Bool.or_eq_true_iff.mpr (.inl starts)
    · exact List.all_eq_true.mp continues c later

theorem ne_nil_of_isIdentifier {word : Text} (identifier : word.isIdentifier = true) :
    word ≠ [] := by
  rintro rfl
  cases identifier

theorem isNameStart_head {word : Text} {c : Char} (identifier : word.isIdentifier = true)
    (head : word.head? = some c) : isNameStart c = true := by
  obtain ⟨cs, rfl⟩ := List.head?_eq_some_iff.mp head
  exact (Bool.and_eq_true_iff.mp identifier).1

end ClosureTemplate.Text
