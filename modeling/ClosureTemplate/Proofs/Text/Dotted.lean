import ClosureTemplate.Proofs.Text.Basic
import ClosureTemplate.Proofs.Text.CharClass

namespace ClosureTemplate.Text

inductive IsDotted : Text → Prop
  | word {name : Text} (identifier : name.isIdentifier = true) : IsDotted name
  | dotted {word name : Text} (identifier : word.isIdentifier = true) (others : IsDotted name) :
      IsDotted (word ++ '.' :: name)

variable {text word name rest : Text}

theorem length_le_identifierLength (identifier : word.isIdentifier = true) (rest : Text) :
    word.length ≤ identifierLength (word ++ rest) := by
  cases word with
  | nil => cases identifier
  | cons c cs =>
    obtain ⟨starts, continues⟩ := Bool.and_eq_true_iff.mp identifier
    have inner : cs.length ≤ run isNameChar (cs ++ rest) := by
      rw [run, List.takeWhile_append_of_pos (List.all_eq_true.mp continues), List.length_append]
      exact Nat.le_add_right ..
    rw [List.cons_append, identifierLength, if_pos starts, List.length_cons]
    omega

theorem identifierLength_append (identifier : word.isIdentifier = true)
    (ends : ∀ c, rest.head? = some c → isNameChar c = false) :
    identifierLength (word ++ rest) = word.length := by
  cases word with
  | nil => cases identifier
  | cons c cs =>
    obtain ⟨starts, continues⟩ := Bool.and_eq_true_iff.mp identifier
    have inner := run_append (List.all_eq_true.mp continues) ends
    rw [List.cons_append, identifierLength, if_pos starts, inner, List.length_cons, Nat.add_comm]

theorem exists_identifier (present : identifierLength text ≠ 0) :
    ∃ word rest, text = word ++ rest ∧ word.isIdentifier = true ∧
      word.length = identifierLength text := by
  cases text with
  | nil => exact absurd rfl present
  | cons c cs =>
    by_cases starts : isNameStart c = true
    · refine ⟨c :: cs.takeWhile isNameChar, cs.dropWhile isNameChar, ?_, ?_, ?_⟩
      · rw [List.cons_append, List.takeWhile_append_dropWhile]
      · rw [isIdentifier, starts, Bool.true_and]
        exact List.all_takeWhile
      · rw [identifierLength, if_pos starts, List.length_cons, run, Nat.add_comm]
    · exact absurd (if_neg starts) present

theorem dottedLength_append (identifier : word.isIdentifier = true)
    (ends : ∀ c, rest.head? = some c → isNameChar c = false) :
    dottedLength (word ++ rest) = word.length + segmentsLength rest := by
  have present := List.length_pos_iff.mpr (ne_nil_of_isIdentifier identifier)
  simp only [dottedLength, identifierLength_append identifier ends, List.drop_left]
  exact if_neg (Nat.ne_of_gt present)

theorem segmentsLength_dot (present : identifierLength text ≠ 0) :
    segmentsLength ('.' :: text) =
      1 + identifierLength text + segmentsLength (text.drop (identifierLength text)) := by
  rw [segmentsLength]
  exact if_neg present

theorem segmentsLength_cases (text : Text) : segmentsLength text = 0 ∨
    ∃ name rest, text = '.' :: (name ++ rest) ∧ IsDotted name ∧
      segmentsLength text = 1 + name.length := by
  fun_induction segmentsLength text with
  | case1 => exact .inl rfl
  | case2 cs width present ih =>
    obtain ⟨word, rest, rfl, identifier, length⟩ := exists_identifier present
    have behind : (word ++ rest).drop width = rest := by
      rw [show width = word.length from length.symm, List.drop_left]
    rw [behind] at ih ⊢
    rcases ih with none | ⟨name, others, rfl, dotted, size⟩
    · refine .inr ⟨word, rest, rfl, .word identifier, ?_⟩
      omega
    · refine .inr ⟨word ++ '.' :: name, others, by simp, .dotted identifier dotted, ?_⟩
      rw [List.length_append, List.length_cons]
      omega
  | case3 => exact .inl rfl

theorem IsDotted.ne_nil (dotted : IsDotted name) : name ≠ [] := by
  cases dotted with
  | word identifier => exact ne_nil_of_isIdentifier identifier
  | dotted identifier others => simp

theorem IsDotted.length_le_segmentsLength (dotted : IsDotted name) (rest : Text) :
    1 + name.length ≤ segmentsLength ('.' :: (name ++ rest)) := by
  induction dotted with
  | @word name identifier =>
    have fits := length_le_identifierLength identifier rest
    have positive := List.length_pos_iff.mpr (ne_nil_of_isIdentifier identifier)
    rw [segmentsLength_dot (by omega)]
    omega
  | @dotted word name identifier others ih =>
    have positive := List.length_pos_iff.mpr (ne_nil_of_isIdentifier identifier)
    have width : identifierLength (word ++ '.' :: (name ++ rest)) = word.length := by
      apply identifierLength_append identifier
      rintro c ⟨⟩
      rfl
    rw [List.append_assoc, List.cons_append, segmentsLength_dot (by omega), width, List.drop_left,
      List.length_append, List.length_cons]
    omega

theorem isDotted_take (found : dottedLength text ≠ 0) :
    IsDotted (text.take (dottedLength text)) := by
  have present : identifierLength text ≠ 0 := fun none => found (if_pos none)
  obtain ⟨word, rest, rfl, identifier, length⟩ := exists_identifier present
  have size : dottedLength (word ++ rest) = word.length + segmentsLength rest := by
    rw [dottedLength, ← length, List.drop_left, if_neg (length ▸ present)]
  rw [size, List.take_length_add_append]
  rcases segmentsLength_cases rest with none | ⟨name, others, rfl, dotted, segments⟩
  · rw [none, List.take_zero, List.append_nil]
    exact .word identifier
  · rw [segments, Nat.add_comm, List.take_succ_cons, List.take_left]
    exact .dotted identifier dotted

theorem IsDotted.length_le (dotted : IsDotted name) (begins : name <+: text) :
    name.length ≤ dottedLength text := by
  obtain ⟨rest, rfl⟩ := begins
  cases dotted with
  | word identifier =>
    have fits := length_le_identifierLength identifier rest
    have positive := List.length_pos_iff.mpr (ne_nil_of_isIdentifier identifier)
    rw [dottedLength, if_neg (by omega)]
    omega
  | @dotted word name identifier others =>
    have fits := others.length_le_segmentsLength rest
    rw [List.append_assoc, List.cons_append, dottedLength_append identifier, List.length_append,
      List.length_cons]
    · omega
    · rintro c ⟨⟩
      rfl

/-- The name that is read is dotted, and no longer one is there. -/
theorem take_dottedLength_eq_iff (found : dottedLength text ≠ 0) :
    text.take (dottedLength text) = name ↔ IsDotted name ∧ name <+: text ∧
      ∀ other, IsDotted other → other <+: text → other.length ≤ name.length := by
  have whole : (text.take (dottedLength text)).length = dottedLength text :=
    List.length_take_of_le (dottedLength_le text)
  constructor
  · rintro rfl
    refine ⟨isDotted_take found, List.take_prefix .., fun other dotted begins => ?_⟩
    rw [whole]
    exact dotted.length_le begins
  · rintro ⟨dotted, begins, longest⟩
    have shorter := longest _ (isDotted_take found) (List.take_prefix ..)
    have longer := dotted.length_le begins
    rw [whole] at shorter
    rw [Nat.le_antisymm shorter longer]
    exact (List.prefix_iff_eq_take.mp begins).symm

end ClosureTemplate.Text
