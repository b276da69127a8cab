import ClosureTemplate.Text.Identifier
import ClosureTemplate.Text.Slice

namespace ClosureTemplate.Text

theorem run_le (test : Char → Bool) (text : Text) : run test text ≤ text.length :=
  (List.takeWhile_sublist test).length_le

theorem run_add_dropWhile (test : Char → Bool) (text : Text) :
    run test text + (text.dropWhile test).length = text.length := by
  unfold run
  rw [← List.length_append, List.takeWhile_append_dropWhile]

theorem head_dropWhile {test : Char → Bool} {text : Text} {c : Char}
    (found : (text.dropWhile test).head? = some c) : test c = false := by
  have stopped := List.head?_dropWhile_not test text
  rw [found] at stopped
  exact stopped

theorem takeWhile_append_of_stop {test : Char → Bool} {word rest : Text}
    (all : ∀ c ∈ word, test c = true) (stops : ∀ c, rest.head? = some c → test c = false) :
    (word ++ rest).takeWhile test = word := by
  have none : rest.takeWhile test = [] := by
    cases rest with
    | nil => rfl
    | cons c cs => simp [stops c rfl]
  rw [List.takeWhile_append_of_pos all, none, List.append_nil]

theorem dropWhile_append_of_stop {test : Char → Bool} {word rest : Text}
    (all : ∀ c ∈ word, test c = true) (stops : ∀ c, rest.head? = some c → test c = false) :
    (word ++ rest).dropWhile test = rest := by
  have split := @List.takeWhile_append_dropWhile _ test (word ++ rest)
  rw [takeWhile_append_of_stop all stops] at split
  exact List.append_cancel_left split

theorem run_append {test : Char → Bool} {word rest : Text} (all : ∀ c ∈ word, test c = true)
    (ends : ∀ c, rest.head? = some c → test c = false) : run test (word ++ rest) = word.length := by
  rw [run, takeWhile_append_of_stop all ends]

theorem take_run (test : Char → Bool) (text : Text) :
    text.take (run test text) = text.takeWhile test :=
  (List.prefix_iff_eq_take.mp (List.takeWhile_prefix test)).symm

theorem drop_run (test : Char → Bool) (text : Text) :
    text.drop (run test text) = text.dropWhile test := by
  have split := List.take_append_drop (run test text) text
  rw [take_run] at split
  exact List.append_cancel_left (split.trans List.takeWhile_append_dropWhile.symm)

theorem run_eq_zero {test : Char → Bool} {text : Text}
    (stops : ∀ c cs, text = c :: cs → test c ≠ true) : run test text = 0 := by
  cases text with
  | nil => rfl
  | cons c cs => rw [run, List.takeWhile_cons_of_neg (stops c cs rfl), List.length_nil]

theorem all_of_run {test : Char → Bool} {text : Text} (whole : text.length ≤ run test text) :
    ∀ c ∈ text, test c = true := by
  have same := (List.takeWhile_prefix test).eq_of_length_le whole
  rw [← same]
  exact List.all_eq_true.mp List.all_takeWhile

theorem all_take_identifierLength (text : Text) :
    ∀ c ∈ text.take (identifierLength text), isNameChar c = true := by
  cases text with
  | nil => simp
  | cons c cs =>
    simp only [identifierLength]
    split
    · next starts =>
      rw [Nat.add_comm, List.take_succ_cons, take_run]
      intro d member
      rcases List.mem_cons.mp member with rfl | later
      · simp [isNameChar, starts]
      · exact List.all_eq_true.mp List.all_takeWhile d later
    · simp

theorem identifierLength_le (text : Text) : identifierLength text ≤ text.length := by
  cases text with
  | nil => exact Nat.le_refl 0
  | cons c cs =>
    have fits := run_le isNameChar cs
    simp only [identifierLength, List.length_cons]
    split <;> omega

theorem segmentsLength_le (text : Text) : segmentsLength text ≤ text.length := by
  fun_induction segmentsLength text with
  | case1 => exact Nat.zero_le _
  | case2 cs width present ih =>
    have fits : width ≤ cs.length := identifierLength_le cs
    simp only [List.length_drop, List.length_cons] at ih ⊢
    omega
  | case3 => exact Nat.zero_le _

theorem dottedLength_le (text : Text) : dottedLength text ≤ text.length := by
  have first := identifierLength_le text
  have others := segmentsLength_le (text.drop (identifierLength text))
  simp only [List.length_drop] at others
  unfold dottedLength
  dsimp only
  split <;> omega

theorem before?_eq_some {needle text body : Text} (found : before? needle text = some body) :
    ∃ after, text = body ++ needle ++ after := by
  induction text generalizing body with
  | nil =>
    simp only [before?, List.isEmpty_iff] at found
    split at found
    · next empty => exact ⟨[], by simp_all⟩
    · cases found
  | cons c cs ih =>
    simp only [before?] at found
    split at found
    · next starts =>
      obtain ⟨after, same⟩ := List.isPrefixOf_iff_prefix.mp starts
      cases found
      exact ⟨after, by simpa using same.symm⟩
    · obtain ⟨inner, deeper, rfl⟩ := Option.map_eq_some_iff.mp found
      obtain ⟨after, rfl⟩ := ih deeper
      exact ⟨after, rfl⟩

theorem before?_length_le {needle text body : Text} (found : before? needle text = some body) :
    body.length + needle.length ≤ text.length := by
  obtain ⟨after, rfl⟩ := before?_eq_some found
  simp only [List.length_append]
  omega

theorem lt_length_of_head?_drop {text : Text} {n : Nat} {c : Char}
    (present : (text.drop n).head? = some c) : n < text.length := by
  rw [List.head?_drop] at present
  exact (List.getElem?_eq_some_iff.mp present).1

theorem append_inj_of_byteSize {a b c d : Text} (same : a ++ b = c ++ d)
    (size : byteSize a = byteSize c) : a = c ∧ b = d := by
  rcases List.append_eq_append_iff.mp same with ⟨gap, longer, rest⟩ | ⟨gap, longer, rest⟩
  · have empty : gap = [] := by
      rw [longer, byteSize_append] at size
      exact byteSize_eq_zero_iff.mp (by omega)
    subst empty
    exact ⟨by simpa using longer.symm, by simpa using rest⟩
  · have empty : gap = [] := by
      rw [longer, byteSize_append] at size
      exact byteSize_eq_zero_iff.mp (by omega)
    subst empty
    exact ⟨by simpa using longer, by simpa using rest.symm⟩

theorem isBoundary_iff {text : Text} {offset : Nat} :
    isBoundary text offset = true ↔
      ∃ before after, text = before ++ after ∧ byteSize before = offset := by
  unfold isBoundary
  rw [Option.isSome_iff_exists]
  constructor
  · rintro ⟨after, found⟩
    obtain ⟨before, split, size⟩ := dropBytes?_eq_some_iff.mp found
    exact ⟨before, after, split, size⟩
  · rintro ⟨before, after, split, size⟩
    exact ⟨after, dropBytes?_eq_some_iff.mpr ⟨before, split, size⟩⟩

theorem isBoundary_of_slice? {text part : Text} {start stop : Nat}
    (found : slice? text start stop = some part) :
    isBoundary text start = true ∧ isBoundary text stop = true := by
  obtain ⟨before, after, rfl, startSize, stopSize⟩ := slice?_eq_some_iff.mp found
  constructor
  · exact isBoundary_iff.mpr ⟨before, part ++ after, by simp, startSize⟩
  · exact isBoundary_iff.mpr ⟨before ++ part, after, rfl, by simp [startSize, stopSize]⟩

theorem slice?_of_isBoundary {text : Text} {start stop : Nat} (ordered : start ≤ stop)
    (first : isBoundary text start = true) (last : isBoundary text stop = true) :
    ∃ part, slice? text start stop = some part := by
  obtain ⟨before, rest, rfl, startSize⟩ := isBoundary_iff.mp first
  obtain ⟨upto, after, split, stopSize⟩ := isBoundary_iff.mp last
  rcases List.append_eq_append_iff.mp split with ⟨part, longer, rfl⟩ | ⟨gap, longer, rfl⟩
  · refine ⟨part, slice?_eq_some_iff.mpr ⟨before, after, by simp, startSize, ?_⟩⟩
    rw [longer, byteSize_append] at stopSize
    omega
  · -- the second cut lies before the first only if the two coincide
    have empty : gap = [] := by
      rw [longer, byteSize_append] at startSize
      exact byteSize_eq_zero_iff.mp (by omega)
    subst empty
    refine ⟨[], slice?_eq_some_iff.mpr ⟨before, rest, by simp, startSize, ?_⟩⟩
    simp only [List.append_nil] at longer
    rw [longer] at startSize
    simp only [byteSize_nil]
    omega

end ClosureTemplate.Text
