import ClosureTemplate.Proofs.Text.Basic
import ClosureTemplate.Text.Blank

namespace ClosureTemplate.Text

structure IsTrimmed (text : Text) : Prop where
  head : ∀ c, text.head? = some c → isBlank c = false
  last : ∀ c, text.getLast? = some c → isBlank c = false

theorem trimStart_append_of_blank {lead : Text} (rest : Text) (blank : lead.all isBlank = true) :
    trimStart (lead ++ rest) = trimStart rest :=
  List.dropWhile_append_of_pos (List.all_eq_true.mp blank)

theorem trimStart_of_head {text : Text} (head : ∀ c, text.head? = some c → isBlank c = false) :
    trimStart text = text := by
  cases text with
  | nil => rfl
  | cons c cs => simp [trimStart, head c rfl]

theorem exists_trimStart (text : Text) :
    ∃ lead, lead.all isBlank = true ∧ text = lead ++ trimStart text :=
  ⟨text.takeWhile isBlank, List.all_takeWhile, List.takeWhile_append_dropWhile.symm⟩

theorem head_trimStart (text : Text) :
    ∀ c, (trimStart text).head? = some c → isBlank c = false := by
  intro c found
  exact head_dropWhile found

theorem reverse_trimEnd (text : Text) : (trimEnd text).reverse = trimStart text.reverse :=
  List.reverse_reverse _

theorem trimEnd_append_of_blank {trail : Text} (front : Text) (blank : trail.all isBlank = true) :
    trimEnd (front ++ trail) = trimEnd front := by
  have turned : trail.reverse.all isBlank = true := by
    rw [List.all_reverse]
    exact blank
  rw [← List.reverse_inj, reverse_trimEnd, reverse_trimEnd, List.reverse_append,
    trimStart_append_of_blank _ turned]

theorem trimEnd_of_last {text : Text} (last : ∀ c, text.getLast? = some c → isBlank c = false) :
    trimEnd text = text := by
  rw [← List.reverse_inj, reverse_trimEnd]
  exact trimStart_of_head (by simpa using last)

theorem exists_trimEnd (text : Text) :
    ∃ trail, trail.all isBlank = true ∧ text = trimEnd text ++ trail := by
  obtain ⟨lead, blank, split⟩ := exists_trimStart text.reverse
  refine ⟨lead.reverse, by simpa using blank, ?_⟩
  rw [← List.reverse_inj, List.reverse_append, reverse_trimEnd, List.reverse_reverse]
  exact split

theorem last_trimEnd (text : Text) :
    ∀ c, (trimEnd text).getLast? = some c → isBlank c = false := by
  intro c found
  rw [List.getLast?_eq_head?_reverse, reverse_trimEnd] at found
  exact head_trimStart _ c found

theorem getLast?_append_of_nonempty (front : Text) {rest : Text} (nonempty : rest ≠ []) :
    (front ++ rest).getLast? = rest.getLast? := by
  rw [List.getLast?_append]
  cases ends : rest.getLast? with
  | none => exact absurd (List.getLast?_eq_none_iff.mp ends) nonempty
  | some c => rfl

theorem trimEnd_append_append (front : Text) {core trail : Text} (nonempty : core ≠ [])
    (last : ∀ c, core.getLast? = some c → isBlank c = false) (blank : trail.all isBlank = true) :
    trimEnd (front ++ (core ++ trail)) = front ++ core := by
  rw [← List.append_assoc, trimEnd_append_of_blank _ blank]
  apply trimEnd_of_last
  intro c found
  rw [getLast?_append_of_nonempty front nonempty] at found
  exact last c found

theorem trimEnd_append {front rest : Text}
    (last : ∀ c, front.getLast? = some c → isBlank c = false) :
    trimEnd (front ++ rest) = front ++ trimEnd rest := by
  obtain ⟨trail, blank, split⟩ := exists_trimEnd rest
  by_cases empty : trimEnd rest = []
  · rw [empty, List.nil_append] at split
    rw [empty, split, trimEnd_append_of_blank _ blank, trimEnd_of_last last, List.append_nil]
  · have cut := trimEnd_append_append front empty (last_trimEnd rest) blank
    rw [← split] at cut
    exact cut

theorem trim_append {lead core trail : Text} (leadBlank : lead.all isBlank = true)
    (trimmed : core.IsTrimmed) (trailBlank : trail.all isBlank = true) :
    trim (lead ++ (core ++ trail)) = core := by
  rw [trim, trimStart_append_of_blank _ leadBlank]
  cases core with
  | nil =>
    have gone := trimStart_append_of_blank [] trailBlank
    rw [List.append_nil] at gone
    rw [List.nil_append, gone]
    rfl
  | cons c cs =>
    have head : ∀ d, (c :: cs ++ trail).head? = some d → isBlank d = false := trimmed.head
    rw [trimStart_of_head head, trimEnd_append_of_blank _ trailBlank, trimEnd_of_last trimmed.last]

theorem exists_trim (text : Text) :
    ∃ lead trail, lead.all isBlank = true ∧ trail.all isBlank = true ∧
      text = lead ++ (trim text ++ trail) := by
  obtain ⟨lead, leadBlank, start⟩ := exists_trimStart text
  obtain ⟨trail, trailBlank, stop⟩ := exists_trimEnd (trimStart text)
  refine ⟨lead, trail, leadBlank, trailBlank, ?_⟩
  rw [trim, ← stop]
  exact start

theorem isTrimmed_trim (text : Text) : (trim text).IsTrimmed := by
  refine ⟨?_, last_trimEnd _⟩
  obtain ⟨trail, -, split⟩ := exists_trimEnd (trimStart text)
  intro c found
  apply head_trimStart text c
  rw [split]
  change (trimEnd (trimStart text)).head? = some c at found
  simp [List.head?_append, found]

end ClosureTemplate.Text
