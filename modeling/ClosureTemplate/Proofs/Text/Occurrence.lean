import ClosureTemplate.Proofs.Text.Basic
import Mathlib.Order.Bounds.Basic

namespace ClosureTemplate.Text

/-- The needle stands at a byte offset of a range, and ends inside of it. -/
def OccursAt (source : Text) (stop : Nat) (needle : Text) (offset : Nat) : Prop :=
  ∃ after, source.slice? offset stop = some (needle ++ after)

theorem isPrefixOf_append_self (needle after : Text) :
    needle.isPrefixOf (needle ++ after) = true :=
  List.isPrefixOf_iff_prefix.mpr (List.prefix_append needle after)

theorem before?_prefix {needle text body front back : Text}
    (found : before? needle text = some body) (split : text = front ++ (needle ++ back)) :
    body <+: front := by
  induction text generalizing body front with
  | nil =>
    obtain ⟨after, whole⟩ := before?_eq_some found
    have empty : body = [] := by
      have none := whole.symm
      simp only [List.append_eq_nil_iff] at none
      exact none.1.1
    rw [empty]
    exact List.nil_prefix
  | cons c cs ih =>
    simp only [before?] at found
    split at found
    · cases found
      exact List.nil_prefix
    · next notHere =>
      obtain ⟨inner, deeper, rfl⟩ := Option.map_eq_some_iff.mp found
      cases front with
      | nil =>
        rw [List.nil_append] at split
        rw [split, isPrefixOf_append_self] at notHere
        exact absurd rfl notHere
      | cons d front =>
        obtain ⟨rfl, rest⟩ := List.cons.inj split
        exact List.cons_prefix_cons.mpr ⟨rfl, ih deeper rest⟩

theorem not_infix_of_before? {needle text : Text} (missing : before? needle text = none) :
    ¬needle <:+: text := by
  induction text with
  | nil =>
    intro inside
    obtain rfl := List.infix_nil.mp inside
    cases missing
  | cons c cs ih =>
    simp only [before?] at missing
    split at missing
    · cases missing
    · next notHere =>
      intro inside
      rcases List.infix_cons_iff.mp inside with here | later
      · exact notHere (List.isPrefixOf_iff_prefix.mpr here)
      · exact ih (Option.map_eq_none_iff.mp missing) later

theorem slice?_later {source rest part : Text} {start middle stop : Nat}
    (whole : source.slice? start stop = some rest)
    (later : source.slice? middle stop = some part) (ordered : start ≤ middle) :
    ∃ front, rest = front ++ part ∧ middle = start + byteSize front := by
  obtain ⟨before, after, split, startSize, restSize⟩ := slice?_eq_some_iff.mp whole
  obtain ⟨upto, behind, again, middleSize, partSize⟩ := slice?_eq_some_iff.mp later
  have sizes : byteSize (before ++ rest) = byteSize (upto ++ part) := by
    rw [byteSize_append, byteSize_append]
    omega
  obtain ⟨same, -⟩ := append_inj_of_byteSize (split.symm.trans again) sizes
  rcases List.append_eq_append_iff.mp same with ⟨gap, rfl, cut⟩ | ⟨gap, longer, cut⟩
  · refine ⟨gap, cut, ?_⟩
    rw [byteSize_append] at middleSize
    omega
  · have empty : gap = [] := by
      rw [longer, byteSize_append] at startSize
      exact byteSize_eq_zero_iff.mp (by omega)
    subst empty
    refine ⟨[], cut.symm, ?_⟩
    rw [longer, List.append_nil] at startSize
    rw [byteSize_nil]
    omega

theorem occursAt_append {source front after needle : Text} {start stop : Nat}
    (cut : source.slice? start stop = some (front ++ (needle ++ after))) :
    OccursAt source stop needle (start + byteSize front) :=
  ⟨after, slice?_drop cut⟩

variable {source rest body needle : Text} {start stop : Nat}

theorem isLeast_of_before? (cut : source.slice? start stop = some rest)
    (found : before? needle rest = some body) :
    IsLeast {offset | start ≤ offset ∧ OccursAt source stop needle offset}
      (start + byteSize body) := by
  constructor
  · obtain ⟨after, rfl⟩ := before?_eq_some found
    rw [List.append_assoc] at cut
    exact ⟨Nat.le_add_right .., occursAt_append cut⟩
  · rintro offset ⟨ordered, after, part⟩
    obtain ⟨front, split, rfl⟩ := slice?_later cut part ordered
    obtain ⟨gap, rfl⟩ := before?_prefix found split
    rw [byteSize_append]
    omega

theorem not_occursAt_of_before? (cut : source.slice? start stop = some rest)
    (missing : before? needle rest = none) {offset : Nat} (ordered : start ≤ offset) :
    ¬OccursAt source stop needle offset := by
  rintro ⟨after, part⟩
  obtain ⟨front, split, -⟩ := slice?_later cut part ordered
  refine not_infix_of_before? missing ⟨front, after, ?_⟩
  rw [List.append_assoc]
  exact split.symm

end ClosureTemplate.Text
