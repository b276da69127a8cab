import ClosureTemplate.Pattern.Compiled

namespace ClosureTemplate.Pattern

def Expr.spelled : Text → Expr
  | [] => .cat (.look .textEnd) .empty
  | c :: cs => .cat (.char (.single c)) (spelled cs)

/-- What a pattern such as `^word$` is read as. -/
def Expr.exactly (word : Text) : Expr := .cat (.look .textStart) (.spelled word)

theorem CharSet.contains_single {c d : Char} : (single c).contains d = true ↔ d = c := by
  have code : d.toNat = c.toNat ↔ d = c := by
    constructor
    · intro same
      exact Char.ext (UInt32.toNat_inj.mp same)
    · intro same
      rw [same]
  rw [← code]
  simp [contains, single, Text.inRanges, Nat.le_antisymm_iff]
  omega

theorem Place.filter_onward_textStart (offset : Nat) (c : Char) (text : Text) :
    (onward offset (some c) text).filter (·.satisfies .textStart) = [] := by
  induction text generalizing offset c with
  | nil => rfl
  | cons d ds ih =>
    rw [onward, List.filter_cons_of_neg (by simp [satisfies])]
    exact ih (offset + 1) d

theorem Place.filter_all_textStart (text : Text) :
    (all text).filter (·.satisfies .textStart) = [⟨0, none, text⟩] := by
  cases text with
  | nil => rfl
  | cons c cs =>
    rw [all, onward, List.filter_cons_of_pos rfl, filter_onward_textStart]

namespace Expr

theorem ends_spelled_nil (size : Nat) (word : Text) : (spelled word).ends size [] = [] := by
  induction word with
  | nil => rfl
  | cons c cs ih => exact ih

theorem ends_spelled (size : Nat) {word : Text} {place : Place} :
    (spelled word).ends size [place] ≠ [] ↔ place.rest = word := by
  induction word generalizing place with
  | nil =>
    change [place].filter (·.satisfies .textEnd) ≠ [] ↔ place.rest = []
    simp [Place.satisfies]
  | cons c cs ih =>
    change (spelled cs).ends size ([place].filterMap (·.over? (.single c))) ≠ [] ↔ _
    cases shape : place.rest with
    | nil =>
      have stuck : [place].filterMap (·.over? (.single c)) = [] := by simp [Place.over?, shape]
      rw [stuck, ends_spelled_nil]
      simp
    | cons d ds =>
      by_cases same : d = c
      · have moves : [place].filterMap (·.over? (.single c)) =
            [⟨place.offset + 1, some d, ds⟩] := by
          simp [Place.over?, shape, CharSet.contains_single.mpr same]
        rw [moves, ih, same]
        simp
      · have stuck : [place].filterMap (·.over? (.single c)) = [] := by
          simp [Place.over?, shape, CharSet.contains_single, same]
        rw [stuck, ends_spelled_nil]
        simp [same]

theorem exactly_occursIn {word text : Text} :
    (exactly word).occursIn text = true ↔ text = word := by
  have start : (exactly word).ends text.length (Place.all text) =
      (spelled word).ends text.length [⟨0, none, text⟩] := by
    rw [← Place.filter_all_textStart]
    rfl
  rw [occursIn, start, Bool.not_eq_true', List.isEmpty_eq_false_iff]
  exact ends_spelled text.length

end Expr

end ClosureTemplate.Pattern
