import ClosureTemplate.Text.Basic

namespace ClosureTemplate.Text

theorem byteSize_eq_zero_iff {text : Text} : byteSize text = 0 ↔ text = [] := by
  cases text with
  | nil => simp
  | cons c cs => simpa using fun zero => absurd zero (Nat.pos_iff_ne_zero.mp c.utf8Size_pos)

theorem dropBytes?_append (head rest : Text) :
    dropBytes? (byteSize head) (head ++ rest) = some rest := by
  induction head with
  | nil => simp [dropBytes?]
  | cons c cs ih =>
    obtain ⟨n, size⟩ : ∃ n, c.utf8Size + byteSize cs = n + 1 :=
      ⟨c.utf8Size + byteSize cs - 1, by have := c.utf8Size_pos; omega⟩
    have fits : c.utf8Size ≤ n + 1 := by omega
    have left : n + 1 - c.utf8Size = byteSize cs := by omega
    simp [size, dropBytes?, fits, left, ih]

theorem takeBytes?_append (head rest : Text) :
    takeBytes? (byteSize head) (head ++ rest) = some head := by
  induction head with
  | nil => simp [takeBytes?]
  | cons c cs ih =>
    obtain ⟨n, size⟩ : ∃ n, c.utf8Size + byteSize cs = n + 1 :=
      ⟨c.utf8Size + byteSize cs - 1, by have := c.utf8Size_pos; omega⟩
    have fits : c.utf8Size ≤ n + 1 := by omega
    have left : n + 1 - c.utf8Size = byteSize cs := by omega
    simp [size, takeBytes?, fits, left, ih]

theorem dropBytes?_eq_some_iff {offset : Nat} {text rest : Text} :
    dropBytes? offset text = some rest ↔ ∃ head, text = head ++ rest ∧ byteSize head = offset := by
  refine ⟨fun found => ?_, fun ⟨head, split, size⟩ => ?_⟩
  · induction text generalizing offset with
    | nil =>
      cases offset with
      | zero => exact ⟨[], by simpa [dropBytes?] using found⟩
      | succ offset => simp [dropBytes?] at found
    | cons c cs ih =>
      cases offset with
      | zero => exact ⟨[], by simpa [dropBytes?] using found⟩
      | succ offset =>
        simp only [dropBytes?] at found
        split at found
        · obtain ⟨head, rfl, size⟩ := ih found
          exact ⟨c :: head, rfl, by simp; omega⟩
        · simp at found
  · subst split size
    exact dropBytes?_append head rest

theorem takeBytes?_eq_some_iff {size : Nat} {text head : Text} :
    takeBytes? size text = some head ↔ ∃ rest, text = head ++ rest ∧ byteSize head = size := by
  refine ⟨fun found => ?_, fun ⟨rest, split, bytes⟩ => ?_⟩
  · induction text generalizing size head with
    | nil =>
      cases size with
      | zero => exact ⟨[], by simp_all [takeBytes?]⟩
      | succ size => simp [takeBytes?] at found
    | cons c cs ih =>
      cases size with
      | zero => exact ⟨c :: cs, by simp_all [takeBytes?]⟩
      | succ size =>
        simp only [takeBytes?] at found
        split at found
        · obtain ⟨head', taken, rfl⟩ := Option.map_eq_some_iff.mp found
          obtain ⟨rest, rfl, bytes⟩ := ih taken
          exact ⟨rest, rfl, by simp; omega⟩
        · simp at found
  · subst split bytes
    exact takeBytes?_append head rest

theorem slice?_eq_some_iff {text part : Text} {start stop : Nat} :
    slice? text start stop = some part ↔
      ∃ before after, text = before ++ part ++ after ∧ byteSize before = start ∧
        start + byteSize part = stop := by
  unfold slice?
  constructor
  · intro found
    split at found
    · obtain ⟨rest, dropped, taken⟩ := Option.bind_eq_some_iff.mp found
      obtain ⟨before, rfl, startSize⟩ := dropBytes?_eq_some_iff.mp dropped
      obtain ⟨after, rfl, partSize⟩ := takeBytes?_eq_some_iff.mp taken
      exact ⟨before, after, by simp, startSize, by omega⟩
    · simp at found
  · rintro ⟨before, after, rfl, rfl, rfl⟩
    simp [List.append_assoc, dropBytes?_append, takeBytes?_append]

theorem slice?_front {text front back : Text} {start stop : Nat}
    (cut : slice? text start stop = some (front ++ back)) :
    slice? text start (start + byteSize front) = some front := by
  obtain ⟨before, after, split, startSize, -⟩ := slice?_eq_some_iff.mp cut
  exact slice?_eq_some_iff.mpr ⟨before, back ++ after, by simpa using split, startSize, rfl⟩

theorem slice?_drop {text head rest : Text} {start stop : Nat}
    (found : slice? text start stop = some (head ++ rest)) :
    slice? text (start + byteSize head) stop = some rest := by
  obtain ⟨before, after, rfl, startSize, stopSize⟩ := slice?_eq_some_iff.mp found
  exact slice?_eq_some_iff.mpr
    ⟨before ++ head, after, by simp, by simp [startSize], by simpa [Nat.add_assoc] using stopSize⟩

end ClosureTemplate.Text
