import ClosureTemplate.Table

namespace ClosureTemplate.Table

variable {κ ν : Type} [DecidableEq κ] {table : Table κ ν} {key other : κ} {value : ν}

theorem mem_keys_of_get? (found : table.get? key = some value) : key ∈ table.keys := by
  induction table with
  | nil => cases found
  | cons entry rest ih =>
    by_cases same : entry.1 = key
    · simp [keys, same]
    · rw [get?, if_neg same] at found
      have later := ih found
      simp only [keys, List.map_cons, List.mem_cons] at later ⊢
      exact .inr later

theorem exists_of_mem_keys (listed : key ∈ table.keys) : ∃ value, table.get? key = some value := by
  induction table with
  | nil => cases listed
  | cons entry rest ih =>
    by_cases same : entry.1 = key
    · exact ⟨entry.2, if_pos same⟩
    · have later : key ∈ keys rest := by
        simpa [keys, Ne.symm same] using listed
      obtain ⟨value, found⟩ := ih later
      exact ⟨value, by rw [get?, if_neg same, found]⟩

theorem mem_keys_put : other ∈ (table.put key value).keys ↔ other = key ∨ other ∈ table.keys := by
  rw [keys_put]
  split
  · next known =>
    constructor
    · exact .inr
    · rintro (rfl | member)
      · exact known
      · exact member
  · simp [or_comm]

theorem nodup_keys_put (distinct : table.keys.Nodup) : (table.put key value).keys.Nodup := by
  rw [keys_put]
  split
  · exact distinct
  · next fresh =>
    refine List.nodup_append.mpr ⟨distinct, List.pairwise_singleton _ _, ?_⟩
    intro old listed new added same
    rw [List.mem_singleton.mp added] at same
    exact fresh (same ▸ listed)

theorem put_of_get? (found : table.get? key = some value) : table.put key value = table := by
  induction table with
  | nil => cases found
  | cons entry rest ih =>
    by_cases same : entry.1 = key
    · rw [get?, if_pos same] at found
      rw [put, if_pos same, ← Option.some.inj found]
    · rw [get?, if_neg same] at found
      rw [put, if_neg same, ih found]

end ClosureTemplate.Table
