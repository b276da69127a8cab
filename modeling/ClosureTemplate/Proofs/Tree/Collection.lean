import ClosureTemplate.Tree.Collection

namespace ClosureTemplate.Collection

variable {α : Type} [DecidableEq α] {a b : α} {collection other : Collection α} {items : List α}

omit [DecidableEq α] in
theorem mem_toList : a ∈ collection.toList ↔ a ∈ collection := Iff.rfl

omit [DecidableEq α] in
@[simp]
theorem not_mem_empty : a ∉ (∅ : Collection α) := List.not_mem_nil

omit [DecidableEq α] in
@[simp]
theorem mem_singleton : a ∈ singleton b ↔ a = b := List.mem_singleton

@[simp]
theorem mem_insert : a ∈ collection.insert b ↔ a ∈ collection ∨ a = b := by
  unfold insert
  split
  · next present =>
    constructor
    · exact .inl
    · rintro (member | rfl)
      · exact member
      · exact present
  · simp [← mem_toList]

@[simp]
theorem mem_extend : a ∈ collection.extend items ↔ a ∈ collection ∨ a ∈ items := by
  induction items generalizing collection with
  | nil => simp [extend]
  | cons item items ih =>
    change a ∈ (collection.insert item).extend items ↔ _
    rw [ih, mem_insert, List.mem_cons, or_assoc]

@[simp]
theorem mem_ofList : a ∈ ofList items ↔ a ∈ items := by
  rw [ofList, mem_extend]
  exact ⟨fun found => found.resolve_left List.not_mem_nil, .inr⟩

@[simp]
theorem mem_union : a ∈ collection.union other ↔ a ∈ collection ∨ a ∈ other := mem_extend

omit [DecidableEq α] in
@[simp]
theorem mem_filter {test : α → Bool} :
    a ∈ collection.filter test ↔ a ∈ collection ∧ test a = true :=
  List.mem_filter

omit [DecidableEq α] in
theorem eq_empty_of_isEmpty (empty : collection.isEmpty = true) : collection = ∅ :=
  ext (List.isEmpty_iff.mp empty)

theorem insert_of_mem (present : a ∈ collection) : collection.insert a = collection :=
  dif_pos present

theorem toList_insert (fresh : a ∉ collection) :
    (collection.insert a).toList = collection.toList ++ [a] :=
  congrArg toList (dif_neg fresh)

theorem toList_extend (nodup : items.Nodup) :
    (collection.extend items).toList =
      collection.toList ++ items.filter (fun item => item ∉ collection) := by
  induction items generalizing collection with
  | nil => simp [extend]
  | cons item items ih =>
    obtain ⟨fresh, others⟩ := List.nodup_cons.mp nodup
    change ((collection.insert item).extend items).toList = _
    rw [ih others]
    by_cases present : item ∈ collection
    · rw [insert_of_mem present, List.filter_cons_of_neg (by simpa using present)]
    · have untouched : items.filter (fun other => other ∉ collection.insert item) =
          items.filter (fun other => other ∉ collection) := by
        apply List.filter_congr
        intro other member
        have different : other ≠ item := fun same => fresh (same ▸ member)
        simp [different]
      rw [toList_insert present, untouched, List.filter_cons_of_pos (by simpa using present),
        List.append_assoc, List.singleton_append]

theorem toList_ofList (nodup : items.Nodup) : (ofList items).toList = items := by
  rw [ofList, toList_extend nodup]
  exact List.filter_eq_self.mpr fun item _ => by simp [← mem_toList, empty]

@[simp]
theorem ofList_toList : ofList collection.toList = collection :=
  ext (toList_ofList collection.nodup)

theorem extend_append (first second : List α) :
    collection.extend (first ++ second) = (collection.extend first).extend second :=
  List.foldl_append

theorem extend_of_subset (known : ∀ item ∈ items, item ∈ collection) :
    collection.extend items = collection := by
  induction items with
  | nil => rfl
  | cons item items ih =>
    change (collection.insert item).extend items = collection
    rw [insert_of_mem (known item List.mem_cons_self)]
    exact ih fun other member => known other (List.mem_cons_of_mem item member)

/-- Items that were collected before are added in the same order as without the detour. -/
theorem extend_toList_extend (other : Collection α) (items : List α) :
    collection.extend (other.extend items).toList =
      (collection.extend other.toList).extend items := by
  induction items generalizing other with
  | nil => rfl
  | cons item items ih =>
    have here : collection.extend (other.insert item).toList =
        (collection.extend other.toList).insert item := by
      by_cases present : item ∈ other
      · have known : item ∈ collection.extend other.toList := mem_extend.mpr (.inr present)
        rw [insert_of_mem present, insert_of_mem known]
      · rw [toList_insert present, extend_append]
        rfl
    change collection.extend ((other.insert item).extend items).toList = _
    rw [ih, here]
    rfl

theorem extend_toList_ofList (items : List α) :
    collection.extend (ofList items).toList = collection.extend items :=
  extend_toList_extend empty items

theorem ofList_flatMap_toList_extend {β : Type} [DecidableEq β] (seen : Collection α)
    (items : List α) (pick : α → List β) :
    ofList ((seen.extend items).toList.flatMap pick) =
      (ofList (seen.toList.flatMap pick)).extend (items.flatMap pick) := by
  induction items generalizing seen with
  | nil => rfl
  | cons item items ih =>
    have here : ofList ((seen.insert item).toList.flatMap pick) =
        (ofList (seen.toList.flatMap pick)).extend (pick item) := by
      by_cases present : item ∈ seen
      · rw [insert_of_mem present, extend_of_subset]
        intro found member
        exact mem_ofList.mpr (List.mem_flatMap.mpr ⟨item, present, member⟩)
      · rw [toList_insert present, List.flatMap_append, List.flatMap_singleton]
        exact extend_append ..
    change ofList (((seen.insert item).extend items).toList.flatMap pick) = _
    rw [ih, here, List.flatMap_cons, extend_append]

theorem ofList_flatMap_ofList {β : Type} [DecidableEq β] (items : List α) (pick : α → List β) :
    ofList ((ofList items).toList.flatMap pick) = ofList (items.flatMap pick) :=
  ofList_flatMap_toList_extend empty items pick

theorem extend_flatMap_toList_ofList {β : Type} (items : List β) (pick : β → List α) :
    collection.extend (items.flatMap fun item => (ofList (pick item)).toList) =
      collection.extend (items.flatMap pick) := by
  induction items generalizing collection with
  | nil => rfl
  | cons item items ih =>
    rw [List.flatMap_cons, List.flatMap_cons, extend_append, extend_append, extend_toList_ofList]
    exact ih

theorem toList_union :
    (collection.union other).toList =
      collection.toList ++ other.toList.filter (fun item => item ∉ collection) :=
  toList_extend other.nodup

theorem union_assoc (first second third : Collection α) :
    (first.union second).union third = first.union (second.union third) := by
  apply ext
  simp only [toList_union, List.filter_append, List.filter_filter, List.append_assoc, mem_union,
    not_or, Bool.decide_and]

end ClosureTemplate.Collection
