namespace ClosureTemplate

structure Collection (α : Type) where
  toList : List α
  nodup : toList.Nodup
  deriving DecidableEq

namespace Collection

variable {α : Type} [DecidableEq α]

omit [DecidableEq α] in
@[ext]
theorem ext {a b : Collection α} (same : a.toList = b.toList) : a = b := by
  cases a
  cases b
  simp_all

instance : Membership α (Collection α) := ⟨fun collection a => a ∈ collection.toList⟩

instance (a : α) (collection : Collection α) : Decidable (a ∈ collection) :=
  inferInstanceAs (Decidable (a ∈ collection.toList))

def empty : Collection α := ⟨[], List.nodup_nil⟩

instance : EmptyCollection (Collection α) := ⟨empty⟩

def singleton (a : α) : Collection α := ⟨[a], by simp⟩

def size (collection : Collection α) : Nat := collection.toList.length

def isEmpty (collection : Collection α) : Bool := collection.toList.isEmpty

/-- Adds a member at the end, unless it is there already. -/
def insert (collection : Collection α) (a : α) : Collection α :=
  if present : a ∈ collection.toList then collection
  else
    ⟨collection.toList ++ [a], by
      simp only [List.nodup_append, List.nodup_cons, List.not_mem_nil, not_false_eq_true,
        List.nodup_nil, and_self, List.mem_singleton, ne_eq, true_and]
      exact ⟨collection.nodup, fun b member c same => by rintro rfl; exact present (same ▸ member)⟩⟩

def extend (collection : Collection α) (items : List α) : Collection α :=
  items.foldl insert collection

def ofList (items : List α) : Collection α := empty.extend items

def union (a b : Collection α) : Collection α := a.extend b.toList

omit [DecidableEq α] in
def filter (collection : Collection α) (test : α → Bool) : Collection α :=
  ⟨collection.toList.filter test, collection.nodup.filter _⟩

def without (a b : Collection α) : Collection α := a.filter fun item => item ∉ b

def one? (collection : Collection α) : Option α :=
  match collection.toList with
  | [a] => some a
  | _ => none

def first? (collection : Collection α) : Option α := collection.toList.head?

def same (a b : Collection α) : Bool :=
  a.size == b.size && a.toList.all fun item => item ∈ b

end Collection

end ClosureTemplate
