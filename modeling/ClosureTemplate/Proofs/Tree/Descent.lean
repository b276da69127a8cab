import ClosureTemplate.Proofs.Tree.Arena
import Mathlib.Data.List.Basic
import Mathlib.Data.List.Nodup
import Mathlib.Logic.Relation

namespace ClosureTemplate.Tree

variable {tree : Tree} {root id parent : NodeId}

/-- The nodes so many steps below a root, from left to right. -/
def generation (tree : Tree) (root : NodeId) : Nat → List NodeId
  | 0 => [root]
  | depth + 1 => (tree.generation root depth).flatMap tree.children

def breadthFirst (tree : Tree) (root : NodeId) : List NodeId :=
  (List.range tree.size).flatMap fun depth => tree.generation root (depth + 1)

theorem generation_eq_nil {depth : Nat} (ended : tree.generation root depth = []) (more : Nat) :
    tree.generation root (depth + more) = [] := by
  induction more with
  | zero => exact ended
  | succ more ih => rw [← Nat.add_assoc, generation, ih, List.flatMap_nil]

theorem flatten_levelsBelow (tree : Tree) (root : NodeId) (count depth : Nat) :
    (tree.levelsBelow count (tree.generation root depth)).flatten =
      (List.range count).flatMap fun more => tree.generation root (depth + 1 + more) := by
  induction count generalizing depth with
  | zero => rfl
  | succ count ih =>
    rw [levelsBelow]
    split
    · next ended =>
      -- below an empty generation there are only empty ones
      have empty : tree.generation root (depth + 1) = [] := ended
      symm
      rw [List.flatten_nil, List.flatMap_eq_nil_iff]
      intro more _
      exact generation_eq_nil empty more
    · have next := ih (depth + 1)
      rw [List.flatten_cons, List.range_succ_eq_map, List.flatMap_cons, List.flatMap_map]
      refine congrArg _ (next.trans ?_)
      apply List.flatMap_congr
      intro more _
      rw [Nat.succ_eq_add_one, Nat.add_comm more, ← Nat.add_assoc]

theorem flatten_levels (tree : Tree) (root : NodeId) :
    (tree.levels root).flatten = tree.breadthFirst root := by
  have below := tree.flatten_levelsBelow root tree.size 0
  refine below.trans (List.flatMap_congr fun depth _ => ?_)
  rw [Nat.zero_add, Nat.add_comm]

theorem breadthFirst_eq_nil (absent : tree.node? root = none) : tree.breadthFirst root = [] := by
  have childless : tree.generation root 1 = [] := by simp [generation, children, absent]
  rw [breadthFirst, List.flatMap_eq_nil_iff]
  intro depth _
  rw [Nat.add_comm]
  exact generation_eq_nil childless depth

/-- A proper descendant: the way up from the node leads through the other one. -/
def IsBelow (tree : Tree) (id root : NodeId) : Prop :=
  Relation.TransGen (fun child parent => tree.parent? child = some parent) id root

theorem IsBelow.lt_size (below : tree.IsBelow id root) : id < tree.size := by
  obtain ⟨parent, linked, -⟩ := Relation.TransGen.head'_iff.mp below
  exact lt_size_of_parent? linked

namespace IsArena

variable (arena : tree.IsArena)
include arena

theorem nodup_children (parent : NodeId) : (tree.children parent).Nodup :=
  (arena.increasing parent).imp Nat.ne_of_lt

theorem nodup_flatMap {ids : List NodeId} {pick : NodeId → List NodeId} (nodup : ids.Nodup)
    (each : ∀ id, (pick id).Nodup) (among : ∀ id, pick id ⊆ tree.children id) :
    (ids.flatMap pick).Nodup := by
  refine List.nodup_flatMap.mpr ⟨fun parent _ => each parent, nodup.imp ?_⟩
  intro one other different child first second
  have oneParent := arena.mem_children.mp (among one first)
  have otherParent := arena.mem_children.mp (among other second)
  exact different (Option.some.inj (oneParent.symm.trans otherParent))

theorem nodup_generation (root : NodeId) (depth : Nat) : (tree.generation root depth).Nodup := by
  induction depth with
  | zero => exact List.nodup_singleton root
  | succ depth ih => exact arena.nodup_flatMap ih arena.nodup_children fun _ => List.Subset.refl _

theorem mem_generation_succ {depth : Nat} :
    id ∈ tree.generation root (depth + 1) ↔
      ∃ parent, tree.parent? id = some parent ∧ parent ∈ tree.generation root depth := by
  rw [generation, List.mem_flatMap]
  constructor
  · rintro ⟨parent, member, child⟩
    exact ⟨parent, arena.mem_children.mp child, member⟩
  · rintro ⟨parent, linked, member⟩
    exact ⟨parent, member, arena.mem_children.mpr linked⟩

theorem add_le_of_mem_generation {depth : Nat} (member : id ∈ tree.generation root depth) :
    root + depth ≤ id := by
  induction depth generalizing id with
  | zero => exact Nat.le_of_eq (List.mem_singleton.mp member).symm
  | succ depth ih =>
    obtain ⟨parent, linked, above⟩ := arena.mem_generation_succ.mp member
    calc
      root + (depth + 1) ≤ parent + 1 := Nat.succ_le_succ (ih above)
      _ ≤ id := arena.parent_lt linked

theorem root_notMem_generation (root : NodeId) (depth : Nat) :
    root ∉ tree.generation root (depth + 1) := by
  intro member
  have larger : root < root := calc
    root < root + (depth + 1) := Nat.lt_add_of_pos_right (Nat.succ_pos depth)
    _ ≤ root := arena.add_le_of_mem_generation member
  exact Nat.lt_irrefl root larger

theorem generation_unique {depth other : Nat} (member : id ∈ tree.generation root depth)
    (again : id ∈ tree.generation root other) : depth = other := by
  induction depth generalizing id other with
  | zero =>
    rw [List.mem_singleton.mp member] at again
    cases other with
    | zero => rfl
    | succ other => exact absurd again (arena.root_notMem_generation root other)
  | succ depth ih =>
    obtain ⟨parent, linked, above⟩ := arena.mem_generation_succ.mp member
    cases other with
    | zero =>
      rw [List.mem_singleton.mp again] at member
      exact absurd member (arena.root_notMem_generation root depth)
    | succ other =>
      obtain ⟨same, linkedAgain, aboveAgain⟩ := arena.mem_generation_succ.mp again
      obtain rfl := Option.some.inj (linked.symm.trans linkedAgain)
      rw [ih above aboveAgain]

theorem nodup_breadthFirst (root : NodeId) : (tree.breadthFirst root).Nodup := by
  refine List.nodup_flatMap.mpr ⟨fun depth _ => arena.nodup_generation root _, ?_⟩
  refine List.nodup_range.imp ?_
  intro depth other different id first second
  exact different (Nat.succ.inj (arena.generation_unique first second))

theorem isBelow_of_mem_generation {depth : Nat} (member : id ∈ tree.generation root (depth + 1)) :
    tree.IsBelow id root := by
  induction depth generalizing id with
  | zero =>
    obtain ⟨parent, linked, above⟩ := arena.mem_generation_succ.mp member
    rw [List.mem_singleton.mp above] at linked
    exact .single linked
  | succ depth ih =>
    obtain ⟨parent, linked, above⟩ := arena.mem_generation_succ.mp member
    exact .head linked (ih above)

theorem mem_breadthFirst : id ∈ tree.breadthFirst root ↔ tree.IsBelow id root := by
  rw [breadthFirst, List.mem_flatMap]
  constructor
  · rintro ⟨depth, -, member⟩
    exact arena.isBelow_of_mem_generation member
  · intro below
    have found : ∃ depth, id ∈ tree.generation root (depth + 1) := by
      induction below using Relation.TransGen.head_induction_on with
      | single linked =>
        have top : root ∈ tree.generation root 0 := List.mem_singleton_self root
        exact ⟨0, arena.mem_generation_succ.mpr ⟨root, linked, top⟩⟩
      | head linked _ ih =>
        obtain ⟨depth, member⟩ := ih
        exact ⟨depth + 1, arena.mem_generation_succ.mpr ⟨_, linked, member⟩⟩
    obtain ⟨depth, member⟩ := found
    obtain ⟨parent, linked, -⟩ := arena.mem_generation_succ.mp member
    have inside : depth < tree.size := calc
      depth < root + (depth + 1) := Nat.lt_of_lt_of_le (Nat.lt_succ_self depth) (Nat.le_add_left ..)
      _ ≤ id := arena.add_le_of_mem_generation member
      _ < tree.size := lt_size_of_parent? linked
    exact ⟨depth, List.mem_range.mpr inside, member⟩

theorem isBelow_of_mem_children (child : id ∈ tree.children root) : tree.IsBelow id root :=
  .single (arena.mem_children.mp child)

end IsArena

/-- Two children of a node, the second somewhere behind the first. -/
def Precedes (tree : Tree) (parent first second : NodeId) : Prop :=
  ∃ before behind, tree.children parent = before ++ first :: behind ∧ second ∈ behind

theorem Precedes.mem_children {first second : NodeId} (precedes : tree.Precedes parent first second) :
    first ∈ tree.children parent ∧ second ∈ tree.children parent := by
  obtain ⟨before, behind, split, member⟩ := precedes
  rw [split]
  exact ⟨List.mem_append_right _ List.mem_cons_self,
    List.mem_append_right _ (List.mem_cons_of_mem _ member)⟩

theorem IsArena.siblings_behind (arena : tree.IsArena) {before behind : List NodeId}
    (split : tree.children parent = before ++ id :: behind) : (tree.siblings id).2 = behind := by
  have child : id ∈ tree.children parent := split ▸ List.mem_append_right _ List.mem_cons_self
  have around := arena.siblings (arena.mem_children.mp child)
  rw [List.append_assoc, List.singleton_append] at around
  -- a list without repetitions can be cut at a member in one way only
  have nodup := arena.nodup_children parent
  rw [← around] at split nodup
  obtain ⟨fresh, -⟩ := List.nodup_cons.mp (List.nodup_middle.mp nodup)
  rw [List.mem_append, not_or] at fresh
  exact ((List.append_cons_inj_of_notMem fresh.1 fresh.2).mp split).2.2

theorem IsArena.mem_siblings_behind (arena : tree.IsArena) {other : NodeId} :
    other ∈ (tree.siblings id).2 ↔ ∃ parent, tree.Precedes parent id other := by
  constructor
  · intro member
    cases linked : tree.parent? id with
    | none => simp [Tree.siblings, linked] at member
    | some parent =>
      have around := arena.siblings linked
      rw [List.append_assoc, List.singleton_append] at around
      exact ⟨parent, _, _, around.symm, member⟩
  · rintro ⟨parent, before, behind, split, member⟩
    rw [arena.siblings_behind split]
    exact member

def HasChild (tree : Tree) (kind : ElementKind) (parent child : NodeId) : Prop :=
  child ∈ tree.children parent ∧ tree.kind? child = some kind

instance (tree : Tree) (kind : ElementKind) (parent child : NodeId) :
    Decidable (tree.HasChild kind parent child) :=
  inferInstanceAs (Decidable (child ∈ tree.children parent ∧ tree.kind? child = some kind))

inductive Nearest (tree : Tree) (kind : ElementKind) : NodeId → NodeId → Prop
  | parent {id parent : NodeId} (linked : tree.parent? id = some parent)
      (isKind : tree.kind? parent = some kind) : Nearest tree kind id parent
  | above {id parent ancestor : NodeId} (linked : tree.parent? id = some parent)
      (other : tree.kind? parent ≠ some kind) (onwards : Nearest tree kind parent ancestor) :
      Nearest tree kind id ancestor

theorem nearest_iff_of_parent? {kind : ElementKind} {ancestor : NodeId}
    (linked : tree.parent? id = some parent) :
    tree.Nearest kind id ancestor ↔ tree.kind? parent = some kind ∧ parent = ancestor ∨
      tree.kind? parent ≠ some kind ∧ tree.Nearest kind parent ancestor := by
  constructor
  · intro nearest
    cases nearest with
    | parent again isKind =>
      obtain rfl := Option.some.inj (linked.symm.trans again)
      exact .inl ⟨isKind, rfl⟩
    | above again other onwards =>
      obtain rfl := Option.some.inj (linked.symm.trans again)
      exact .inr ⟨other, onwards⟩
  · intro cases
    rcases cases with ⟨isKind, rfl⟩ | ⟨other, onwards⟩
    · exact .parent linked isKind
    · exact .above linked other onwards

theorem Climbs.find?_isKind {kind : ElementKind} {way : List NodeId} {ancestor : NodeId}
    (climbs : tree.Climbs id way) :
    way.find? (tree.isKind kind) = some ancestor ↔
      tree.kind? id = some kind ∧ id = ancestor ∨
        tree.kind? id ≠ some kind ∧ tree.Nearest kind id ancestor := by
  induction climbs with
  | @top id parentless =>
    have none : ¬tree.Nearest kind id ancestor := by
      intro nearest
      cases nearest with
      | parent linked | above linked =>
        rw [parentless] at linked
        cases linked
    by_cases here : tree.kind? id = some kind <;> simp [isKind, here, none]
  | @up id parent way linked _ ih =>
    rw [nearest_iff_of_parent? linked, ← ih]
    by_cases here : tree.kind? id = some kind <;> simp [isKind, here]

end ClosureTemplate.Tree
