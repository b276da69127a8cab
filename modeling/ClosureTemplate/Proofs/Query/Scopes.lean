import ClosureTemplate.Proofs.Query.Membership
import ClosureTemplate.Proofs.Tree.Descent

/-!
What scopes denote in a tree that calls have led to. Between two depths the levels of descendants
are a run of generations (`flatten_drop_take_levels`), and the generation that a node belongs to is
its distance on the way up (`mem_generation_iff`), which ties the scopes that look down to those
that look up.
-/

namespace ClosureTemplate.Tree

variable {tree : Tree} {root id : NodeId} {low mid high : Nat}

/-- The generations from one depth to another, nearer ones first. -/
def generations (tree : Tree) (root : NodeId) (low high : Nat) : List NodeId :=
  (List.range' low (high + 1 - low)).flatMap (tree.generation root)

theorem mem_generations :
    id ∈ tree.generations root low high ↔
      ∃ depth, low ≤ depth ∧ depth ≤ high ∧ id ∈ tree.generation root depth := by
  simp only [generations, List.mem_flatMap, List.mem_range'_1]
  apply exists_congr
  intro depth
  rw [← and_assoc]
  apply and_congr_left
  intro _
  omega

theorem generations_append (tree : Tree) (root : NodeId) (first : low ≤ mid + 1)
    (second : mid ≤ high) :
    tree.generations root low mid ++ tree.generations root (mid + 1) high =
      tree.generations root low high := by
  have start : mid + 1 = low + (mid + 1 - low) := by omega
  have total : mid + 1 - low + (high + 1 - (mid + 1)) = high + 1 - low := by omega
  unfold generations
  rw [← List.flatMap_append, ← total, ← List.range'_append_1, ← start]

theorem generations_self (tree : Tree) (root : NodeId) (depth : Nat) :
    tree.generations root depth depth = tree.generation root depth := by
  have single : depth + 1 - depth = 1 := by omega
  rw [generations, single, List.range'_one, List.flatMap_singleton]

theorem generation_one (tree : Tree) (root : NodeId) :
    tree.generation root 1 = tree.children root := List.flatMap_singleton ..

theorem breadthFirst_eq_generations (tree : Tree) (root : NodeId) :
    tree.breadthFirst root = tree.generations root 1 tree.size := by
  rw [breadthFirst, generations, Nat.add_sub_cancel, List.range'_eq_map_range, List.flatMap_map]
  apply List.flatMap_congr
  intro depth _
  rw [Nat.add_comm]

theorem take_levelsBelow (tree : Tree) (count high : Nat) (level : List NodeId) :
    (tree.levelsBelow count level).take high = tree.levelsBelow (min high count) level := by
  induction count generalizing high level with
  | zero => simp [levelsBelow]
  | succ count ih =>
    cases high with
    | zero => simp [levelsBelow]
    | succ high =>
      rw [Nat.add_min_add_right, levelsBelow, levelsBelow]
      split
      · rfl
      · rw [List.take_succ_cons, ih]

theorem levelsBelow_nil (tree : Tree) (count : Nat) : tree.levelsBelow count [] = [] := by
  cases count <;> rfl

theorem drop_levelsBelow (tree : Tree) (root : NodeId) (count depth low : Nat) :
    (tree.levelsBelow count (tree.generation root depth)).drop low =
      tree.levelsBelow (count - low) (tree.generation root (depth + low)) := by
  induction low generalizing count depth with
  | zero => rfl
  | succ low ih =>
    have deeper : depth + (low + 1) = depth + 1 + low := by omega
    cases count with
    | zero => simp [levelsBelow]
    | succ count =>
      rw [levelsBelow, Nat.add_sub_add_right, deeper]
      split
      · next ended =>
        have empty : tree.generation root (depth + 1) = [] := ended
        rw [generation_eq_nil empty, levelsBelow_nil, List.drop_nil]
      · exact ih count (depth + 1)

namespace IsArena

variable (arena : tree.IsArena)
include arena

theorem generation_of_size_le {depth : Nat} (proper : 1 ≤ depth) (deep : tree.size ≤ depth) :
    tree.generation root depth = [] := by
  apply List.eq_nil_iff_forall_not_mem.mpr
  intro id member
  obtain ⟨above, rfl⟩ := Nat.exists_eq_add_of_le' proper
  obtain ⟨parent, linked, -⟩ := arena.mem_generation_succ.mp member
  have beyond : id < id := calc
    id < tree.size := lt_size_of_parent? linked
    _ ≤ above + 1 := deep
    _ ≤ root + (above + 1) := Nat.le_add_left ..
    _ ≤ id := arena.add_le_of_mem_generation member
  exact Nat.lt_irrefl id beyond

theorem generations_of_size_le (proper : 1 ≤ low) (deep : tree.size ≤ low) :
    tree.generations root low high = [] := by
  apply List.flatMap_eq_nil_iff.mpr
  intro depth member
  have further := (List.mem_range'_1.mp member).1
  exact arena.generation_of_size_le (Nat.le_trans proper further) (Nat.le_trans deep further)

theorem generations_congr {other : Nat} (proper : 1 ≤ low) (deep : tree.size ≤ high + 1)
    (deeper : high ≤ other) : tree.generations root low high = tree.generations root low other := by
  by_cases before : low ≤ high + 1
  · have none : tree.generations root (high + 1) other = [] :=
      arena.generations_of_size_le (Nat.succ_pos high) deep
    rw [← tree.generations_append root before deeper, none, List.append_nil]
  · rw [arena.generations_of_size_le proper (by omega),
      arena.generations_of_size_le proper (by omega)]

theorem breadthFirst_eq (root : NodeId) {last : Nat} (deep : tree.size ≤ last + 1) :
    tree.breadthFirst root = tree.generations root 1 last := by
  rw [breadthFirst_eq_generations]
  rcases Nat.le_total tree.size last with shorter | longer
  · exact arena.generations_congr (Nat.le_refl 1) (Nat.le_succ _) shorter
  · exact (arena.generations_congr (Nat.le_refl 1) deep longer).symm

theorem flatten_drop_take_levels (root : NodeId) (proper : 1 ≤ low) :
    (((tree.levels root).take high).drop (low - 1)).flatten = tree.generations root low high := by
  have reach : min high tree.size - (low - 1) = min high tree.size + 1 - low := by omega
  have cut : (((tree.levels root).take high).drop (low - 1)).flatten =
      tree.generations root low (min high tree.size) := calc
    _ = ((tree.levelsBelow (min high tree.size) (tree.generation root 0)).drop (low - 1)).flatten :=
      congrArg (fun levels => (levels.drop (low - 1)).flatten) (tree.take_levelsBelow ..)
    _ = (List.range (min high tree.size - (low - 1))).flatMap fun more =>
        tree.generation root (0 + (low - 1) + 1 + more) := by
      rw [drop_levelsBelow, flatten_levelsBelow]
    _ = tree.generations root low (min high tree.size) := by
      rw [generations, reach, List.range'_eq_map_range, List.flatMap_map]
      apply List.flatMap_congr
      intro more _
      congr 1
      omega
  rw [cut]
  by_cases shallow : high ≤ tree.size
  · rw [Nat.min_eq_left shallow]
  · rw [Nat.min_eq_right (by omega)]
    exact arena.generations_congr proper (Nat.le_succ _) (by omega)

theorem ancestors_of_parent? {parent : NodeId} (linked : tree.parent? id = some parent) :
    tree.ancestors id = id :: tree.ancestors parent := by
  rw [ancestors, linked]
  exact if_pos (arena.parent_lt linked)

theorem mem_generation_iff {depth : Nat} :
    id ∈ tree.generation root depth ↔ (tree.ancestors id)[depth]? = some root := by
  induction depth generalizing id with
  | zero =>
    have first : (tree.ancestors id)[0]? = some id := by
      rw [ancestors]
      split
      · split <;> rfl
      · rfl
    rw [first, generation, List.mem_singleton, Option.some.injEq]
  | succ depth ih =>
    rw [arena.mem_generation_succ]
    cases linked : tree.parent? id with
    | none =>
      rw [ancestors, linked]
      simp
    | some parent =>
      rw [arena.ancestors_of_parent? linked, List.getElem?_cons_succ, ← ih]
      simp

end IsArena

theorem nodup_ancestors (tree : Tree) (id : NodeId) : (tree.ancestors id).Nodup := by
  fun_induction tree.ancestors id with
  | case1 id parent linked smaller ih =>
    refine List.nodup_cons.mpr ⟨?_, ih⟩
    intro member
    exact Nat.not_lt_of_le (le_of_mem_ancestors member) smaller
  | case2 | case3 => exact List.nodup_singleton _

/-- How many steps up lead from a node to another one. -/
def distance (tree : Tree) (id root : NodeId) : Nat := (tree.ancestors id).idxOf root

namespace IsArena

variable (arena : tree.IsArena)
include arena

theorem distance {depth : Nat} (member : id ∈ tree.generation root depth) :
    tree.distance id root = depth := by
  obtain ⟨inside, found⟩ := List.getElem?_eq_some_iff.mp (arena.mem_generation_iff.mp member)
  rw [Tree.distance, ← found]
  exact (tree.nodup_ancestors id).idxOf_getElem depth inside

theorem filter_generations_eq_self {keeps : Nat → Bool}
    (all : ∀ depth, low ≤ depth → depth ≤ high → keeps depth = true) :
    (tree.generations root low high).filter (fun id => keeps (tree.distance id root)) =
      tree.generations root low high := by
  apply List.filter_eq_self.mpr
  intro id member
  obtain ⟨depth, deep, shallow, found⟩ := mem_generations.mp member
  rw [arena.distance found]
  exact all depth deep shallow

theorem filter_generations_eq_nil {keeps : Nat → Bool}
    (none : ∀ depth, low ≤ depth → depth ≤ high → keeps depth = false) :
    (tree.generations root low high).filter (fun id => keeps (tree.distance id root)) = [] := by
  apply List.filter_eq_nil_iff.mpr
  intro id member
  obtain ⟨depth, deep, shallow, found⟩ := mem_generations.mp member
  rw [arena.distance found, none depth deep shallow]
  exact Bool.false_ne_true

theorem filter_breadthFirst (root : NodeId) (proper : 1 ≤ low) (ordered : low ≤ high) :
    ((tree.breadthFirst root).filter fun id =>
      decide (low ≤ tree.distance id root ∧ tree.distance id root ≤ high)) =
        tree.generations root low high := by
  let keeps (depth : Nat) : Bool := decide (low ≤ depth ∧ depth ≤ high)
  obtain ⟨above, rfl⟩ := Nat.exists_eq_add_of_le' proper
  have whole : tree.breadthFirst root = tree.generations root 1 above ++
      (tree.generations root (above + 1) high ++
        tree.generations root (high + 1) (high + tree.size)) := by
    rw [tree.generations_append root (by omega) (Nat.le_add_right ..),
      tree.generations_append root (by omega) (by omega)]
    exact arena.breadthFirst_eq root (by omega)
  have before : (tree.generations root 1 above).filter (fun id =>
      keeps (tree.distance id root)) = [] :=
    arena.filter_generations_eq_nil fun depth _ shallow => by simp only [keeps]; grind
  have within : (tree.generations root (above + 1) high).filter (fun id =>
      keeps (tree.distance id root)) = tree.generations root (above + 1) high :=
    arena.filter_generations_eq_self fun depth deep shallow => decide_eq_true ⟨deep, shallow⟩
  have behind : (tree.generations root (high + 1) (high + tree.size)).filter (fun id =>
      keeps (tree.distance id root)) = [] :=
    arena.filter_generations_eq_nil fun depth deep _ => by simp only [keeps]; grind
  rw [whole, List.filter_append, List.filter_append]
  exact (congrArg₂ _ before (congrArg₂ _ within behind)).trans (List.append_nil _)

/-- A node is met on the way up from the nodes below it, and from itself. -/
theorem mem_breadthFirst_iff :
    id ∈ tree.breadthFirst root ↔ root ≠ id ∧ root ∈ tree.ancestors id := by
  constructor
  · intro member
    rw [breadthFirst_eq_generations] at member
    obtain ⟨depth, proper, -, found⟩ := mem_generations.mp member
    obtain ⟨above, rfl⟩ := Nat.exists_eq_add_of_le' proper
    have met : (tree.ancestors id)[above + 1]? = some root := arena.mem_generation_iff.mp found
    refine ⟨?_, List.mem_of_getElem? met⟩
    intro same
    exact arena.root_notMem_generation root above (same ▸ found)
  · intro ⟨different, met⟩
    obtain ⟨depth, above⟩ := List.mem_iff_getElem?.mp met
    have found : id ∈ tree.generation root depth := arena.mem_generation_iff.mpr above
    cases depth with
    | zero => exact absurd (List.mem_singleton.mp found).symm different
    | succ less => exact arena.mem_breadthFirst.mpr (arena.isBelow_of_mem_generation found)

end IsArena

end ClosureTemplate.Tree

namespace ClosureTemplate.Query

namespace Scope

theorem collect_descendants (tree : Tree) (id : NodeId) (test : NodeId → Bool) :
    descendants.collect tree id test = (tree.breadthFirst id).filter test :=
  congrArg (List.filter test) (tree.flatten_levels id)

theorem filter_any (tree : Tree) (nodes : List NodeId) :
    nodes.filter (fun node => Predicate.any.test tree node) = nodes :=
  List.filter_eq_self.mpr fun _ _ => rfl

theorem toList_find? (nodes : List NodeId) (test : NodeId → Bool) :
    (nodes.find? test).toList = (nodes.filter test).head?.toList := by
  rw [List.head?_filter]

section Arena

variable {tree : Tree} (arena : tree.IsArena) (id : NodeId) (test : NodeId → Bool)
include arena

theorem collect_descendantsWithin {low : Nat} (proper : 1 ≤ low) (high : Nat) :
    (descendantsWithin low high).collect tree id test =
      (tree.generations id low high).filter test :=
  congrArg (List.filter test) (arena.flatten_drop_take_levels id proper)

theorem collect_descendantsWithin_eq_filter {low high : Nat} (proper : 1 ≤ low)
    (ordered : low ≤ high) :
    (descendantsWithin low high).collect tree id test =
      (descendants.collect tree id test).filter fun other =>
        decide (low ≤ tree.distance other id ∧ tree.distance other id ≤ high) := by
  rw [collect_descendantsWithin arena id test proper, collect_descendants, List.filter_comm,
    arena.filter_breadthFirst id proper ordered]

theorem collect_descendantsWithin_append {depth last : Nat} (deep : tree.size ≤ last + 1)
    (proper : 1 ≤ depth) (before : depth < last) :
    (descendantsWithin 1 depth).collect tree id test ++
      (descendantsWithin (depth + 1) last).collect tree id test =
        descendants.collect tree id test := by
  rw [collect_descendantsWithin arena id test (Nat.le_refl 1),
    collect_descendantsWithin arena id test (Nat.succ_pos depth), ← List.filter_append,
    tree.generations_append id (Nat.le_succ_of_le proper) (Nat.le_of_lt before),
    collect_descendants, arena.breadthFirst_eq id deep]

theorem collect_children :
    (descendantsWithin 1 1).collect tree id test = children.collect tree id test := by
  rw [collect_descendantsWithin arena id test (Nat.le_refl 1), Tree.generations_self,
    Tree.generation_one]
  rfl

theorem collect_childrenOfChildren :
    (descendantsWithin 2 2).collect tree id test = childrenOfChildren.collect tree id test := by
  rw [collect_descendantsWithin arena id test (Nat.le_succ 1), Tree.generations_self,
    Tree.generation, Tree.generation_one]
  rfl

theorem collect_siblings {parent : NodeId} (linked : tree.parent? id = some parent) :
    (previousSiblings true).collect tree id test ++ (nextSiblings false).collect tree id test =
      (tree.children parent).filter test := by
  rw [← arena.siblings linked, List.filter_append]
  rfl

end Arena

end Scope

/-- In every tree that calls lead to, around every node and for every test: the descendants are the
generations below the node in order, each of them once, and those between two depths are found
among them by their distances, so that runs of depths fit together and the first two are the
children and their children. The ancestors are the way up to a root, along which a node is met just
from itself and from its descendants. A scope that asks for a first node answers with the first one
of the scope that asks for all. The siblings around a node and the node itself are its parent's
children. -/
theorem scopes_denote_their_nodes (requests : List Tree.Request) (id : NodeId)
    (test : NodeId → Bool) :
    let tree := Tree.ofRequests requests
    let find (scope : Scope) := scope.collect tree id test
    (find .descendants = (tree.breadthFirst id).filter test ∧ (find .descendants).Nodup ∧
      ∀ other, other ∈ find .descendants ↔ tree.IsBelow other id ∧ test other = true) ∧
    (∀ low high, 1 ≤ low → low ≤ high →
      find (.descendantsWithin low high) = (tree.generations id low high).filter test ∧
      find (.descendantsWithin low high) = (find .descendants).filter fun other =>
        decide (low ≤ tree.distance other id ∧ tree.distance other id ≤ high)) ∧
    (∀ last, tree.size ≤ last + 1 → ∀ depth, 1 ≤ depth → depth < last →
      find (.descendantsWithin 1 depth) ++ find (.descendantsWithin (depth + 1) last) =
        find .descendants) ∧
    find (.descendantsWithin 1 1) = find .children ∧
    find (.descendantsWithin 2 2) = find .childrenOfChildren ∧
    (∃ way root, tree.Climbs id way ∧ way.getLast? = some root ∧ tree.parent? root = none ∧
      way.Nodup ∧ find .ancestors = way.filter test) ∧
    (∀ other, let isNode (node : NodeId) := Predicate.any.test tree node
      other ∈ Scope.descendants.collect tree id isNode ↔
        id ≠ other ∧ id ∈ Scope.ancestors.collect tree other isNode) ∧
    find .firstChild = (find .children).head?.toList ∧
    find .firstAncestor = (find .ancestors).head?.toList ∧
    find .nextSibling = (find (.nextSiblings false)).head?.toList ∧
    ∀ parent, tree.parent? id = some parent →
      find (.previousSiblings true) ++ find (.nextSiblings false) =
        (tree.children parent).filter test := by
  intro tree find
  have arena : tree.IsArena := Tree.isArena_ofRequests requests
  have all : find .descendants = (tree.breadthFirst id).filter test :=
    Scope.collect_descendants tree id test
  refine ⟨⟨all, ?_, ?_⟩, ?_, ?_, Scope.collect_children arena id test,
    Scope.collect_childrenOfChildren arena id test, ?_, ?_, Scope.toList_find? _ test,
    Scope.toList_find? _ test, Scope.toList_find? _ test, ?_⟩
  · rw [all]
    exact (arena.nodup_breadthFirst id).filter test
  · intro other
    rw [all, List.mem_filter, arena.mem_breadthFirst]
  · intro low high proper ordered
    exact ⟨Scope.collect_descendantsWithin arena id test proper high,
      Scope.collect_descendantsWithin_eq_filter arena id test proper ordered⟩
  · intro last deep depth proper before
    exact Scope.collect_descendantsWithin_append arena id test deep proper before
  · have climbs := Tree.climbs_ancestors arena id
    obtain ⟨root, last, parentless⟩ := climbs.getLast?
    exact ⟨_, root, climbs, last, parentless, tree.nodup_ancestors id, rfl⟩
  · intro other isNode
    have up : Scope.ancestors.collect tree other isNode = tree.ancestors other :=
      Scope.filter_any tree _
    rw [Scope.collect_descendants, Scope.filter_any, up]
    exact arena.mem_breadthFirst_iff
  · intro parent linked
    exact Scope.collect_siblings arena id test linked

theorem scopes_denote_their_nodes_documented :
    let requests : List Tree.Request := [⟨.soyFile, none, {}⟩, ⟨.namespaceDef, some 0, {}⟩,
      ⟨.tagAndDocComment, some 0, {}⟩, ⟨.docComment, some 2, {}⟩, ⟨.templateTagPair, some 2, {}⟩,
      ⟨.templateTag, some 4, {}⟩, ⟨.printTag, some 4, {}⟩, ⟨.msgTag, some 4, {}⟩,
      ⟨.parameterRef, some 6, {}⟩]
    let tree := Tree.ofRequests requests
    Scope.collect tree 0 (fun _ => true) (.descendantsWithin 2 3) = [3, 4, 5, 6, 7] ∧
    Scope.collect tree 0 (fun _ => true) (.descendantsWithin 1 2) ++
      Scope.collect tree 0 (fun _ => true) (.descendantsWithin 3 18446744073709551615) =
        [1, 2, 3, 4, 5, 6, 7, 8] ∧
    Scope.collect tree 6 (fun _ => true) (.previousSiblings true) ++
      Scope.collect tree 6 (fun _ => true) (.nextSiblings false) = [5, 6, 7] := by
  intro requests tree
  obtain ⟨⟨all, -⟩, within, split, -⟩ := scopes_denote_their_nodes requests 0 fun _ => true
  obtain ⟨-, -, -, -, -, -, -, -, -, -, siblings⟩ :=
    scopes_denote_their_nodes requests 6 fun _ => true
  have size : tree.size = 9 := by decide
  refine ⟨?_, ?_, ?_⟩
  · exact (within 2 3 (by decide) (by decide)).1.trans (by decide)
  · have deep : tree.size ≤ 18446744073709551615 + 1 := by omega
    exact (split _ deep 2 (by decide) (by decide)).trans (all.trans (by decide))
  · exact (siblings 4 (by decide)).trans (by decide)

end ClosureTemplate.Query
