import ClosureTemplate.Inspect.Paths

/-!
Trees as arenas. Parent links and lists of children are kept side by side; `build_eq_ok` says once
what a call of `build` does to both, seen through the nodes that can be looked up. Every history
of calls, failed ones among them, then leads to an arena (`isArena_ofRequests`), in which the way
up from a node goes from smaller number to smaller number and ends (`climbs_ancestors`).
-/

namespace ClosureTemplate

theorem NodeSpec.node_kind (spec : NodeSpec) (kind : ElementKind) :
    (spec.node kind).kind = kind := by
  cases kind <;> rfl

theorem NodeSpec.node_children (spec : NodeSpec) (kind : ElementKind) :
    (spec.node kind).children = [] := by
  cases kind <;> rfl

theorem NodeSpec.node_name_isSome (spec : NodeSpec) (kind : ElementKind) :
    (spec.node kind).name.isSome = kind.isNameBearing := by
  cases kind <;> rfl

namespace Tree

structure Grows (tree : Tree) (kind : ElementKind) (parent : Option NodeId) (spec : NodeSpec)
    (after : Tree) : Prop where
  size : after.size = tree.size + 1
  added : after.node? tree.size = some { spec.node kind with parent }
  kept : ∀ id < tree.size, after.node? id =
    (tree.node? id).map fun node => if parent = some id then node.adopt tree.size else node

theorem node?_eq_none {tree : Tree} {id : NodeId} : tree.node? id = none ↔ tree.size ≤ id :=
  List.getElem?_eq_none_iff

theorem lt_size_of_node? {tree : Tree} {id : NodeId} {node : Node}
    (found : tree.node? id = some node) : id < tree.size :=
  (List.getElem?_eq_some_iff.mp found).1

theorem grows_root (tree : Tree) (kind : ElementKind) (spec : NodeSpec) :
    tree.Grows kind none spec ⟨tree.nodes ++ [{ spec.node kind with parent := none }]⟩ where
  size := by simp [size]
  added := by simp [node?, size]
  kept id known := by simp [node?, List.getElem?_append_left known]

theorem grows_child (tree : Tree) (kind : ElementKind) (spec : NodeSpec) (parent : NodeId) :
    tree.Grows kind (some parent) spec ⟨tree.nodes.modify parent (Node.adopt tree.size) ++
      [{ spec.node kind with parent := some parent }]⟩ where
  size := by simp [size]
  added := by simp [node?, size]
  kept id known := by
    have inside : id < (tree.nodes.modify parent (Node.adopt tree.size)).length := by
      rw [List.length_modify]
      exact known
    rw [node?, List.getElem?_append_left inside, List.getElem?_modify, node?]
    by_cases same : parent = id <;> simp [same]

theorem build_eq_error {tree : Tree} {parent : NodeId} (kind : ElementKind) (spec : NodeSpec)
    (unknown : tree.size ≤ parent) :
    tree.build kind (some parent) spec = .error (.unknownParent parent tree.size) := by
  simp [build, Nat.not_lt.mpr unknown]

theorem build_eq_ok (tree : Tree) (kind : ElementKind) {parent : Option NodeId} (spec : NodeSpec)
    (known : ∀ id, parent = some id → id < tree.size) :
    ∃ after, tree.build kind parent spec = .ok (tree.size, after) ∧
      tree.Grows kind parent spec after := by
  cases parent with
  | none => exact ⟨_, rfl, tree.grows_root kind spec⟩
  | some parent =>
    refine ⟨_, ?_, tree.grows_child kind spec parent⟩
    simp [build, known parent rfl]

section Grows

variable {tree after : Tree} {kind : ElementKind} {parent : Option NodeId} {spec : NodeSpec}

theorem Grows.node?_cases (grows : tree.Grows kind parent spec after) (id : NodeId) :
    after.node? id = (if id = tree.size then some { spec.node kind with parent } else
      (tree.node? id).map fun node => if parent = some id then node.adopt tree.size else node) := by
  by_cases new : id = tree.size
  · rw [if_pos new, new, grows.added]
  · rw [if_neg new]
    by_cases known : id < tree.size
    · exact grows.kept id known
    · have outside : tree.size ≤ id := Nat.le_of_not_lt known
      have still : after.size ≤ id := grows.size ▸ Nat.lt_of_le_of_ne outside (Ne.symm new)
      rw [node?_eq_none.mpr outside, node?_eq_none.mpr still]
      rfl

theorem Grows.parent? (grows : tree.Grows kind parent spec after) (id : NodeId) :
    after.parent? id = if id = tree.size then parent else tree.parent? id := by
  unfold Tree.parent?
  rw [grows.node?_cases]
  by_cases new : id = tree.size
  · simp [new]
  · rw [if_neg new, if_neg new]
    cases tree.node? id with
    | none => rfl
    | some node => by_cases adopts : parent = some id <;> simp [adopts, Node.adopt]

theorem Grows.children (grows : tree.Grows kind parent spec after)
    (known : ∀ id, parent = some id → id < tree.size) (id : NodeId) :
    after.children id =
      tree.children id ++ if parent = some id then [tree.size] else [] := by
  unfold Tree.children
  rw [grows.node?_cases]
  by_cases new : id = tree.size
  · have strange : parent ≠ some id := fun same => Nat.lt_irrefl _ (new ▸ known id same)
    rw [if_pos new, if_neg strange, node?_eq_none.mpr (Nat.le_of_eq new.symm)]
    simp [NodeSpec.node_children]
  · rw [if_neg new]
    by_cases adopts : parent = some id
    · obtain ⟨node, found⟩ : ∃ node, tree.node? id = some node :=
        ⟨_, List.getElem?_eq_getElem (known id adopts)⟩
      simp [adopts, found, Node.adopt]
    · simp [adopts]

end Grows

structure Request where
  kind : ElementKind
  parent : Option NodeId
  spec : NodeSpec

def serve (tree : Tree) (request : Request) : Tree :=
  match tree.build request.kind request.parent request.spec with
  | .ok (_, after) => after
  | .error _ => tree

/-- The tree that calls lead to, one after the other, from the empty tree. -/
def ofRequests (requests : List Request) : Tree := requests.foldl serve empty

theorem serve_cases (tree : Tree) (request : Request) :
    tree.serve request = tree ∨
      (∀ id, request.parent = some id → id < tree.size) ∧
        tree.Grows request.kind request.parent request.spec (tree.serve request) := by
  by_cases known : ∀ id, request.parent = some id → id < tree.size
  · obtain ⟨after, built, grows⟩ := tree.build_eq_ok request.kind request.spec known
    refine .inr ⟨known, ?_⟩
    rw [serve, built]
    exact grows
  · simp only [Classical.not_forall, Nat.not_lt] at known
    obtain ⟨parent, given, unknown⟩ := known
    left
    rw [serve, given, build_eq_error request.kind request.spec unknown]

theorem ofRequests_induction {fact : Tree → Prop} (start : fact empty)
    (keeps : ∀ tree request, fact tree → fact (tree.serve request)) (requests : List Request) :
    fact (ofRequests requests) :=
  List.foldlRecOn requests serve start fun tree holds request _ => keeps tree request holds

/-- Parents are built before their children, both sides know of each other, and the names are where
the kinds ask for them. -/
structure IsArena (tree : Tree) : Prop where
  parent_lt : ∀ {id parent}, tree.parent? id = some parent → parent < id
  mem_children : ∀ {id parent}, id ∈ tree.children parent ↔ tree.parent? id = some parent
  increasing : ∀ parent, (tree.children parent).Pairwise (· < ·)
  name : ∀ {id node}, tree.node? id = some node → node.name.isSome = node.kind.isNameBearing

theorem isArena_empty : empty.IsArena where
  parent_lt linked := by simp [parent?, node?, empty] at linked
  mem_children := by simp [parent?, children, node?, empty]
  increasing parent := by simp [children, node?, empty]
  name found := by simp [node?, empty] at found

theorem lt_size_of_parent? {tree : Tree} {id parent : NodeId}
    (linked : tree.parent? id = some parent) : id < tree.size := by
  obtain ⟨node, found, -⟩ := Option.bind_eq_some_iff.mp linked
  exact lt_size_of_node? found

theorem IsArena.lt_size_of_mem_children {tree : Tree} (arena : tree.IsArena) {id parent : NodeId}
    (member : id ∈ tree.children parent) : id < tree.size :=
  lt_size_of_parent? (arena.mem_children.mp member)

theorem parent?_size (tree : Tree) : tree.parent? tree.size = none := by
  rw [parent?, node?_eq_none.mpr (Nat.le_refl _)]
  rfl

theorem IsArena.grows {tree after : Tree} {kind : ElementKind} {parent : Option NodeId}
    {spec : NodeSpec} (arena : tree.IsArena) (known : ∀ id, parent = some id → id < tree.size)
    (grows : tree.Grows kind parent spec after) : after.IsArena where
  parent_lt {id other} linked := by
    rw [grows.parent?] at linked
    split at linked
    · next new => exact new ▸ known other linked
    · exact arena.parent_lt linked
  mem_children {id other} := by
    rw [grows.children known, grows.parent?, List.mem_append, arena.mem_children]
    by_cases new : id = tree.size
    · rw [if_pos new, new, tree.parent?_size]
      by_cases adopts : parent = some other <;> simp [adopts]
    · rw [if_neg new]
      by_cases adopts : parent = some other <;> simp [adopts, new]
  increasing other := by
    rw [grows.children known]
    refine List.pairwise_append.mpr ⟨arena.increasing other, by split <;> simp, ?_⟩
    intro old member new added
    obtain rfl : new = tree.size := by
      split at added
      · exact List.mem_singleton.mp added
      · cases added
    exact arena.lt_size_of_mem_children member
  name {id node} found := by
    rw [grows.node?_cases] at found
    split at found
    · obtain rfl := Option.some.inj found
      rw [spec.node_kind]
      exact spec.node_name_isSome kind
    · obtain ⟨old, before, rfl⟩ := Option.map_eq_some_iff.mp found
      have named := arena.name before
      split <;> exact named

theorem IsArena.serve {tree : Tree} (arena : tree.IsArena) (request : Request) :
    (tree.serve request).IsArena := by
  rcases tree.serve_cases request with same | ⟨known, grows⟩
  · rw [same]
    exact arena
  · exact arena.grows known grows

theorem isArena_ofRequests (requests : List Request) : (ofRequests requests).IsArena :=
  ofRequests_induction isArena_empty (fun _ request arena => arena.serve request) requests

namespace IsArena

variable {tree : Tree} (arena : tree.IsArena)
include arena

theorem count_children (parent id : NodeId) :
    (tree.children parent).count id = if tree.parent? id = some parent then 1 else 0 := by
  have nodup : (tree.children parent).Nodup := (arena.increasing parent).imp Nat.ne_of_lt
  rw [nodup.count]
  simp only [arena.mem_children]

theorem root? : tree.root? = if tree.size = 0 then none else some 0 := by
  cases shape : tree.nodes with
  | nil => simp [Tree.root?, size, shape]
  | cons first rest =>
    have rootless : first.parent = none := by
      cases linked : first.parent with
      | none => rfl
      | some parent =>
        have found : tree.parent? 0 = some parent := by simp [Tree.parent?, node?, shape, linked]
        exact absurd (arena.parent_lt found) (Nat.not_lt_zero _)
    simp [Tree.root?, size, shape, rootless, List.findIdx?_cons]

theorem siblings {id parent : NodeId} (linked : tree.parent? id = some parent) :
    (tree.siblings id).1 ++ [id] ++ (tree.siblings id).2 = tree.children parent := by
  have member : id ∈ tree.children parent := arena.mem_children.mpr linked
  obtain ⟨index, found⟩ := Option.isSome_iff_exists.mp (List.isSome_idxOf?.mpr member)
  obtain ⟨inside, self, -⟩ := List.idxOf?_eq_some_iff.mp found
  simp only [Tree.siblings, linked, found]
  calc
    _ = (tree.children parent).take index ++
        (tree.children parent)[index] :: (tree.children parent).drop (index + 1) := by
      rw [self, List.append_assoc, List.singleton_append]
    _ = tree.children parent := by rw [List.getElem_cons_drop, List.take_append_drop]

end IsArena

/-- The nodes that are met on the way from a node to one without a parent. -/
inductive Climbs (tree : Tree) : NodeId → List NodeId → Prop
  | top {id : NodeId} (parentless : tree.parent? id = none) : Climbs tree id [id]
  | up {id parent : NodeId} {way : List NodeId} (linked : tree.parent? id = some parent)
      (onwards : Climbs tree parent way) : Climbs tree id (id :: way)

theorem climbs_ancestors {tree : Tree} (arena : tree.IsArena) (id : NodeId) :
    tree.Climbs id (tree.ancestors id) := by
  fun_induction tree.ancestors id with
  | case1 id parent linked smaller ih => exact .up linked ih
  | case2 id parent linked larger => exact absurd (arena.parent_lt linked) larger
  | case3 id parentless => exact .top parentless

theorem Climbs.length_le {tree : Tree} (arena : tree.IsArena) {id : NodeId} {way : List NodeId}
    (climbs : tree.Climbs id way) : way.length ≤ id + 1 := by
  induction climbs with
  | top => simp
  | up linked _ ih => exact Nat.succ_le_succ (Nat.le_trans ih (arena.parent_lt linked))

theorem Climbs.getLast? {tree : Tree} {id : NodeId} {way : List NodeId}
    (climbs : tree.Climbs id way) :
    ∃ root, way.getLast? = some root ∧ tree.parent? root = none := by
  induction climbs with
  | @top id parentless => exact ⟨id, rfl, parentless⟩
  | up _ _ ih =>
    obtain ⟨root, last, parentless⟩ := ih
    exact ⟨root, by rw [List.getLast?_cons, last]; rfl, parentless⟩

/-- Whatever calls are made, with parents that are there or not, the tree they lead to is an arena:
parents have smaller numbers than their children, lists of children and parent links agree, the
first node is the root, siblings are the children around a node, and names are where kinds ask for
them. A call with an unknown parent changes nothing, any other adds one node and tells its parent.
Every way up therefore ends at a node without a parent, after no more nodes than the tree has. -/
theorem built_trees_are_arenas (requests : List Request) :
    let tree := ofRequests requests
    (∀ id parent, tree.parent? id = some parent → parent < id) ∧
    (∀ parent id, (tree.children parent).count id =
      if tree.parent? id = some parent then 1 else 0) ∧
    (∀ parent, (tree.children parent).Pairwise (· < ·)) ∧
    (tree.root? = if tree.size = 0 then none else some 0) ∧
    (∀ id parent, tree.parent? id = some parent →
      (tree.siblings id).1 ++ [id] ++ (tree.siblings id).2 = tree.children parent) ∧
    (∀ id node, tree.node? id = some node → node.name.isSome = node.kind.isNameBearing) ∧
    (∀ kind parent spec, tree.size ≤ parent →
      tree.build kind (some parent) spec = .error (.unknownParent parent tree.size) ∧
        tree.serve ⟨kind, some parent, spec⟩ = tree) ∧
    (∀ kind parent spec, (∀ id, parent = some id → id < tree.size) →
      ∃ after, tree.build kind parent spec = .ok (tree.size, after) ∧
        tree.serve ⟨kind, parent, spec⟩ = after ∧ tree.Grows kind parent spec after) ∧
    ∀ id < tree.size, ∃ way root, tree.Climbs id way ∧ way.length ≤ tree.size ∧
      way.getLast? = some root ∧ tree.parent? root = none ∧
      (∀ test, Query.Scope.ancestors.collect tree id test = way.filter test) ∧
      (∀ test, Query.Scope.firstAncestor.collect tree id test = (way.find? test).toList) ∧
      Inspect.namespaceOf tree id =
        ((tree.children root).find? (tree.isKind .namespaceDef)).bind tree.name? := by
  have arena := isArena_ofRequests requests
  refine ⟨fun _ _ => arena.parent_lt, arena.count_children, arena.increasing, arena.root?,
    fun _ _ => arena.siblings, fun _ _ => arena.name, ?_, ?_, ?_⟩
  · intro kind parent spec unknown
    have refused := build_eq_error kind spec unknown
    exact ⟨refused, by rw [serve, refused]⟩
  · intro kind parent spec known
    obtain ⟨after, built, grows⟩ := build_eq_ok _ kind spec known
    exact ⟨after, built, by rw [serve, built], grows⟩
  · intro id known
    have climbs := climbs_ancestors arena id
    obtain ⟨root, last, parentless⟩ := climbs.getLast?
    refine ⟨_, root, climbs, Nat.le_trans (climbs.length_le arena) known, last, parentless,
      fun _ => rfl, fun _ => rfl, ?_⟩
    rw [Inspect.namespaceOf, last]
    rfl

theorem built_trees_are_arenas_refused_call :
    let tree := ofRequests [⟨.soyFile, none, {}⟩, ⟨.templateTagPair, some 0, {}⟩,
      ⟨.callTag, some 7, {}⟩, ⟨.templateTag, some 1, { name := some ".a" }⟩,
      ⟨.templateText, some 0, {}⟩]
    (tree.parent? 3 = some 0 ∧ (tree.siblings 3).1 ++ [3] ++ (tree.siblings 3).2 = [1, 3]) ∧
    (tree.node? 2 = some ⟨.templateTag, some ".a", ".a", [], some 1, []⟩ ∧
      (some ".a").isSome = ElementKind.templateTag.isNameBearing) ∧
    tree.build .callTag (some 7) {} = .error (.unknownParent 7 4) ∧
    (∃ after, tree.build .callTag (some 3) {} = .ok (4, after) ∧
      tree.Grows .callTag (some 3) {} after) ∧
    ∃ way root, tree.Climbs 2 way ∧ way.length ≤ 4 ∧ way.getLast? = some root ∧
      tree.parent? root = none := by
  intro tree
  obtain ⟨-, -, -, -, siblings, named, refused, built, climbs⟩ := built_trees_are_arenas
    [⟨.soyFile, none, {}⟩, ⟨.templateTagPair, some 0, {}⟩, ⟨.callTag, some 7, {}⟩,
      ⟨.templateTag, some 1, { name := some ".a" }⟩, ⟨.templateText, some 0, {}⟩]
  have linked : tree.parent? 3 = some 0 := by decide
  have found : tree.node? 2 = some ⟨.templateTag, some ".a", ".a", [], some 1, []⟩ := by decide
  obtain ⟨after, answer, -, grows⟩ := built .callTag (some 3) {} (by decide)
  obtain ⟨way, root, climbs, short, last, parentless, -⟩ := climbs 2 (by decide)
  exact ⟨⟨linked, siblings 3 0 linked⟩, ⟨found, named 2 _ found⟩,
    (refused .callTag 7 {} (by decide)).1, ⟨after, answer, grows⟩, way, root, climbs, short, last,
    parentless⟩

end Tree

end ClosureTemplate
