import ClosureTemplate.Proofs.Query.Membership
import ClosureTemplate.Proofs.Tree.Descent

namespace ClosureTemplate.Query

/-- The nodes around the nodes of a collection that pass a test. -/
def around (tree : Tree) (scope : Scope) (predicate : Predicate) (nodes : Nodes) : Nodes :=
  .ofList (nodes.toList.flatMap fun id =>
    scope.collect tree id fun node => predicate.test tree node)

def unite (reach : NodeId → Nodes) (nodes : Nodes) : Nodes :=
  .ofList (nodes.toList.flatMap fun node => (reach node).toList)

variable {tree : Tree} {nodes : Nodes} {id : NodeId}

theorem mem_around {scope : Scope} {predicate : Predicate} :
    id ∈ around tree scope predicate nodes ↔
      ∃ origin ∈ nodes, id ∈ scope.collect tree origin fun node => predicate.test tree node := by
  rw [around, Collection.mem_ofList, List.mem_flatMap]
  rfl

theorem around_empty (tree : Tree) (scope : Scope) (predicate : Predicate) :
    around tree scope predicate ∅ = ∅ := rfl

theorem mem_unite {reach : NodeId → Nodes} :
    id ∈ unite reach nodes ↔ ∃ node ∈ nodes, id ∈ reach node := by
  rw [unite, Collection.mem_ofList, List.mem_flatMap]
  rfl

theorem unite_empty (reach : NodeId → Nodes) : unite reach ∅ = ∅ := rfl

theorem unite_singleton (reach : NodeId → Nodes) (id : NodeId) :
    unite reach (.singleton id) = reach id := by
  have alone : (Collection.singleton id).toList.flatMap (fun node => (reach node).toList) =
      (reach id).toList := List.flatMap_singleton ..
  rw [unite, alone, Collection.ofList_toList]

section Filters

variable {kind : ElementKind}

theorem mem_around_self {predicate : Predicate} :
    id ∈ around tree .self predicate nodes ↔ id ∈ nodes ∧ predicate.test tree id = true := by
  simp only [mem_around, Scope.collect, List.mem_filter, List.mem_singleton]
  constructor
  · rintro ⟨origin, member, rfl, passes⟩
    exact ⟨member, passes⟩
  · rintro ⟨member, passes⟩
    exact ⟨id, member, rfl, passes⟩

theorem around_self_singleton (tree : Tree) (predicate : Predicate) (id : NodeId) :
    around tree .self predicate (.singleton id) =
      if predicate.test tree id = true then .singleton id else ∅ := by
  split <;> next passes => simp [around, Collection.singleton, Scope.collect, passes]; rfl

theorem mem_around_children :
    id ∈ around tree .children (.kind kind) nodes ↔
      ∃ parent ∈ nodes, tree.HasChild kind parent id := by
  simp [mem_around, Scope.collect, Predicate.test, Tree.HasChild]

theorem mem_around_children_singleton {parent : NodeId} :
    id ∈ around tree .children (.kind kind) (.singleton parent) ↔ tree.HasChild kind parent id := by
  simp [mem_around_children]

theorem mem_around_childrenOfChildren :
    id ∈ around tree .childrenOfChildren (.kind kind) nodes ↔
      ∃ origin ∈ nodes, ∃ inner ∈ tree.children origin, tree.HasChild kind inner id := by
  simp only [mem_around, Scope.collect, List.mem_filter, List.mem_flatMap, Predicate.test,
    decide_eq_true_eq, Tree.HasChild]
  constructor
  · rintro ⟨origin, member, ⟨inner, child, grandchild⟩, isKind⟩
    exact ⟨origin, member, inner, child, grandchild, isKind⟩
  · rintro ⟨origin, member, inner, child, grandchild, isKind⟩
    exact ⟨origin, member, ⟨inner, child, grandchild⟩, isKind⟩

theorem mem_around_firstAncestor (arena : tree.IsArena)
    (others : ∀ node ∈ nodes, tree.kind? node ≠ some kind) :
    id ∈ around tree .firstAncestor (.kind kind) nodes ↔
      ∃ node ∈ nodes, tree.Nearest kind node id := by
  rw [mem_around]
  apply exists_congr
  intro node
  apply and_congr_right
  intro member
  have finds : (tree.ancestors node).find? (tree.isKind kind) = some id ↔ _ :=
    (Tree.climbs_ancestors arena node).find?_isKind
  change id ∈ ((tree.ancestors node).find? (tree.isKind kind)).toList ↔ _
  rw [Option.mem_toList, finds]
  simp [others node member]

theorem mem_around_parent :
    id ∈ around tree .parent (.kind kind) nodes ↔
      ∃ child ∈ nodes, tree.parent? child = some id ∧ tree.kind? id = some kind := by
  simp [mem_around, Scope.collect, Predicate.test]

theorem mem_around_nextSiblings (arena : tree.IsArena) :
    id ∈ around tree (.nextSiblings false) (.kind kind) nodes ↔
      ∃ node ∈ nodes, (∃ parent, tree.Precedes parent node id) ∧ tree.kind? id = some kind := by
  simp [mem_around, Scope.collect, Predicate.test, arena.mem_siblings_behind]

theorem mem_around_descendants (arena : tree.IsArena) :
    id ∈ around tree .descendants (.kind kind) nodes ↔
      ∃ root ∈ nodes, tree.IsBelow id root ∧ tree.kind? id = some kind := by
  simp [mem_around, Scope.collect, Predicate.test, Tree.flatten_levels, arena.mem_breadthFirst]

theorem toList_around {scope : Scope} {predicate : Predicate}
    (nodup : (scope.collect tree id fun node => predicate.test tree node).Nodup) :
    (around tree scope predicate (.singleton id)).toList =
      scope.collect tree id fun node => predicate.test tree node := by
  have alone : (Collection.singleton id).toList.flatMap
      (fun id => scope.collect tree id fun node => predicate.test tree node) =
        scope.collect tree id fun node => predicate.test tree node := List.flatMap_singleton ..
  rw [around, alone, Collection.toList_ofList nodup]

theorem toList_around_children (arena : tree.IsArena) (kind : ElementKind) (parent : NodeId) :
    (around tree .children (.kind kind) (.singleton parent)).toList =
      (tree.children parent).filter (tree.isKind kind) :=
  toList_around ((arena.nodup_children parent).filter _)

theorem toList_around_children_nodes (arena : tree.IsArena) (kind : ElementKind) (nodes : Nodes) :
    (around tree .children (.kind kind) nodes).toList =
      nodes.toList.flatMap fun parent => (tree.children parent).filter (tree.isKind kind) :=
  Collection.toList_ofList <| arena.nodup_flatMap nodes.nodup
    (fun parent => (arena.nodup_children parent).filter _) fun _ => List.filter_subset_self _

theorem toList_around_descendants (arena : tree.IsArena) (kind : ElementKind) (root : NodeId) :
    (around tree .descendants (.kind kind) (.singleton root)).toList =
      (tree.breadthFirst root).filter (tree.isKind kind) := by
  have all : Scope.descendants.collect tree root (tree.isKind kind) =
      (tree.breadthFirst root).filter (tree.isKind kind) := by
    rw [Scope.collect, Tree.flatten_levels]
  rw [← all]
  apply toList_around
  change (Scope.descendants.collect tree root (tree.isKind kind)).Nodup
  rw [all]
  exact (arena.nodup_breadthFirst root).filter _

end Filters

theorem forkEach_eq {path : Path} {reach : NodeId → Nodes} {ids : List NodeId} (initial : Nodes)
    (runs : ∀ node ∈ ids, path.run? tree (.singleton node) = some (reach node)) :
    ids.foldlM (fun found node => (path.run? tree (.singleton node)).map found.union) initial =
      some (initial.extend (ids.flatMap fun node => (reach node).toList)) := by
  induction ids generalizing initial with
  | nil => rfl
  | cons node ids ih =>
    have others : ∀ node ∈ ids, path.run? tree (.singleton node) = some (reach node) :=
      fun other member => runs other (List.mem_cons_of_mem _ member)
    rw [List.foldlM_cons, runs node List.mem_cons_self, List.flatMap_cons,
      Collection.extend_append]
    exact ih _ others

/-- Filters and forks lead from one collection to another. -/
inductive Reaches (tree : Tree) : List Step → Nodes → Nodes → Prop
  | done {nodes : Nodes} : Reaches tree [] nodes nodes
  | filter {scope : Scope} {predicate : Predicate} {steps : List Step} {nodes found : Nodes}
      (onwards : Reaches tree steps (around tree scope predicate nodes) found) :
      Reaches tree (.filter scope predicate :: steps) nodes found
  | fork {path : Path} {reach : NodeId → Nodes} {steps : List Step} {nodes found : Nodes}
      (runs : ∀ node ∈ nodes, path.run? tree (.singleton node) = some (reach node))
      (onwards : Reaches tree steps (unite reach nodes) found) :
      Reaches tree (.fork path :: steps) nodes found

theorem Reaches.of_empty {steps : List Step} {found : Nodes}
    (reaches : Reaches tree steps nodes found) (empty : nodes = ∅) : found = ∅ := by
  induction reaches with
  | done => exact empty
  | filter _ ih =>
    subst empty
    exact ih (around_empty ..)
  | fork _ _ ih =>
    subst empty
    exact ih (unite_empty _)

theorem runSteps_cons_cases {start current found : Nodes} {stack later : List Nodes} {step : Step}
    (policy : EmptyPolicy) (steps : List Step)
    (applied : step.apply? tree start stack current = some (later, found)) :
    current = ∅ ∧ runSteps tree policy start (step :: steps) stack current = some .stopped ∨
      runSteps tree policy start (step :: steps) stack current =
        runSteps tree policy start steps later found := by
  rw [runSteps]
  split
  · next stops =>
    simp only [Bool.and_eq_true] at stops
    exact .inl ⟨Collection.eq_empty_of_isEmpty stops.1.1.2, rfl⟩
  · rw [applied]
    exact .inr rfl

theorem apply?_fork {path : Path} {reach : NodeId → Nodes} (start : Nodes) (stack : List Nodes)
    (runs : ∀ node ∈ nodes, path.run? tree (.singleton node) = some (reach node)) :
    Step.apply? tree start (.fork path) stack nodes = some (stack, unite reach nodes) := by
  unfold Step.apply?
  rw [forkEach_eq ∅ runs]
  rfl

theorem Reaches.runSteps {steps : List Step} {found : Nodes}
    (reaches : Reaches tree steps nodes found) (policy : EmptyPolicy) (start : Nodes) :
    (runSteps tree policy start steps [] nodes).map Outcome.result = some found := by
  induction reaches with
  | done => rfl
  | @filter scope predicate steps nodes found onwards ih =>
    have applied : Step.apply? tree start (.filter scope predicate) [] nodes =
        some ([], around tree scope predicate nodes) := rfl
    rcases runSteps_cons_cases policy steps applied with ⟨empty, stopped⟩ | proceeds
    · rw [stopped, (Reaches.filter onwards).of_empty empty]
      rfl
    · rw [proceeds, ih]
  | @fork path reach steps nodes found runs onwards ih =>
    rcases runSteps_cons_cases policy steps (apply?_fork start [] runs) with
      ⟨empty, stopped⟩ | proceeds
    · rw [stopped, (Reaches.fork runs onwards).of_empty empty]
      rfl
    · rw [proceeds, ih]

theorem Reaches.run? {steps : List Step} {start found : Nodes}
    (reaches : Reaches tree steps start found) (label : Option String) (policy : EmptyPolicy) :
    (Path.program label policy steps).run? tree start = some found := by
  rw [Path.run?]
  split
  · next empty => rw [reaches.of_empty (Collection.eq_empty_of_isEmpty empty)]
  · exact reaches.runSteps policy start

theorem Path.navigate_of_run? {path : Path} {found : Nodes}
    (ran : path.run? tree (.singleton id) = some found) : path.navigate tree id = found :=
  navigateAll_of_run? ran

section Proceed

variable {start current saved : Nodes} {stack : List Nodes} {steps : List Step}

theorem runSteps_filter (scope : Scope) (predicate : Predicate) :
    runSteps tree .proceed start (.filter scope predicate :: steps) stack current =
      runSteps tree .proceed start steps stack (around tree scope predicate current) := rfl

theorem runSteps_push :
    runSteps tree .proceed start (.push :: steps) stack current =
      runSteps tree .proceed start steps (current :: stack) current := rfl

theorem runSteps_restart :
    runSteps tree .proceed start (.restart :: steps) stack current =
      runSteps tree .proceed start steps stack start := rfl

theorem runSteps_popJoin (label : String) (join : Join) :
    runSteps tree .proceed start (.popJoin label join :: steps) (saved :: stack) current =
      runSteps tree .proceed start steps stack (join tree current saved) := rfl

theorem runSteps_fork {path : Path} {reach : NodeId → Nodes}
    (runs : ∀ node ∈ current, path.run? tree (.singleton node) = some (reach node)) :
    runSteps tree .proceed start (.fork path :: steps) stack current =
      runSteps tree .proceed start steps stack (unite reach current) := by
  rw [runSteps, apply?_fork start stack runs]
  rfl

end Proceed

end ClosureTemplate.Query
