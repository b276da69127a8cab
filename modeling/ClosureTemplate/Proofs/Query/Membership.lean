import ClosureTemplate.Proofs.Query.Balance
import ClosureTemplate.Proofs.Tree.Arena
import ClosureTemplate.Proofs.Tree.Collection
import ClosureTemplate.Query.Join

/-!
Navigation stays inside the tree. Scopes lead from nodes of an arena to nodes of it, joins are asked
to give nothing but what they are given, and every step then keeps the working collection and the
saved ones inside (`apply?_within`), along programs, through forks and through all combinations.
-/

namespace ClosureTemplate

namespace Tree

variable {tree : Tree}

theorem exists_parent_of_mem_levelsBelow {depth : Nat} {level next : List NodeId} {id : NodeId}
    (listed : next ∈ tree.levelsBelow depth level) (member : id ∈ next) :
    ∃ parent, id ∈ tree.children parent := by
  induction depth generalizing level with
  | zero => cases listed
  | succ depth ih =>
    rw [levelsBelow] at listed
    split at listed
    · cases listed
    · rcases List.mem_cons.mp listed with rfl | deeper
      · obtain ⟨parent, -, child⟩ := List.mem_flatMap.mp member
        exact ⟨parent, child⟩
      · exact ih deeper

theorem le_of_mem_ancestors {id other : NodeId} (member : other ∈ tree.ancestors id) :
    other ≤ id := by
  fun_induction tree.ancestors id with
  | case1 id parent _ smaller ih =>
    rcases List.mem_cons.mp member with rfl | further
    · exact Nat.le_refl _
    · exact Nat.le_trans (ih further) (Nat.le_of_lt smaller)
  | case2 => exact Nat.le_of_eq (List.mem_singleton.mp member)
  | case3 => exact Nat.le_of_eq (List.mem_singleton.mp member)

theorem exists_parent_of_mem_siblings {id other : NodeId}
    (member : other ∈ (tree.siblings id).1 ∨ other ∈ (tree.siblings id).2) :
    ∃ parent, other ∈ tree.children parent := by
  unfold siblings at member
  split at member
  · simp at member
  · next parent _ =>
    dsimp only at member
    split at member
    · exact ⟨parent, member.elim List.mem_of_mem_take List.mem_of_mem_drop⟩
    · simp at member

end Tree

namespace Query

def Within (tree : Tree) (ids : List NodeId) : Prop := ∀ id ∈ ids, id < tree.size

theorem Within.filter {tree : Tree} {ids : List NodeId} (within : Within tree ids)
    (test : NodeId → Bool) : Within tree (ids.filter test) :=
  fun id member => within id (List.mem_filter.mp member).1

theorem Within.find? {tree : Tree} {ids : List NodeId} (within : Within tree ids)
    (test : NodeId → Bool) : Within tree (ids.find? test).toList :=
  fun id member => within id (List.mem_of_find?_eq_some (Option.mem_toList.mp member))

theorem Within.append {tree : Tree} {first second : List NodeId} (left : Within tree first)
    (right : Within tree second) : Within tree (first ++ second) := by
  intro id member
  rcases List.mem_append.mp member with member | member
  · exact left id member
  · exact right id member

theorem within_children {tree : Tree} (arena : tree.IsArena) (id : NodeId) :
    Within tree (tree.children id) :=
  fun _ member => arena.lt_size_of_mem_children member

theorem within_levels {tree : Tree} (arena : tree.IsArena) {levels : List (List NodeId)}
    {id : NodeId} (among : ∀ level ∈ levels, level ∈ tree.levels id) :
    Within tree levels.flatten := by
  intro other member
  obtain ⟨level, listed, inside⟩ := List.mem_flatten.mp member
  obtain ⟨parent, child⟩ := Tree.exists_parent_of_mem_levelsBelow (among level listed) inside
  exact arena.lt_size_of_mem_children child

theorem within_siblings {tree : Tree} (arena : tree.IsArena) (id : NodeId) :
    Within tree (tree.siblings id).1 ∧ Within tree (tree.siblings id).2 := by
  constructor
  · intro other member
    obtain ⟨parent, child⟩ := Tree.exists_parent_of_mem_siblings (.inl member)
    exact arena.lt_size_of_mem_children child
  · intro other member
    obtain ⟨parent, child⟩ := Tree.exists_parent_of_mem_siblings (.inr member)
    exact arena.lt_size_of_mem_children child

theorem Scope.collect_within {tree : Tree} (arena : tree.IsArena) {id : NodeId}
    (known : id < tree.size) (test : NodeId → Bool) (scope : Scope) :
    Within tree (scope.collect tree id test) := by
  have self (isIncluded : Bool) : Within tree (if isIncluded then [id] else []) := by
    intro other member
    cases isIncluded with
    | false => cases member
    | true => exact (List.mem_singleton.mp member) ▸ known
  have ancestors : Within tree (tree.ancestors id) :=
    fun other member => Nat.lt_of_le_of_lt (Tree.le_of_mem_ancestors member) known
  obtain ⟨before, behind⟩ := within_siblings arena id
  cases scope with
  | self => exact (self true).filter test
  | children => exact (within_children arena id).filter test
  | childrenOfChildren =>
    refine Within.filter (fun other member => ?_) test
    obtain ⟨child, -, grandchild⟩ := List.mem_flatMap.mp member
    exact within_children arena child other grandchild
  | firstChild => exact (within_children arena id).find? test
  | descendants => exact (within_levels arena fun _ listed => listed).filter test
  | descendantsWithin low high =>
    exact (within_levels arena fun _ listed =>
      List.mem_of_mem_take (List.mem_of_mem_drop listed)).filter test
  | parent =>
    refine Within.filter (fun other member => ?_) test
    have linked : tree.parent? id = some other := Option.mem_toList.mp member
    exact Nat.lt_trans (arena.parent_lt linked) known
  | ancestors => exact ancestors.filter test
  | firstAncestor => exact ancestors.find? test
  | nextSibling => exact behind.find? test
  | previousSiblings includeSelf => exact (before.append (self includeSelf)).filter test
  | nextSiblings includeSelf => exact ((self includeSelf).append behind).filter test

/-- A join that gives nothing but members of the collections it is given. -/
def Join.Selects (tree : Tree) (join : Join) : Prop :=
  ∀ (current saved : Nodes), ∀ id ∈ join tree current saved, id ∈ current ∨ id ∈ saved

def Path.StaysIn (tree : Tree) (path : Path) : Prop :=
  ∀ start found : Nodes, path.run? tree start = some found → Within tree start.toList →
    Within tree found.toList

structure Step.StaysIn (tree : Tree) (step : Step) : Prop where
  join : ∀ label join, step = .popJoin label join → Join.Selects tree join
  fork : ∀ path, step = .fork path → path.StaysIn tree

theorem within_nothing (tree : Tree) : Within tree (∅ : Nodes).toList :=
  fun _ member => by cases member

theorem within_union {tree : Tree} {first second : Nodes} (left : Within tree first.toList)
    (right : Within tree second.toList) : Within tree (first.union second).toList := by
  intro id member
  rcases Collection.mem_union.mp member with member | member
  · exact left id member
  · exact right id member

theorem forkEach_within {tree : Tree} {path : Path} (stays : path.StaysIn tree)
    {nodes : List NodeId} {initial found : Nodes} (known : Within tree nodes)
    (within : Within tree initial.toList)
    (forked : nodes.foldlM
      (fun found node => (path.run? tree (.singleton node)).map found.union) initial =
        some found) : Within tree found.toList := by
  induction nodes generalizing initial with
  | nil =>
    obtain rfl := Option.some.inj forked
    exact within
  | cons node nodes ih =>
    rw [List.foldlM_cons] at forked
    obtain ⟨united, one, others⟩ := Option.bind_eq_some_iff.mp forked
    obtain ⟨result, ran, rfl⟩ := Option.map_eq_some_iff.mp one
    have here : Within tree (Collection.singleton node).toList := by
      intro id member
      obtain rfl := List.mem_singleton.mp member
      exact known id List.mem_cons_self
    exact ih (fun id member => known id (List.mem_cons_of_mem _ member))
      (within_union within (stays _ _ ran here)) others

structure StackWithin (tree : Tree) (stack : List Nodes) (current : Nodes) : Prop where
  saved : ∀ nodes ∈ stack, Within tree nodes.toList
  current : Within tree current.toList

theorem StackWithin.top {tree : Tree} {top current : Nodes} {rest : List Nodes}
    (within : StackWithin tree (top :: rest) current) : Within tree top.toList :=
  within.saved top List.mem_cons_self

theorem StackWithin.rest {tree : Tree} {top current : Nodes} {rest : List Nodes}
    (within : StackWithin tree (top :: rest) current) : ∀ nodes ∈ rest, Within tree nodes.toList :=
  fun nodes member => within.saved nodes (List.mem_cons_of_mem _ member)

theorem apply?_within {tree : Tree} (arena : tree.IsArena) {step : Step}
    (stays : step.StaysIn tree) {start : Nodes} (origin : Within tree start.toList)
    {stack later : List Nodes} {current found : Nodes}
    (within : StackWithin tree stack current)
    (applied : step.apply? tree start stack current = some (later, found)) :
    StackWithin tree later found := by
  cases step with
  | filter scope predicate =>
    cases applied
    refine ⟨within.saved, fun id member => ?_⟩
    obtain ⟨node, inside, collected⟩ := List.mem_flatMap.mp (Collection.mem_ofList.mp member)
    exact scope.collect_within arena (within.current node inside) _ id collected
  | push =>
    cases applied
    exact ⟨List.forall_mem_cons.mpr ⟨within.current, within.saved⟩, within.current⟩
  | pushMatching predicate =>
    cases applied
    exact ⟨List.forall_mem_cons.mpr ⟨within.current.filter _, within.saved⟩,
      within.current.filter _⟩
  | restart =>
    cases applied
    exact ⟨within.saved, origin⟩
  | log =>
    cases applied
    exact within
  | fork path =>
    obtain ⟨united, forked, same⟩ := Option.bind_eq_some_iff.mp applied
    cases same
    exact ⟨within.saved,
      forkEach_within (stays.fork path rfl) within.current (within_nothing tree) forked⟩
  | swap =>
    match stack, within, applied with
    | top :: rest, within, rfl =>
      exact ⟨List.forall_mem_cons.mpr ⟨within.current, within.rest⟩, within.top⟩
  | pop =>
    match stack, within, applied with
    | top :: rest, within, rfl => exact ⟨within.rest, within.top⟩
  | popAdd =>
    match stack, within, applied with
    | top :: rest, within, rfl =>
      exact ⟨within.rest, within_union within.top within.current⟩
  | popJoin label join =>
    match stack, within, applied with
    | top :: rest, within, rfl =>
      refine ⟨within.rest, fun id member => ?_⟩
      rcases stays.join label join rfl current top id member with inCurrent | inTop
      · exact within.current id inCurrent
      · exact within.top id inTop

theorem runSteps_within {tree : Tree} (arena : tree.IsArena) {steps : List Step}
    (stays : ∀ step ∈ steps, step.StaysIn tree) {policy : EmptyPolicy} {start : Nodes}
    (origin : Within tree start.toList) {stack later : List Nodes} {current found : Nodes}
    (within : StackWithin tree stack current)
    (ran : runSteps tree policy start steps stack current = some (.finished later found)) :
    StackWithin tree later found := by
  induction steps generalizing stack current with
  | nil =>
    cases ran
    exact within
  | cons step steps ih =>
    rw [runSteps] at ran
    split at ran
    · cases ran
    · split at ran
      · next applied =>
        have here := apply?_within arena (stays step List.mem_cons_self) origin within applied
        exact ih (fun other member => stays other (List.mem_cons_of_mem _ member)) here ran
      · cases ran

namespace Path

def parts : Path → List Path
  | .program _ _ steps => steps.filterMap fun step =>
    match step with
    | .fork path => some path
    | _ => none
  | .either _ first second | .except _ first second | .chain _ first second => [first, second]

theorem mem_parts_program {label : Option String} {policy : EmptyPolicy} {steps : List Step}
    {path : Path} : path ∈ (program label policy steps).parts ↔ Step.fork path ∈ steps := by
  rw [parts, List.mem_filterMap]
  constructor
  · rintro ⟨step, member, forks⟩
    cases step <;> cases forks
    exact member
  · intro member
    exact ⟨.fork path, member, rfl⟩

theorem parts_named (path : Path) (name : String) : (path.named name).parts = path.parts := by
  cases path <;> rfl

/-- A path that is the other or stands in it, at any depth. -/
inductive Occurs (inner : Path) : Path → Prop
  | whole : Occurs inner inner
  | part {part path : Path} (member : part ∈ path.parts) (deeper : Occurs inner part) :
      Occurs inner path

theorem Occurs.trans {inner middle outer : Path} (deep : Occurs inner middle)
    (shallow : Occurs middle outer) : Occurs inner outer := by
  induction shallow with
  | whole => exact deep
  | part member _ ih => exact .part member ih

def JoinsSelect (tree : Tree) (path : Path) : Prop :=
  ∀ label policy steps, Occurs (.program label policy steps) path →
    ∀ name join, Step.popJoin name join ∈ steps → Join.Selects tree join

theorem JoinsSelect.inner {tree : Tree} {inner outer : Path} (selects : outer.JoinsSelect tree)
    (occurs : Occurs inner outer) : inner.JoinsSelect tree :=
  fun label policy steps deep => selects label policy steps (deep.trans occurs)

theorem JoinsSelect.part {tree : Tree} {part path : Path} (selects : path.JoinsSelect tree)
    (member : part ∈ path.parts) : part.JoinsSelect tree :=
  selects.inner (.part member .whole)

theorem joinsSelect_program {tree : Tree} {label : Option String} {policy : EmptyPolicy}
    {steps : List Step}
    (joins : ∀ name join, Step.popJoin name join ∈ steps → Join.Selects tree join)
    (forks : ∀ path, Step.fork path ∈ steps → path.JoinsSelect tree) :
    (program label policy steps).JoinsSelect tree := by
  intro inner innerPolicy innerSteps occurs
  cases occurs with
  | whole => exact joins
  | part member deeper =>
    exact forks _ (mem_parts_program.mp member) inner innerPolicy innerSteps deeper

theorem joinsSelect_or {tree : Tree} {first second : Path} (left : first.JoinsSelect tree)
    (right : second.JoinsSelect tree) : (first.or second).JoinsSelect tree := by
  intro label policy steps occurs
  cases occurs with
  | part member deeper =>
    rcases List.mem_cons.mp member with rfl | last
    · exact left label policy steps deeper
    · rw [List.mem_singleton.mp last] at deeper
      exact right label policy steps deeper

theorem JoinsSelect.of_named {tree : Tree} {path : Path} {name : String}
    (selects : (path.named name).JoinsSelect tree) : path.JoinsSelect tree := by
  intro label policy steps occurs
  cases occurs with
  | whole => exact selects (some name) policy steps .whole
  | part member deeper =>
    exact selects label policy steps (.part ((path.parts_named name).symm ▸ member) deeper)

theorem IsObtainable.part {path part : Path} (obtainable : path.IsObtainable)
    (member : part ∈ path.parts) : part.IsObtainable := by
  induction obtainable with
  | built forks accepted =>
    obtain ⟨-, rfl⟩ := Builder.build_eq_ok_iff.mp accepted
    exact forks part (mem_parts_program.mp member)
  | identity => cases member
  | or left right | exclude left right | append left right =>
    rcases List.mem_cons.mp member with rfl | last
    · exact left
    · exact List.mem_singleton.mp last ▸ right
  | named name _ ih => exact ih (parts_named _ name ▸ member)

theorem IsObtainable.inner {path inner : Path} (obtainable : path.IsObtainable)
    (occurs : Occurs inner path) : inner.IsObtainable := by
  induction occurs with
  | whole => exact obtainable
  | part member _ ih => exact ih (obtainable.part member)

theorem run?_of_isEmpty (path : Path) (tree : Tree) {start : Nodes} (empty : start.isEmpty = true) :
    path.run? tree start = some ∅ := by
  cases path <;> simp [run?, empty]

theorem run?_or_bind (first second : Path) (tree : Tree) (start : Nodes) :
    (first.or second).run? tree start =
      (first.run? tree start).bind fun left => (second.run? tree start).map left.union := by
  by_cases empty : start.isEmpty = true
  · simp only [run?_of_isEmpty _ tree empty]
    rfl
  · rw [Path.or, run?, if_neg empty]
    cases first.run? tree start with
    | none => rfl
    | some left => cases second.run? tree start <;> rfl

theorem run?_append_bind (first second : Path) (tree : Tree) (start : Nodes) :
    (first.append second).run? tree start =
      (first.run? tree start).bind (second.run? tree) := by
  by_cases empty : start.isEmpty = true
  · rw [run?_of_isEmpty _ tree empty, run?_of_isEmpty _ tree empty]
    exact (run?_of_isEmpty second tree rfl).symm
  · rw [Path.append, run?, if_neg empty]
    rfl

section Combined

variable {tree : Tree} {start : Nodes} {first second : Path} {left right : Nodes}

theorem run?_or (firstRan : first.run? tree start = some left)
    (secondRan : second.run? tree start = some right) :
    (first.or second).run? tree start = some (left.union right) := by
  rw [run?_or_bind, firstRan, secondRan]
  rfl

theorem run?_exclude (firstRan : first.run? tree start = some left)
    (secondRan : second.run? tree start = some right) :
    (first.exclude second).run? tree start = some (left.without right) := by
  by_cases empty : start.isEmpty = true
  · obtain rfl := Option.some.inj (firstRan.symm.trans (first.run?_of_isEmpty tree empty))
    exact run?_of_isEmpty _ tree empty
  · by_cases nothing : left.isEmpty = true
    · obtain rfl := Collection.eq_empty_of_isEmpty nothing
      simp [Path.exclude, run?, empty, firstRan, nothing]
      rfl
    · simp [Path.exclude, run?, empty, firstRan, nothing, secondRan]

theorem run?_append (firstRan : first.run? tree start = some left)
    (secondRan : second.run? tree left = some right) :
    (first.append second).run? tree start = some right := by
  rw [run?_append_bind, firstRan]
  exact secondRan

end Combined

theorem steps_stayIn {tree : Tree} {label : Option String} {policy : EmptyPolicy}
    {steps : List Step} (selects : (program label policy steps).JoinsSelect tree)
    (forks : ∀ path, Step.fork path ∈ steps → path.StaysIn tree) :
    ∀ step ∈ steps, step.StaysIn tree := by
  intro step member
  constructor
  · rintro name join rfl
    exact selects label policy steps .whole name join member
  · rintro path rfl
    exact forks path member

theorem program_staysIn {tree : Tree} (arena : tree.IsArena) {steps : List Step}
    (stays : ∀ step ∈ steps, step.StaysIn tree) (label : Option String) (policy : EmptyPolicy) :
    (program label policy steps).StaysIn tree := by
  intro start found ran origin
  rw [run?] at ran
  split at ran
  · cases ran
    exact within_nothing tree
  · obtain ⟨outcome, ended, rfl⟩ := Option.map_eq_some_iff.mp ran
    cases outcome with
    | stopped => exact within_nothing tree
    | finished stack current =>
      exact (runSteps_within arena stays origin ⟨by simp, origin⟩ ended).current

theorem IsObtainable.staysIn {tree : Tree} (arena : tree.IsArena) {path : Path}
    (obtainable : path.IsObtainable) (selects : path.JoinsSelect tree) : path.StaysIn tree := by
  induction obtainable with
  | built forks accepted ih =>
    obtain ⟨-, rfl⟩ := Builder.build_eq_ok_iff.mp accepted
    have inner : ∀ path, Step.fork path ∈ _ → path.StaysIn tree := fun path member =>
      ih path member (selects.part (mem_parts_program.mpr member))
    exact program_staysIn arena (steps_stayIn selects inner) _ _
  | identity => exact program_staysIn arena (fun step member => by cases member) _ _
  | or left right first second =>
    intro start found ran origin
    obtain ⟨few, leftRan⟩ := left.runs tree start
    obtain ⟨more, rightRan⟩ := right.runs tree start
    obtain rfl := Option.some.inj ((run?_or leftRan rightRan).symm.trans ran)
    exact within_union (first (selects.part List.mem_cons_self) start few leftRan origin)
      (second (selects.part (List.mem_cons_of_mem _ List.mem_cons_self)) start more rightRan origin)
  | exclude left right base excluded =>
    intro start found ran origin
    obtain ⟨kept, leftRan⟩ := left.runs tree start
    obtain ⟨dropped, rightRan⟩ := right.runs tree start
    obtain rfl := Option.some.inj ((run?_exclude leftRan rightRan).symm.trans ran)
    exact (base (selects.part List.mem_cons_self) start kept leftRan origin).filter _
  | append left right first second =>
    intro start found ran origin
    obtain ⟨middle, leftRan⟩ := left.runs tree start
    obtain ⟨last, rightRan⟩ := right.runs tree middle
    obtain rfl := Option.some.inj ((run?_append leftRan rightRan).symm.trans ran)
    exact second (selects.part (List.mem_cons_of_mem _ List.mem_cons_self)) middle last rightRan
      (first (selects.part List.mem_cons_self) start middle leftRan origin)
  | named name _ ih =>
    intro start found ran
    rw [run?_named] at ran
    exact ih selects.of_named start found ran

theorem depthBehind?_append (front back : List Step) (depth : Nat) :
    depthBehind? (front ++ back) depth = (depthBehind? front depth).bind (depthBehind? back) := by
  induction front generalizing depth with
  | nil => rfl
  | cons step front ih =>
    rw [List.cons_append, depthBehind?, depthBehind?, Option.bind_assoc]
    exact congrArg _ (funext ih)

theorem IsObtainable.front_runs {label : Option String} {policy : EmptyPolicy}
    {front back : List Step} (obtainable : (program label policy (front ++ back)).IsObtainable)
    (tree : Tree) (start : Nodes) :
    policy = .stop ∧ runSteps tree policy start front [] start = some .stopped ∨
      ∃ stack current,
        runSteps tree policy start front [] start = some (.finished stack current) := by
  obtain ⟨balanced, forks⟩ := obtainable.balanced rfl
  have runs : ∀ step ∈ front, step.ForksRun tree := forksRun_of_paths fun inner member =>
    (forks inner (List.mem_append_left _ member)).runs tree
  rcases runSteps_depth runs policy start [] start with stopped | ⟨-, depth⟩
  · exact .inl stopped
  · rw [depthBehind?_append] at balanced
    obtain ⟨deep, counted, -⟩ := Option.bind_eq_some_iff.mp balanced
    rw [List.length_nil, counted] at depth
    obtain ⟨stack, current, ran, -⟩ := finished_of_depth depth
    exact .inr ⟨stack, current, ran⟩

theorem IsObtainable.front_within {tree : Tree} (arena : tree.IsArena) {label : Option String}
    {policy : EmptyPolicy} {front back : List Step}
    (obtainable : (program label policy (front ++ back)).IsObtainable)
    (selects : (program label policy (front ++ back)).JoinsSelect tree) {start : Nodes}
    (origin : Within tree start.toList) {stack : List Nodes} {current : Nodes}
    (ran : runSteps tree policy start front [] start = some (.finished stack current)) :
    StackWithin tree stack current := by
  have forks : ∀ path, Step.fork path ∈ front ++ back → path.StaysIn tree := by
    intro path member
    have part : path ∈ (program label policy (front ++ back)).parts := mem_parts_program.mpr member
    exact (obtainable.part part).staysIn arena (selects.part part)
  have stays : ∀ step ∈ front, step.StaysIn tree := fun step member =>
    steps_stayIn selects forks step (List.mem_append_left _ member)
  exact runSteps_within arena stays origin ⟨by simp, origin⟩ ran

/-- No run takes from an empty stack, and on its way from nodes of the tree a path meets nothing but
nodes of the tree, in all its programs, in the working collections and in the saved ones. -/
structure RunsWithin (tree : Tree) (path : Path) : Prop where
  runs : ∀ start, ∃ found, path.run? tree start = some found
  stays : ∀ start found : Nodes, path.run? tree start = some found →
    Within tree start.toList → Within tree found.toList
  meets : ∀ label policy front back, Occurs (.program label policy (front ++ back)) path →
    ∀ (start : Nodes) stack current, Within tree start.toList →
      runSteps tree policy start front [] start = some (.finished stack current) →
      StackWithin tree stack current

theorem IsObtainable.runsWithin {tree : Tree} (arena : tree.IsArena) {path : Path}
    (obtainable : path.IsObtainable) (selects : path.JoinsSelect tree) : path.RunsWithin tree where
  runs := obtainable.runs tree
  stays := obtainable.staysIn arena selects
  meets _ _ _ _ occurs _ _ _ origin ran :=
    (obtainable.inner occurs).front_within arena (selects.inner occurs) origin ran

theorem navigateAll_of_run? {path : Path} {tree : Tree} {start : List NodeId} {found : Nodes}
    (ran : path.run? tree (.ofList start) = some found) : path.navigateAll tree start = found := by
  rw [navigateAll, ran]
  rfl

end Path

/-- Nodes of a tree, each of them once. -/
structure AreNodes (tree : Tree) (ids : List NodeId) : Prop where
  nodup : ids.Nodup
  within : Within tree ids

theorem Within.areNodes {tree : Tree} {nodes : Nodes} (within : Within tree nodes.toList) :
    AreNodes tree nodes.toList :=
  ⟨nodes.nodup, within⟩

theorem Path.IsObtainable.navigateAll {tree : Tree} (arena : tree.IsArena) {path : Path}
    (obtainable : path.IsObtainable) (selects : path.JoinsSelect tree) {start : List NodeId}
    (known : Within tree start) :
    path.run? tree (.ofList start) = some (path.navigateAll tree start) ∧
      AreNodes tree (path.navigateAll tree start).toList := by
  obtain ⟨found, ran⟩ := obtainable.runs tree (.ofList start)
  have origin : Within tree (Collection.ofList start).toList :=
    fun id member => known id (Collection.mem_ofList.mp member)
  rw [Path.navigateAll_of_run? ran]
  exact ⟨ran, (obtainable.staysIn arena selects _ _ ran origin).areNodes⟩

/-- On every tree that can be built, a path that can be had leads from nodes of the tree to nodes of
the tree, each of them once, if its joins give nothing but what they are given; and so do its
programs at any depth, step by step, in the working collection and in all saved ones. What two
paths find together is what the first finds and then what else the second finds, and what a path
finds without another keeps its order. -/
theorem navigation_stays_in_tree (requests : List Tree.Request) :
    let tree := Tree.ofRequests requests
    (∀ path : Path, path.IsObtainable → path.JoinsSelect tree →
      (∀ start, (∀ id ∈ start, id < tree.size) →
        path.run? tree (.ofList start) = some (path.navigateAll tree start) ∧
          AreNodes tree (path.navigateAll tree start).toList) ∧
      (∀ id < tree.size, AreNodes tree (path.navigate tree id).toList) ∧
      ∀ label policy front back, Path.Occurs (.program label policy (front ++ back)) path →
        ∀ start : Nodes, AreNodes tree start.toList →
          policy = .stop ∧ runSteps tree policy start front [] start = some .stopped ∨
            ∃ stack current,
              runSteps tree policy start front [] start = some (.finished stack current) ∧
              AreNodes tree current.toList ∧ ∀ saved ∈ stack, AreNodes tree saved.toList) ∧
    ∀ first second : Path, first.IsObtainable → second.IsObtainable → ∀ start,
      ((first.or second).navigateAll tree start).toList =
        (first.navigateAll tree start).toList ++
          (second.navigateAll tree start).toList.filter
            (fun id => id ∉ (first.navigateAll tree start).toList) ∧
      ((first.exclude second).navigateAll tree start).toList =
        (first.navigateAll tree start).toList.filter
          (fun id => id ∉ (second.navigateAll tree start).toList) := by
  intro tree
  have arena : tree.IsArena := Tree.isArena_ofRequests requests
  refine ⟨fun path obtainable selects => ⟨?_, ?_, ?_⟩, ?_⟩
  · intro start known
    exact obtainable.navigateAll arena selects known
  · intro id known
    have alone : Within tree [id] := fun other member => List.mem_singleton.mp member ▸ known
    exact (obtainable.navigateAll arena selects alone).2
  · intro label policy front back occurs start origin
    have inner := obtainable.inner occurs
    rcases inner.front_runs tree start with stopped | ⟨stack, current, ran⟩
    · exact .inl stopped
    · have within := inner.front_within arena (selects.inner occurs) origin.within ran
      exact .inr ⟨stack, current, ran, within.current.areNodes,
        fun saved member => (within.saved saved member).areNodes⟩
  · intro first second left right start
    obtain ⟨few, leftRan⟩ := left.runs tree (.ofList start)
    obtain ⟨more, rightRan⟩ := right.runs tree (.ofList start)
    rw [Path.navigateAll_of_run? leftRan, Path.navigateAll_of_run? rightRan,
      Path.navigateAll_of_run? (Path.run?_or leftRan rightRan),
      Path.navigateAll_of_run? (Path.run?_exclude leftRan rightRan)]
    exact ⟨Collection.toList_union, rfl⟩

theorem navigation_stays_in_tree_joined :
    let tree := Tree.ofRequests
      [⟨.soyFile, none, {}⟩, ⟨.templateTag, some 0, {}⟩, ⟨.callTag, some 0, {}⟩]
    let path := Path.program none .stop
      [.push, .filter .descendants .any, .popJoin "union" Join.union]
    (path.IsObtainable ∧ path.JoinsSelect tree) ∧
    ((path.navigateAll tree [0, 0]).toList = [1, 2, 0] ∧
      AreNodes tree (path.navigateAll tree [0, 0]).toList) ∧
    (∃ stack current,
      runSteps tree .stop (.singleton 0) [.push, .filter .descendants .any] [] (.singleton 0) =
        some (.finished stack current) ∧
      AreNodes tree current.toList ∧ ∀ saved ∈ stack, AreNodes tree saved.toList) ∧
    ((path.exclude .identity).navigateAll tree [0]).toList = [1, 2] := by
  intro tree path
  have built : Builder.build
      { steps := [.push, .filter .descendants .any, .popJoin "union" Join.union] } = .ok path := rfl
  have obtainable : path.IsObtainable := .built (by simp) built
  have selects : path.JoinsSelect tree := by
    refine Path.joinsSelect_program ?_ (by simp)
    intro name join member current saved id found
    obtain ⟨rfl, rfl⟩ : name = "union" ∧ join = Join.union := by simpa using member
    exact Collection.mem_union.mp found
  obtain ⟨inside, combined⟩ := navigation_stays_in_tree
    [⟨.soyFile, none, {}⟩, ⟨.templateTag, some 0, {}⟩, ⟨.callTag, some 0, {}⟩]
  obtain ⟨stays, -, steps⟩ := inside path obtainable selects
  have front := steps none .stop [.push, .filter .descendants .any]
    [.popJoin "union" Join.union] .whole (.singleton 0) ⟨by decide, by unfold Within; decide⟩
  rcases front with ⟨-, stopped⟩ | finished
  · cases stopped
  · exact ⟨⟨obtainable, selects⟩, ⟨rfl, (stays [0, 0] (by decide)).2⟩, finished,
      (combined path .identity obtainable .identity [0]).2⟩

end Query

end ClosureTemplate
