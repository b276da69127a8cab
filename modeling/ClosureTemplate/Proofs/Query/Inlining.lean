import ClosureTemplate.Proofs.Query.Splicing

/-!
Forking and inlining. Filters, logs and forks into paths of such steps treat the nodes of the
working collection one by one: from a collection they lead to the union of what its nodes lead to
(`Step.Expands`), and so do programs of them (`Expands.run?`), since freeing a collection of
repetitions commutes with every expansion (`unite_unite`). Such steps may stand in a program
themselves instead of a fork into their path.
-/

namespace ClosureTemplate.Query

theorem unite_singletons (nodes : Nodes) : unite .singleton nodes = nodes := by
  have same : nodes.toList.flatMap (fun node => (Collection.singleton node).toList) =
      nodes.toList := List.flatMap_singleton' _
  rw [unite, same, Collection.ofList_toList]

theorem unite_unite (outer inner : NodeId → Nodes) (nodes : Nodes) :
    unite outer (unite inner nodes) = unite (fun node => unite outer (inner node)) nodes :=
  calc
    _ = .ofList ((nodes.toList.flatMap fun node => (inner node).toList).flatMap
          fun node => (outer node).toList) := Collection.ofList_flatMap_ofList _ _
    _ = .ofList (nodes.toList.flatMap fun node =>
          (inner node).toList.flatMap fun node => (outer node).toList) := by
      rw [List.flatMap_assoc]
    _ = _ := (Collection.extend_flatMap_toList_ofList _ _).symm

theorem around_eq_unite (tree : Tree) (scope : Scope) (predicate : Predicate) (nodes : Nodes) :
    around tree scope predicate nodes =
      unite (fun node => around tree scope predicate (.singleton node)) nodes := by
  have alone (node : NodeId) : around tree scope predicate (.singleton node) =
      .ofList (scope.collect tree node fun other => predicate.test tree other) :=
    congrArg Collection.ofList (List.flatMap_singleton ..)
  simp only [unite, alone]
  exact (Collection.extend_flatMap_toList_ofList _ _).symm

/-- A step that leaves the stack alone and leads to what the nodes of the working collection lead
to, one after the other. -/
def Step.Expands (tree : Tree) (step : Step) (reach : NodeId → Nodes) : Prop :=
  ∀ start stack current, step.apply? tree start stack current = some (stack, unite reach current)

inductive Expands (tree : Tree) : List Step → (NodeId → Nodes) → Prop
  | done : Expands tree [] .singleton
  | step {step : Step} {steps : List Step} {reach further : NodeId → Nodes}
      (here : step.Expands tree reach) (onwards : Expands tree steps further) :
      Expands tree (step :: steps) fun node => unite further (reach node)

section Expands

variable {tree : Tree} {policy : EmptyPolicy} {start current : Nodes} {stack : List Nodes}
  {steps back : List Step} {reach : NodeId → Nodes}

theorem expands_filter (scope : Scope) (predicate : Predicate) :
    (Step.filter scope predicate).Expands tree
      fun node => around tree scope predicate (.singleton node) := by
  intro start stack current
  rw [← around_eq_unite]
  rfl

theorem expands_log (label : String) : (Step.log label).Expands tree .singleton := by
  intro start stack current
  rw [unite_singletons]
  rfl

theorem expands_fork {path : Path}
    (runs : ∀ start, path.run? tree start = some (unite reach start)) :
    (Step.fork path).Expands tree reach := by
  intro start stack current
  apply apply?_fork
  intro node _
  rw [runs, unite_singleton]

theorem Step.Expands.alone {step : Step} (expands : step.Expands tree reach) :
    Query.Expands tree [step] reach := by
  have ends := Query.Expands.step expands .done
  simpa only [unite_singletons] using ends

theorem Expands.depth (expands : Expands tree steps reach) (depth : Nat) :
    depthBehind? steps depth = some depth := by
  induction expands with
  | done => rfl
  | @step step steps reach further here _ ih =>
    have effect := effect?_of_apply? (here ∅ (spent depth) ∅)
    rw [length_spent] at effect
    rw [depthBehind?, effect]
    exact ih

theorem Expands.depth_append (expands : Expands tree steps reach) (back : List Step) :
    depthBehind? (steps ++ back) = depthBehind? back := by
  funext depth
  rw [Path.depthBehind?_append, expands.depth, Option.bind_some]

/-- Steps that expand nodes can be skipped to where they lead. A run that is stopped in the middle
of them has nothing left, and finds nothing behind them either. -/
theorem Expands.runSteps_append (expands : Expands tree steps reach)
    (joins : ∀ label join, Step.popJoin label join ∈ back → Join.KeepsEmpty tree join)
    (counted : depthBehind? back stack.length ≠ none) :
    (runSteps tree policy start (steps ++ back) stack current).map Outcome.result =
      (runSteps tree policy start back stack (unite reach current)).map Outcome.result := by
  induction expands generalizing current with
  | done =>
    rw [unite_singletons]
    rfl
  | @step step steps reach further here _ ih =>
    rw [List.cons_append]
    by_cases stops : StopsBefore policy step stack current
    · rw [runSteps_of_stops stops, stops.current, unite_empty, stops.policy, stops.stack,
        runSteps_stop_spent joins counted]
      rfl
    · rw [runSteps_of_goesOn stops, here, ← unite_unite]
      exact ih

theorem Expands.run? (expands : Expands tree steps reach) (label : Option String)
    (policy : EmptyPolicy) (start : Nodes) :
    (Path.program label policy steps).run? tree start = some (unite reach start) := by
  by_cases empty : start.isEmpty = true
  · rw [Path.run?_of_isEmpty _ tree empty, Collection.eq_empty_of_isEmpty empty, unite_empty]
  · have ran : (runSteps tree policy start (steps ++ []) [] start).map Outcome.result =
        some (unite reach start) := expands.runSteps_append (by simp) (by simp [depthBehind?])
    rw [List.append_nil] at ran
    rw [Path.run?, if_neg empty, ran]

theorem Expands.run?_replaced {front others : List Step} (expands : Expands tree steps reach)
    (alike : Expands tree others reach)
    (joins : ∀ label join, Step.popJoin label join ∈ back → Join.KeepsEmpty tree join)
    (balanced : Query.depthBehind? (front ++ (steps ++ back)) 0 = some 0) (label : Option String) :
    (Path.program label policy (front ++ (steps ++ back))).run? tree start =
      (Path.program label policy (front ++ (others ++ back))).run? tree start := by
  rw [Path.run?, Path.run?]
  by_cases empty : start.isEmpty = true
  · rw [if_pos empty, if_pos empty]
  · rw [if_neg empty, if_neg empty, Query.runSteps_append, Query.runSteps_append]
    cases ran : runSteps tree policy start front [] start with
    | none => rfl
    | some outcome =>
      cases outcome with
      | stopped => rfl
      | finished stack current =>
        have depth : depthBehind? front 0 = some stack.length := depthBehind?_of_finished ran
        have counted : depthBehind? back stack.length ≠ none := by
          rw [Path.depthBehind?_append, depth, Option.bind_some, expands.depth_append] at balanced
          rw [balanced]
          exact Option.some_ne_none 0
        exact (expands.runSteps_append joins counted).trans
          (alike.runSteps_append joins counted).symm

theorem Expands.build_replaced {builder : Builder} {front others : List Step} {path : Path}
    {further : NodeId → Nodes} (expands : Expands tree steps reach)
    (alike : Expands tree others further) (sound : ∀ step ∈ others, step.IsSound)
    (accepted : Builder.build { builder with steps := front ++ (steps ++ back) } = .ok path) :
    Builder.build { builder with steps := front ++ (others ++ back) } =
      .ok (.program builder.label builder.policy (front ++ (others ++ back))) := by
  obtain ⟨⟨allSound, balanced⟩, -⟩ := Builder.build_eq_ok_iff.mp accepted
  obtain ⟨before, allBehind⟩ := List.forall_mem_append.mp allSound
  obtain ⟨-, behind⟩ := List.forall_mem_append.mp allBehind
  apply Builder.build_eq_ok_iff.mpr
  refine ⟨⟨?_, ?_⟩, rfl⟩
  · exact List.forall_mem_append.mpr ⟨before, List.forall_mem_append.mpr ⟨sound, behind⟩⟩
  · rw [Path.depthBehind?_append, expands.depth_append] at balanced
    rw [Path.depthBehind?_append, alike.depth_append]
    exact balanced

end Expands

def Step.isPointwise : Step → Bool
  | .filter .. | .log _ | .fork _ => true
  | _ => false

/-- The paths that are built from filters, logs and forks into paths of the same form. -/
inductive Path.IsPointwise : Path → Prop
  | built {builder : Builder} {path : Path}
      (plain : ∀ step ∈ builder.steps, step.isPointwise = true)
      (forks : ∀ inner, Step.fork inner ∈ builder.steps → IsPointwise inner)
      (accepted : builder.build = .ok path) : IsPointwise path
  | named {path : Path} (label : String) (inner : IsPointwise path) : IsPointwise (path.named label)

theorem exists_expands {tree : Tree} {steps : List Step}
    (plain : ∀ step ∈ steps, step.isPointwise = true)
    (forks : ∀ inner, Step.fork inner ∈ steps →
      ∃ reach, ∀ start, inner.run? tree start = some (unite reach start)) :
    ∃ reach, Expands tree steps reach := by
  induction steps with
  | nil => exact ⟨_, .done⟩
  | cons step steps ih =>
    obtain ⟨here, others⟩ := List.forall_mem_cons.mp plain
    obtain ⟨further, onwards⟩ :=
      ih others fun inner member => forks inner (List.mem_cons_of_mem step member)
    cases step with
    | filter scope predicate => exact ⟨_, .step (expands_filter scope predicate) onwards⟩
    | log label => exact ⟨_, .step (expands_log label) onwards⟩
    | fork inner =>
      obtain ⟨reach, runs⟩ := forks inner List.mem_cons_self
      exact ⟨_, .step (expands_fork runs) onwards⟩
    | _ => cases here

namespace Path.IsPointwise

theorem isObtainable {path : Path} (pointwise : path.IsPointwise) : path.IsObtainable := by
  induction pointwise with
  | built _ _ accepted ih => exact .built ih accepted
  | named label _ ih => exact .named label ih

theorem expands {path : Path} (pointwise : path.IsPointwise) (tree : Tree) :
    ∃ label policy steps reach, path = .program label policy steps ∧
      (∀ step ∈ steps, step.IsSound) ∧ Expands tree steps reach := by
  induction pointwise with
  | @built builder path plain _ accepted ih =>
    obtain ⟨⟨sound, -⟩, rfl⟩ := Builder.build_eq_ok_iff.mp accepted
    have forks : ∀ inner, Step.fork inner ∈ builder.steps →
        ∃ reach, ∀ start, inner.run? tree start = some (unite reach start) := by
      intro inner member
      obtain ⟨label, policy, steps, reach, rfl, -, expands⟩ := ih inner member
      exact ⟨reach, expands.run? label policy⟩
    obtain ⟨reach, expands⟩ := exists_expands plain forks
    exact ⟨_, _, _, reach, rfl, sound, expands⟩
  | named name _ ih =>
    obtain ⟨label, policy, steps, reach, rfl, sound, expands⟩ := ih
    exact ⟨_, _, _, reach, rfl, sound, expands⟩

end Path.IsPointwise

/-- A fork into a path of filters, logs and forks of the same form may be replaced by the steps of
that path, whatever the policies, if the joins of the program make nothing out of nothing: the
program can still be built and leads to the same nodes in the same order. From several nodes such a
path leads to what it leads to from the first of them, then to what else it leads to from the
second, and so on. -/
theorem forking_is_inlining :
    (∀ (builder : Builder) (front inner back : List Step) (name : Option String)
      (own : EmptyPolicy) (path : Path), (Path.program name own inner).IsPointwise →
      Builder.build { builder with
        steps := front ++ .fork (.program name own inner) :: back } = .ok path →
      (∀ other, Step.fork other ∈ front ++ back → other.IsObtainable) → ∀ tree : Tree,
      (∀ label join, Step.popJoin label join ∈ front ++ back → Join.KeepsEmpty tree join) →
      ∀ start, ∃ inlined found,
        Builder.build { builder with steps := front ++ (inner ++ back) } = .ok inlined ∧
        path.run? tree start = some found ∧ inlined.run? tree start = some found) ∧
    ∀ path : Path, path.IsPointwise → ∀ tree start,
      (∀ node, path.run? tree (.singleton node) = some (path.navigate tree node)) ∧
      path.run? tree (.ofList start) = some (path.navigateAll tree start) ∧
      path.navigateAll tree start =
        .ofList (start.flatMap fun node => (path.navigate tree node).toList) := by
  constructor
  · intro builder front inner back name own path pointwise accepted forks tree joins start
    obtain ⟨label, policy, steps, reach, shape, sound, expands⟩ := pointwise.expands tree
    obtain ⟨rfl, rfl, rfl⟩ := Path.program.inj shape
    have forked : Expands tree [.fork (.program name own inner)] reach :=
      (expands_fork (expands.run? name own)).alone
    have obtainable : path.IsObtainable := by
      refine .built (fun other member => ?_) accepted
      simp only [List.mem_append, List.mem_cons, Step.fork.injEq] at member
      rcases member with before | rfl | behind
      · exact forks other (List.mem_append_left _ before)
      · exact pointwise.isObtainable
      · exact forks other (List.mem_append_right _ behind)
    obtain ⟨found, ran⟩ := obtainable.runs tree start
    refine ⟨_, found, forked.build_replaced expands sound accepted, ran, ?_⟩
    obtain ⟨⟨-, balanced⟩, rfl⟩ := Builder.build_eq_ok_iff.mp accepted
    rw [← ran]
    symm
    apply forked.run?_replaced expands _ balanced
    intro label join member
    exact joins label join (List.mem_append_right _ member)
  · intro path pointwise tree start
    obtain ⟨label, policy, steps, reach, rfl, -, expands⟩ := pointwise.expands tree
    have runs := expands.run? label policy
    have single (node : NodeId) :
        (Path.program label policy steps).navigate tree node = reach node := by
      apply Path.navigate_of_run?
      rw [runs, unite_singleton]
    have all := Path.navigateAll_of_run? (runs (.ofList start))
    refine ⟨?_, ?_, ?_⟩
    · intro node
      rw [runs, unite_singleton, single]
    · rw [runs, all]
    · rw [all]
      simp only [single]
      exact Collection.ofList_flatMap_ofList start fun node => (reach node).toList

/-- Siblings that lead to each other, with a fork inside of the fork. -/
theorem forking_is_inlining_siblings :
    let tree := Tree.ofRequests
      [⟨.soyFile, none, {}⟩, ⟨.templateTag, some 0, {}⟩, ⟨.callTag, some 0, {}⟩]
    let inner : List Step :=
      [.filter (.previousSiblings true) .any, .log "before", .fork .identity]
    let path := Path.program none .proceed inner
    (∃ inlined found,
      Builder.build { steps := [.push] ++ (inner ++ [.popJoin "union" Join.union]) } =
        .ok inlined ∧
      (Path.program none .stop [.push, .fork path, .popJoin "union" Join.union]).run? tree
        (.ofList [2, 1]) = some found ∧
      inlined.run? tree (.ofList [2, 1]) = some found ∧ found.toList = [1, 2]) ∧
    path.navigateAll tree [2, 1, 2] =
      .ofList ([2, 1, 2].flatMap fun node => (path.navigate tree node).toList) ∧
    (path.navigateAll tree [2, 1, 2]).toList = [1, 2] := by
  intro tree inner path
  have identity : Path.identity.IsPointwise :=
    .built (by simp) (by simp) (show Builder.build {} = .ok Path.identity from rfl)
  have pointwise : path.IsPointwise := by
    have built : Builder.build { steps := inner, policy := .proceed } = .ok path := rfl
    refine .built ?_ ?_ built
    · simp [inner, Step.isPointwise]
    · simp [inner, identity]
  have joins : ∀ label join,
      Step.popJoin label join ∈ [.push] ++ [.popJoin "union" Join.union] →
      Join.KeepsEmpty tree join := by
    intro label join member
    obtain ⟨-, rfl⟩ : label = "union" ∧ join = Join.union := by simpa using member
    rfl
  obtain ⟨inlined, found, built, ran, same⟩ := forking_is_inlining.1 {} [.push] inner
    [.popJoin "union" Join.union] none .proceed _ pointwise rfl (by simp) tree joins
    (.ofList [2, 1])
  have result : found.toList = [1, 2] := by
    have known : some found = some _ := ran.symm.trans rfl
    rw [Option.some.inj known]
    rfl
  exact ⟨⟨inlined, found, built, ran, same, result⟩,
    (forking_is_inlining.2 path pointwise tree [2, 1, 2]).2.2, rfl⟩

end ClosureTemplate.Query
