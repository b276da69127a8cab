import ClosureTemplate.Proofs.Query.Stopping

namespace ClosureTemplate.Query

theorem depthBehind?_of_finished {tree : Tree} {policy : EmptyPolicy} {start : Nodes}
    {steps : List Step} {stack later : List Nodes} {current found : Nodes}
    (ran : runSteps tree policy start steps stack current = some (.finished later found)) :
    depthBehind? steps stack.length = some later.length := by
  induction steps generalizing stack current with
  | nil =>
    cases ran
    rfl
  | cons step steps ih =>
    by_cases stops : StopsBefore policy step stack current
    · rw [runSteps_of_stops stops] at ran
      cases ran
    · rw [runSteps_of_goesOn stops] at ran
      obtain ⟨result, applied, onwards⟩ := Option.bind_eq_some_iff.mp ran
      rw [depthBehind?, effect?_of_apply? applied]
      exact ih onwards

/-- What follows in the same run could as well follow in a run of its own. -/
theorem Path.run?_spliced {tree : Tree} {front back : List Step}
    (balanced : depthBehind? front 0 = some 0) (backBalanced : depthBehind? back 0 = some 0)
    (steady : ∀ step ∈ back, step.IsSteady tree) (policy other : EmptyPolicy)
    (label name : Option String) (start : Nodes) :
    (program label policy (front ++ back)).run? tree start =
      ((program label policy front).run? tree start).bind
        ((program name other back).run? tree) := by
  by_cases empty : start.isEmpty = true
  · rw [run?_of_isEmpty _ tree empty, run?_of_isEmpty _ tree empty]
    exact (run?_of_isEmpty _ tree rfl).symm
  · rw [run?, run?, if_neg empty, if_neg empty, runSteps_append]
    cases ran : runSteps tree policy start front [] start with
    | none => rfl
    | some outcome =>
      cases outcome with
      | stopped => exact (run?_of_isEmpty _ tree rfl).symm
      | finished stack current =>
        have depth := depthBehind?_of_finished ran
        rw [List.length_nil, balanced] at depth
        obtain rfl := List.length_eq_zero_iff.mp (Option.some.inj depth).symm
        exact runSteps_alone steady backBalanced policy other name

theorem Builder.build_append {first second : Builder} {front back : Path}
    (accepted : first.build = .ok front) (continued : second.build = .ok back) :
    (first.append second).build =
      .ok (.program first.label first.policy (first.steps ++ second.steps)) := by
  obtain ⟨⟨sound, balanced⟩, -⟩ := build_eq_ok_iff.mp accepted
  obtain ⟨⟨soundBehind, balancedBehind⟩, -⟩ := build_eq_ok_iff.mp continued
  apply build_eq_ok_iff.mpr
  refine ⟨⟨?_, ?_⟩, rfl⟩
  · intro step member
    rcases List.mem_append.mp member with member | member
    · exact sound step member
    · exact soundBehind step member
  · change depthBehind? (first.steps ++ second.steps) 0 = some 0
    rw [Path.depthBehind?_append, balanced]
    exact balancedBehind

theorem Path.run?_identity (tree : Tree) (start : Nodes) :
    identity.run? tree start = some start :=
  Reaches.run? .done none .stop

/-- Continuing a program by the steps of another one leads to the same nodes as chaining the paths
of the two, whatever their policies, if the second does not start afresh and its joins make nothing
out of nothing. Chaining paths is associative, with the identity for a unit on both sides, and
uniting them is associative, from every start. -/
theorem splicing_is_chaining :
    (∀ (first second : Builder) (front back : Path), first.build = .ok front →
      second.build = .ok back →
      (∀ inner, Step.fork inner ∈ first.steps ++ second.steps → inner.IsObtainable) →
      .restart ∉ second.steps → ∀ tree : Tree,
      (∀ label join, Step.popJoin label join ∈ second.steps → Join.KeepsEmpty tree join) →
      ∀ start, ∃ spliced found, (first.append second).build = .ok spliced ∧
        spliced.run? tree start = some found ∧ (front.append back).run? tree start = some found) ∧
    (∀ (first second third : Path) tree start,
      ((first.append second).append third).run? tree start =
        (first.append (second.append third)).run? tree start) ∧
    (∀ (path : Path) tree start,
      (Path.identity.append path).run? tree start = path.run? tree start ∧
        (path.append .identity).run? tree start = path.run? tree start) ∧
    ∀ (first second third : Path) tree start,
      ((first.or second).or third).run? tree start =
        (first.or (second.or third)).run? tree start := by
  refine ⟨?_, ?_, ?_, ?_⟩
  · intro first second front back accepted continued forks plain tree joins start
    have built := Builder.build_append accepted continued
    obtain ⟨found, ran⟩ := (Path.IsObtainable.built forks built).runs tree start
    refine ⟨_, found, built, ran, ?_⟩
    obtain ⟨⟨-, balanced⟩, rfl⟩ := Builder.build_eq_ok_iff.mp accepted
    obtain ⟨⟨-, balancedBehind⟩, rfl⟩ := Builder.build_eq_ok_iff.mp continued
    calc
      _ = ((Path.program first.label first.policy first.steps).run? tree start).bind
          ((Path.program second.label second.policy second.steps).run? tree) :=
        Path.run?_append_bind _ _ tree start
      _ = (Path.program first.label first.policy (first.steps ++ second.steps)).run? tree start :=
        (Path.run?_spliced balanced balancedBehind (isSteady_of_joins plain joins) _ _ _ _ _).symm
      _ = some found := ran
  · intro first second third tree start
    rw [Path.run?_append_bind, Path.run?_append_bind, Path.run?_append_bind, Option.bind_assoc]
    apply Option.bind_congr
    intro found _
    exact (Path.run?_append_bind second third tree found).symm
  · intro path tree start
    rw [Path.run?_append_bind, Path.run?_append_bind, Path.run?_identity]
    exact ⟨rfl, (Option.bind_congr fun found _ => Path.run?_identity tree found).trans
      (Option.bind_fun_some _)⟩
  · intro first second third tree start
    simp only [Path.run?_or_bind]
    cases first.run? tree start with
    | none => rfl
    | some left =>
      cases second.run? tree start with
      | none => rfl
      | some middle =>
        cases third.run? tree start with
        | none => rfl
        | some right => exact congrArg some (Collection.union_assoc left middle right)

/-- A program that starts afresh and proceeds, continued by one that saves its collection, finds
nothing and adds what it saved. -/
theorem splicing_is_chaining_saved :
    let tree := Tree.ofRequests [⟨.soyFile, none, {}⟩, ⟨.templateTag, some 0, {}⟩]
    let first : Builder := { steps := [.filter .children .nothing, .restart], policy := .proceed }
    let second : Builder := { steps := [.push, .filter .children .nothing, .popAdd] }
    ∃ spliced found, (first.append second).build = .ok spliced ∧
      spliced.run? tree (.singleton 0) = some found ∧
      ((Path.program none .proceed [.filter .children .nothing, .restart]).append
        (.program none .stop [.push, .filter .children .nothing, .popAdd])).run? tree
          (.singleton 0) = some found ∧
      found = .singleton 0 := by
  intro tree first second
  obtain ⟨spliced, found, built, ran, chained⟩ := splicing_is_chaining.1 first second _ _ rfl rfl
    (by simp [first, second]) (by simp [second]) tree (by simp [second]) (.singleton 0)
  exact ⟨spliced, found, built, ran, chained, Option.some.inj (chained.symm.trans rfl)⟩

end ClosureTemplate.Query
