import ClosureTemplate.Proofs.Query.Program

/-!
Stopping early. A program that is told to stop does so only where the working collection and all
saved ones are empty. From there on steps keep them empty, as long as none starts afresh and no join
makes something out of nothing: a run then does no more than count the depth of its stack
(`runSteps_spent`). Stopping gives the result that going on would give (`runSteps_stop`), and steps
that do not start afresh find the same in whatever run they stand (`runSteps_alone`).
-/

namespace ClosureTemplate.Query

/-- A join that makes nothing out of nothing. -/
def Join.KeepsEmpty (tree : Tree) (join : Join) : Prop := join tree ∅ ∅ = ∅

structure Step.IsSteady (tree : Tree) (step : Step) : Prop where
  noRestart : step ≠ .restart
  join : ∀ label join, step = .popJoin label join → Join.KeepsEmpty tree join

def spent (depth : Nat) : List Nodes := List.replicate depth ∅

theorem length_spent (depth : Nat) : (spent depth).length = depth := List.length_replicate

theorem eq_spent {stack : List Nodes} (empty : stack.all (·.isEmpty) = true) :
    stack = spent stack.length := by
  apply List.eq_replicate_iff.mpr
  refine ⟨rfl, ?_⟩
  intro saved member
  exact Collection.eq_empty_of_isEmpty (List.all_eq_true.mp empty saved member)

section Spent

variable {tree : Tree} {step : Step} {steps : List Step}

/-- With nothing left a step does to the stack what the builder counts, and nothing else. -/
theorem apply?_spent (steady : step.IsSteady tree) (start : Nodes) (depth : Nat) :
    step.apply? tree start (spent depth) ∅ =
      (step.effect? depth).map fun after => (spent after, ∅) := by
  cases step with
  | restart => exact absurd rfl steady.noRestart
  | popJoin label join =>
    cases depth with
    | zero => rfl
    | succ depth =>
      have kept : join tree ∅ ∅ = ∅ := steady.join label join rfl
      simp only [spent, List.replicate_succ, Step.apply?, kept, Step.effect?, Option.map_some]
  | filter | push | pushMatching | fork | log => rfl
  | swap | pop | popAdd => cases depth <;> rfl

theorem runSteps_spent (steady : ∀ step ∈ steps, step.IsSteady tree) (start : Nodes)
    (depth : Nat) :
    runSteps tree .proceed start steps (spent depth) ∅ =
      (depthBehind? steps depth).map fun after => .finished (spent after) ∅ := by
  induction steps generalizing depth with
  | nil => rfl
  | cons step steps ih =>
    have here := apply?_spent (steady step List.mem_cons_self) start depth
    have others : ∀ step ∈ steps, step.IsSteady tree :=
      fun other member => steady other (List.mem_cons_of_mem _ member)
    rw [runSteps, if_neg (by simp), here, depthBehind?]
    cases step.effect? depth with
    | none => rfl
    | some after => exact ih others after

end Spent

/-- A program stops before a step: it is told to, nothing is left, and the step does not ask for
what was saved. -/
structure StopsBefore (policy : EmptyPolicy) (step : Step) (stack : List Nodes)
    (current : Nodes) : Prop where
  policy : policy = .stop
  current : current = ∅
  stack : stack = spent stack.length
  step : step.readsStack = false

def Outcome.andThen (onwards : List Nodes → Nodes → Option Outcome) : Outcome → Option Outcome
  | .stopped => some .stopped
  | .finished stack current => onwards stack current

section Runs

variable {tree : Tree} {policy : EmptyPolicy} {start current : Nodes} {stack : List Nodes}
  {step : Step} {steps : List Step}

theorem stopsBefore_iff :
    (policy = .stop && current.isEmpty && !step.readsStack && stack.all (·.isEmpty)) = true ↔
      StopsBefore policy step stack current := by
  simp only [Bool.and_eq_true, decide_eq_true_eq, Bool.not_eq_true']
  constructor
  · rintro ⟨⟨⟨told, empty⟩, plain⟩, all⟩
    exact ⟨told, Collection.eq_empty_of_isEmpty empty, eq_spent all, plain⟩
  · intro stops
    refine ⟨⟨⟨stops.policy, ?_⟩, stops.step⟩, ?_⟩
    · rw [stops.current]
      rfl
    · rw [stops.stack, List.all_eq_true]
      intro saved member
      rw [List.eq_of_mem_replicate member]
      rfl

theorem runSteps_of_stops (stops : StopsBefore policy step stack current) :
    runSteps tree policy start (step :: steps) stack current = some .stopped := by
  rw [runSteps, if_pos (stopsBefore_iff.mpr stops)]

theorem runSteps_of_goesOn (goesOn : ¬StopsBefore policy step stack current) :
    runSteps tree policy start (step :: steps) stack current =
      step.apply? tree start stack current >>= fun result =>
        runSteps tree policy start steps result.1 result.2 := by
  rw [runSteps, if_neg (fun stops => goesOn (stopsBefore_iff.mp stops))]
  cases step.apply? tree start stack current <;> rfl

theorem runSteps_append (front back : List Step) :
    runSteps tree policy start (front ++ back) stack current =
      (runSteps tree policy start front stack current).bind
        (Outcome.andThen (runSteps tree policy start back)) := by
  induction front generalizing stack current with
  | nil => rfl
  | cons step front ih =>
    rw [List.cons_append]
    by_cases stops : StopsBefore policy step stack current
    · rw [runSteps_of_stops stops, runSteps_of_stops stops]
      rfl
    · rw [runSteps_of_goesOn stops, runSteps_of_goesOn stops]
      simp only [Option.bind_eq_bind, Option.bind_assoc]
      apply Option.bind_congr
      intro result _
      exact ih

theorem effect?_of_apply? {later : List Nodes} {found : Nodes}
    (applied : step.apply? tree start stack current = some (later, found)) :
    step.effect? stack.length = some later.length := by
  cases step with
  | fork path =>
    obtain ⟨united, -, same⟩ := Option.bind_eq_some_iff.mp applied
    cases same
    rfl
  | filter | push | pushMatching | restart | log =>
    cases applied
    rfl
  | swap | pop | popAdd | popJoin =>
    cases stack with
    | nil => cases applied
    | cons saved stack =>
      cases applied
      rfl

theorem runSteps_stop_cases (tree : Tree) (start : Nodes) (steps : List Step) (stack : List Nodes)
    (current : Nodes) :
    runSteps tree .stop start steps stack current = some .stopped ∨
      runSteps tree .stop start steps stack current =
        runSteps tree .proceed start steps stack current := by
  induction steps generalizing stack current with
  | nil => exact .inr rfl
  | cons step steps ih =>
    by_cases stops : StopsBefore .stop step stack current
    · exact .inl (runSteps_of_stops stops)
    · rw [runSteps_of_goesOn stops, runSteps_of_goesOn (fun other => by cases other.policy)]
      cases step.apply? tree start stack current with
      | none => exact .inr rfl
      | some result => exact ih result.1 result.2

theorem runSteps_stop (steady : ∀ step ∈ steps, step.IsSteady tree)
    (counted : depthBehind? steps stack.length ≠ none) :
    (runSteps tree .stop start steps stack current).map Outcome.result =
      (runSteps tree .proceed start steps stack current).map Outcome.result := by
  induction steps generalizing stack current with
  | nil => rfl
  | cons step steps ih =>
    by_cases stops : StopsBefore .stop step stack current
    · -- the steps that are skipped would only have counted the stack down
      obtain ⟨after, ends⟩ := Option.ne_none_iff_exists'.mp counted
      rw [runSteps_of_stops stops, stops.current, stops.stack, runSteps_spent steady, ends]
      rfl
    · rw [runSteps_of_goesOn stops, runSteps_of_goesOn (fun other => by cases other.policy)]
      cases applied : step.apply? tree start stack current with
      | none => rfl
      | some result =>
        rw [depthBehind?, effect?_of_apply? applied] at counted
        exact ih (fun other member => steady other (List.mem_cons_of_mem _ member)) counted

/-- Where nothing is left, a run that is told to stop finds nothing. It may start afresh further on:
it would be stopped before. -/
theorem runSteps_stop_spent {depth : Nat}
    (joins : ∀ label join, Step.popJoin label join ∈ steps → Join.KeepsEmpty tree join)
    (counted : depthBehind? steps depth ≠ none) :
    (runSteps tree .stop start steps (spent depth) ∅).map Outcome.result = some ∅ := by
  induction steps generalizing depth with
  | nil => rfl
  | cons step steps ih =>
    by_cases stops : StopsBefore .stop step (spent depth) ∅
    · rw [runSteps_of_stops stops]
      rfl
    · have reads : step.readsStack = true := by
        by_contra plain
        have nothing : spent depth = spent (spent depth).length := by rw [length_spent]
        exact stops ⟨rfl, rfl, nothing, Bool.eq_false_iff.mpr plain⟩
      have steady : step.IsSteady tree := by
        constructor
        · intro isRestart
          rw [isRestart] at reads
          cases reads
        · intro label join isJoin
          exact joins label join (isJoin ▸ List.mem_cons_self)
      rw [runSteps_of_goesOn stops, apply?_spent steady]
      rw [depthBehind?] at counted
      cases effect : step.effect? depth with
      | none =>
        rw [effect] at counted
        exact absurd rfl counted
      | some after =>
        rw [effect] at counted
        exact ih (fun label join member => joins label join (List.mem_cons_of_mem _ member)) counted

theorem runSteps_policy (steady : ∀ step ∈ steps, step.IsSteady tree)
    (counted : depthBehind? steps stack.length ≠ none) (policy : EmptyPolicy) :
    (runSteps tree policy start steps stack current).map Outcome.result =
      (runSteps tree .proceed start steps stack current).map Outcome.result := by
  cases policy with
  | stop => exact runSteps_stop steady counted
  | proceed => rfl

theorem apply?_start (plain : step ≠ .restart) (other : Nodes) :
    step.apply? tree start stack current = step.apply? tree other stack current := by
  cases step with
  | restart => exact absurd rfl plain
  | filter | push | pushMatching | fork | log => rfl
  | swap | pop | popAdd | popJoin => cases stack <;> rfl

theorem runSteps_start (plain : .restart ∉ steps) (other : Nodes) :
    runSteps tree policy start steps stack current =
      runSteps tree policy other steps stack current := by
  induction steps generalizing stack current with
  | nil => rfl
  | cons step steps ih =>
    obtain ⟨here, others⟩ := not_or.mp (mt List.mem_cons.mpr plain)
    by_cases stops : StopsBefore policy step stack current
    · rw [runSteps_of_stops stops, runSteps_of_stops stops]
    · rw [runSteps_of_goesOn stops, runSteps_of_goesOn stops, apply?_start (Ne.symm here) other]
      apply Option.bind_congr
      intro result _
      exact ih others

theorem isSteady_of_joins (plain : .restart ∉ steps)
    (joins : ∀ label join, Step.popJoin label join ∈ steps → Join.KeepsEmpty tree join) :
    ∀ step ∈ steps, step.IsSteady tree := by
  intro step member
  constructor
  · intro isRestart
    exact plain (isRestart ▸ member)
  · intro label join isJoin
    exact joins label join (isJoin ▸ member)

/-- Steady steps find the same inside of another run and in a run of their own, whatever the
policies of the two. -/
theorem runSteps_alone (steady : ∀ step ∈ steps, step.IsSteady tree)
    (balanced : depthBehind? steps 0 = some 0) (policy other : EmptyPolicy)
    (label : Option String) :
    (runSteps tree policy start steps [] current).map Outcome.result =
      (Path.program label other steps).run? tree current := by
  have counted : depthBehind? steps ([] : List Nodes).length ≠ none := by
    rw [List.length_nil, balanced]
    exact Option.some_ne_none 0
  have plain : .restart ∉ steps := fun member => (steady _ member).noRestart rfl
  rw [runSteps_policy steady counted policy, Path.run?]
  by_cases empty : current.isEmpty = true
  · have nothing := runSteps_spent steady start 0
    rw [balanced] at nothing
    rw [if_pos empty, Collection.eq_empty_of_isEmpty empty]
    exact congrArg _ nothing
  · rw [if_neg empty, runSteps_policy steady counted other, runSteps_start plain current]

theorem runSteps_of_waiting {front : List Step} {origin : List Nodes} {first : Nodes}
    (forks : step.ForksRun tree)
    (ran : runSteps tree policy start front origin first = some (.finished stack current))
    (waiting : ∃ saved ∈ stack, saved ≠ ∅) :
    ∃ later found, step.apply? tree start stack current = some (later, found) ∧
      runSteps tree policy start (front ++ [step]) origin first =
        some (.finished later found) := by
  obtain ⟨saved, member, occupied⟩ := waiting
  have goesOn : ¬StopsBefore policy step stack current := by
    intro stops
    rw [stops.stack] at member
    exact occupied (List.eq_of_mem_replicate member)
  have applies : step.apply? tree start stack current ≠ none := by
    intro fails
    have depth := apply?_depth forks start stack current fails
    obtain ⟨top, rest, rfl⟩ := List.exists_cons_of_ne_nil (List.ne_nil_of_mem member)
    exact step.effect?_succ_ne_none rest.length depth.symm
  obtain ⟨⟨later, found⟩, applied⟩ := Option.ne_none_iff_exists'.mp applies
  refine ⟨later, found, applied, ?_⟩
  rw [runSteps_append, ran, Option.bind_some, Outcome.andThen, runSteps_of_goesOn goesOn, applied]
  rfl

end Runs

theorem Path.run?_stop_cases (label : Option String) (steps : List Step) (tree : Tree)
    (start : Nodes) :
    (program label .stop steps).run? tree start = some ∅ ∨
      (program label .stop steps).run? tree start =
        (program label .proceed steps).run? tree start := by
  rw [run?, run?]
  split
  · exact .inl rfl
  · rcases runSteps_stop_cases tree start steps [] start with stopped | same
    · rw [stopped]
      exact .inl rfl
    · rw [same]
      exact .inr rfl

theorem Path.run?_policy {steps : List Step} {tree : Tree}
    (steady : ∀ step ∈ steps, step.IsSteady tree) (balanced : depthBehind? steps 0 = some 0)
    (label : Option String) (policy other : EmptyPolicy) (start : Nodes) :
    (program label policy steps).run? tree start = (program label other steps).run? tree start :=
  calc
    _ = (runSteps tree .proceed start steps [] start).map Outcome.result :=
      (runSteps_alone steady balanced .proceed policy label).symm
    _ = (program label other steps).run? tree start :=
      runSteps_alone steady balanced .proceed other label

/-- To stop is to save work. A program that can be built finds under the policy to stop what it
finds under the policy to proceed, or nothing; and it finds the same unless it starts afresh, if its
joins make nothing out of nothing, as all joins of the library do. As long as a saved collection has
members every step is run, so that none of them is lost before it is used. -/
theorem stopping_saves_work (builder : Builder) {path : Path} (accepted : builder.build = .ok path)
    (forks : ∀ inner, Step.fork inner ∈ builder.steps → inner.IsObtainable) (tree : Tree)
    (joins : ∀ label join, Step.popJoin label join ∈ builder.steps → Join.KeepsEmpty tree join)
    (start : Nodes) :
    (∃ stopping proceeding stopped found,
      (builder.onEmpty .stop).build = .ok stopping ∧
      (builder.onEmpty .proceed).build = .ok proceeding ∧
      stopping.run? tree start = some stopped ∧ proceeding.run? tree start = some found ∧
      (stopped = ∅ ∨ stopped = found) ∧ (.restart ∉ builder.steps → stopped = found)) ∧
    (∀ front step back stack current, builder.steps = front ++ step :: back →
      runSteps tree .stop start front [] start = some (.finished stack current) →
      (∃ saved ∈ stack, saved ≠ ∅) →
      ∃ later found, step.apply? tree start stack current = some (later, found) ∧
        runSteps tree .stop start (front ++ [step]) [] start = some (.finished later found)) ∧
    (∀ label, Join.KeepsEmpty tree (Join.ofLabel label)) ∧
    Join.KeepsEmpty tree Inspect.selectCallee ∧ Join.KeepsEmpty tree Inspect.savedNotNamed := by
  obtain ⟨checked, rfl⟩ := Builder.build_eq_ok_iff.mp accepted
  have forksRun : ∀ step ∈ builder.steps, step.ForksRun tree :=
    Path.forksRun_of_paths fun inner member => (forks inner member).runs tree
  refine ⟨?_, ?_, ?_, rfl, rfl⟩
  · obtain ⟨stopped, ran⟩ := Path.run?_program forksRun checked.2 builder.label .stop start
    obtain ⟨found, ranOn⟩ := Path.run?_program forksRun checked.2 builder.label .proceed start
    refine ⟨_, _, stopped, found, Builder.build_eq_ok_iff.mpr ⟨checked, rfl⟩,
      Builder.build_eq_ok_iff.mpr ⟨checked, rfl⟩, ran, ranOn, ?_, ?_⟩
    · have cases := Path.run?_stop_cases builder.label builder.steps tree start
      rw [ran, ranOn] at cases
      exact cases.imp Option.some.inj Option.some.inj
    · intro plain
      have same := Path.run?_policy (isSteady_of_joins plain joins) checked.2 builder.label .stop
        .proceed start
      rw [ran, ranOn] at same
      exact Option.some.inj same
  · intro front step back stack current split ran waiting
    have member : step ∈ builder.steps := split ▸ List.mem_append_right _ List.mem_cons_self
    exact runSteps_of_waiting (forksRun step member) ran waiting
  · intro label
    unfold Join.KeepsEmpty Join.ofLabel
    split <;> rfl

/-- Nothing passes the test, but what was saved before is still there. A program that starts afresh
behind such a test is the one that has to proceed. -/
theorem stopping_saves_work_pushed :
    let tree := Tree.ofRequests [⟨.soyFile, none, {}⟩, ⟨.templateTag, some 0, {}⟩]
    let steps := [.push, .filter .children .nothing, .log "none", .popJoin "union" Join.union]
    (∃ found, (Path.program none .stop steps).run? tree (.singleton 0) = some found ∧
      (Path.program none .proceed steps).run? tree (.singleton 0) = some found ∧
      found = .singleton 0) ∧
    runSteps tree .stop (.singleton 0) [.push, .filter .children .nothing, .log "none"] []
      (.singleton 0) = some (.finished [.singleton 0] ∅) ∧
    (Path.program none .stop [.filter .children .nothing, .restart]).run? tree (.singleton 0) =
      some ∅ ∧
    (Path.program none .proceed [.filter .children .nothing, .restart]).run? tree (.singleton 0) =
      some (.singleton 0) := by
  intro tree steps
  have accepted : Builder.build { steps } = .ok (.program none .stop steps) := rfl
  have joins : ∀ label join, Step.popJoin label join ∈ steps → Join.KeepsEmpty tree join := by
    intro label join member
    obtain ⟨-, rfl⟩ : label = "union" ∧ join = Join.union := by simpa [steps] using member
    rfl
  obtain ⟨⟨stopping, proceeding, stopped, found, builtStop, builtProceed, ran, ranOn, -, same⟩,
    waiting, -⟩ := stopping_saves_work { steps } accepted (by simp [steps]) tree joins (.singleton 0)
  obtain rfl := Except.ok.inj builtStop
  obtain rfl := Except.ok.inj builtProceed
  obtain rfl := same (by simp [steps])
  have kept := waiting [.push, .filter .children .nothing] (.log "none") _ [.singleton 0] ∅ rfl rfl
    ⟨.singleton 0, List.mem_cons_self, by decide⟩
  obtain ⟨later, last, applied, goesOn⟩ := kept
  cases applied
  exact ⟨⟨stopped, ran, ranOn, Option.some.inj (ran.symm.trans rfl)⟩, goesOn, rfl, rfl⟩

end ClosureTemplate.Query
