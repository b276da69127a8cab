import ClosureTemplate.Proofs.Tree.Arena
import ClosureTemplate.Query.Builder

/-!
Stack balance of step programs. A builder counts the depth of the stack without running anything,
a run keeps the stack itself: `apply?_depth` says that the two agree on every step. Accepted
programs therefore never take from an empty stack and leave nothing on it, and programs that are
rejected for their stack would do one or the other.
-/

namespace ClosureTemplate.Query

/-- The depth of the stack behind a step; none if the step needs a saved collection and there is
none. -/
def Step.effect? : Step → Nat → Option Nat
  | .push, depth | .pushMatching _, depth => some (depth + 1)
  | .swap, depth + 1 => some (depth + 1)
  | .pop, depth + 1 | .popAdd, depth + 1 | .popJoin .., depth + 1 => some depth
  | .swap, 0 | .pop, 0 | .popAdd, 0 | .popJoin .., 0 => none
  | .filter .., depth | .restart, depth | .fork _, depth | .log _, depth => some depth

/-- The depth of the stack behind steps that are executed for their stack effects only. -/
def depthBehind? : List Step → Nat → Option Nat
  | [], depth => some depth
  | step :: steps, depth => (step.effect? depth).bind (depthBehind? steps)

theorem Step.effect?_zero_eq_none {step : Step} :
    step.effect? 0 = none ↔ step.readsStack = true := by
  cases step <;> simp [Step.effect?, Step.readsStack]

theorem Step.effect?_succ_ne_none (step : Step) (depth : Nat) :
    step.effect? (depth + 1) ≠ none := by
  cases step <;> simp [Step.effect?]

theorem depthBehind?_eq_none {steps : List Step} {depth : Nat}
    (starved : depthBehind? steps depth = none) :
    ∃ front step back, steps = front ++ step :: back ∧ step.readsStack = true ∧
      depthBehind? front depth = some 0 := by
  induction steps generalizing depth with
  | nil => simp [depthBehind?] at starved
  | cons step steps ih =>
    cases effect : step.effect? depth with
    | none =>
      cases depth with
      | zero => exact ⟨[], step, steps, rfl, Step.effect?_zero_eq_none.mp effect, rfl⟩
      | succ depth => exact absurd effect (step.effect?_succ_ne_none depth)
    | some after =>
      simp only [depthBehind?, effect, Option.bind_some] at starved
      obtain ⟨front, culprit, back, split, reads, reached⟩ := ih starved
      refine ⟨step :: front, culprit, back, by simp [split], reads, ?_⟩
      simp only [depthBehind?, effect, Option.bind_some, reached]

def Step.IsSound (step : Step) : Prop :=
  ∀ scope predicate, step = .filter scope predicate → scope.validate = .ok ()

namespace Builder

theorem stepDepth_eq_ok_iff (label : String) (index : Nat) {depth after : Nat} {step : Step} :
    stepDepth label index depth step = .ok after ↔
      step.IsSound ∧ step.effect? depth = some after := by
  cases step with
  | filter scope predicate =>
    have sound : (Step.filter scope predicate).IsSound ↔ scope.validate = .ok () := by
      constructor
      · intro sound
        exact sound scope predicate rfl
      · intro valid other test same
        cases same
        exact valid
    rw [sound]
    cases valid : scope.validate <;> simp [stepDepth, Step.effect?, valid, Except.map]
  | _ => cases depth <;> simp [stepDepth, Step.effect?, Step.IsSound]

theorem check_eq_ok_iff (label : String) (index : Nat) {depth : Nat} {steps : List Step} :
    check label index depth steps = .ok () ↔
      (∀ step ∈ steps, step.IsSound) ∧ depthBehind? steps depth = some 0 := by
  induction steps generalizing index depth with
  | nil => by_cases zero : depth = 0 <;> simp [check, depthBehind?, zero]
  | cons step steps ih =>
    rw [List.forall_mem_cons]
    cases outcome : stepDepth label index depth step with
    | error error =>
      simp only [check, outcome, depthBehind?, Option.bind_eq_some_iff]
      constructor
      · intro passed
        cases passed
      · rintro ⟨⟨sound, -⟩, after, effect, -⟩
        have passed := (stepDepth_eq_ok_iff label index).mpr ⟨sound, effect⟩
        rw [outcome] at passed
        cases passed
    | ok after =>
      obtain ⟨sound, effect⟩ := (stepDepth_eq_ok_iff label index).mp outcome
      simp only [check, outcome, depthBehind?, effect, Option.bind_some, sound, true_and]
      exact ih (index + 1)

theorem build_eq_ok_iff {builder : Builder} {path : Path} :
    builder.build = .ok path ↔
      ((∀ step ∈ builder.steps, step.IsSound) ∧ depthBehind? builder.steps 0 = some 0) ∧
        path = .program builder.label builder.policy builder.steps := by
  rw [← check_eq_ok_iff (builder.label.getD "anonymous") 0]
  cases checked : check (builder.label.getD "anonymous") 0 0 builder.steps with
  | error error => simp [build, checked, Except.map]
  | ok => simp [build, checked, Except.map, eq_comm]

theorem validate_ne_unbalanced (scope : Scope) (label : String) (fault : StackFault) :
    scope.validate ≠ .error (.unbalancedPath label fault) := by
  cases scope with
  | descendantsWithin low high =>
    simp only [Scope.validate]
    split
    · simp
    split <;> simp
  | _ => simp [Scope.validate]

theorem effect?_of_unbalanced {label name : String} {index depth : Nat} {step : Step}
    {fault : StackFault} (refused : stepDepth label index depth step =
      .error (.unbalancedPath name fault)) : step.effect? depth = none := by
  cases step with
  | filter scope predicate =>
    have other := validate_ne_unbalanced scope name fault
    cases valid : scope.validate <;> simp_all [stepDepth, Except.map]
  | _ => cases depth <;> simp_all [stepDepth, Step.effect?]

theorem depthBehind?_of_unbalanced {label name : String} {index depth : Nat} {steps : List Step}
    {fault : StackFault}
    (refused : check label index depth steps = .error (.unbalancedPath name fault)) :
    depthBehind? steps depth ≠ some 0 := by
  induction steps generalizing index depth with
  | nil =>
    intro zero
    simp only [depthBehind?, Option.some.injEq] at zero
    simp [check, zero] at refused
  | cons step steps ih =>
    cases outcome : stepDepth label index depth step with
    | error error =>
      simp only [check, outcome, Except.error.injEq] at refused
      subst refused
      simp [depthBehind?, effect?_of_unbalanced outcome]
    | ok after =>
      obtain ⟨-, effect⟩ := (stepDepth_eq_ok_iff label index).mp outcome
      simp only [check, outcome] at refused
      simpa only [depthBehind?, effect, Option.bind_some] using ih refused

end Builder

def Step.ForksRun (tree : Tree) (step : Step) : Prop :=
  ∀ path, step = .fork path → ∀ start, ∃ found, path.run? tree start = some found

theorem forkEach_runs {tree : Tree} {path : Path}
    (runs : ∀ start, ∃ found, path.run? tree start = some found) (nodes : List NodeId)
    (initial : Nodes) :
    ∃ found, nodes.foldlM
      (fun found node => (path.run? tree (.singleton node)).map found.union) initial =
        some found := by
  induction nodes generalizing initial with
  | nil => exact ⟨initial, rfl⟩
  | cons node nodes ih =>
    obtain ⟨found, ran⟩ := runs (.singleton node)
    obtain ⟨united, rest⟩ := ih (initial.union found)
    exact ⟨united, by simpa [ran] using rest⟩

/-- The stack of a run is as deep as the builder counts, and a step fails where the count does. -/
theorem apply?_depth {tree : Tree} {step : Step} (forks : step.ForksRun tree)
    (start : Nodes) (stack : List Nodes) (current : Nodes) {after : Option (List Nodes × Nodes)}
    (applied : step.apply? tree start stack current = after) :
    after.map (fun result => result.1.length) = step.effect? stack.length := by
  subst applied
  cases step with
  | fork path =>
    obtain ⟨found, ran⟩ := forkEach_runs (forks path rfl) current.toList ∅
    simp [Step.effect?, Step.apply?, ran]
  | _ => cases stack <;> simp [Step.effect?, Step.apply?]

def Outcome.depth? : Outcome → Option Nat
  | .stopped => none
  | .finished stack _ => some stack.length

theorem runSteps_depth {tree : Tree} {steps : List Step}
    (forks : ∀ step ∈ steps, step.ForksRun tree) (policy : EmptyPolicy) (start : Nodes)
    (stack : List Nodes) (current : Nodes) :
    policy = .stop ∧ runSteps tree policy start steps stack current = some .stopped ∨
      (runSteps tree policy start steps stack current ≠ some .stopped ∧
        (runSteps tree policy start steps stack current).bind Outcome.depth? =
          depthBehind? steps stack.length) := by
  induction steps generalizing stack current with
  | nil => exact .inr (by simp [runSteps, Outcome.depth?, depthBehind?])
  | cons step steps ih =>
    have others : ∀ step ∈ steps, step.ForksRun tree :=
      fun step member => forks step (List.mem_cons_of_mem _ member)
    rw [runSteps]
    split
    · next stops =>
      simp only [Bool.and_eq_true, decide_eq_true_eq] at stops
      exact .inl ⟨stops.1.1.1, rfl⟩
    · cases applied : step.apply? tree start stack current with
      | none =>
        have depth := apply?_depth (forks step List.mem_cons_self) start stack current applied
        rw [Option.map_none] at depth
        exact .inr (by simp [depthBehind?, ← depth])
      | some result =>
        obtain ⟨saved, found⟩ := result
        have depth := apply?_depth (forks step List.mem_cons_self) start stack current applied
        rw [Option.map_some] at depth
        simp only [depthBehind?, ← depth, Option.bind_some]
        exact ih others saved found

theorem finished_of_depth {outcome : Option Outcome} {depth : Nat}
    (ended : outcome.bind Outcome.depth? = some depth) :
    ∃ stack current, outcome = some (.finished stack current) ∧ stack.length = depth := by
  match outcome, ended with
  | some (.finished stack current), ended =>
    exact ⟨stack, current, rfl, by simpa [Outcome.depth?] using ended⟩

theorem runSteps_of_balanced {tree : Tree} {steps : List Step}
    (forks : ∀ step ∈ steps, step.ForksRun tree) (balanced : depthBehind? steps 0 = some 0)
    (policy : EmptyPolicy) (start current : Nodes) :
    policy = .stop ∧ runSteps tree policy start steps [] current = some .stopped ∨
      ∃ found, runSteps tree policy start steps [] current = some (.finished [] found) := by
  rcases runSteps_depth forks policy start [] current with stopped | ⟨-, depth⟩
  · exact .inl stopped
  · rw [List.length_nil, balanced] at depth
    obtain ⟨stack, found, ran, empty⟩ := finished_of_depth depth
    exact .inr ⟨found, by rw [ran, List.length_eq_zero_iff.mp empty]⟩

/-- Steps that are out of balance and never stopped come to a step that meets an empty stack, or
leave collections behind. -/
theorem runSteps_of_unbalanced {tree : Tree} {steps : List Step}
    (forks : ∀ step ∈ steps, step.ForksRun tree) (unbalanced : depthBehind? steps 0 ≠ some 0)
    (start : Nodes) :
    (∃ front step back found, steps = front ++ step :: back ∧ step.readsStack = true ∧
        runSteps tree .proceed start front [] start = some (.finished [] found) ∧
        runSteps tree .proceed start steps [] start = none) ∨
      ∃ saved stack found,
        runSteps tree .proceed start steps [] start = some (.finished (saved :: stack) found) := by
  obtain ⟨proceeds, depth⟩ :=
    (runSteps_depth forks .proceed start [] start).resolve_left (by simp)
  cases counted : depthBehind? steps 0 with
  | none =>
    obtain ⟨front, step, back, rfl, reads, reached⟩ := depthBehind?_eq_none counted
    have frontForks : ∀ step ∈ front, step.ForksRun tree :=
      fun step member => forks step (List.mem_append_left _ member)
    obtain ⟨found, ran⟩ :=
      (runSteps_of_balanced frontForks reached .proceed start start).resolve_left (by simp)
    refine .inl ⟨front, step, back, found, rfl, reads, ran, ?_⟩
    rw [List.length_nil, counted] at depth
    match runSteps tree .proceed start (front ++ step :: back) [] start, proceeds, depth with
    | none, _, _ => rfl
    | some .stopped, proceeds, _ => exact absurd rfl proceeds
  | some left =>
    rw [List.length_nil, counted] at depth
    obtain ⟨stack, found, ran, size⟩ := finished_of_depth depth
    cases stack with
    | nil => exact absurd (counted.trans (by rw [← size]; rfl)) unbalanced
    | cons saved stack => exact .inr ⟨saved, stack, found, ran⟩

namespace Path

/-- The paths that building and combining give, nested to any depth. -/
inductive IsObtainable : Path → Prop
  | built {builder : Builder} {path : Path}
      (forks : ∀ inner, Step.fork inner ∈ builder.steps → IsObtainable inner)
      (accepted : builder.build = .ok path) : IsObtainable path
  | identity : IsObtainable .identity
  | or {first second : Path} (left : IsObtainable first) (right : IsObtainable second) :
      IsObtainable (first.or second)
  | exclude {base excluded : Path} (left : IsObtainable base) (right : IsObtainable excluded) :
      IsObtainable (base.exclude excluded)
  | append {first second : Path} (left : IsObtainable first) (right : IsObtainable second) :
      IsObtainable (first.append second)
  | named {path : Path} (label : String) (inner : IsObtainable path) :
      IsObtainable (path.named label)

theorem run?_named (path : Path) (label : String) (tree : Tree) (start : Nodes) :
    (path.named label).run? tree start = path.run? tree start := by
  cases path <;> simp [named, run?]

theorem run?_program {tree : Tree} {steps : List Step}
    (forks : ∀ step ∈ steps, step.ForksRun tree) (balanced : depthBehind? steps 0 = some 0)
    (label : Option String) (policy : EmptyPolicy) (start : Nodes) :
    ∃ found, (Path.program label policy steps).run? tree start = some found := by
  by_cases empty : start.isEmpty = true
  · exact ⟨∅, by simp [run?, empty]⟩
  · rcases runSteps_of_balanced forks balanced policy start start with ⟨-, ran⟩ | ⟨found, ran⟩
    · exact ⟨∅, by simp [run?, empty, ran, Outcome.result]⟩
    · exact ⟨found, by simp [run?, empty, ran, Outcome.result]⟩

theorem forksRun_of_paths {tree : Tree} {steps : List Step}
    (runs : ∀ inner, Step.fork inner ∈ steps →
      ∀ start, ∃ found, inner.run? tree start = some found) :
    ∀ step ∈ steps, step.ForksRun tree := by
  intro step member inner same
  subst same
  exact runs inner member

theorem IsObtainable.runs {path : Path} (obtainable : path.IsObtainable) (tree : Tree)
    (start : Nodes) : ∃ found, path.run? tree start = some found := by
  induction obtainable generalizing start with
  | built _ accepted ih =>
    obtain ⟨⟨-, balanced⟩, rfl⟩ := Builder.build_eq_ok_iff.mp accepted
    exact run?_program (forksRun_of_paths ih) balanced _ _ start
  | identity => exact run?_program (by simp) rfl _ _ start
  | or _ _ first second =>
    obtain ⟨left, leftRan⟩ := first start
    obtain ⟨right, rightRan⟩ := second start
    by_cases empty : start.isEmpty = true <;> simp [Path.or, run?, empty, leftRan, rightRan]
  | exclude _ _ base excluded =>
    obtain ⟨found, ran⟩ := base start
    obtain ⟨other, otherRan⟩ := excluded start
    by_cases empty : start.isEmpty = true
    · simp [Path.exclude, run?, empty]
    · by_cases nothing : found.isEmpty = true <;>
        simp [Path.exclude, run?, empty, ran, nothing, otherRan]
  | append _ _ first second =>
    obtain ⟨found, ran⟩ := first start
    obtain ⟨last, lastRan⟩ := second found
    by_cases empty : start.isEmpty = true <;> simp [Path.append, run?, empty, ran, lastRan]
  | named label _ ih =>
    rw [run?_named]
    exact ih start

theorem IsObtainable.balanced {path : Path} (obtainable : path.IsObtainable)
    {label : Option String} {policy : EmptyPolicy} {steps : List Step}
    (shape : path = .program label policy steps) :
    depthBehind? steps 0 = some 0 ∧ ∀ inner, Step.fork inner ∈ steps → inner.IsObtainable := by
  induction obtainable generalizing label with
  | built forks accepted =>
    obtain ⟨⟨-, balanced⟩, rfl⟩ := Builder.build_eq_ok_iff.mp accepted
    cases shape
    exact ⟨balanced, forks⟩
  | identity =>
    cases shape
    exact ⟨rfl, by simp⟩
  | or | exclude | append => cases shape
  | @named path other _ ih =>
    cases path with
    | program own policy' steps' =>
      cases shape
      exact ih rfl
    | _ => cases shape

theorem IsObtainable.sound {path : Path} (obtainable : path.IsObtainable)
    {label : Option String} {policy : EmptyPolicy} {steps : List Step}
    (shape : path = .program label policy steps) : ∀ step ∈ steps, step.IsSound := by
  induction obtainable generalizing label with
  | built forks accepted =>
    obtain ⟨⟨sound, -⟩, rfl⟩ := Builder.build_eq_ok_iff.mp accepted
    cases shape
    exact sound
  | identity =>
    cases shape
    simp
  | or | exclude | append => cases shape
  | @named path other _ ih =>
    cases path with
    | program own policy' steps' =>
      cases shape
      exact ih rfl
    | _ => cases shape

end Path

/-- Building accepts exactly the steps whose scopes are sound and whose stack effects never meet an
empty stack and end at depth 0. Whatever can be had by building and combining then runs on every
tree from every start, each of its programs ending with an empty stack unless it was stopped; and
steps that are rejected for their stack would meet an empty one or leave collections on it. -/
theorem built_paths_keep_their_stack :
    (∀ builder : Builder, (∃ path, builder.build = .ok path) ↔
      (∀ scope predicate, Step.filter scope predicate ∈ builder.steps →
        scope.validate = .ok ()) ∧ depthBehind? builder.steps 0 = some 0) ∧
    (∀ path : Path, path.IsObtainable → ∀ tree start,
      ∃ found, path.run? tree start = some found) ∧
    (∀ label policy steps, (Path.program label policy steps).IsObtainable → ∀ tree start,
      policy = .stop ∧ runSteps tree policy start steps [] start = some .stopped ∨
        ∃ found, runSteps tree policy start steps [] start = some (.finished [] found)) ∧
    (∀ (builder : Builder) name fault, builder.build = .error (.unbalancedPath name fault) →
      (∀ inner, Step.fork inner ∈ builder.steps → inner.IsObtainable) →
      ∀ tree (start : Nodes), start.isEmpty = false →
        (∃ front step back found, builder.steps = front ++ step :: back ∧
          step.readsStack = true ∧
          runSteps tree .proceed start front [] start = some (.finished [] found) ∧
          (Path.program builder.label .proceed builder.steps).run? tree start = none) ∨
        ∃ saved stack found, runSteps tree .proceed start builder.steps [] start =
          some (.finished (saved :: stack) found)) := by
  refine ⟨?_, ?_, ?_, ?_⟩
  · intro builder
    have scopes : (∀ step ∈ builder.steps, step.IsSound) ↔
        ∀ scope predicate, Step.filter scope predicate ∈ builder.steps →
          scope.validate = .ok () := by
      constructor
      · intro sound scope predicate member
        exact sound _ member scope predicate rfl
      · intro sound step member scope predicate same
        exact sound scope predicate (same ▸ member)
    simp [Builder.build_eq_ok_iff, scopes]
  · intro path obtainable tree start
    exact obtainable.runs tree start
  · intro label policy steps obtainable tree start
    obtain ⟨balanced, forks⟩ := obtainable.balanced rfl
    exact runSteps_of_balanced
      (Path.forksRun_of_paths fun inner member => (forks inner member).runs tree) balanced policy
      start start
  · intro builder name fault refused forks tree start present
    have unbalanced : depthBehind? builder.steps 0 ≠ some 0 := by
      cases checked : Builder.check (builder.label.getD "anonymous") 0 0 builder.steps with
      | ok => simp [Builder.build, checked, Except.map] at refused
      | error error =>
        simp only [Builder.build, checked, Except.map, Except.error.injEq] at refused
        subst refused
        exact Builder.depthBehind?_of_unbalanced checked
    have runs := runSteps_of_unbalanced
      (Path.forksRun_of_paths fun inner member => (forks inner member).runs tree) unbalanced start
    rcases runs with ⟨front, step, back, found, split, reads, reached, fails⟩ | leaves
    · refine .inl ⟨front, step, back, found, split, reads, reached, ?_⟩
      simp [Path.run?, present, fails]
    · exact .inr leaves

/-- On a file with two templates: a path with a fork inside a pair of steps that save and add, and
the same steps without the one that saves. -/
theorem built_paths_keep_their_stack_forked :
    let tree := Tree.ofRequests
      [⟨.soyFile, none, {}⟩, ⟨.templateTag, some 0, {}⟩, ⟨.templateTag, some 0, {}⟩]
    let file : Nodes := .singleton 0
    let templates := Path.program none .stop [.filter .children (.kind .templateTag)]
    let steps : List Step := [.fork (templates.or .identity), .popAdd]
    tree.size = 3 ∧
      (∃ path found, Builder.build { steps := .push :: steps } = .ok path ∧
        path.run? tree file = some found ∧ found.toList = [0, 1, 2]) ∧
      Builder.build { steps } = .error (.unbalancedPath "anonymous" (.popsEmpty 1 "pop-add")) ∧
      ((Path.program none .proceed steps).run? tree file = none ∨
        ∃ saved stack found, runSteps tree .proceed file steps [] file =
          some (.finished (saved :: stack) found)) := by
  intro tree file templates steps
  obtain ⟨accepts, runs, -, rejected⟩ := built_paths_keep_their_stack
  have inner : ∀ inner, Step.fork inner ∈ Step.push :: steps → inner.IsObtainable := by
    intro inner member
    obtain rfl : inner = templates.or .identity := by simpa [steps] using member
    have plain : ∀ path, Step.fork path ∉ [Step.filter .children (.kind .templateTag)] := by simp
    have built : templates.IsObtainable :=
      @Path.IsObtainable.built { steps := [.filter .children (.kind .templateTag)] } templates
        (fun path member => absurd member (plain path)) rfl
    exact built.or .identity
  refine ⟨rfl, ?_, rfl, ?_⟩
  · obtain ⟨path, accepted⟩ := (accepts { steps := .push :: steps }).mpr ⟨by simp [steps], rfl⟩
    obtain ⟨found, ran⟩ := runs path (.built inner accepted) tree file
    refine ⟨path, found, accepted, ran, ?_⟩
    cases accepted
    cases ran
    decide
  · have refused := rejected { steps } _ _ rfl
      (fun path member => inner path (List.mem_cons_of_mem _ member)) tree file rfl
    rcases refused with ⟨-, -, -, -, -, -, -, fails⟩ | leaves
    · exact .inl fails
    · exact .inr leaves

end ClosureTemplate.Query
