import ClosureTemplate.Proofs.Query.Inlining
import Mathlib.Logic.Relation

/-!
Tracing. Logs and labels are there for the reader of a trace: whatever is put in, taken out or
renamed, at any depth of a path (`Retraces`), the path can still be had and leads to the same nodes.
A log is a step like others for a program that is told to stop, so this rests on what is left to
happen behind it: it is a step that expands every node to itself, and such steps can be skipped.
-/

namespace ClosureTemplate.Query

namespace Path

def combinations : List (Option String → Path → Path → Path) := [.either, .except, .chain]

/-- One edit of the tracing: a log is put in, or a path is labelled, at the top or in a part. -/
inductive Retraces : Path → Path → Prop
  | logged {label : Option String} {policy : EmptyPolicy} (front back : List Step)
      (message : String) :
      Retraces (.program label policy (front ++ back))
        (.program label policy (front ++ .log message :: back))
  | labelled (path : Path) (label : String) : Retraces path (path.named label)
  | forked {label : Option String} {policy : EmptyPolicy} (front back : List Step)
      {path other : Path} (inner : Retraces path other) :
      Retraces (.program label policy (front ++ .fork path :: back))
        (.program label policy (front ++ .fork other :: back))
  | first {combine : Option String → Path → Path → Path} (listed : combine ∈ combinations)
      (label : Option String) {path other : Path} (second : Path) (inner : Retraces path other) :
      Retraces (combine label path second) (combine label other second)
  | second {combine : Option String → Path → Path → Path} (listed : combine ∈ combinations)
      (label : Option String) (first : Path) {path other : Path} (inner : Retraces path other) :
      Retraces (combine label first path) (combine label first other)

def JoinsKeepEmpty (tree : Tree) (path : Path) : Prop :=
  ∀ label policy steps, Occurs (.program label policy steps) path →
    ∀ name join, Step.popJoin name join ∈ steps → Join.KeepsEmpty tree join

/-- A path that can be had and whose joins make nothing out of nothing. -/
structure IsTraceable (tree : Tree) (path : Path) : Prop where
  obtainable : path.IsObtainable
  joins : path.JoinsKeepEmpty tree

structure AreTraceable (tree : Tree) (steps : List Step) : Prop where
  sound : ∀ step ∈ steps, step.IsSound
  balanced : depthBehind? steps 0 = some 0
  joins : ∀ name join, Step.popJoin name join ∈ steps → Join.KeepsEmpty tree join

theorem isTraceable_program {tree : Tree} {label : Option String} {policy : EmptyPolicy}
    {steps : List Step} :
    (program label policy steps).IsTraceable tree ↔
      AreTraceable tree steps ∧ ∀ inner, Step.fork inner ∈ steps → inner.IsTraceable tree := by
  constructor
  · intro traceable
    obtain ⟨balanced, forks⟩ := traceable.obtainable.balanced rfl
    have joins := traceable.joins label policy steps .whole
    refine ⟨⟨traceable.obtainable.sound rfl, balanced, joins⟩, ?_⟩
    intro inner member
    refine ⟨forks inner member, ?_⟩
    intro name own innerSteps occurs
    exact traceable.joins name own innerSteps (.part (mem_parts_program.mpr member) occurs)
  · rintro ⟨here, forks⟩
    refine ⟨?_, ?_⟩
    · have accepted : Builder.build { steps, policy, label } = .ok (program label policy steps) :=
        Builder.build_eq_ok_iff.mpr ⟨⟨here.sound, here.balanced⟩, rfl⟩
      exact .built (fun inner member => (forks inner member).obtainable) accepted
    · intro name own innerSteps occurs
      cases occurs with
      | whole => exact here.joins
      | part member deeper =>
        exact (forks _ (mem_parts_program.mp member)).joins name own innerSteps deeper

theorem isTraceable_built {tree : Tree} {builder : Builder} {path : Path}
    (accepted : builder.build = .ok path)
    (joins : ∀ name join, Step.popJoin name join ∈ builder.steps → Join.KeepsEmpty tree join)
    (forks : ∀ inner, Step.fork inner ∈ builder.steps → inner.IsTraceable tree) :
    path.IsTraceable tree := by
  obtain ⟨⟨sound, balanced⟩, rfl⟩ := Builder.build_eq_ok_iff.mp accepted
  exact isTraceable_program.mpr ⟨⟨sound, balanced, joins⟩, forks⟩

theorem isObtainable_combined {combine : Option String → Path → Path → Path}
    (listed : combine ∈ combinations) (label : Option String) {first second : Path}
    (left : first.IsObtainable) (right : second.IsObtainable) :
    (combine label first second).IsObtainable := by
  simp only [combinations, List.mem_cons, List.not_mem_nil, or_false] at listed
  rcases listed with rfl | rfl | rfl
  · cases label with
    | none => exact .or left right
    | some label => exact .named label (.or left right)
  · cases label with
    | none => exact .exclude left right
    | some label => exact .named label (.exclude left right)
  · cases label with
    | none => exact .append left right
    | some label => exact .named label (.append left right)

theorem parts_combined {combine : Option String → Path → Path → Path}
    (listed : combine ∈ combinations) (label : Option String) (first second : Path) :
    (combine label first second).parts = [first, second] := by
  simp only [combinations, List.mem_cons, List.not_mem_nil, or_false] at listed
  rcases listed with rfl | rfl | rfl <;> rfl

theorem IsTraceable.part {tree : Tree} {part path : Path} (traceable : path.IsTraceable tree)
    (member : part ∈ path.parts) : part.IsTraceable tree where
  obtainable := traceable.obtainable.part member
  joins label policy steps occurs := traceable.joins label policy steps (.part member occurs)

theorem isTraceable_combined {tree : Tree} {combine : Option String → Path → Path → Path}
    (listed : combine ∈ combinations) (label : Option String) {first second : Path} :
    (combine label first second).IsTraceable tree ↔
      first.IsTraceable tree ∧ second.IsTraceable tree := by
  have parts := parts_combined listed label first second
  constructor
  · intro traceable
    exact ⟨traceable.part (by simp [parts]), traceable.part (by simp [parts])⟩
  · rintro ⟨left, right⟩
    refine ⟨isObtainable_combined listed label left.obtainable right.obtainable, ?_⟩
    intro name own steps occurs
    generalize shape : combine label first second = path at occurs parts
    cases occurs with
    | whole =>
      simp only [combinations, List.mem_cons, List.not_mem_nil, or_false] at listed
      rcases listed with rfl | rfl | rfl <;> cases shape
    | part member deeper =>
      rw [parts] at member
      rcases List.mem_cons.mp member with rfl | last
      · exact left.joins name own steps deeper
      · rw [List.mem_singleton.mp last] at deeper
        exact right.joins name own steps deeper

theorem isTraceable_named {tree : Tree} (path : Path) (name : String) :
    (path.named name).IsTraceable tree ↔ path.IsTraceable tree := by
  cases path with
  | program label policy steps => exact isTraceable_program.trans isTraceable_program.symm
  | either label first second =>
    have listed : either ∈ combinations := by simp [combinations]
    exact (isTraceable_combined listed _).trans (isTraceable_combined listed label).symm
  | except label base excluded =>
    have listed : except ∈ combinations := by simp [combinations]
    exact (isTraceable_combined listed _).trans (isTraceable_combined listed label).symm
  | chain label first second =>
    have listed : chain ∈ combinations := by simp [combinations]
    exact (isTraceable_combined listed _).trans (isTraceable_combined listed label).symm

theorem areTraceable_insert {tree : Tree} {step : Step} (front back : List Step)
    (plain : (∃ message, step = .log message) ∨ ∃ path, step = .fork path) :
    AreTraceable tree (front ++ step :: back) ↔ AreTraceable tree (front ++ back) := by
  have sound : step.IsSound := by
    intro scope predicate isFilter
    subst isFilter
    simp at plain
  have depth : depthBehind? (step :: back) = depthBehind? back := by
    rcases plain with ⟨message, rfl⟩ | ⟨path, rfl⟩ <;> rfl
  have noJoin (name : String) (join : Join) :
      Step.popJoin name join ∈ front ++ step :: back ↔ Step.popJoin name join ∈ front ++ back := by
    rcases plain with ⟨message, rfl⟩ | ⟨path, rfl⟩ <;> simp
  constructor
  · intro traceable
    have scopes := traceable.sound
    have balanced := traceable.balanced
    rw [depthBehind?_append, depth, ← depthBehind?_append] at balanced
    simp only [List.forall_mem_append, List.forall_mem_cons] at scopes
    refine ⟨List.forall_mem_append.mpr ⟨scopes.1, scopes.2.2⟩, balanced, ?_⟩
    intro name join member
    exact traceable.joins name join ((noJoin name join).mpr member)
  · intro traceable
    obtain ⟨before, behind⟩ := List.forall_mem_append.mp traceable.sound
    refine ⟨?_, ?_, ?_⟩
    · exact List.forall_mem_append.mpr ⟨before, List.forall_mem_cons.mpr ⟨sound, behind⟩⟩
    · rw [depthBehind?_append, depth, ← depthBehind?_append]
      exact traceable.balanced
    · intro name join member
      exact traceable.joins name join ((noJoin name join).mp member)

theorem isTraceable_logged {tree : Tree} {label : Option String} {policy : EmptyPolicy}
    (front back : List Step) (message : String) :
    (program label policy (front ++ .log message :: back)).IsTraceable tree ↔
      (program label policy (front ++ back)).IsTraceable tree := by
  rw [isTraceable_program, isTraceable_program,
    areTraceable_insert front back (.inl ⟨message, rfl⟩)]
  simp

theorem isTraceable_forked {tree : Tree} {label : Option String} {policy : EmptyPolicy}
    (front back : List Step) (path : Path) :
    (program label policy (front ++ .fork path :: back)).IsTraceable tree ↔
      path.IsTraceable tree ∧ (program label policy (front ++ back)).IsTraceable tree := by
  rw [isTraceable_program, isTraceable_program, areTraceable_insert front back (.inr ⟨path, rfl⟩)]
  simp only [List.mem_append, List.mem_cons, Step.fork.injEq]
  grind

theorem run?_forked {tree : Tree} {path other : Path}
    (same : ∀ start, path.run? tree start = other.run? tree start) (label : Option String)
    (policy : EmptyPolicy) (front back : List Step) (start : Nodes) :
    (program label policy (front ++ .fork path :: back)).run? tree start =
      (program label policy (front ++ .fork other :: back)).run? tree start := by
  have apply (stack : List Nodes) (current : Nodes) :
      Step.apply? tree start (.fork path) stack current =
        Step.apply? tree start (.fork other) stack current := by
    simp only [same, Step.apply?]
  have behind : runSteps tree policy start (.fork path :: back) =
      runSteps tree policy start (.fork other :: back) := by
    funext stack current
    rw [runSteps, runSteps, apply]
    rfl
  rw [run?, run?, runSteps_append, runSteps_append, behind]

theorem run?_combined {tree : Tree} {combine : Option String → Path → Path → Path}
    (listed : combine ∈ combinations) (label : Option String) {first second other another : Path}
    (left : ∀ start, first.run? tree start = other.run? tree start)
    (right : ∀ start, second.run? tree start = another.run? tree start) (start : Nodes) :
    (combine label first second).run? tree start =
      (combine label other another).run? tree start := by
  simp only [combinations, List.mem_cons, List.not_mem_nil, or_false] at listed
  rcases listed with rfl | rfl | rfl <;> simp only [run?, left, right]

theorem Retraces.isTraceable {tree : Tree} {path other : Path} (edit : path.Retraces other) :
    path.IsTraceable tree ↔ other.IsTraceable tree := by
  induction edit with
  | logged front back message => exact (isTraceable_logged front back message).symm
  | labelled path label => exact (isTraceable_named path label).symm
  | forked front back _ ih => rw [isTraceable_forked, isTraceable_forked, ih]
  | first listed label second _ ih =>
    rw [isTraceable_combined listed, isTraceable_combined listed, ih]
  | second listed label first _ ih =>
    rw [isTraceable_combined listed, isTraceable_combined listed, ih]

theorem Retraces.run? {tree : Tree} {path other : Path} (edit : path.Retraces other)
    (traceable : path.IsTraceable tree) (start : Nodes) :
    path.run? tree start = other.run? tree start := by
  induction edit generalizing start with
  | @logged label policy front back message =>
    obtain ⟨here, -⟩ := isTraceable_program.mp traceable
    have nothing : Expands tree [] .singleton := .done
    apply nothing.run?_replaced (expands_log message).alone _ here.balanced
    intro name join member
    exact here.joins name join (List.mem_append_right _ member)
  | labelled path label => exact (run?_named path label tree start).symm
  | @forked label policy front back path other _ ih =>
    obtain ⟨inner, -⟩ := (isTraceable_forked front back path).mp traceable
    exact run?_forked (ih inner) label policy front back start
  | first listed label second _ ih =>
    obtain ⟨left, -⟩ := (isTraceable_combined listed label).mp traceable
    exact run?_combined listed label (ih left) (fun _ => rfl) start
  | second listed label first _ ih =>
    obtain ⟨-, right⟩ := (isTraceable_combined listed label).mp traceable
    exact run?_combined listed label (fun _ => rfl) (ih right) start

theorem run?_of_edits {tree : Tree} {path other : Path}
    (edited : Relation.EqvGen Retraces path other) :
    (path.IsTraceable tree ↔ other.IsTraceable tree) ∧
      (path.IsTraceable tree → ∀ start, path.run? tree start = other.run? tree start) := by
  induction edited with
  | rel path other edit => exact ⟨edit.isTraceable, edit.run?⟩
  | refl path => exact ⟨Iff.rfl, fun _ _ => rfl⟩
  | symm path other _ ih =>
    exact ⟨ih.1.symm, fun traceable start => (ih.2 (ih.1.mpr traceable) start).symm⟩
  | trans path middle other _ _ first second =>
    refine ⟨first.1.trans second.1, fun traceable start => ?_⟩
    calc
      path.run? tree start = middle.run? tree start := first.2 traceable start
      _ = other.run? tree start := second.2 (first.1.mp traceable) start

end Path

/-- However many logs are put in or taken out of a path that can be had, at whatever places, and
however it and the paths in it are labelled: if its joins make nothing out of nothing, the result
can be had as well and leads from every start to the same nodes in the same order. -/
theorem tracing_changes_nothing {path other : Path} (obtainable : path.IsObtainable)
    (edited : Relation.EqvGen Path.Retraces path other) (tree : Tree)
    (joins : path.JoinsKeepEmpty tree) (start : Nodes) :
    other.IsObtainable ∧ ∃ found,
      path.run? tree start = some found ∧ other.run? tree start = some found := by
  have traceable : path.IsTraceable tree := ⟨obtainable, joins⟩
  obtain ⟨kept, same⟩ := Path.run?_of_edits edited
  obtain ⟨found, ran⟩ := obtainable.runs tree start
  refine ⟨(kept.mp traceable).obtainable, found, ran, ?_⟩
  rw [← same traceable start]
  exact ran

/-- A log that stops a program which would have gone on to join two empty collections, and a log
and a label in a path that is forked into. -/
theorem tracing_changes_nothing_stopped :
    let tree := Tree.ofRequests [⟨.soyFile, none, {}⟩, ⟨.templateTag, some 0, {}⟩]
    let front : List Step := [.pushMatching .nothing, .filter .children .nothing]
    let back : List Step := [.popJoin "union" Join.union]
    let inner := Path.program none .stop [.filter .children .any]
    let path := (Path.program none .stop (front ++ back)).or (.program none .stop [.fork inner])
    let other := Path.either (some "all") (.program none .stop (front ++ .log "gone" :: back))
      (.program none .stop
        [.fork (.program (some "below") .stop [.filter .children .any, .log "found"])])
    other.IsObtainable ∧ ∃ found, path.run? tree (.singleton 0) = some found ∧
      other.run? tree (.singleton 0) = some found ∧ found = .singleton 1 := by
  intro tree front back inner path other
  have listed : Path.either ∈ Path.combinations := by simp [Path.combinations]
  have innerTraceable : inner.IsTraceable tree :=
    Path.isTraceable_built
      (show Builder.build { steps := [.filter .children .any] } = .ok inner from rfl)
      (by simp) (by simp)
  have left : (Path.program none .stop (front ++ back)).IsTraceable tree := by
    refine Path.isTraceable_built
      (show Builder.build { steps := front ++ back } = .ok _ from rfl) ?_ (by simp [front, back])
    intro name join member
    obtain ⟨-, rfl⟩ : name = "union" ∧ join = Join.union := by simpa [front, back] using member
    rfl
  have right : (Path.program none .stop [.fork inner]).IsTraceable tree :=
    Path.isTraceable_built (show Builder.build { steps := [.fork inner] } = .ok _ from rfl)
      (by simp) (by simp [innerTraceable])
  have traceable : path.IsTraceable tree :=
    (Path.isTraceable_combined listed none).mpr ⟨left, right⟩
  have edited : Relation.EqvGen Path.Retraces path other := by
    refine .trans _ _ _ (.rel _ _ (.first listed none _ (.logged front back "gone"))) ?_
    refine .trans _ _ _
      (.rel _ _ (.second listed none _ (.forked [] [] (.labelled inner "below")))) ?_
    refine .trans _ _ _ (.rel _ _ (.second listed none _
      (.forked [] [] (.logged [.filter .children .any] [] "found")))) ?_
    exact .rel _ _ (.labelled _ "all")
  obtain ⟨kept, found, ran, same⟩ :=
    tracing_changes_nothing traceable.obtainable edited tree traceable.joins (.singleton 0)
  exact ⟨kept, found, ran, same, Option.some.inj (ran.symm.trans rfl)⟩

end ClosureTemplate.Query
