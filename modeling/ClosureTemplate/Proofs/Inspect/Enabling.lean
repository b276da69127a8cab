import ClosureTemplate.Proofs.Inspect.Findings
import ClosureTemplate.Proofs.Inspect.ParameterUse

namespace ClosureTemplate.Inspect

open Query

/-- The paths that a run of the inspections follows. -/
def IsFollowed (path : Path) : Prop :=
  callsPath = .ok path ∨ ∃ inspection : Inspection, inspection.path = .ok path

/-- A path that can be had and whose joins select from what they are given. -/
structure IsSafe (tree : Tree) (path : Path) : Prop where
  obtainable : path.IsObtainable
  selects : path.JoinsSelect tree

theorem calleeParameters_steps :
    calleeParameters.steps = [
      .filter .children (.kind .callTag), .push, .filter .firstAncestor (.kind .soyFile),
      .filter .children (.kind .tagAndDocComment),
      .filter .childrenOfChildren (.kind .templateTag), .popJoin "callee" selectCallee,
      .filter .firstAncestor (.kind .tagAndDocComment), .filter .children (.kind .docComment),
      .filter .children (.kind .docCommentParamDef)] := rfl

theorem msgWithoutDescriptionPath_eq :
    msgWithoutDescriptionPath = .ok (.program (some Inspection.msgWithoutDescription.id) .stop
      [.filter .descendants (.kind .msgTag),
        .filter .self (Predicate.hasAttribute "desc").negate]) := rfl

section Safe

variable {tree : Tree}

theorem selects_of_known {join : Join} (known : join = selectCallee ∨ join = savedNotNamed) :
    Join.Selects tree join := by
  intro current saved id member
  rcases known with rfl | rfl
  · exact .inl (Collection.mem_filter.mp member).1
  · exact .inr (Collection.mem_filter.mp member).1

theorem isSafe_program {label : Option String} {policy : EmptyPolicy} {steps : List Step}
    (accepted : Builder.build ⟨steps, policy, label⟩ = .ok (.program label policy steps))
    (joins : ∀ name join, Step.popJoin name join ∈ steps →
      join = selectCallee ∨ join = savedNotNamed)
    (forks : ∀ path, Step.fork path ∈ steps → IsSafe tree path) :
    IsSafe tree (.program label policy steps) where
  obtainable := .built (fun path member => (forks path member).obtainable) accepted
  selects := Path.joinsSelect_program
    (fun name join member => selects_of_known (joins name join member))
    fun path member => (forks path member).selects

theorem IsSafe.or {first second : Path} (left : IsSafe tree first) (right : IsSafe tree second) :
    IsSafe tree (first.or second) where
  obtainable := .or left.obtainable right.obtainable
  selects := Path.joinsSelect_or left.selects right.selects

theorem undeclaredPath_isSafe : IsSafe tree undeclaredPath := by
  apply isSafe_program rfl
  · simp +contextual [calleeParameters_steps, or_imp]
  · simp [calleeParameters_steps]

theorem unusedPath_isSafe : IsSafe tree unusedPath := by
  apply isSafe_program rfl
  · simp +contextual
  · simp

theorem missingPath_isSafe : IsSafe tree missingPath := by
  have passed : IsSafe tree passedPath := isSafe_program rfl (by simp) (by simp)
  have forwarded : IsSafe tree forwardedPath := isSafe_program rfl (by simp) (by simp)
  apply isSafe_program rfl
  · simp +contextual [calleeParameters_steps, or_imp]
  · simp [calleeParameters_steps, passed.or forwarded]

theorem isSafe_of_fork {scope : Scope} {predicate : Predicate} {path : Path}
    (sound : scope.validate = .ok ()) (safe : IsSafe tree path) :
    IsSafe tree (.program none .stop [.filter scope predicate, .fork path]) := by
  apply isSafe_program
  · simp [Builder.build, Builder.check, Builder.stepDepth, sound, Except.map]
  · simp
  · simp [safe]

theorem IsFollowed.isSafe {path : Path} (followed : IsFollowed path) : IsSafe tree path := by
  rcases followed with calls | ⟨inspection, built⟩
  · obtain rfl := Except.ok.inj (callsPath_eq.symm.trans calls)
    exact isSafe_program rfl (by simp) (by simp)
  · cases inspection with
    | callParameterNotDefined =>
      obtain rfl := Except.ok.inj (callParameterNotDefinedPath_eq.symm.trans built)
      exact isSafe_of_fork rfl undeclaredPath_isSafe
    | callMissingRequiredParam =>
      obtain rfl := Except.ok.inj (callMissingRequiredParamPath_eq.symm.trans built)
      exact missingPath_isSafe
    | parameterNotUsed =>
      obtain rfl := Except.ok.inj (parameterNotUsedPath_eq.symm.trans built)
      exact isSafe_of_fork rfl unusedPath_isSafe
    | msgWithoutDescription =>
      obtain rfl := Except.ok.inj (msgWithoutDescriptionPath_eq.symm.trans built)
      exact isSafe_program rfl (by simp) (by simp)

end Safe

section Below

variable {tree : Tree} {root id : NodeId}

theorem isBelow_of_mem_findAll {inspection : Inspection} {path : Path} {found : Nodes}
    {message : NodeId → String} (ran : path.run? tree (.singleton root) = some found)
    (below : ∀ id ∈ found, tree.IsBelow id root) :
    ∀ finding ∈ findAll inspection path tree root message, tree.IsBelow finding.node root := by
  intro finding member
  obtain ⟨node, reached, rfl⟩ := List.mem_map.mp member
  rw [Path.navigate_of_run? ran] at reached
  exact below node reached

variable (arena : tree.IsArena)
include arena

theorem isBelow_of_mem_undeclared
    (member : id ∈ unite (undeclared tree)
      (around tree .descendants (.kind .callTagPair) (.singleton root))) :
    tree.IsBelow id root := by
  obtain ⟨pair, listed, isUndeclared⟩ := mem_unite.mp member
  obtain ⟨origin, isRoot, below, -⟩ := (mem_around_descendants arena).mp listed
  rw [Collection.mem_singleton.mp isRoot] at below
  have child := ((mem_undeclared arena).mp isUndeclared).1.1
  exact (arena.isBelow_of_mem_children child).trans below

theorem isBelow_of_mem_unused
    (member : id ∈ unite (unused tree)
      (around tree .children (.kind .tagAndDocComment) (.singleton root))) :
    tree.IsBelow id root := by
  obtain ⟨documented, listed, isUnused⟩ := mem_unite.mp member
  obtain ⟨comment, isComment, isParameter⟩ := ((mem_unused arena).mp isUnused).1
  have top := (mem_around_children_singleton.mp listed).1
  have middle := (arena.isBelow_of_mem_children isComment.1).trans
    (arena.isBelow_of_mem_children top)
  exact (arena.isBelow_of_mem_children isParameter.1).trans middle

theorem isBelow_of_mem_descendants {predicate : Predicate} {kind : ElementKind}
    (member : id ∈ around tree .self predicate
      (around tree .descendants (.kind kind) (.singleton root))) :
    tree.IsBelow id root := by
  obtain ⟨origin, isRoot, below, -⟩ :=
    (mem_around_descendants arena).mp (mem_around_self.mp member).1
  rw [Collection.mem_singleton.mp isRoot] at below
  exact below

theorem Inspection.isBelow_of_run {inspection : Inspection} {found : List Finding}
    (ran : inspection.run tree root = .ok found) :
    ∀ finding ∈ found, tree.IsBelow finding.node root := by
  cases inspection with
  | callParameterNotDefined =>
    rw [Inspection.run, Inspection.path, callParameterNotDefinedPath_eq] at ran
    obtain rfl := Except.ok.inj ran
    exact isBelow_of_mem_findAll (callParameterNotDefined_run? tree root)
      fun _ => isBelow_of_mem_undeclared arena
  | callMissingRequiredParam =>
    rw [run_callMissingRequiredParam arena] at ran
    obtain rfl := Except.ok.inj ran
    intro finding member
    obtain ⟨pair, listed, among⟩ := List.mem_flatMap.mp member
    obtain ⟨missing, -, rfl⟩ := List.mem_map.mp among
    exact arena.mem_breadthFirst.mp (List.mem_filter.mp listed).1
  | parameterNotUsed =>
    rw [Inspection.run, Inspection.path, parameterNotUsedPath_eq] at ran
    obtain rfl := Except.ok.inj ran
    exact isBelow_of_mem_findAll (parameterNotUsed_run? tree root)
      fun _ => isBelow_of_mem_unused arena
  | msgWithoutDescription =>
    rw [Inspection.run, Inspection.path, msgWithoutDescriptionPath_eq] at ran
    obtain rfl := Except.ok.inj ran
    exact isBelow_of_mem_findAll ((Reaches.filter (.filter .done)).run? _ .stop)
      fun _ => isBelow_of_mem_descendants arena

end Below

section Disabled

variable {settings : Config.InspectionSettings} {found : Inspection → List Finding}

theorem isEnabled_iff {id : String} : settings.isEnabled id = true ↔ id ∉ settings.disabled := by
  simp [Config.InspectionSettings.isEnabled]

theorem filter_flatMap_disabled
    (carries : ∀ inspection, ∀ finding ∈ found inspection, finding.id = inspection.id)
    (inspections : List Inspection) :
    (inspections.flatMap found).filter (fun finding => finding.id ∉ settings.disabled) =
      (inspections.filter fun inspection => settings.isEnabled inspection.id).flatMap found := by
  induction inspections with
  | nil => rfl
  | cons first others ih =>
    rw [List.flatMap_cons, List.filter_append, ih]
    by_cases enabled : settings.isEnabled first.id = true
    · have all : (found first).filter (fun finding => finding.id ∉ settings.disabled) =
          found first := by
        apply List.filter_eq_self.mpr
        intro finding member
        rw [carries first finding member]
        exact decide_eq_true (isEnabled_iff.mp enabled)
      rw [all, List.filter_cons, if_pos enabled, List.flatMap_cons]
    · have none : (found first).filter (fun finding => finding.id ∉ settings.disabled) = [] := by
        apply List.filter_eq_nil_iff.mpr
        intro finding member
        rw [carries first finding member, decide_eq_true_eq, ← isEnabled_iff]
        exact enabled
      rw [none, List.filter_cons, if_neg enabled, List.nil_append]

end Disabled

/-- Runs of the inspections always end with findings, on every tree that can be built, from every
node of it and from numbers that are none, whatever is disabled: no path that a run follows is
refused, takes from an empty stack or leaves the tree. What is found lies below the root, and with
some inspections disabled just their findings are missing, the others keeping their order. -/
theorem disabling_filters_findings (requests : List Tree.Request) (root : NodeId)
    (settings : Config.InspectionSettings) :
    let tree := Tree.ofRequests requests
    (∃ findings, run tree root {} = .ok findings ∧
      run tree root settings =
        .ok (findings.filter fun finding => finding.id ∉ settings.disabled) ∧
      ∀ finding ∈ findings, finding.node < tree.size ∧ tree.IsBelow finding.node root) ∧
    (∃ path, callsPath = .ok path) ∧
    (∀ inspection : Inspection, ∃ path, inspection.path = .ok path) ∧
    ∀ path, IsFollowed path → path.RunsWithin tree := by
  intro tree
  have arena : tree.IsArena := Tree.isArena_ofRequests requests
  refine ⟨?_, ⟨_, callsPath_eq⟩, Inspection.path_ok, ?_⟩
  · cases present : tree.node? root with
    | none => exact ⟨[], by rw [run, present], by rw [run, present]; rfl, by simp⟩
    | some node =>
      choose found runs carries using fun inspection : Inspection => inspection.run_ok tree root
      refine ⟨Inspection.all.flatMap found, run_eq runs present, ?_, ?_⟩
      · rw [filter_flatMap_disabled carries, run_eq runs present]
      · intro finding member
        obtain ⟨inspection, -, listed⟩ := List.mem_flatMap.mp member
        have below := Inspection.isBelow_of_run arena (runs inspection) finding listed
        exact ⟨below.lt_size, below⟩
  · intro path followed
    have safe : IsSafe tree path := followed.isSafe
    exact safe.obtainable.runsWithin arena safe.selects

theorem disabling_filters_findings_unused :
    let tree := Tree.ofRequests [⟨.soyFile, none, {}⟩, ⟨.tagAndDocComment, some 0, {}⟩,
      ⟨.docComment, some 1, {}⟩, ⟨.docCommentParamDef, some 2, { name := some "p" }⟩,
      ⟨.msgTag, some 0, {}⟩]
    let message : Finding := ⟨"msg-without-description", 4, "msg tag has no `desc` attribute"⟩
    (run tree 0 {} = .ok [⟨"parameter-not-used", 3, "parameter `p` is never used"⟩, message] ∧
      run tree 0 { disabled := ["parameter-not-used", "other"] } = .ok [message] ∧
      tree.IsBelow 3 0) ∧
    ∃ path, IsFollowed path ∧ path.RunsWithin tree := by
  intro tree message
  obtain ⟨⟨findings, ran, filtered, below⟩, ⟨path, calls⟩, -, safe⟩ := disabling_filters_findings
    [⟨.soyFile, none, {}⟩, ⟨.tagAndDocComment, some 0, {}⟩, ⟨.docComment, some 1, {}⟩,
      ⟨.docCommentParamDef, some 2, { name := some "p" }⟩, ⟨.msgTag, some 0, {}⟩] 0
    { disabled := ["parameter-not-used", "other"] }
  have all : run tree 0 {} =
      .ok [⟨"parameter-not-used", 3, "parameter `p` is never used"⟩, message] := by decide +kernel
  obtain rfl := Except.ok.inj (ran.symm.trans all)
  exact ⟨⟨all, filtered, (below _ List.mem_cons_self).2⟩, path, .inl calls, safe path (.inl calls)⟩

end ClosureTemplate.Inspect
