import ClosureTemplate.Inspect.Findings
import ClosureTemplate.Proofs.Inspect.CallParameters

namespace ClosureTemplate.Inspect

open Query

theorem Inspection.path_ok (inspection : Inspection) : ∃ path, inspection.path = .ok path := by
  cases inspection with
  | callParameterNotDefined => exact ⟨_, callParameterNotDefinedPath_eq⟩
  | callMissingRequiredParam => exact ⟨_, callMissingRequiredParamPath_eq⟩
  | parameterNotUsed => exact ⟨_, rfl⟩
  | msgWithoutDescription => exact ⟨_, rfl⟩

theorem callsPath_eq :
    callsPath = .ok (.program none .stop [.filter .descendants (.kind .callTagPair)]) := rfl

theorem Inspection.id_injective {one other : Inspection} (same : one.id = other.id) :
    one = other := by
  cases one <;> cases other <;> first | rfl | simp [Inspection.id] at same

theorem Inspection.run_ok (inspection : Inspection) (tree : Tree) (root : NodeId) :
    ∃ found, inspection.run tree root = .ok found ∧
      ∀ finding ∈ found, finding.id = inspection.id := by
  obtain ⟨path, built⟩ := inspection.path_ok
  cases inspection with
  | callMissingRequiredParam =>
    refine ⟨_, by rw [Inspection.run, built, callsPath_eq]; rfl, ?_⟩
    intro finding member
    obtain ⟨call, -, listed⟩ := List.mem_flatMap.mp member
    obtain ⟨missing, -, rfl⟩ := List.mem_map.mp listed
    rfl
  | callParameterNotDefined | parameterNotUsed | msgWithoutDescription =>
    refine ⟨_, by rw [Inspection.run, built]; rfl, ?_⟩
    intro finding member
    obtain ⟨node, -, rfl⟩ := List.mem_map.mp member
    rfl

section Runs

variable {tree : Tree} {root : NodeId} {settings : Config.InspectionSettings}
  {found : Inspection → List Finding}

theorem run_eq (runs : ∀ inspection : Inspection, inspection.run tree root = .ok (found inspection))
    {node : Node} (present : tree.node? root = some node) :
    run tree root settings =
      .ok ((Inspection.all.filter fun inspection => settings.isEnabled inspection.id).flatMap
        found) := by
  have pures : (fun inspection : Inspection => inspection.run tree root) =
      fun inspection => pure (found inspection) := funext runs
  simp only [run, present, pures, List.mapM_pure]
  rfl

theorem filter_flatMap {inspections : List Inspection} {inspection : Inspection}
    (carries : ∀ inspection, ∀ finding ∈ found inspection, finding.id = inspection.id)
    (nodup : inspections.Nodup) :
    (inspections.flatMap found).filter (fun finding => finding.id = inspection.id) =
      if inspection ∈ inspections then found inspection else [] := by
  induction inspections with
  | nil => rfl
  | cons first others ih =>
    obtain ⟨fresh, distinct⟩ := List.nodup_cons.mp nodup
    rw [List.flatMap_cons, List.filter_append, ih distinct]
    by_cases same : first = inspection
    · subst same
      have all : (found first).filter (fun finding => finding.id = first.id) = found first :=
        List.filter_eq_self.mpr fun finding member => by simp [carries first finding member]
      rw [all, if_neg fresh, if_pos List.mem_cons_self, List.append_nil]
    · have none : (found first).filter (fun finding => finding.id = inspection.id) = [] := by
        rw [List.filter_eq_nil_iff]
        intro finding member
        have other : first.id ≠ inspection.id := fun equal => same (Inspection.id_injective equal)
        simp [carries first finding member, other]
      simp [none, Ne.symm same]

theorem filter_run {inspection : Inspection} {own : List Finding}
    (enabled : settings.isEnabled inspection.id = true)
    (ran : inspection.run tree root = .ok own) {node : Node}
    (present : tree.node? root = some node) :
    ∃ findings, run tree root settings = .ok findings ∧
      findings.filter (fun finding => finding.id = inspection.id) = own := by
  choose found runs carries using fun inspection : Inspection => inspection.run_ok tree root
  have nodup : (Inspection.all.filter fun inspection => settings.isEnabled inspection.id).Nodup :=
    List.Nodup.filter _ (by decide)
  have listed : inspection ∈
      Inspection.all.filter fun inspection => settings.isEnabled inspection.id :=
    List.mem_filter.mpr ⟨by cases inspection <;> decide, enabled⟩
  refine ⟨_, run_eq runs present, ?_⟩
  rw [filter_flatMap carries nodup, if_pos listed]
  exact Except.ok.inj ((runs inspection).symm.trans ran)

end Runs

/-- What is reported of a call for a parameter that it lacks. -/
def missingFinding (tree : Tree) (pair parameter : NodeId) : Finding where
  id := Inspection.callMissingRequiredParam.id
  node := pair
  message :=
    let callee := callName tree (some pair)
    s!"call to `{callee}` is missing required parameter `{nameOrEmpty tree parameter}`"

theorem run_callMissingRequiredParam {tree : Tree} (arena : tree.IsArena) (root : NodeId) :
    Inspection.callMissingRequiredParam.run tree root =
      .ok (((tree.breadthFirst root).filter (tree.isKind .callTagPair)).flatMap fun pair =>
        (missing tree pair).toList.map (missingFinding tree pair)) := by
  have reaches : Reaches tree [.filter .descendants (.kind .callTagPair)] (.singleton root)
      (around tree .descendants (.kind .callTagPair) (.singleton root)) := .filter .done
  have calls := Path.navigate_of_run? (reaches.run? none .stop)
  have each (pair : NodeId) : missingPath.navigate tree pair = missing tree pair :=
    Path.navigate_of_run? (missingPath_run? tree pair)
  simp only [Inspection.run, Inspection.path, callMissingRequiredParamPath_eq, callsPath_eq]
  change Except.ok (List.flatMap _ (Path.navigate _ tree root).toList) = _
  rw [calls, toList_around_descendants arena]
  simp only [each]
  rfl

/-- The inspection of missing parameters reports what it is meant to report, on every tree that can
be built and from every node of it: for each call, in the order of their generations, one finding on
the call for each required parameter that it lacks, and nothing else. -/
theorem missing_parameters_are_reported (requests : List Tree.Request) (root : NodeId)
    (settings : Config.InspectionSettings)
    (enabled : settings.isEnabled Inspection.callMissingRequiredParam.id = true) :
    let tree := Tree.ofRequests requests
    ∃ (findings : List Finding) (missing : NodeId → List NodeId),
      run tree root settings = .ok findings ∧
      findings.filter (fun finding => finding.id = Inspection.callMissingRequiredParam.id) =
        ((tree.breadthFirst root).filter (tree.isKind .callTagPair)).flatMap
          (fun pair => (missing pair).map (missingFinding tree pair)) ∧
      ∀ pair, (missing pair).Nodup ∧
        ∀ parameter, parameter ∈ missing pair ↔ Lacks tree pair parameter := by
  intro tree
  have arena : tree.IsArena := Tree.isArena_ofRequests requests
  have lacks (pair : NodeId) : (missing tree pair).toList.Nodup ∧
      ∀ parameter, parameter ∈ (missing tree pair).toList ↔ Lacks tree pair parameter :=
    ⟨(missing tree pair).nodup, fun _ => Collection.mem_toList.trans (mem_missing arena)⟩
  cases present : tree.node? root with
  | none =>
    refine ⟨[], fun pair => (missing tree pair).toList, by rw [run, present], ?_, lacks⟩
    rw [Tree.breadthFirst_eq_nil present]
    rfl
  | some node =>
    obtain ⟨findings, ran, own⟩ :=
      filter_run enabled (run_callMissingRequiredParam arena root) present
    exact ⟨findings, fun pair => (missing tree pair).toList, ran, own, lacks⟩

theorem missing_parameters_are_reported_recursive_call :
    let tree := Tree.ofRequests [⟨.soyFile, none, {}⟩, ⟨.tagAndDocComment, some 0, {}⟩,
      ⟨.docComment, some 1, {}⟩, ⟨.docCommentParamDef, some 2, { name := some "p" }⟩,
      ⟨.templateTagPair, some 1, {}⟩, ⟨.templateTag, some 4, { name := some ".a" }⟩,
      ⟨.callTagPair, some 4, {}⟩, ⟨.callTag, some 6, { name := some ".a" }⟩]
    ∃ findings, run tree 0 {} = .ok findings ∧ missingFinding tree 6 3 ∈ findings := by
  intro tree
  obtain ⟨findings, missing, ran, reported, lacks⟩ := missing_parameters_are_reported
    [⟨.soyFile, none, {}⟩, ⟨.tagAndDocComment, some 0, {}⟩,
      ⟨.docComment, some 1, {}⟩, ⟨.docCommentParamDef, some 2, { name := some "p" }⟩,
      ⟨.templateTagPair, some 1, {}⟩, ⟨.templateTag, some 4, { name := some ".a" }⟩,
      ⟨.callTagPair, some 4, {}⟩, ⟨.callTag, some 6, { name := some ".a" }⟩] 0 {} (by decide)
  have isCallee : IsCallee tree 6 5 := by
    refine ⟨⟨7, 0, 1, 4, by decide, ?_, by decide, by decide, by decide⟩, 7, by decide, ".a", ".a",
      rfl, rfl, .inl rfl⟩
    exact .above rfl (by decide) (.above rfl (by decide) (.above rfl (by decide) (.parent rfl rfl)))
  have documents : Documents tree 5 3 :=
    ⟨1, 2, .above rfl (by decide) (.parent rfl rfl), by decide, by decide⟩
  have passesNothing : ∀ call, tree.HasChild .callTag 6 call →
      tree.attribute? call "data" = none := by
    intro call child
    obtain rfl : call = 7 := List.mem_singleton.mp child.1
    rfl
  have lacksIt : Lacks tree 6 3 := by
    refine ⟨⟨5, isCallee, documents⟩, rfl, ?_, ?_, ?_⟩
    · intro call child data given
      rw [passesNothing call child] at given
      cases given
    · rintro ⟨other, child, -⟩
      obtain rfl : other = 7 := List.mem_singleton.mp child.1
      cases child.2
    · rintro ⟨other, ⟨call, child, given, -⟩, -⟩
      rw [passesNothing call child] at given
      cases given
  have listed : missingFinding tree 6 3 ∈
      findings.filter (fun finding => finding.id = Inspection.callMissingRequiredParam.id) := by
    rw [reported]
    exact List.mem_flatMap.mpr
      ⟨6, by decide, List.mem_map.mpr ⟨3, ((lacks 6).2 3).mpr lacksIt, rfl⟩⟩
  exact ⟨findings, ran, (List.mem_filter.mp listed).1⟩

end ClosureTemplate.Inspect
