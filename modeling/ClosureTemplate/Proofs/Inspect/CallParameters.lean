import ClosureTemplate.Proofs.Inspect.Callees
import ClosureTemplate.Proofs.Pattern.Literal

namespace ClosureTemplate.Inspect

open Query

def undeclaredPath : Path :=
  .program (some Inspection.callParameterNotDefined.id) .proceed <|
    [.filter .children (.kind .paramTag), .push, .restart] ++
      (calleeParameters.steps ++ [.popJoin "undeclared params" savedNotNamed])

def undeclared (tree : Tree) (pair : NodeId) : Nodes :=
  namesAbsentFrom tree (around tree .children (.kind .paramTag) (.singleton pair))
    (declared tree (.singleton pair))

theorem callParameterNotDefinedPath_eq :
    callParameterNotDefinedPath = .ok (.program none .stop
      [.filter .descendants (.kind .callTagPair), .fork undeclaredPath]) := rfl

theorem undeclaredPath_run? (tree : Tree) (pair : NodeId) :
    undeclaredPath.run? tree (.singleton pair) = some (undeclared tree pair) := rfl

theorem callParameterNotDefined_run? (tree : Tree) (root : NodeId) :
    (Path.program none .stop
      [.filter .descendants (.kind .callTagPair), .fork undeclaredPath]).run? tree
        (.singleton root) =
      some (unite (undeclared tree)
        (around tree .descendants (.kind .callTagPair) (.singleton root))) :=
  Reaches.run? (.filter (.fork (fun pair _ => undeclaredPath_run? tree pair) .done)) none .stop

section Undeclared

variable {tree : Tree} (arena : tree.IsArena) {pair parameter : NodeId}
include arena

theorem mem_undeclared :
    parameter ∈ undeclared tree pair ↔
      tree.HasChild .paramTag pair parameter ∧
        ¬∃ other, Declares tree pair other ∧ SameSegment tree other parameter := by
  have named : ∀ id ∈ around tree .children (.kind .paramTag) (.singleton pair),
      ∃ name, tree.name? id = some name := by
    intro id member
    exact arena.exists_name (mem_around_children_singleton.mp member).2 rfl
  simp only [undeclared, mem_namesAbsentFrom named, mem_around_children_singleton,
    mem_declared arena]

theorem undeclared_sublist (pair : NodeId) :
    (undeclared tree pair).toList.Sublist (tree.children pair) := by
  have filtered : (undeclared tree pair).toList.Sublist
      (around tree .children (.kind .paramTag) (.singleton pair)).toList := List.filter_sublist
  rw [toList_around_children arena] at filtered
  exact filtered.trans List.filter_sublist

end Undeclared

/-- The inspection of undeclared parameters finds what it is meant to find, on every tree that can
be built and from every node of it: call by call, in the order of their generations, those
parameters of a call, in their order, whose name agrees up to the first dot with that of no
parameter that a callee declares. -/
theorem undeclared_parameters_are_found (requests : List Tree.Request) (root : NodeId) :
    let tree := Tree.ofRequests requests
    ∃ path undeclared, callParameterNotDefinedPath = .ok path ∧
      path.run? tree (.singleton root) = some (path.navigate tree root) ∧
      (path.navigate tree root).toList =
        ((tree.breadthFirst root).filter (tree.isKind .callTagPair)).flatMap undeclared ∧
      (path.navigate tree root).toList.Nodup ∧
      ∀ pair, (undeclared pair).Sublist (tree.children pair) ∧
        ∀ parameter, parameter ∈ undeclared pair ↔
          tree.HasChild .paramTag pair parameter ∧
            ¬∃ declared, Declares tree pair declared ∧ SameSegment tree declared parameter := by
  intro tree
  have arena : tree.IsArena := Tree.isArena_ofRequests requests
  have reaches : Reaches tree
      [.filter .descendants (.kind .callTagPair), .fork undeclaredPath] (.singleton root)
      (unite (undeclared tree) (around tree .descendants (.kind .callTagPair) (.singleton root))) :=
    .filter (.fork (fun pair _ => undeclaredPath_run? tree pair) .done)
  have ran := reaches.run? none .stop
  have navigates := Path.navigate_of_run? ran
  have calls : ((tree.breadthFirst root).filter (tree.isKind .callTagPair)).Nodup :=
    (arena.nodup_breadthFirst root).filter _
  have nodup : (((tree.breadthFirst root).filter (tree.isKind .callTagPair)).flatMap
      fun pair => (undeclared tree pair).toList).Nodup :=
    arena.nodup_flatMap calls (fun pair => (undeclared tree pair).nodup)
      fun pair => (undeclared_sublist arena pair).subset
  refine ⟨_, fun pair => (undeclared tree pair).toList, callParameterNotDefinedPath_eq, ?_, ?_,
    Collection.nodup _, fun pair => ⟨undeclared_sublist arena pair, fun _ =>
      Collection.mem_toList.trans (mem_undeclared arena)⟩⟩
  · rw [navigates, ran]
  · rw [navigates, unite, toList_around_descendants arena, Collection.toList_ofList nodup]

/-- The call passes `p.x` to a template that declares `p`, and `q`, which it does not declare. -/
example :
    (callParameterNotDefinedPath.toOption.map fun path =>
      (path.navigate (Tree.ofRequests [⟨.soyFile, none, {}⟩, ⟨.tagAndDocComment, some 0, {}⟩,
        ⟨.docComment, some 1, {}⟩, ⟨.docCommentParamDef, some 2, { name := some "p" }⟩,
        ⟨.templateTagPair, some 1, {}⟩, ⟨.templateTag, some 4, { name := some ".a" }⟩,
        ⟨.callTagPair, some 4, {}⟩, ⟨.callTag, some 6, { name := some ".a" }⟩,
        ⟨.paramTag, some 6, { name := some "p.x" }⟩, ⟨.paramTag, some 6, { name := some "q" }⟩])
        0).toList) = some [9] := by cbv

def IsRequired (tree : Tree) (parameter : NodeId) : Prop :=
  tree.attribute? parameter "optional" = some "false"

/-- A required parameter of the template around a call that passes all its data. -/
def Forwards (tree : Tree) (pair parameter : NodeId) : Prop :=
  ∃ call, tree.HasChild .callTag pair call ∧ tree.attribute? call "data" = some "all" ∧
    Documents tree call parameter ∧ IsRequired tree parameter

/-- A required parameter of a callee that the call does not pass, neither by a tag of its own nor
with all its data; what a call passes is known only if all its data is passed or none. -/
structure Lacks (tree : Tree) (pair parameter : NodeId) : Prop where
  declares : Declares tree pair parameter
  isRequired : IsRequired tree parameter
  isKnown : ∀ call, tree.HasChild .callTag pair call →
    ∀ data, tree.attribute? call "data" = some data → data = "all"
  notPassed : ¬∃ other, tree.HasChild .paramTag pair other ∧ SameSegment tree other parameter
  notForwarded : ¬∃ other, Forwards tree pair other ∧ SameSegment tree other parameter

def attributeIs (name word : String) : Predicate :=
  .attribute (some name) (some ⟨"^" ++ word ++ "$", .exactly word.toList⟩)

theorem test_attributeIs {tree : Tree} {id : NodeId} {name word : String} :
    (attributeIs name word).test tree id = true ↔ tree.attribute? id name = some word := by
  simp [attributeIs, Predicate.test, Option.any_eq_true, Pattern.Compiled.occursIn,
    Pattern.Expr.exactly_occursIn, String.toList_inj]

theorem ofAttribute_optional :
    Predicate.ofAttribute (some "optional") (some "^false$") =
      .ok (attributeIs "optional" "false") := by
  have compiled : Pattern.compile "^false$" = .ok ⟨"^false$", .exactly "false".toList⟩ := by
    decide +kernel
  rw [Predicate.ofAttribute, compiled]
  rfl

theorem ofAttribute_data :
    Predicate.ofAttribute (some "data") (some "^all$") = .ok (attributeIs "data" "all") := by
  have compiled : Pattern.compile "^all$" = .ok ⟨"^all$", .exactly "all".toList⟩ := by
    decide +kernel
  rw [Predicate.ofAttribute, compiled]
  rfl

def passedPath : Path := .program none .stop [.filter .children (.kind .paramTag)]

def forwardedPath : Path :=
  .program none .stop [
    .filter .children (.kind .callTag), .filter .self (attributeIs "data" "all"),
    .filter .firstAncestor (.kind .tagAndDocComment), .filter .children (.kind .docComment),
    .filter .children (.kind .docCommentParamDef), .filter .self (attributeIs "optional" "false")]

def isKnown : Predicate := .custom "passes no data expression" passesKnownData

def missingPath : Path :=
  .program (some Inspection.callMissingRequiredParam.id) .proceed <|
    [.filter .self isKnown] ++ (calleeParameters.steps ++ [
      .filter .self (attributeIs "optional" "false"), .push, .restart,
      .fork (passedPath.or forwardedPath), .popJoin "missing required params" savedNotNamed])

theorem callMissingRequiredParamPath_eq : callMissingRequiredParamPath = .ok missingPath := by
  rw [callMissingRequiredParamPath, ofAttribute_optional, ofAttribute_data]
  rfl

def forwarded (tree : Tree) (pair : NodeId) : Nodes :=
  around tree .self (attributeIs "optional" "false") <| documented tree <|
    around tree .self (attributeIs "data" "all") <|
      around tree .children (.kind .callTag) (.singleton pair)

def passed (tree : Tree) (pair : NodeId) : Nodes :=
  (around tree .children (.kind .paramTag) (.singleton pair)).union (forwarded tree pair)

def missing (tree : Tree) (pair : NodeId) : Nodes :=
  namesAbsentFrom tree
    (around tree .self (attributeIs "optional" "false") <| declared tree <|
      around tree .self isKnown (.singleton pair))
    (passed tree pair)

theorem passedPath_run? (tree : Tree) (pair : NodeId) :
    passedPath.run? tree (.singleton pair) =
      some (around tree .children (.kind .paramTag) (.singleton pair)) :=
  (Reaches.filter .done).run? none .stop

theorem forwardedPath_run? (tree : Tree) (pair : NodeId) :
    forwardedPath.run? tree (.singleton pair) = some (forwarded tree pair) :=
  Reaches.run? (.filter (.filter (.filter (.filter (.filter (.filter .done)))))) none .stop

theorem missingPath_run? (tree : Tree) (pair : NodeId) :
    missingPath.run? tree (.singleton pair) = some (missing tree pair) := by
  have forks : ∀ node ∈ Collection.singleton pair,
      (passedPath.or forwardedPath).run? tree (.singleton node) = some (passed tree node) :=
    fun node _ => Path.run?_or (passedPath_run? tree node) (forwardedPath_run? tree node)
  rw [missingPath, Path.run?, if_neg (by exact Bool.false_ne_true), List.singleton_append,
    runSteps_filter, runSteps_calleeParameters, runSteps_filter, runSteps_push, runSteps_restart,
    runSteps_fork forks, unite_singleton, runSteps_popJoin]
  rfl

section Missing

variable {tree : Tree} {pair parameter : NodeId}

theorem passesKnownData_iff :
    passesKnownData tree pair = true ↔ ∀ call, tree.HasChild .callTag pair call →
      ∀ data, tree.attribute? call "data" = some data → data = "all" := by
  simp only [passesKnownData, List.all_eq_true, List.mem_filter, Tree.HasChild, Tree.isKind,
    decide_eq_true_eq, Option.all_eq_true, beq_iff_eq]

theorem mem_passed :
    parameter ∈ passed tree pair ↔
      tree.HasChild .paramTag pair parameter ∨ parameter ∈ forwarded tree pair := by
  simp [passed, mem_around_children_singleton]

variable (arena : tree.IsArena)
include arena

theorem mem_forwarded : parameter ∈ forwarded tree pair ↔ Forwards tree pair parameter := by
  have outside : ∀ call ∈ around tree .self (attributeIs "data" "all")
      (around tree .children (.kind .callTag) (.singleton pair)),
        tree.kind? call ≠ some .tagAndDocComment := by
    intro call member
    have isCall := mem_around_children_singleton.mp (mem_around_self.mp member).1
    exact ne_kind_of_eq isCall.2 (by decide)
  simp only [forwarded, mem_around_self, mem_documented arena outside,
    mem_around_children_singleton, test_attributeIs, Forwards, IsRequired]
  constructor
  · rintro ⟨⟨call, ⟨hasCall, all⟩, documents⟩, isRequired⟩
    exact ⟨call, hasCall, all, documents, isRequired⟩
  · rintro ⟨call, hasCall, all, documents, isRequired⟩
    exact ⟨⟨call, ⟨hasCall, all⟩, documents⟩, isRequired⟩

theorem mem_declared_isKnown :
    parameter ∈ declared tree (around tree .self isKnown (.singleton pair)) ↔
      passesKnownData tree pair = true ∧ Declares tree pair parameter := by
  rw [around_self_singleton]
  split
  · next known =>
    have passes : passesKnownData tree pair = true := known
    simp only [mem_declared arena, passes, true_and]
  · next unknown =>
    have fails : ¬passesKnownData tree pair = true := unknown
    simp [declared_empty, fails]

theorem mem_missing : parameter ∈ missing tree pair ↔ Lacks tree pair parameter := by
  have candidate {id : NodeId} : id ∈ around tree .self (attributeIs "optional" "false")
      (declared tree (around tree .self isKnown (.singleton pair))) ↔
        (passesKnownData tree pair = true ∧ Declares tree pair id) ∧ IsRequired tree id := by
    rw [mem_around_self, mem_declared_isKnown arena, test_attributeIs]
    rfl
  have named : ∀ id ∈ around tree .self (attributeIs "optional" "false")
      (declared tree (around tree .self isKnown (.singleton pair))),
        ∃ name, tree.name? id = some name := by
    intro id member
    obtain ⟨⟨-, template, -, documented, comment, -, -, isParameter⟩, -⟩ := candidate.mp member
    exact arena.exists_name isParameter.2 rfl
  rw [missing, mem_namesAbsentFrom named, candidate, passesKnownData_iff]
  simp only [mem_passed, mem_forwarded arena]
  constructor
  · rintro ⟨⟨⟨known, declares⟩, isRequired⟩, absent⟩
    refine ⟨declares, isRequired, known, ?_, ?_⟩
    · rintro ⟨other, passes, same⟩
      exact absent ⟨other, .inl passes, same⟩
    · rintro ⟨other, forwards, same⟩
      exact absent ⟨other, .inr forwards, same⟩
  · intro lacks
    refine ⟨⟨⟨lacks.isKnown, lacks.declares⟩, lacks.isRequired⟩, ?_⟩
    rintro ⟨other, passes | forwards, same⟩
    · exact lacks.notPassed ⟨other, passes, same⟩
    · exact lacks.notForwarded ⟨other, forwards, same⟩

end Missing

end ClosureTemplate.Inspect
