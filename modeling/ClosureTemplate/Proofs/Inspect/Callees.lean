import ClosureTemplate.Proofs.Query.Program
import ClosureTemplate.Proofs.Text.Basic

namespace ClosureTemplate

theorem Tree.IsArena.exists_name {tree : Tree} (arena : tree.IsArena) {id : NodeId}
    {kind : ElementKind} (isKind : tree.kind? id = some kind) (bears : kind.isNameBearing = true) :
    ∃ name, tree.name? id = some name := by
  obtain ⟨node, found, rfl⟩ := Option.map_eq_some_iff.mp isKind
  have named := arena.name found
  rw [bears] at named
  obtain ⟨name, given⟩ := Option.isSome_iff_exists.mp named
  exact ⟨name, Option.bind_eq_some_iff.mpr ⟨node, found, given⟩⟩

theorem Tree.Climbs.eq_ancestors {tree : Tree} (arena : tree.IsArena) {id : NodeId}
    {way : List NodeId} (climbs : tree.Climbs id way) : way = tree.ancestors id := by
  induction climbs with
  | top parentless => rw [ancestors, parentless]
  | up linked _ ih =>
    rw [ancestors, linked, ih]
    exact (if_pos (arena.parent_lt linked)).symm

namespace Inspect

open Query

/-- The name of the first namespace declaration at the top of the tree that a node stands in. -/
def HasNamespace (tree : Tree) (id : NodeId) (namespaceName : String) : Prop :=
  ∃ way root declaration, tree.Climbs id way ∧ way.getLast? = some root ∧
    (tree.children root).find? (tree.isKind .namespaceDef) = some declaration ∧
    tree.name? declaration = some namespaceName

/-- A call gives the name of a template, alone or behind the namespace. -/
def Names (tree : Tree) (call template : NodeId) : Prop :=
  ∃ callee localName, tree.name? call = some callee ∧ tree.name? template = some localName ∧
    (callee = localName ∨ ∃ namespaceName, HasNamespace tree template namespaceName ∧
      callee = namespaceName ++ localName)

/-- A documented template of the file around a tag of the call that a tag of the call names. -/
structure IsCallee (tree : Tree) (pair template : NodeId) : Prop where
  inFile : ∃ call file documented inner, tree.HasChild .callTag pair call ∧
    tree.Nearest .soyFile call file ∧ tree.HasChild .tagAndDocComment file documented ∧
    inner ∈ tree.children documented ∧ tree.HasChild .templateTag inner template
  named : ∃ call, tree.HasChild .callTag pair call ∧ Names tree call template

/-- A parameter of the doc comment that belongs to a node. -/
def Documents (tree : Tree) (node parameter : NodeId) : Prop :=
  ∃ documented comment, tree.Nearest .tagAndDocComment node documented ∧
    tree.HasChild .docComment documented comment ∧
    tree.HasChild .docCommentParamDef comment parameter

def Declares (tree : Tree) (pair parameter : NodeId) : Prop :=
  ∃ template, IsCallee tree pair template ∧ Documents tree template parameter

/-- The names of two nodes agree up to the first dot (`rootSegment_eq_iff`). -/
def SameSegment (tree : Tree) (one other : NodeId) : Prop :=
  ∃ name otherName, tree.name? one = some name ∧ tree.name? other = some otherName ∧
    rootSegment name = rootSegment otherName

/-- The root segment of a name has no dot, and behind it the name ends or goes on with one. -/
theorem rootSegment_eq_iff {name segment : String} :
    rootSegment name = segment ↔ '.' ∉ segment.toList ∧
      ∃ rest, name.toList = segment.toList ++ rest ∧ ∀ c, rest.head? = some c → c = '.' := by
  constructor
  · rintro rfl
    have undotted : '.' ∉ name.toList.takeWhile (· != '.') := by
      intro member
      simpa using List.all_eq_true.mp List.all_takeWhile _ member
    refine ⟨by simpa [rootSegment] using undotted, name.toList.dropWhile (· != '.'), ?_, ?_⟩
    · rw [rootSegment, String.toList_ofList, List.takeWhile_append_dropWhile]
    · intro c found
      simpa using Text.head_dropWhile found
  · rintro ⟨undotted, rest, split, ends⟩
    have inside : ∀ c ∈ segment.toList, (c != '.') = true := by
      intro c member
      exact bne_iff_ne.mpr fun dot => undotted (dot ▸ member)
    have stops : ∀ c, rest.head? = some c → (c != '.') = false := by
      intro c found
      simpa using ends c found
    rw [rootSegment, split, Text.takeWhile_append_of_stop inside stops, String.ofList_toList]

section Names

variable {tree : Tree} (arena : tree.IsArena)
include arena

theorem namespaceOf_eq_some_iff {id : NodeId} {namespaceName : String} :
    namespaceOf tree id = some namespaceName ↔ HasNamespace tree id namespaceName := by
  simp only [namespaceOf, Option.bind_eq_bind, Option.bind_eq_some_iff, HasNamespace]
  constructor
  · rintro ⟨root, last, declaration, found, named⟩
    exact ⟨_, root, declaration, Tree.climbs_ancestors arena id, last, found, named⟩
  · rintro ⟨way, root, declaration, climbs, last, found, named⟩
    rw [climbs.eq_ancestors arena] at last
    exact ⟨root, last, declaration, found, named⟩

theorem names_iff {call template : NodeId} :
    ((tree.name? call).any fun callee => callsTemplate tree callee template) = true ↔
      Names tree call template := by
  unfold callsTemplate Names
  cases tree.name? call with
  | none => simp
  | some callee =>
    cases tree.name? template with
    | none => simp
    | some localName => simp [Option.any_eq_true, namespaceOf_eq_some_iff arena]

end Names

theorem rootName?_eq_iff {tree : Tree} {one other : NodeId}
    (named : ∃ name, tree.name? other = some name) :
    rootName? tree one = rootName? tree other ↔ SameSegment tree one other := by
  obtain ⟨name, given⟩ := named
  simp [rootName?, SameSegment, given]

theorem mem_namesAbsentFrom {tree : Tree} {candidates present : Nodes} {id : NodeId}
    (named : ∀ candidate ∈ candidates, ∃ name, tree.name? candidate = some name) :
    id ∈ namesAbsentFrom tree candidates present ↔
      id ∈ candidates ∧ ¬∃ node ∈ present, SameSegment tree node id := by
  rw [namesAbsentFrom, Collection.mem_filter]
  apply and_congr_right
  intro member
  simp [Collection.mem_toList, rootName?_eq_iff (named id member)]

def documented (tree : Tree) (nodes : Nodes) : Nodes :=
  around tree .children (.kind .docCommentParamDef) <| around tree .children (.kind .docComment) <|
    around tree .firstAncestor (.kind .tagAndDocComment) nodes

def callees (tree : Tree) (calls : Nodes) : Nodes :=
  let files := around tree .firstAncestor (.kind .soyFile) calls
  let documented := around tree .children (.kind .tagAndDocComment) files
  selectCallee tree (around tree .childrenOfChildren (.kind .templateTag) documented) calls

def declared (tree : Tree) (pairs : Nodes) : Nodes :=
  documented tree (callees tree (around tree .children (.kind .callTag) pairs))

theorem runSteps_calleeParameters (tree : Tree) (start : Nodes) (rest : List Step)
    (stack : List Nodes) (current : Nodes) :
    runSteps tree .proceed start (calleeParameters.steps ++ rest) stack current =
      runSteps tree .proceed start rest stack (declared tree current) := rfl

theorem declared_empty (tree : Tree) : declared tree ∅ = ∅ := by
  have nothing : callees tree ∅ = ∅ := by
    simp only [callees, around_empty]
    rfl
  simp only [declared, documented, around_empty, nothing]

section Declared

variable {tree : Tree} {nodes : Nodes} {pair template parameter : NodeId}

theorem ne_kind_of_eq {kind other : ElementKind} {id : NodeId} (isKind : tree.kind? id = some kind)
    (different : kind ≠ other) : tree.kind? id ≠ some other := by
  rw [isKind]
  exact fun same => different (Option.some.inj same)

variable (arena : tree.IsArena)
include arena

theorem mem_documented (outside : ∀ node ∈ nodes, tree.kind? node ≠ some .tagAndDocComment) :
    parameter ∈ documented tree nodes ↔ ∃ node ∈ nodes, Documents tree node parameter := by
  simp only [documented, mem_around_children, mem_around_firstAncestor arena outside]
  constructor
  · rintro ⟨comment, ⟨around, ⟨node, member, nearest⟩, hasComment⟩, hasParameter⟩
    exact ⟨node, member, around, comment, nearest, hasComment, hasParameter⟩
  · rintro ⟨node, member, around, comment, nearest, hasComment, hasParameter⟩
    exact ⟨comment, ⟨around, ⟨node, member, nearest⟩, hasComment⟩, hasParameter⟩

theorem mem_callees :
    template ∈ callees tree (around tree .children (.kind .callTag) (.singleton pair)) ↔
      IsCallee tree pair template := by
  have outside : ∀ call ∈ around tree .children (.kind .callTag) (.singleton pair),
      tree.kind? call ≠ some .soyFile := by
    intro call member
    exact ne_kind_of_eq (mem_around_children_singleton.mp member).2 (by decide)
  have named : ((around tree .children (.kind .callTag) (.singleton pair)).toList.any fun call =>
      (tree.name? call).any fun callee => callsTemplate tree callee template) = true ↔
        ∃ call, tree.HasChild .callTag pair call ∧ Names tree call template := by
    simp only [List.any_eq_true, Collection.mem_toList, mem_around_children_singleton,
      names_iff arena]
  simp only [callees, selectCallee, Collection.mem_filter, named, mem_around_childrenOfChildren,
    mem_around_children, mem_around_firstAncestor arena outside, Collection.mem_singleton,
    exists_eq_left]
  constructor
  · rintro ⟨⟨around, ⟨file, ⟨call, hasCall, nearest⟩, hasAround⟩, inner, child, isTemplate⟩, named⟩
    exact ⟨⟨call, file, around, inner, hasCall, nearest, hasAround, child, isTemplate⟩, named⟩
  · rintro ⟨⟨call, file, around, inner, hasCall, nearest, hasAround, child, isTemplate⟩, named⟩
    exact ⟨⟨around, ⟨file, ⟨call, hasCall, nearest⟩, hasAround⟩, inner, child, isTemplate⟩, named⟩

theorem mem_declared :
    parameter ∈ declared tree (.singleton pair) ↔ Declares tree pair parameter := by
  have outside :
      ∀ template ∈ callees tree (around tree .children (.kind .callTag) (.singleton pair)),
        tree.kind? template ≠ some .tagAndDocComment := by
    intro template member
    have isCallee := (mem_callees arena).mp member
    obtain ⟨call, file, around, inner, -, -, -, -, isTemplate⟩ := isCallee.inFile
    exact ne_kind_of_eq isTemplate.2 (by decide)
  simp only [declared, mem_documented arena outside, mem_callees arena, Declares]

end Declared

end Inspect

end ClosureTemplate
