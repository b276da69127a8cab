import ClosureTemplate.Proofs.Inspect.Callees
import Mathlib.Data.List.Flatten

namespace ClosureTemplate.Inspect

open Query

def Defines (tree : Tree) (documented parameter : NodeId) : Prop :=
  ∃ comment, tree.HasChild .docComment documented comment ∧
    tree.HasChild .docCommentParamDef comment parameter

/-- A reference, at any depth, in a template behind a comment that defines parameters. -/
structure Refers (tree : Tree) (documented reference : NodeId) : Prop where
  isReference : tree.kind? reference = some .parameterRef
  inTemplate : ∃ comment parameter pair, tree.HasChild .docComment documented comment ∧
    tree.HasChild .docCommentParamDef comment parameter ∧
    tree.HasChild .templateTagPair documented pair ∧ tree.Precedes documented comment pair ∧
    tree.IsBelow reference pair

def unusedPath : Path :=
  .program (some Inspection.parameterNotUsed.id) .proceed [
    .filter .children (.kind .docComment), .filter .children (.kind .docCommentParamDef), .push,
    .filter .parent (.kind .docComment), .filter (.nextSiblings false) (.kind .templateTagPair),
    .filter .descendants (.kind .parameterRef), .popJoin "unused params" savedNotNamed]

def defined (tree : Tree) (documented : NodeId) : Nodes :=
  around tree .children (.kind .docCommentParamDef) <|
    around tree .children (.kind .docComment) (.singleton documented)

def referred (tree : Tree) (parameters : Nodes) : Nodes :=
  around tree .descendants (.kind .parameterRef) <|
    around tree (.nextSiblings false) (.kind .templateTagPair) <|
      around tree .parent (.kind .docComment) parameters

def unused (tree : Tree) (documented : NodeId) : Nodes :=
  namesAbsentFrom tree (defined tree documented) (referred tree (defined tree documented))

theorem parameterNotUsedPath_eq :
    parameterNotUsedPath = .ok (.program none .stop
      [.filter .children (.kind .tagAndDocComment), .fork unusedPath]) := rfl

theorem unusedPath_run? (tree : Tree) (documented : NodeId) :
    unusedPath.run? tree (.singleton documented) = some (unused tree documented) := rfl

theorem parameterNotUsed_run? (tree : Tree) (root : NodeId) :
    (Path.program none .stop
      [.filter .children (.kind .tagAndDocComment), .fork unusedPath]).run? tree (.singleton root) =
      some (unite (unused tree)
        (around tree .children (.kind .tagAndDocComment) (.singleton root))) :=
  Reaches.run? (.filter (.fork (fun documented _ => unusedPath_run? tree documented) .done)) none
    .stop

section Unused

variable {tree : Tree} {documented parameter : NodeId}

theorem mem_defined :
    parameter ∈ defined tree documented ↔ Defines tree documented parameter := by
  rw [defined, mem_around_children]
  simp only [mem_around_children_singleton]
  rfl

variable (arena : tree.IsArena)
include arena

theorem mem_around_defined {comment : NodeId} :
    comment ∈ around tree .parent (.kind .docComment) (defined tree documented) ↔
      tree.HasChild .docComment documented comment ∧
        ∃ parameter, tree.HasChild .docCommentParamDef comment parameter := by
  rw [mem_around_parent]
  constructor
  · rintro ⟨parameter, member, linked, -⟩
    obtain ⟨parent, isComment, isParameter⟩ := mem_defined.mp member
    have same := Option.some.inj (linked.symm.trans (arena.mem_children.mp isParameter.1))
    subst same
    exact ⟨isComment, parameter, isParameter⟩
  · rintro ⟨isComment, parameter, isParameter⟩
    exact ⟨parameter, mem_defined.mpr ⟨comment, isComment, isParameter⟩,
      arena.mem_children.mp isParameter.1, isComment.2⟩

theorem mem_referred {reference : NodeId} :
    reference ∈ referred tree (defined tree documented) ↔ Refers tree documented reference := by
  rw [referred, mem_around_descendants arena]
  simp only [mem_around_nextSiblings arena, mem_around_defined arena]
  constructor
  · rintro ⟨pair, ⟨comment, ⟨isComment, parameter, isParameter⟩, ⟨parent, precedes⟩, isPair⟩,
      below, isReference⟩
    obtain ⟨commentChild, pairChild⟩ := precedes.mem_children
    -- a comment has one parent, so the pair is a child of the same node
    have same : parent = documented := Option.some.inj <|
      (arena.mem_children.mp commentChild).symm.trans (arena.mem_children.mp isComment.1)
    subst same
    exact ⟨isReference, comment, parameter, pair, isComment, isParameter, ⟨pairChild, isPair⟩,
      precedes, below⟩
  · rintro ⟨isReference, comment, parameter, pair, isComment, isParameter, isPair, precedes, below⟩
    exact ⟨pair, ⟨comment, ⟨isComment, parameter, isParameter⟩, ⟨documented, precedes⟩, isPair.2⟩,
      below, isReference⟩

theorem mem_unused :
    parameter ∈ unused tree documented ↔
      Defines tree documented parameter ∧
        ¬∃ reference, Refers tree documented reference ∧ SameSegment tree reference parameter := by
  have named : ∀ id ∈ defined tree documented, ∃ name, tree.name? id = some name := by
    intro id member
    obtain ⟨comment, -, isParameter⟩ := mem_defined.mp member
    exact arena.exists_name isParameter.2 rfl
  rw [unused, mem_namesAbsentFrom named, mem_defined]
  simp only [mem_referred arena]

theorem toList_defined (documented : NodeId) :
    (defined tree documented).toList =
      ((tree.children documented).filter (tree.isKind .docComment)).flatMap
        fun comment => (tree.children comment).filter (tree.isKind .docCommentParamDef) := by
  rw [defined, toList_around_children_nodes arena, toList_around_children arena]

theorem unused_sublist (documented : NodeId) :
    (unused tree documented).toList.Sublist ((tree.children documented).flatMap tree.children) := by
  have filtered : (unused tree documented).toList.Sublist (defined tree documented).toList :=
    List.filter_sublist
  rw [toList_defined arena] at filtered
  have definitions : (((tree.children documented).filter (tree.isKind .docComment)).flatMap
      fun comment => (tree.children comment).filter (tree.isKind .docCommentParamDef)).Sublist
        (((tree.children documented).filter (tree.isKind .docComment)).flatMap tree.children) :=
    List.Sublist.flatMap_right _ fun _ _ => List.filter_sublist
  exact (filtered.trans definitions).trans (List.filter_sublist.flatMap _)

theorem nodup_unused {ids : List NodeId} (nodup : ids.Nodup) :
    (ids.flatMap fun documented => (unused tree documented).toList).Nodup := by
  have children : (ids.flatMap tree.children).Nodup :=
    arena.nodup_flatMap nodup arena.nodup_children fun _ => List.Subset.refl _
  have grandchildren : ((ids.flatMap tree.children).flatMap tree.children).Nodup :=
    arena.nodup_flatMap children arena.nodup_children fun _ => List.Subset.refl _
  rw [List.flatMap_assoc] at grandchildren
  apply List.Nodup.sublist _ grandchildren
  exact List.Sublist.flatMap_right _ fun documented _ => unused_sublist arena documented

end Unused

/-- The inspection of unused parameters finds what it is meant to find, on every tree that can be
built and from every node of it: for one documented template below the node after the other, those
parameters that its comments define, in their order, whose name agrees up to the first dot with that
of no reference in a template behind a comment that defines parameters. -/
theorem unused_parameters_are_found (requests : List Tree.Request) (root : NodeId) :
    let tree := Tree.ofRequests requests
    ∃ path unused, parameterNotUsedPath = .ok path ∧
      path.run? tree (.singleton root) = some (path.navigate tree root) ∧
      (path.navigate tree root).toList =
        ((tree.children root).filter (tree.isKind .tagAndDocComment)).flatMap unused ∧
      (path.navigate tree root).toList.Nodup ∧
      ∀ documented,
        (unused documented).Sublist ((tree.children documented).flatMap tree.children) ∧
        ∀ parameter, parameter ∈ unused documented ↔
          Defines tree documented parameter ∧
            ¬∃ reference, Refers tree documented reference ∧
              SameSegment tree reference parameter := by
  intro tree
  have arena : tree.IsArena := Tree.isArena_ofRequests requests
  have ran := parameterNotUsed_run? tree root
  have navigates := Path.navigate_of_run? ran
  have nodup := nodup_unused arena
    ((arena.nodup_children root).filter (tree.isKind .tagAndDocComment))
  refine ⟨_, fun documented => (unused tree documented).toList, parameterNotUsedPath_eq, ?_, ?_,
    Collection.nodup _, ?_⟩
  · rw [navigates, ran]
  · rw [navigates, unite, toList_around_children arena, Collection.toList_ofList nodup]
  · intro documented
    refine ⟨unused_sublist arena documented, ?_⟩
    intro parameter
    exact Collection.mem_toList.trans (mem_unused arena)

/-- The template refers to a part of `p` and not to `q`; behind it nothing refers to `r`. -/
example :
    (parameterNotUsedPath.toOption.map fun path =>
      (path.navigate (Tree.ofRequests [⟨.soyFile, none, {}⟩, ⟨.tagAndDocComment, some 0, {}⟩,
        ⟨.docComment, some 1, {}⟩, ⟨.docCommentParamDef, some 2, { name := some "p" }⟩,
        ⟨.docCommentParamDef, some 2, { name := some "q" }⟩, ⟨.templateTagPair, some 1, {}⟩,
        ⟨.printTag, some 5, {}⟩, ⟨.parameterRef, some 6, { name := some "p.x" }⟩,
        ⟨.tagAndDocComment, some 0, {}⟩, ⟨.templateTagPair, some 8, {}⟩,
        ⟨.parameterRef, some 9, { name := some "r" }⟩, ⟨.docComment, some 8, {}⟩,
        ⟨.docCommentParamDef, some 11, { name := some "r" }⟩]) 0).toList) = some [4, 12] := by cbv

end ClosureTemplate.Inspect
