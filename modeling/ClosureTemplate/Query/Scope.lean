import ClosureTemplate.Tree.Basic

namespace ClosureTemplate.Query

inductive Scope where
  | self
  | children
  | childrenOfChildren
  | firstChild
  /-- All proper descendants, level by level. -/
  | descendants
  /-- The descendants between two depths; the children have depth 1. -/
  | descendantsWithin (low high : Nat)
  | parent
  | ancestors
  | firstAncestor
  | nextSibling
  | previousSiblings (includeSelf : Bool)
  | nextSiblings (includeSelf : Bool)
  deriving DecidableEq, Repr

namespace Scope

def validate : Scope → Except Error Unit
  | .descendantsWithin low high =>
    if low = 0 then .error (.invalidTraversal .depthZero)
    else if high < low then .error (.invalidTraversal (.emptyDepthRange low high))
    else .ok ()
  | _ => .ok ()

/-- The nodes of the scope that pass a test, in the order in which they are met. -/
def collect (tree : Tree) (id : NodeId) (test : NodeId → Bool) : Scope → List NodeId
  | .self => [id].filter test
  | .children => (tree.children id).filter test
  | .childrenOfChildren => ((tree.children id).flatMap tree.children).filter test
  | .firstChild => ((tree.children id).find? test).toList
  | .descendants => (tree.levels id).flatten.filter test
  | .descendantsWithin low high =>
    (((tree.levels id).take high).drop (low - 1)).flatten.filter test
  | .parent => (tree.parent? id).toList.filter test
  | .ancestors => (tree.ancestors id).filter test
  | .firstAncestor => ((tree.ancestors id).find? test).toList
  | .nextSibling => ((tree.siblings id).2.find? test).toList
  | .previousSiblings includeSelf =>
    ((tree.siblings id).1 ++ if includeSelf then [id] else []).filter test
  | .nextSiblings includeSelf =>
    ((if includeSelf then [id] else []) ++ (tree.siblings id).2).filter test

def display : Scope → String
  | .self => "self"
  | .children => "children"
  | .childrenOfChildren => "children/children"
  | .firstChild => "first-child"
  | .descendants => "descendants"
  | .descendantsWithin low high => s!"descendants[{low}..={high}]"
  | .parent => "parent"
  | .ancestors => "ancestors"
  | .firstAncestor => "first-ancestor"
  | .nextSibling => "next-sibling"
  | .previousSiblings includeSelf =>
    if includeSelf then "previous-siblings-or-self" else "previous-siblings"
  | .nextSiblings includeSelf => if includeSelf then "next-siblings-or-self" else "next-siblings"

end Scope

end ClosureTemplate.Query
