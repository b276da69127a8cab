import ClosureTemplate.Query.Path

namespace ClosureTemplate.Query

structure Builder where
  steps : List Step := []
  policy : EmptyPolicy := .stop
  label : Option String := none

namespace Builder

def step (builder : Builder) (step : Step) : Builder :=
  { builder with steps := builder.steps ++ [step] }

def filter (builder : Builder) (scope : Scope) (predicate : Predicate) : Builder :=
  builder.step (.filter scope predicate)

def keep (builder : Builder) (predicate : Predicate) : Builder := builder.filter .self predicate

def children (builder : Builder) (kind : ElementKind) : Builder :=
  builder.filter .children (.kind kind)

def childrenOfChildren (builder : Builder) (kind : ElementKind) : Builder :=
  builder.filter .childrenOfChildren (.kind kind)

def descendants (builder : Builder) (kind : ElementKind) : Builder :=
  builder.filter .descendants (.kind kind)

def parent (builder : Builder) (kind : ElementKind) : Builder :=
  builder.filter .parent (.kind kind)

def firstAncestor (builder : Builder) (kind : ElementKind) : Builder :=
  builder.filter .firstAncestor (.kind kind)

def nextSiblings (builder : Builder) (kind : ElementKind) : Builder :=
  builder.filter (.nextSiblings false) (.kind kind)

def push (builder : Builder) : Builder := builder.step .push

def popJoin (builder : Builder) (label : String) (join : Join) : Builder :=
  builder.step (.popJoin label join)

def restart (builder : Builder) : Builder := builder.step .restart

def fork (builder : Builder) (path : Path) : Builder := builder.step (.fork path)

/-- Appends the steps of another builder; its policy and label are dropped. -/
def append (builder next : Builder) : Builder :=
  { builder with steps := builder.steps ++ next.steps }

def onEmpty (builder : Builder) (policy : EmptyPolicy) : Builder := { builder with policy }

def named (builder : Builder) (label : String) : Builder := { builder with label := some label }

def stepDepth (label : String) (index depth : Nat) (step : Step) : Except Error Nat :=
  match step with
  | .filter scope _ => scope.validate.map fun _ => depth
  | .push | .pushMatching _ => .ok (depth + 1)
  | .swap =>
    if depth = 0 then .error (.unbalancedPath label (.nothingToSwap index step.display))
    else .ok depth
  | .pop | .popAdd | .popJoin .. =>
    if depth = 0 then .error (.unbalancedPath label (.popsEmpty index step.display))
    else .ok (depth - 1)
  | .restart | .fork _ | .log _ => .ok depth

def check (label : String) : Nat → Nat → List Step → Except Error Unit
  | _, depth, [] =>
    if depth = 0 then .ok () else .error (.unbalancedPath label (.neverPopped depth))
  | index, depth, step :: steps =>
    match stepDepth label index depth step with
    | .ok depth => check label (index + 1) depth steps
    | .error error => .error error

def build (builder : Builder) : Except Error Path :=
  (check (builder.label.getD "anonymous") 0 0 builder.steps).map fun _ =>
    .program builder.label builder.policy builder.steps

end Builder

end ClosureTemplate.Query
