import ClosureTemplate.Query.Predicate
import ClosureTemplate.Query.Scope
import ClosureTemplate.Text.Quoted
import ClosureTemplate.Tree.Collection

/-!
Paths: queries that lead from a collection of nodes to another. A path is a program of steps over a
working collection and a stack of saved ones, or a combination of two paths.
-/

namespace ClosureTemplate.Query

abbrev Nodes := Collection NodeId

abbrev Join := Tree → Nodes → Nodes → Nodes

inductive EmptyPolicy where
  /-- End with nothing, unless a saved collection may still be used. -/
  | stop
  | proceed
  deriving DecidableEq, Repr

def EmptyPolicy.label : EmptyPolicy → String
  | .stop => "Stop"
  | .proceed => "Continue"

mutual

inductive Step where
  | filter (scope : Scope) (predicate : Predicate)
  | push
  /-- Save the nodes that pass and go on with the others. -/
  | pushMatching (predicate : Predicate)
  | swap
  | pop
  | popAdd
  | popJoin (label : String) (join : Join)
  | restart
  /-- Run a path from each node and unite the results. -/
  | fork (path : Path)
  | log (label : String)

inductive Path where
  | program (label : Option String) (policy : EmptyPolicy) (steps : List Step)
  | either (label : Option String) (first second : Path)
  | except (label : Option String) (base excluded : Path)
  | chain (label : Option String) (first second : Path)

end

/-- Steps that use the stack run on an empty working collection too. -/
def Step.readsStack : Step → Bool
  | .swap | .pop | .popAdd | .popJoin .. => true
  | _ => false

inductive Outcome where
  | stopped
  | finished (stack : List Nodes) (current : Nodes)

def Outcome.result : Outcome → Nodes
  | .stopped => ∅
  | .finished _ current => current

mutual

/-- The nodes that a path leads to. None stands for a program that pops an empty stack. -/
def Path.run? (tree : Tree) : Path → Nodes → Option Nodes
  | .program _ policy steps, start =>
    if start.isEmpty then some ∅
    else (runSteps tree policy start steps [] start).map Outcome.result
  | .either _ first second, start => do
    if start.isEmpty then return ∅
    return (← first.run? tree start).union (← second.run? tree start)
  | .except _ base excluded, start => do
    if start.isEmpty then return ∅
    let found ← base.run? tree start
    if found.isEmpty then return found
    return found.without (← excluded.run? tree start)
  | .chain _ first second, start => do
    if start.isEmpty then return ∅
    second.run? tree (← first.run? tree start)

def runSteps (tree : Tree) (policy : EmptyPolicy) (start : Nodes) :
    List Step → List Nodes → Nodes → Option Outcome
  | [], stack, current => some (.finished stack current)
  | step :: rest, stack, current =>
    if policy = .stop && current.isEmpty && !step.readsStack && stack.all (·.isEmpty) then
      some .stopped
    else
      match step.apply? tree start stack current with
      | some (stack, current) => runSteps tree policy start rest stack current
      | none => none

def Step.apply? (tree : Tree) (start : Nodes) :
    Step → List Nodes → Nodes → Option (List Nodes × Nodes)
  | .filter scope predicate, stack, current =>
    let found := current.toList.flatMap fun id =>
      scope.collect tree id (fun node => predicate.test tree node)
    some (stack, .ofList found)
  | .push, stack, current => some (current :: stack, current)
  | .pushMatching predicate, stack, current =>
    some (current.filter (fun node => predicate.test tree node) :: stack,
      current.filter fun node => !predicate.test tree node)
  | .swap, saved :: stack, current => some (current :: stack, saved)
  | .pop, saved :: stack, _ => some (stack, saved)
  | .popAdd, saved :: stack, current => some (stack, saved.union current)
  | .popJoin _ join, saved :: stack, current => some (stack, join tree current saved)
  | .restart, stack, _ => some (stack, start)
  | .fork path, stack, current => do
    let found ← current.toList.foldlM
      (fun found node => (path.run? tree (.singleton node)).map found.union) ∅
    return (stack, found)
  | .log _, stack, current => some (stack, current)
  | .swap, [], _ | .pop, [], _ | .popAdd, [], _ | .popJoin .., [], _ => none

end

def Step.display : Step → String
  | .filter scope predicate => s!"{scope.display}::{predicate.display}"
  | .push => "push"
  | .pushMatching predicate => s!"push[{predicate.display}]"
  | .swap => "swap"
  | .pop => "pop"
  | .popAdd => "pop-add"
  | .popJoin label _ => s!"pop-join[{label}]"
  | .restart => "restart"
  | .fork (.program label ..) | .fork (.either label ..) | .fork (.except label ..)
  | .fork (.chain label ..) => "fork[" ++ label.getD "anonymous" ++ "]"
  | .log label => s!"log[{label}]"

namespace Path

def identity : Path := .program none .stop []

def label : Path → Option String
  | .program label .. | .either label .. | .except label .. | .chain label .. => label

def policy : Path → EmptyPolicy
  | .program _ policy _ => policy
  | _ => .stop

def named (path : Path) (label : String) : Path :=
  match path with
  | .program _ policy steps => .program (some label) policy steps
  | .either _ first second => .either (some label) first second
  | .except _ base excluded => .except (some label) base excluded
  | .chain _ first second => .chain (some label) first second

def or (first second : Path) : Path := .either none first second

def exclude (base excluded : Path) : Path := .except none base excluded

def append (first second : Path) : Path := .chain none first second

def navigateAll (path : Path) (tree : Tree) (start : List NodeId) : Nodes :=
  (path.run? tree (.ofList start)).getD ∅

def navigate (path : Path) (tree : Tree) (start : NodeId) : Nodes :=
  path.navigateAll tree [start]

def debugHead (label : Option String) (policy : EmptyPolicy) : String :=
  let shown := match label with
    | some label => "Some(" ++ Text.quotedString label ++ ")"
    | none => "None"
  "ElementPath \x7b label: " ++ shown ++ ", traverse_empty: " ++ policy.label

def debug : Path → String
  | .program label policy steps =>
    let shown := ", ".intercalate (steps.map fun step => Text.quotedString step.display)
    debugHead label policy ++ ", steps: [" ++ shown ++ "] \x7d"
  | .either label first second =>
    debugHead label .stop ++ ", or: [" ++ first.debug ++ ", " ++ second.debug ++ "] \x7d"
  | .except label base excluded =>
    debugHead label .stop ++ ", base: " ++ base.debug ++ ", exclude: [" ++ excluded.debug ++
      "] \x7d"
  | .chain label first second =>
    debugHead label .stop ++ ", append: [" ++ first.debug ++ ", " ++ second.debug ++ "] \x7d"

end Path

end ClosureTemplate.Query
