import ClosureTemplate.Pattern.Compiled
import ClosureTemplate.Tree.Basic

namespace ClosureTemplate.Query

open Pattern (Compiled)

inductive Predicate where
  | any
  | nothing
  | kind (kind : ElementKind)
  | kinds (kinds : List ElementKind)
  | name (name : String)
  | text (pattern : Compiled)
  /-- The attribute called `name`, or any attribute, whose value matches if a pattern is given. -/
  | attribute (name : Option String) (value : Option Compiled)
  | custom (label : String) (test : Tree → NodeId → Bool)
  | not (predicate : Predicate)

namespace Predicate

def ofText (pattern : String) : Except Error Predicate :=
  (Pattern.compile pattern).map .text

def hasAttribute (name : String) : Predicate := .attribute (some name) none

def ofAttribute (name value : Option String) : Except Error Predicate :=
  match name, value with
  | none, none => .error (.invalidTraversal .noAttributeTest)
  | name, some value => (Pattern.compile value).map fun pattern => .attribute name (some pattern)
  | name, none => .ok (.attribute name none)

def negate : Predicate → Predicate
  | .any => .nothing
  | .nothing => .any
  | .not predicate => predicate
  | predicate => .not predicate

def test (tree : Tree) (id : NodeId) : Predicate → Bool
  | .any => true
  | .nothing => false
  | .kind wanted => tree.kind? id = some wanted
  | .kinds wanted => (tree.kind? id).any wanted.contains
  | .name wanted => tree.name? id = some wanted
  | .text pattern => pattern.occursIn (tree.text id)
  | .attribute (some wanted) value =>
    (tree.attribute? id wanted).any fun found => value.all (·.occursIn found)
  | .attribute none value =>
    (tree.attributes id).any fun (_, found) => value.all (·.occursIn found)
  | .custom _ test => test tree id
  | .not predicate => !predicate.test tree id

def display : Predicate → String
  | .any => "*"
  | .nothing => "!*"
  | .kind wanted => wanted.name
  | .kinds wanted => "(" ++ "|".intercalate (wanted.map ElementKind.name) ++ ")"
  | .name wanted => s!"[name={wanted}]"
  | .text pattern => s!"[text~/{pattern.source}/]"
  | .attribute wanted value =>
    let shown := wanted.getD "*"
    match value with
    | some pattern => s!"[@{shown}~/{pattern.source}/]"
    | none => s!"[@{shown}]"
  | .custom label _ => label
  | .not predicate => s!"!{predicate.display}"

def debug (predicate : Predicate) : String := s!"Predicate({predicate.display})"

end Predicate

end ClosureTemplate.Query
