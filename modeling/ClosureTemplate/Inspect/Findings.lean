import ClosureTemplate.Config.Settings
import ClosureTemplate.Inspect.Paths

namespace ClosureTemplate.Inspect

open Query (Path Builder)

structure Finding where
  id : String
  node : NodeId
  message : String
  deriving DecidableEq, Repr

def callName (tree : Tree) (pair : Option NodeId) : String :=
  let named := do
    let call ← (tree.children (← pair)).find? (tree.isKind .callTag)
    tree.name? call
  named.getD "???"

def nameOrEmpty (tree : Tree) (id : NodeId) : String := (tree.name? id).getD ""

def callsPath : Except Error Path :=
  ({} : Builder)
    |>.descendants .callTagPair
    |>.build

def findAll (inspection : Inspection) (path : Path) (tree : Tree) (root : NodeId)
    (message : NodeId → String) : List Finding :=
  (path.navigate tree root).toList.map fun node => ⟨inspection.id, node, message node⟩

def Inspection.run (inspection : Inspection) (tree : Tree) (root : NodeId) :
    Except Error (List Finding) := do
  let path ← inspection.path
  match inspection with
  | .callParameterNotDefined =>
    return findAll inspection path tree root fun node =>
      let callee := callName tree (tree.parent? node)
      s!"parameter `{nameOrEmpty tree node}` is not declared by `{callee}`"
  | .callMissingRequiredParam =>
    let calls := (← callsPath).navigate tree root
    return calls.toList.flatMap fun call =>
      let callee := callName tree (some call)
      (path.navigate tree call).toList.map fun missing =>
        ⟨inspection.id, call,
          s!"call to `{callee}` is missing required parameter `{nameOrEmpty tree missing}`"⟩
  | .parameterNotUsed =>
    return findAll inspection path tree root fun node =>
      s!"parameter `{nameOrEmpty tree node}` is never used"
  | .msgWithoutDescription =>
    return findAll inspection path tree root fun _ => "msg tag has no `desc` attribute"

/-- What the enabled inspections find below a root. A root that the tree lacks has no findings. -/
def run (tree : Tree) (root : NodeId) (settings : Config.InspectionSettings) :
    Except Error (List Finding) :=
  match tree.node? root with
  | none => .ok []
  | some _ => do
    let enabled := Inspection.all.filter fun inspection => settings.isEnabled inspection.id
    return (← enabled.mapM fun inspection => inspection.run tree root).flatten

end ClosureTemplate.Inspect
