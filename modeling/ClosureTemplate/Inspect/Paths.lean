import ClosureTemplate.Query.Builder

namespace ClosureTemplate.Inspect

open Query (Path Builder Predicate Nodes Join)

inductive Inspection where
  | callParameterNotDefined
  | callMissingRequiredParam
  | parameterNotUsed
  | msgWithoutDescription
  deriving DecidableEq, Repr

namespace Inspection

def all : List Inspection := [
  .callParameterNotDefined, .callMissingRequiredParam, .parameterNotUsed, .msgWithoutDescription]

def id : Inspection → String
  | .callParameterNotDefined => "call-parameter-not-defined"
  | .callMissingRequiredParam => "call-missing-required-param"
  | .parameterNotUsed => "parameter-not-used"
  | .msgWithoutDescription => "msg-without-description"

def ofId? (id : String) : Option Inspection := all.find? fun inspection => inspection.id == id

end Inspection

def namespaceOf (tree : Tree) (id : NodeId) : Option String := do
  let root ← (tree.ancestors id).getLast?
  let declaration ← (tree.children root).find? (tree.isKind .namespaceDef)
  tree.name? declaration

/-- Whether `callee` names a template, by its local name or behind the namespace of its file. -/
def callsTemplate (tree : Tree) (callee : String) (template : NodeId) : Bool :=
  match tree.name? template with
  | some localName =>
    callee == localName ||
      (namespaceOf tree template).any fun namespaceName => callee == namespaceName ++ localName
  | none => false

def rootSegment (name : String) : String := String.ofList (name.toList.takeWhile (· != '.'))

def rootName? (tree : Tree) (id : NodeId) : Option String := (tree.name? id).map rootSegment

def selectCallee : Join := fun tree templates calls =>
  templates.filter fun template =>
    calls.toList.any fun call =>
      (tree.name? call).any fun callee => callsTemplate tree callee template

def namesAbsentFrom (tree : Tree) (candidates present : Nodes) : Nodes :=
  candidates.filter fun candidate =>
    !present.toList.any fun node => rootName? tree node = rootName? tree candidate

def savedNotNamed : Join := fun tree current saved => namesAbsentFrom tree saved current

def calleeParameters : Builder :=
  ({} : Builder)
    |>.children .callTag
    |>.push
    |>.firstAncestor .soyFile
    |>.children .tagAndDocComment
    |>.childrenOfChildren .templateTag
    |>.popJoin "callee" selectCallee
    |>.firstAncestor .tagAndDocComment
    |>.children .docComment
    |>.children .docCommentParamDef

def callParameterNotDefinedPath : Except Error Path := do
  let perCall ← ({} : Builder)
    |>.children .paramTag
    |>.push
    |>.restart
    |>.append calleeParameters
    |>.popJoin "undeclared params" savedNotNamed
    |>.onEmpty .proceed
    |>.named Inspection.callParameterNotDefined.id
    |>.build
  ({} : Builder)
    |>.descendants .callTagPair
    |>.fork perCall
    |>.build

/-- A call whose tags pass no data, or all of it, so that what it passes is known. -/
def passesKnownData (tree : Tree) (pair : NodeId) : Bool :=
  ((tree.children pair).filter (tree.isKind .callTag)).all fun call =>
    (tree.attribute? call "data").all (· == "all")

/-- From a call to the required parameters of the callee that it does not pass. A call with
`data="all"` passes the required parameters of the template around it. -/
def callMissingRequiredParamPath : Except Error Path := do
  let required ← Predicate.ofAttribute (some "optional") (some "^false$")
  let forwarded ← ({} : Builder)
    |>.children .callTag
    |>.keep (← Predicate.ofAttribute (some "data") (some "^all$"))
    |>.firstAncestor .tagAndDocComment
    |>.children .docComment
    |>.children .docCommentParamDef
    |>.keep required
    |>.build
  let passed ← ({} : Builder)
    |>.children .paramTag
    |>.build
  ({} : Builder)
    |>.keep (.custom "passes no data expression" passesKnownData)
    |>.append calleeParameters
    |>.keep required
    |>.push
    |>.restart
    |>.fork (passed.or forwarded)
    |>.popJoin "missing required params" savedNotNamed
    |>.onEmpty .proceed
    |>.named Inspection.callMissingRequiredParam.id
    |>.build

def parameterNotUsedPath : Except Error Path := do
  let perTemplate ← ({} : Builder)
    |>.children .docComment
    |>.children .docCommentParamDef
    |>.push
    |>.parent .docComment
    |>.nextSiblings .templateTagPair
    |>.descendants .parameterRef
    |>.popJoin "unused params" savedNotNamed
    |>.onEmpty .proceed
    |>.named Inspection.parameterNotUsed.id
    |>.build
  ({} : Builder)
    |>.children .tagAndDocComment
    |>.fork perTemplate
    |>.build

def msgWithoutDescriptionPath : Except Error Path :=
  ({} : Builder)
    |>.descendants .msgTag
    |>.keep (Predicate.hasAttribute "desc").negate
    |>.named Inspection.msgWithoutDescription.id
    |>.build

def Inspection.path : Inspection → Except Error Path
  | .callParameterNotDefined => callParameterNotDefinedPath
  | .callMissingRequiredParam => callMissingRequiredParamPath
  | .parameterNotUsed => parameterNotUsedPath
  | .msgWithoutDescription => msgWithoutDescriptionPath

end ClosureTemplate.Inspect
