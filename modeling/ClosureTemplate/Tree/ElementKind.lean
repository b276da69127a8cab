namespace ClosureTemplate

inductive ElementKind where
  | soyFile
  | namespaceDef
  | tagAndDocComment
  | docComment
  | docCommentParamDef
  | templateTagPair
  | templateTag
  | callTagPair
  | callTag
  | paramTag
  | parameterRef
  | msgTag
  | printTag
  | templateText
  deriving DecidableEq, Repr

namespace ElementKind

def all : List ElementKind := [
  .soyFile, .namespaceDef, .tagAndDocComment, .docComment, .docCommentParamDef, .templateTagPair,
  .templateTag, .callTagPair, .callTag, .paramTag, .parameterRef, .msgTag, .printTag,
  .templateText]

def name : ElementKind → String
  | .soyFile => "soy_file"
  | .namespaceDef => "namespace_def"
  | .tagAndDocComment => "tag_and_doc_comment"
  | .docComment => "doc_comment"
  | .docCommentParamDef => "doc_comment_param_def"
  | .templateTagPair => "template_tag_pair"
  | .templateTag => "template_tag"
  | .callTagPair => "call_tag_pair"
  | .callTag => "call_tag"
  | .paramTag => "param_tag"
  | .parameterRef => "parameter_ref"
  | .msgTag => "msg_tag"
  | .printTag => "print_tag"
  | .templateText => "template_text"

def ofName? (name : String) : Option ElementKind := all.find? fun kind => kind.name == name

def isNameBearing : ElementKind → Bool
  | .namespaceDef | .docCommentParamDef | .templateTag | .callTag | .paramTag | .parameterRef =>
    true
  | _ => false

def declaresParameters : ElementKind → Bool
  | .docComment | .tagAndDocComment => true
  | _ => false

def isCallSite : ElementKind → Bool
  | .callTagPair | .callTag => true
  | _ => false

end ElementKind

end ClosureTemplate
