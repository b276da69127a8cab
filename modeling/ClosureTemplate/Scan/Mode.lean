import ClosureTemplate.Error

namespace ClosureTemplate.Scan

inductive Mode where
  | templateText
  /-- Right behind the opening brace of a tag. -/
  | tagCommand
  | expression
  | name
  | attributes
  | directive
  | stringLiteral
  | docComment
  | literal
  deriving DecidableEq, Repr

namespace Mode

def all : List Mode := [
  .templateText, .tagCommand, .expression, .name, .attributes, .directive, .stringLiteral,
  .docComment, .literal]

def label : Mode → String
  | .templateText => "template_text"
  | .tagCommand => "tag_command"
  | .expression => "expression"
  | .name => "name"
  | .attributes => "attributes"
  | .directive => "directive"
  | .stringLiteral => "string_literal"
  | .docComment => "doc_comment"
  | .literal => "literal"

def ofLabel (label : String) : Except Error Mode :=
  match all.find? fun mode => mode.label == label with
  | some mode => .ok mode
  | none => .error (.unknownMode label)

end Mode

end ClosureTemplate.Scan
