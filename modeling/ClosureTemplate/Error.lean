namespace ClosureTemplate

inductive FileFault where
  | notFound
  | notADirectory
  | isDirectory
  | denied
  | notUtf8
  deriving DecidableEq, Repr

inductive StackFault where
  | nothingToSwap (index : Nat) (step : String)
  | popsEmpty (index : Nat) (step : String)
  | neverPopped (depth : Nat)
  deriving DecidableEq, Repr

inductive TraversalFault where
  | noAttributeTest
  | depthZero
  | emptyDepthRange (low high : Nat)
  deriving DecidableEq, Repr

inductive Error where
  | io (fault : FileFault)
  | configParse (detail : String)
  | invalidRange (start stop length : Nat)
  | unknownMode (name : String)
  | unbalancedPath (label : String) (fault : StackFault)
  | invalidTraversal (fault : TraversalFault)
  | unknownParent (parent length : Nat)
  | invalidPattern (detail : String)
  | codesConflict (name : String) (existing proposed : Int)
  deriving DecidableEq, Repr

def FileFault.message : FileFault → String
  | .notFound => "No such file or directory (os error 2)"
  | .notADirectory => "Not a directory (os error 20)"
  | .isDirectory => "Is a directory (os error 21)"
  | .denied => "Permission denied (os error 13)"
  | .notUtf8 => "stream did not contain valid UTF-8"

def StackFault.message : StackFault → String
  | .nothingToSwap index step => s!"step {index} `{step}` has nothing to swap with"
  | .popsEmpty index step => s!"step {index} `{step}` pops an empty stack"
  | .neverPopped depth => s!"{depth} pushed collection(s) never popped"

def TraversalFault.message : TraversalFault → String
  | .noAttributeTest => "an attribute predicate needs a name, a value pattern, or both"
  | .depthZero => "descendant depths start at 1"
  | .emptyDepthRange low high => s!"descendant depth range {low}..={high} is empty"

namespace Error

def message : Error → String
  | .io fault => fault.message
  | .configParse detail => s!"failed to parse config file: {detail}"
  | .invalidRange start stop length =>
    s!"invalid scan range {start}..{stop} for a buffer of {length} bytes"
  | .unknownMode name => s!"unknown lexer mode: `{name}`"
  | .unbalancedPath label fault => s!"unbalanced path `{label}`: {fault.message}"
  | .invalidTraversal fault => s!"invalid traversal: {fault.message}"
  | .unknownParent parent length => s!"unknown parent node #{parent} in a tree of {length} nodes"
  | .invalidPattern detail => s!"invalid pattern: {detail}"
  | .codesConflict name existing proposed =>
    s!"parser value for `{name}` is already {existing}, refusing to replace it with {proposed}"

def code : Error → String
  | .io _ => "soy::io_error"
  | .configParse _ => "soy::config_parse"
  | .invalidRange .. => "soy::invalid_range"
  | .unknownMode _ => "soy::unknown_lex_mode"
  | .unbalancedPath .. => "soy::unbalanced_path"
  | .invalidTraversal _ => "soy::invalid_traversal"
  | .unknownParent .. => "soy::unknown_parent"
  | .invalidPattern _ => "soy::invalid_pattern"
  | .codesConflict .. => "soy::parser_values_conflict"

def help : Error → Option String
  | .io _ | .invalidTraversal _ | .invalidPattern _ => none
  | .configParse _ =>
    some "check that soy.toml is valid TOML with [lexer], [logging] and/or [inspections] sections"
  | .invalidRange .. => some "offsets must satisfy start <= end <= len and fall on char boundaries"
  | .unknownMode _ => some <|
    "expected one of: template_text, tag_command, expression, name, attributes, directive, " ++
    "string_literal, doc_comment, literal"
  | .unbalancedPath .. =>
    some "every `pop` step needs an earlier `push`, and every `push` must be popped"
  | .unknownParent .. => some "parents must be built in the same tree before their children"
  | .codesConflict .. => some "parser values can only be imported once per process"

end Error

end ClosureTemplate
