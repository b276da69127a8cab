import ClosureTemplate.Error
import ClosureTemplate.Pattern.Parser

namespace ClosureTemplate.Pattern

structure Compiled where
  source : String
  expr : Expr
  deriving DecidableEq, Repr

def compile (source : String) : Except Error Compiled :=
  match parse source.toList with
  | .ok expr => .ok ⟨source, expr⟩
  | .error fault => .error (.invalidPattern fault.message)

def Compiled.occursIn (pattern : Compiled) (text : String) : Bool :=
  pattern.expr.occursIn text.toList

end ClosureTemplate.Pattern
