import ClosureTemplate.Error
import ClosureTemplate.Table
import ClosureTemplate.Token.Kind

/-!
Numbers that an external grammar gives to the terminals. A code is set once: importing the same
code again changes nothing and a different one is refused.
-/

namespace ClosureTemplate

abbrev GrammarCodes := Table Kind Int

namespace GrammarCodes

/-- The conflict of one entry with the codes known so far. Names that are no terminal have none. -/
def conflict? (codes : GrammarCodes) (name : String) (code : Int) : Option Error :=
  match (Kind.ofName? name).bind codes.get? with
  | some existing => if existing = code then none else some (.codesConflict name existing code)
  | none => none

def record (codes : GrammarCodes) (name : String) (code : Int) : GrammarCodes :=
  match Kind.ofName? name with
  | some kind => codes.put kind code
  | none => codes

/-- Imports entries up to the first conflict. The answer is the number of terminals with a code;
the entries before a conflict stay. -/
def addAll (codes : GrammarCodes) : List (String × Int) → GrammarCodes × Except Error Nat
  | [] => (codes, .ok codes.length)
  | (name, code) :: entries =>
    match codes.conflict? name code with
    | some error => (codes, .error error)
    | none => (codes.record name code).addAll entries

end GrammarCodes

end ClosureTemplate
