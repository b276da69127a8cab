import ClosureTemplate.Doc.Buffer
import ClosureTemplate.Number.Double

namespace ClosureTemplate

inductive Value where
  | boolean (value : Bool)
  | integer (value : Int)
  | float (value : Number.Double)
  | doc (value : Doc.Buffer)
  deriving DecidableEq, Repr

/-- Equality of payloads: floats may differ by two units in the last place. -/
def Value.same : Value → Value → Bool
  | .boolean a, .boolean b => a = b
  | .integer a, .integer b => a = b
  | .float a, .float b => a.isNear b
  | .doc a, .doc b => a.same b
  | _, _ => false

end ClosureTemplate
