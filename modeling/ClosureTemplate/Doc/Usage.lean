namespace ClosureTemplate.Doc

inductive Usage where
  | scalar
  | map
  | list
  | ambiguous
  | undefined
  deriving DecidableEq, Repr

namespace Usage

def name : Usage → String
  | .scalar => "SCALAR"
  | .map => "MAP"
  | .list => "LIST"
  | .ambiguous => "AMBIGUOUS"
  | .undefined => "UNDEFINED"

def all : List Usage := [.scalar, .map, .list, .ambiguous, .undefined]

def ofName? (name : String) : Option Usage := all.find? fun usage => usage.name == name

/-- Undefined gives way to the other shape; two distinct defined shapes are ambiguous. -/
def merge : Usage → Usage → Usage
  | .undefined, other => other
  | this, .undefined => this
  | this, other => if this = other then this else .ambiguous

end Usage

end ClosureTemplate.Doc
