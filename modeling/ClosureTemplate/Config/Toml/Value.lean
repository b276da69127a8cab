import ClosureTemplate.Text.Basic

/-!
Values of a TOML document. Tables remember how they came about, because a table that was written
out once cannot be extended later.
-/

namespace ClosureTemplate.Config.Toml

inductive Fault where
  | unexpected
  | controlCharacter
  | unterminatedString
  | invalidEscape
  | invalidWord
  | duplicateKey (key : String)
  | tooDeep
  deriving DecidableEq, Repr

def Fault.message : Fault → String
  | .unexpected => "unexpected character"
  | .controlCharacter => "control character"
  | .unterminatedString => "unterminated string"
  | .invalidEscape => "invalid escape sequence"
  | .invalidWord => "invalid value"
  | .duplicateKey key => s!"duplicate key {key}"
  | .tooDeep => "nested too deeply"

inductive Scalar where
  | string (text : Text)
  | boolean (value : Bool)
  | number
  | datetime
  deriving DecidableEq, Repr

/-- How a table came about: by its own header, as the parent in another header, or by a dotted
key. -/
inductive Origin where
  | header
  | implied
  | dotted
  deriving DecidableEq, Repr

inductive Item where
  | scalar (value : Scalar)
  | array (items : List Item)
  | inlineTable (entries : List (String × Item))
  | table (origin : Origin) (entries : List (String × Item))
  | tables (list : List (List (String × Item)))

abbrev Entries := List (String × Item)

namespace Entries

def get? : Entries → String → Option Item
  | [], _ => none
  | (k, item) :: rest, key => if k = key then some item else get? rest key

def put : Entries → String → Item → Entries
  | [], key, item => [(key, item)]
  | (k, old) :: rest, key, item =>
    if k = key then (k, item) :: rest else (k, old) :: put rest key item

abbrev Change := Origin → Entries → Except Fault Entries

/-- Changes the table that a path leads to; tables on the way are made with the given origin. A
dotted key cannot lead through a table that has a header of its own. -/
def update (made : Origin) : List String → Change → Change
  | [], change => change
  | key :: path, change => fun _ entries =>
    match get? entries key with
    | none => do return put entries key (.table made (← update made path change made []))
    | some (.table origin inner) =>
      if made = .dotted && origin = .header then .error (.duplicateKey key)
      else do return put entries key (.table origin (← update made path change origin inner))
    | some (.tables list) =>
      match list.getLast? with
      | some last => do
        let changed ← update made path change .header last
        return put entries key (.tables (list.dropLast ++ [changed]))
      | none => .error (.duplicateKey key)
    | some _ => .error (.duplicateKey key)

/-- Adds a new key. A dotted path has to end in a table made by dotted keys. -/
def insert (isDotted : Bool) (key : String) (item : Item) : Change := fun origin entries =>
  if (origin == .dotted) != isDotted then .error (.duplicateKey key)
  else match get? entries key with
    | some _ => .error (.duplicateKey key)
    | none => .ok (put entries key item)

def splitPath (path : List String) : List String × String := (path.dropLast, path.getLast?.getD "")

def insertDotted (path : List String) (item : Item) : Change :=
  let (parents, key) := splitPath path
  update .dotted parents (insert (!parents.isEmpty) key item)

/-- Opens the table of a header. Only a table that was a mere parent so far may get a header. -/
def openTable (path : List String) : Change :=
  let (parents, key) := splitPath path
  update .implied parents fun _ entries =>
    match get? entries key with
    | none => .ok (put entries key (.table .header []))
    | some (.table .implied inner) => .ok (put entries key (.table .header inner))
    | some _ => .error (.duplicateKey key)

def openListedTable (path : List String) : Change :=
  let (parents, key) := splitPath path
  update .implied parents fun _ entries =>
    match get? entries key with
    | none => .ok (put entries key (.tables [[]]))
    | some (.tables list) => .ok (put entries key (.tables (list ++ [[]])))
    | some _ => .error (.duplicateKey key)

end Entries

end ClosureTemplate.Config.Toml
