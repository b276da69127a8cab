import ClosureTemplate.Config.Settings
import ClosureTemplate.Config.Toml.Document
import ClosureTemplate.Files.Basic

/-!
Settings from a TOML file. Keys that are not known count for nothing; a section may also be written
as an array of its values in order, and what is left out keeps its default.
-/

namespace ClosureTemplate.Config

open Toml (Item Entries)

inductive ReadFault where
  | document (fault : Toml.Fault)
  | wrongType (expected : String)
  deriving DecidableEq, Repr

def ReadFault.message : ReadFault → String
  | .document fault => fault.message
  | .wrongType expected => s!"invalid type, expected {expected}"

abbrev Fields := List (String × Item)

/-- The fields of an item, with names for those of an array. A date is a table of its own kind. -/
def fields (names : List String) : Item → Except ReadFault Fields
  | .table _ entries => .ok entries
  | .inlineTable entries => .ok entries
  | .array items => .ok (names.zip items)
  | .tables list => .ok (names.zip (list.map .inlineTable))
  | .scalar .datetime => .ok []
  | .scalar _ => .error (.wrongType "a table")

def string : Item → Except ReadFault String
  | .scalar (.string text) => .ok (String.ofList text)
  | _ => .error (.wrongType "a string")

def boolean : Item → Except ReadFault Bool
  | .scalar (.boolean value) => .ok value
  | _ => .error (.wrongType "a boolean")

def strings : Item → Except ReadFault (List String)
  | .array items => items.mapM string
  | .tables (_ :: _) => .error (.wrongType "a string")
  | _ => .error (.wrongType "an array")

def read {α : Type} (entries : Fields) (key : String) (default : α)
    (decode : Item → Except ReadFault α) : Except ReadFault α :=
  match Entries.get? entries key with
  | some item => decode item
  | none => .ok default

def lexerSettings (item : Item) : Except ReadFault LexerSettings := do
  let entries ← fields ["initial_mode", "fragment_words", "skip_ignorable"] item
  let base : LexerSettings := {}
  return {
    initialMode := ← read entries "initial_mode" base.initialMode string
    fragmentWords := ← read entries "fragment_words" base.fragmentWords boolean
    skipIgnorable := ← read entries "skip_ignorable" base.skipIgnorable boolean }

def loggingSettings (item : Item) : Except ReadFault LoggingSettings := do
  let entries ← fields ["filter"] item
  return { filter := ← read entries "filter" none fun item => (string item).map some }

def inspectionSettings (item : Item) : Except ReadFault InspectionSettings := do
  let entries ← fields ["disabled"] item
  return { disabled := ← read entries "disabled" [] strings }

def settings (entries : Entries) : Except ReadFault Settings := do
  return {
    lexer := ← read entries "lexer" {} lexerSettings
    logging := ← read entries "logging" {} loggingSettings
    inspections := ← read entries "inspections" {} inspectionSettings }

def Settings.ofText (text : Text) : Except Error Settings := do
  let read := match Toml.parse text with
    | .ok entries => settings entries
    | .error fault => .error (.document fault)
  match read with
  | .ok settings =>
    let _ ← settings.lexer.mode
    return settings
  | .error fault => .error (.configParse fault.message)

def candidates : List String := ["soy.toml", ".soy.toml", ".config/soy.toml"]

def resolve? (host : Files.Host) (root : String) : Option String :=
  (candidates.map (Files.join root)).find? host.isFile

def load (host : Files.Host) (root : String) : Except Error (Option Settings) :=
  match resolve? host root with
  | none => .ok none
  | some path =>
    match host.read path with
    | .ok text => (Settings.ofText text).map some
    | .error fault => .error (.io fault)

end ClosureTemplate.Config
