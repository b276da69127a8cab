import ClosureTemplate.Cli.Arguments

namespace ClosureTemplate.Cli

/-- The lines of a message, the first of which names the fault. An empty value counts as none. -/
def UsageFault.message : UsageFault → List String
  | .unknownArgument argument => [s!"unexpected argument '{argument}' found"]
  | .unknownCommand word => [s!"unrecognized subcommand '{word}'"]
  | .missingValue item => [s!"a value is required for '{item.display}' but none was supplied"]
  | .invalidValue item value =>
    let fault :=
      if value.isEmpty then s!"a value is required for '{item.display}' but none was supplied"
      else s!"invalid value '{value}' for '{item.display}'"
    if item = .format then [fault, "  [possible values: text, json]"] else [fault]
  | .unneededValue item value =>
    [s!"unexpected value '{value}' for '{item.display}' found; no more were expected"]
  | .repeated item => [s!"the argument '{item.display}' cannot be used multiple times"]
  | .missingFile => ["the following required arguments were not provided:", "  <FILE>"]
  | .helpAsked _ | .versionAsked => []

def Item.about : Item → String
  | .path =>
    "Path to the project root directory. Config files are looked up here and relative file " ++
    "arguments are resolved against it"
  | .verbose => "Enable verbose output and debug logging from the scanner"
  | .noColor => "Disable colored output"
  | .file => "The file to scan"
  | .mode => "The mode the scan starts in. Defaults to `[lexer] initial_mode` from the config"
  | .raw => "Print scanner tokens without splitting them into words"
  | .skipIgnorable => "Leave whitespace and comments out of the dump"
  | .format => "Output format [default: text] [possible values: text, json]"
  | .help => "Print help"
  | .version => "Print version"

namespace Level

def about : Level → String
  | .program => "Inspect how Closure Templates (Soy) files are scanned."
  | .tokens => "Print the token stream of a Soy file"
  | .docs => "Print the doc comment of every template in a Soy file"

def usage : Level → String
  | .program => "Usage: soy [OPTIONS] [COMMAND]"
  | .tokens => "Usage: soy tokens [OPTIONS] <FILE>"
  | .docs => "Usage: soy docs [OPTIONS] <FILE>"

def columns (rows : List (String × String)) : List String :=
  let width := rows.foldl (fun width row => max width row.1.length) 0
  rows.map fun (name, about) =>
    let blanks := String.ofList (List.replicate (width - name.length) ' ')
    s!"  {name}{blanks}  {about}"

def optionRow (item : Item) : String × String :=
  let short := match item.short? with
    | some c => String.ofList ['-', c, ',', ' ']
    | none => "    "
  (short ++ item.display, item.about)

def operands : Level → List String
  | .program =>
    ["", "Commands:"] ++ columns [
      ("tokens", tokens.about),
      ("docs", docs.about),
      ("help", "Print this message or the help of the given subcommand(s)")]
  | _ => ["", "Arguments:"] ++ columns [(Item.display .file, Item.about .file)]

def help (level : Level) : List String :=
  [level.about, "", level.usage] ++ level.operands ++
    ["", "Options:"] ++ columns (level.options.map optionRow)

end Level

def versionLine : String := "soy_cli 0.1.0"

end ClosureTemplate.Cli
