import ClosureTemplate.Cli.Usage
import ClosureTemplate.Config.Reading
import ClosureTemplate.Output.Docs
import ClosureTemplate.Output.Tokens
import ClosureTemplate.Word.Lexer

namespace ClosureTemplate.Cli

open Config (Settings)
open Files (Host)
open Output (Json Style)

structure Outcome where
  exitCode : Nat := 0
  out : List Text := []
  err : List Text := []
  deriving DecidableEq, Repr

inductive Failure where
  | unreadable (fault : FileFault)
  | diagnosed (error : Error)
  deriving DecidableEq, Repr

/-- Whether a text asks for colour: a number does unless it is zero, and so does all else but
`false`. -/
def asksForColor (value : String) : Bool :=
  let digits := match value.toList with
    | '+' :: digits => digits
    | digits => digits
  let isZero := !digits.isEmpty && digits.all (· = '0')
  value != "false" && !isZero

def isColorForced (host : Host) : Bool :=
  match host.env? "FORCE_COLOR", host.env? "CLICOLOR_FORCE" with
  | some value, _ => asksForColor value
  | none, some value => value != "0"
  | none, none => false

def isTerminalColored (host : Host) : Bool :=
  host.isTerminal && (host.env? "TERM").any (· != "dumb")

/-- Colour can be switched off on the command line and by `NO_COLOR` of any value. -/
def isColored (host : Host) (arguments : Arguments) : Bool :=
  !arguments.noColor && (host.env? "NO_COLOR").isNone &&
    (isColorForced host || isTerminalColored host)

/-- Whether diagnostics are told in sentences instead of drawn. -/
def isNarrated (host : Host) : Bool := (host.env? "NO_GRAPHICS").any (· != "0")

def diagnostic (isNarrated isColored : Bool) (error : Error) : List Text :=
  if isNarrated then
    let advice := (error.help.map ("diagnostic help: " ++ ·)).toList
    let lines := [error.message, "    Diagnostic severity: error"] ++ advice ++
      ["diagnostic code: " ++ error.code]
    lines.map String.toList
  else
    let code := if isColored then "\x1b[31m" ++ error.code ++ "\x1b[0m" else error.code
    let advice := (error.help.map ("  help: " ++ ·)).toList
    ([code, "", "  x " ++ error.message] ++ advice).map String.toList

def Failure.report (host : Host) (isColored : Bool) : Failure → List Text
  | .unreadable fault =>
    [Style.red.paint isColored "error:".toList ++ ' ' :: fault.message.toList]
  | .diagnosed error => diagnostic (isNarrated host) isColored error

def Arguments.root (arguments : Arguments) (host : Host) : String :=
  arguments.path.getD host.workingDirectory

def Command.file : Command → String
  | .tokens file .. => file
  | .docs file .. => file

def Command.mode : Command → Option String
  | .tokens _ mode .. => mode
  | .docs _ mode _ => mode

def scan (source : Text) (mode : Scan.Mode) (cutsWords : Bool) : Except Error (List Symbol) :=
  if cutsWords then Word.tokenizeRange source 0 source.byteSize mode
  else Scan.tokenizeRange source 0 source.byteSize mode

def scanMode (settings : Settings) : Option String → Except Error Scan.Mode
  | some label => Scan.Mode.ofLabel label
  | none => settings.lexer.mode

structure Context where
  path : String
  isColored : Bool
  isVerbose : Bool

/-- Lists tokens. Malformed ones are counted, but only in a listing of text. -/
def tokensOutcome (context : Context) (mode : Scan.Mode) (format : Format)
    (symbols : List Symbol) : Outcome :=
  match format with
  | .json => { out := [Json.render 0 (.array (symbols.map Output.tokenJson))] }
  | .text =>
    let malformed := symbols.countP fun symbol => symbol.kind.isError
    let total :=
      if context.isVerbose then
        [s!"Scanned {symbols.length} token(s) in {mode.label} mode".toList]
      else []
    let warning :=
      if malformed = 0 then []
      else [Style.yellow.paint context.isColored "warning:".toList ++
        s!" {malformed} malformed token(s) in {context.path}".toList]
    { out := symbols.map (Output.tokenLine context.isColored), err := total ++ warning }

def docsOutcome (context : Context) (format : Format) (docs : List Doc.Buffer) : Outcome :=
  match format, docs with
  | .json, docs => { out := [Json.render 0 (.array (docs.map Output.docJson))] }
  | .text, [] => { out := [s!"No documented templates found in {context.path}".toList] }
  | .text, docs => { out := docs.flatMap (Output.docLines context.isColored) }

def Command.outcome (command : Command) (context : Context) (settings : Settings)
    (source : Text) : Except Error Outcome := do
  let mode ← scanMode settings command.mode
  match command with
  | .tokens _ _ raw skipIgnorable format =>
    let symbols ← scan source mode (settings.lexer.fragmentWords && !raw)
    let skips := skipIgnorable || settings.lexer.skipIgnorable
    let shown := symbols.filter fun symbol => !(skips && symbol.isIgnorable)
    return tokensOutcome context mode format shown
  | .docs _ _ format =>
    let symbols ← scan source mode false
    return docsOutcome context format (Output.templateDocs symbols)

def Command.execute (command : Command) (host : Host) (context : Context) (settings : Settings) :
    Except Failure Outcome :=
  match host.read context.path with
  | .error fault => .error (.unreadable fault)
  | .ok source => (command.outcome context settings source).mapError .diagnosed

def settingsNote (host : Host) (root : String) : Text :=
  match Config.resolve? host root with
  | some path => ("Using config: " ++ path).toList
  | none => ("No config found in " ++ root).toList

def Arguments.run (arguments : Arguments) (host : Host) : Outcome :=
  let colored := isColored host arguments
  let failed (notes : List Text) (failure : Failure) : Outcome :=
    { exitCode := 2, err := notes ++ failure.report host colored }
  match arguments.command with
  | none =>
    { exitCode := 1, err := ["No subcommand specified. Run `soy --help` for usage.".toList] }
  | some command =>
    let root := arguments.root host
    match Config.load host root with
    | .error error => failed [] (.diagnosed error)
    | .ok settings =>
      let notes := if arguments.verbose then [settingsNote host root] else []
      let context : Context :=
        { path := Files.join root command.file
          isColored := colored
          isVerbose := arguments.verbose }
      match command.execute host context (settings.getD {}) with
      | .ok outcome => { outcome with err := notes ++ outcome.err }
      | .error failure => failed notes failure

/-- What a line that does not fit comes to. Help and version are no failures. -/
def UsageFault.outcome (host : Host) : UsageFault → Outcome
  | .helpAsked level => { out := level.help.map String.toList }
  | .versionAsked => { out := [versionLine.toList] }
  | fault =>
    let colored := (host.env? "CLICOLOR_FORCE").any (· != "0") &&
      (host.env? "NO_COLOR").all (·.isEmpty)
    let title := Style.bold.paint colored (Style.red.paint colored "error:".toList)
    let lines := fault.message.map String.toList
    let first := title ++ ' ' :: lines.headD []
    let advice := "For more information, try '--help'.".toList
    { exitCode := 2, err := first :: (lines.tail ++ [[], advice]) }

def run (host : Host) (words : List String) : Outcome :=
  match Arguments.parse words with
  | .ok arguments => arguments.run host
  | .error fault => fault.outcome host

def paths (workingDirectory : String) (words : List String) : List String :=
  match Arguments.parse words with
  | .ok { path, command := some command, .. } =>
    let root := path.getD workingDirectory
    (command.file :: Config.candidates).map (Files.join root)
  | _ => []

end ClosureTemplate.Cli
