/-!
The command line: which options stand where, and what is wrong with a line that does not fit.

Options may stand before or behind the word they belong to. A value that was given is only looked
at when the next option, file or the end of the line comes, so of two faults the first that is
noticed counts.
-/

namespace ClosureTemplate.Cli

inductive Item where
  | path
  | verbose
  | noColor
  | file
  | mode
  | raw
  | skipIgnorable
  | format
  | help
  | version
  deriving DecidableEq, Repr

inductive Level where
  | program
  | tokens
  | docs
  deriving DecidableEq, Repr

inductive UsageFault where
  | unknownArgument (argument : String)
  | unknownCommand (word : String)
  | missingValue (item : Item)
  | invalidValue (item : Item) (value : String)
  | unneededValue (item : Item) (value : String)
  | repeated (item : Item)
  | missingFile
  | helpAsked (level : Level)
  | versionAsked
  deriving DecidableEq, Repr

namespace Item

def takesValue : Item → Bool
  | .path | .file | .mode | .format => true
  | _ => false

def long : Item → String
  | .path => "path"
  | .verbose => "verbose"
  | .noColor => "no-color"
  | .file => "FILE"
  | .mode => "mode"
  | .raw => "raw"
  | .skipIgnorable => "skip-ignorable"
  | .format => "format"
  | .help => "help"
  | .version => "version"

def short? : Item → Option Char
  | .path => some 'p'
  | .verbose => some 'v'
  | .help => some 'h'
  | .version => some 'V'
  | _ => none

def display : Item → String
  | .path => "--path <PATH>"
  | .file => "<FILE>"
  | .mode => "--mode <MODE>"
  | .format => "--format <FORMAT>"
  | item => "--" ++ item.long

/-- Paths are not empty and formats are known; any other value will do. -/
def accepts : Item → String → Bool
  | .path, value | .file, value => !value.isEmpty
  | .format, value => value == "text" || value == "json"
  | _, _ => true

end Item

namespace Level

def options : Level → List Item
  | .program => [.path, .verbose, .noColor, .help, .version]
  | .tokens => [.mode, .raw, .skipIgnorable, .format, .path, .verbose, .noColor, .help]
  | .docs => [.mode, .format, .path, .verbose, .noColor, .help]

def takesFile : Level → Bool
  | .program => false
  | _ => true

def command? : String → Option Level
  | "tokens" => some .tokens
  | "docs" => some .docs
  | _ => none

end Level

/-- What was given at one level: the items that were looked at, and the last one with its value,
which is not. -/
structure Given where
  items : List (Item × String) := []
  pending : Option (Item × Option String) := none
  deriving DecidableEq, Repr

namespace Given

def has (given : Given) (item : Item) : Bool := given.items.any fun entry => entry.1 == item

def value? (given : Given) (item : Item) : Option String := given.items.lookup item

def isWaiting (given : Given) : Bool := given.pending.any fun entry => entry.2.isNone

def hasFile (given : Given) : Bool :=
  given.has .file || given.pending.any fun entry => entry.1 == .file

def accept (given : Given) (item : Item) (value : String) : Except UsageFault Given :=
  if given.has item then .error (.repeated item)
  else if item.accepts value then .ok { given with items := (item, value) :: given.items }
  else .error (.invalidValue item value)

def resolve (given : Given) : Except UsageFault Given :=
  match given.pending with
  | none => .ok given
  | some (item, some value) => { given with pending := none }.accept item value
  | some (item, none) => .error (.missingValue item)

def flag (level : Level) (given : Given) (item : Item) : Except UsageFault Given := do
  let given ← given.resolve
  match item with
  | .help => .error (.helpAsked level)
  | .version => .error .versionAsked
  | item => given.accept item ""

def option (given : Given) (item : Item) (value : Option String) : Except UsageFault Given := do
  let given ← given.resolve
  match value with
  | some value => given.accept item value
  | none => return { given with pending := some (item, none) }

def long (level : Level) (given : Given) (body : List Char) : Except UsageFault Given :=
  let name := String.ofList (body.takeWhile (· != '='))
  let value := match body.dropWhile (· != '=') with
    | _ :: value => some (String.ofList value)
    | [] => none
  match level.options.find? fun item => item.long == name with
  | none => .error (.unknownArgument ("--" ++ name))
  | some item =>
    if item.takesValue then given.option item value
    else match value with
      | some value => .error (.unneededValue item value)
      | none => given.flag level item

/-- A cluster of short options. The first that takes a value takes the rest of the cluster. -/
def shorts (level : Level) : Given → List Char → Except UsageFault Given
  | given, [] => .ok given
  | given, c :: cs =>
    match level.options.find? fun item => item.short? == some c with
    | none => .error (.unknownArgument (String.ofList ['-', c]))
    | some item =>
      if item.takesValue then
        match cs with
        | [] => given.option item none
        | '=' :: value => given.option item (some (String.ofList value))
        | value => given.option item (some (String.ofList value))
      else match given.flag level item with
        | .ok given => shorts level given cs
        | .error fault => .error fault

def word (level : Level) (given : Given) (isTrailing : Bool) (word : String) :
    Except UsageFault Given := do
  if level.takesFile && !given.hasFile then
    let given ← given.resolve
    return { given with pending := some (.file, some word) }
  else if level.takesFile then .error (.unknownArgument word)
  else if isTrailing && (word == "help" || (Level.command? word).isSome) then
    .error (.unknownArgument word)
  else .error (.unknownCommand word)

def finish (level : Level) (given : Given) : Except UsageFault Given := do
  let given ← given.resolve
  if level.takesFile && !given.has .file then .error .missingFile
  else return given

end Given

def helpFault : List String → UsageFault
  | [] => .helpAsked .program
  | ["help"] => .helpAsked .program
  | [word] =>
    match Level.command? word with
    | some level => .helpAsked level
    | none => .unknownCommand word
  | word :: next :: _ =>
    if word == "help" || (Level.command? word).isSome then .unknownCommand next
    else .unknownCommand word

def readLevel (level : Level) : Given → Bool → List String →
    Except UsageFault (Given × Option (Level × List String))
  | given, _, [] => .ok (given, none)
  | given, isTrailing, argument :: arguments =>
    let asWord := do
      let given ← given.word level isTrailing argument
      readLevel level given isTrailing arguments
    if isTrailing then asWord
    else if level = .program && !given.isWaiting && argument == "help" then
      .error (helpFault arguments)
    else
      match if level = .program && !given.isWaiting then Level.command? argument else none with
      | some command => .ok (given, some (command, arguments))
      | none =>
        match argument.toList with
        | ['-', '-'] => readLevel level given true arguments
        | '-' :: '-' :: body => do readLevel level (← given.long level body) false arguments
        | '-' :: c :: cs => do readLevel level (← given.shorts level (c :: cs)) false arguments
        | _ =>
          match given.pending with
          | some (item, none) =>
            readLevel level { given with pending := some (item, some argument) } false arguments
          | _ => asWord

inductive Format where
  | text
  | json
  deriving DecidableEq, Repr

inductive Command where
  | tokens (file : String) (mode : Option String) (raw skipIgnorable : Bool) (format : Format)
  | docs (file : String) (mode : Option String) (format : Format)
  deriving DecidableEq, Repr

structure Arguments where
  path : Option String := none
  verbose : Bool := false
  noColor : Bool := false
  command : Option Command := none
  deriving DecidableEq, Repr

def Format.ofGiven (given : Given) : Format :=
  if given.value? .format == some "json" then .json else .text

def Command.ofGiven (level : Level) (given : Given) : Option Command :=
  let file := (given.value? .file).getD ""
  let mode := given.value? .mode
  match level with
  | .program => none
  | .tokens =>
    some (.tokens file mode (given.has .raw) (given.has .skipIgnorable) (Format.ofGiven given))
  | .docs => some (.docs file mode (Format.ofGiven given))

/-- Options of the program may be given at either level; the inner path counts. -/
def Arguments.ofGiven (outer inner : Given) (command : Option Command) : Arguments where
  path := inner.value? .path <|> outer.value? .path
  verbose := inner.has .verbose || outer.has .verbose
  noColor := inner.has .noColor || outer.has .noColor
  command

/-- Reads a command line. What is wrong behind a command is noticed before a pending value in front
of it is looked at. -/
def Arguments.parse (arguments : List String) : Except UsageFault Arguments := do
  let (outer, next) ← readLevel .program {} false arguments
  match next with
  | none => return .ofGiven (← outer.finish .program) {} none
  | some (level, rest) =>
    let (inner, _) ← readLevel level {} false rest
    let inner ← inner.finish level
    return .ofGiven (← outer.finish .program) inner (Command.ofGiven level inner)

end ClosureTemplate.Cli
