import ClosureTemplate.Doc.Line
import ClosureTemplate.Doc.Usage
import ClosureTemplate.Table

/-!
The doc comment of one template. Text arrives in any chunks and is read a line at a time: lines
before the first `@param` marker make up the description, a marker opens the section of its
parameter, and the lines up to the next marker continue it.
-/

namespace ClosureTemplate.Doc

structure Parameter where
  description : Text := []
  isOptional : Bool := false
  deriving DecidableEq, Repr

/-- What the next line belongs to. A marker without a readable name discards the lines after it. -/
inductive Section where
  | description
  | parameter (name : Text)
  | discarded
  deriving DecidableEq, Repr

structure Buffer where
  namespaceName : Option Text := none
  templateName : Option Text := none
  templateLine : Option Nat := none
  description : Option Text := none
  parameters : Table Text Parameter := []
  usages : Table Text Usage := []
  current : Section := .description
  pending : Text := []
  captured : List Text := []
  deriving DecidableEq, Repr

namespace Buffer

def empty : Buffer := {}

def ofNamespace (name : Text) : Buffer := { namespaceName := some name }

/-- Text is kept unread until a newline is flushed or the buffer is closed. -/
def append (buffer : Buffer) (text : Text) : Buffer :=
  { buffer with pending := buffer.pending ++ text }

/-- Opens the section of the parameter named at the head of `body`. A parameter that was declared
before keeps its place and its description. -/
def startParameter (buffer : Buffer) (isOptional : Bool) (body : Text) : Buffer :=
  let width := Text.dottedLength body
  if width = 0 then { buffer with current := .discarded }
  else
    let name := body.take width
    let known := (buffer.parameters.get? name).getD {}
    let description := joinSegments known.description (Text.trim (body.drop width))
    { buffer with
      parameters := buffer.parameters.put name ⟨description, isOptional⟩
      current := .parameter name }

def continueSection (buffer : Buffer) (line : Text) : Buffer :=
  match buffer.current with
  | .description =>
    { buffer with description := some (joinSegments (buffer.description.getD []) line) }
  | .parameter name =>
    match buffer.parameters.get? name with
    | some parameter =>
      let description := joinSegments parameter.description line
      { buffer with parameters := buffer.parameters.put name { parameter with description } }
    | none => buffer
  | .discarded => buffer

def readLine (buffer : Buffer) (raw : Text) : Buffer :=
  let buffer := { buffer with captured := buffer.captured ++ [raw] }
  let line := cleanLine raw
  match markerRest? line with
  | some rest => let (isOptional, body) := markerBody rest; buffer.startParameter isOptional body
  | none => buffer.continueSection line

def flush (buffer : Buffer) : Buffer :=
  let (lines, rest) := splitLines buffer.pending
  lines.foldl readLine { buffer with pending := rest }

/-- Reads all pending text, a last line without newline included. -/
def close (buffer : Buffer) : Buffer :=
  let flushed := buffer.flush
  if flushed.pending.isEmpty then flushed
  else { flushed with pending := [] }.readLine flushed.pending

/-- Forgets the comment. The namespace belongs to the file and stays. -/
def reset (buffer : Buffer) : Buffer := { namespaceName := buffer.namespaceName }

def snapshot (buffer : Buffer) : Buffer × Buffer := (buffer.close, buffer.close.reset)

/-- Whether a parameter name is due, asked of the flushed buffer. -/
def anticipating (buffer : Buffer) : Bool × Buffer :=
  (anticipatesName buffer.flush.pending, buffer.flush)

def recordUse (buffer : Buffer) (name : Text) : Buffer :=
  let usage := (buffer.usages.get? name).getD .undefined
  { buffer with usages := buffer.usages.put name (usage.merge .ambiguous) }

def ofText (namespaceName : Option Text) (text : Text) : Buffer :=
  (append { namespaceName } text).close

def usage (buffer : Buffer) (name : Text) : Usage := (buffer.usages.get? name).getD .undefined

def description? (buffer : Buffer) : Option Text := buffer.description.filter (!·.isEmpty)

def parameterNames (buffer : Buffer) : List Text := buffer.parameters.keys

/-- The template's name behind its namespace; a template without a name is written `???`. -/
def qualifiedName (buffer : Buffer) : Text :=
  buffer.namespaceName.getD [] ++ buffer.templateName.getD "???".toList

def display (buffer : Buffer) : Text :=
  buffer.qualifiedName ++ '(' :: ([','].intercalate buffer.parameterNames ++ ");".toList)

/-- Equality of buffers: the order in which parameters and usages were recorded does not count. -/
def same (a b : Buffer) : Bool :=
  a.namespaceName = b.namespaceName && a.templateName = b.templateName &&
  a.templateLine = b.templateLine && a.description = b.description &&
  a.parameters.sameEntries b.parameters && a.usages.sameEntries b.usages &&
  a.current = b.current && a.pending = b.pending && a.captured = b.captured

end Buffer

end ClosureTemplate.Doc
