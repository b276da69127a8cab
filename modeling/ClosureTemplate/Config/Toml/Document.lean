import ClosureTemplate.Config.Toml.Scalar

namespace ClosureTemplate.Config.Toml

abbrev Read (α : Type) := Text → Except Fault (α × Text)

def isSpace (c : Char) : Bool := c == ' ' || c == '\t'

def skipSpaces (text : Text) : Text := text.dropWhile isSpace

def isControl (c : Char) : Bool := (c.toNat < 32 && c != '\t') || c.toNat == 127

def newline? : Text → Option Text
  | '\n' :: rest => some rest
  | '\r' :: '\n' :: rest => some rest
  | _ => none

def skipComment : Text → Except Fault Text
  | '#' :: rest =>
    let isEnd := fun c => c == '\n' || c == '\r'
    if (rest.takeWhile fun c => !isEnd c).any isControl then .error .controlCharacter
    else .ok (rest.dropWhile fun c => !isEnd c)
  | text => .ok text

def skipLines : Nat → Text → Except Fault Text
  | 0, text => .ok text
  | fuel + 1, text => do
    let text ← skipComment (skipSpaces text)
    match newline? text with
    | some rest => skipLines fuel rest
    | none => .ok text

def skipAll (text : Text) : Except Fault Text := skipLines text.length text

def endLine (text : Text) : Except Fault Text := do
  let text ← skipComment (skipSpaces text)
  match text, newline? text with
  | [], _ => .ok []
  | _, some rest => .ok rest
  | _, none => .error .unexpected

def hexEscape (width : Nat) (text : Text) : Except Fault (Char × Text) :=
  let digits := text.take width
  if digits.length = width && digits.all fun c => (Number.digit? 16 c).isSome then
    let code := valueOf 16 digits
    if code.isValidChar then .ok (Char.ofNat code, text.drop width) else .error .invalidEscape
  else .error .invalidEscape

def escape : Read Char
  | 'b' :: rest => .ok ('\x08', rest)
  | 't' :: rest => .ok ('\t', rest)
  | 'n' :: rest => .ok ('\n', rest)
  | 'f' :: rest => .ok ('\x0c', rest)
  | 'r' :: rest => .ok ('\r', rest)
  | 'e' :: rest => .ok ('\x1b', rest)
  | '"' :: rest => .ok ('"', rest)
  | '\\' :: rest => .ok ('\\', rest)
  | 'x' :: rest => hexEscape 2 rest
  | 'u' :: rest => hexEscape 4 rest
  | 'U' :: rest => hexEscape 8 rest
  | _ => .error .invalidEscape

def basicString : Nat → Read Text
  | 0, _ => .error .unterminatedString
  | fuel + 1, text =>
    match text with
    | [] => .error .unterminatedString
    | '"' :: rest => .ok ([], rest)
    | '\\' :: rest => do
      let (c, rest) ← escape rest
      let (content, rest) ← basicString fuel rest
      return (c :: content, rest)
    | c :: rest => do
      if isControl c then .error .unterminatedString
      let (content, rest) ← basicString fuel rest
      return (c :: content, rest)

def literalString (text : Text) : Except Fault (Text × Text) :=
  let content := text.takeWhile fun c => c != '\'' && !isControl c
  match text.drop content.length with
  | '\'' :: rest => .ok (content, rest)
  | _ => .error .unterminatedString

/-- The quotes that end a string over several lines: three, with up to two more before them. -/
def closing? (quote : Char) (text : Text) : Option (Text × Text) :=
  let count := (text.takeWhile (· == quote)).length
  if 3 ≤ count then
    let extra := min (count - 3) 2
    some (List.replicate extra quote, text.drop (extra + 3))
  else none

/-- The rest behind a backslash that ends a line: blanks and newlines count for nothing. -/
def lineContinuation? (text : Text) : Option Text :=
  (newline? (skipSpaces text)).map fun rest =>
    rest.dropWhile fun c => isSpace c || c == '\n' || c == '\r'

def longString (quote : Char) (hasEscapes : Bool) : Nat → Read Text
  | 0, _ => .error .unterminatedString
  | fuel + 1, text =>
    match closing? quote text with
    | some (extra, rest) => .ok (extra, rest)
    | none =>
      match text with
      | [] => .error .unterminatedString
      | c :: rest => do
        if c = '\\' && hasEscapes then
          match lineContinuation? rest with
          | some rest => longString quote hasEscapes fuel rest
          | none =>
            let (c, rest) ← escape rest
            let (content, rest) ← longString quote hasEscapes fuel rest
            return (c :: content, rest)
        else
          let isNewline := (newline? text).isSome
          if isControl c && !isNewline then .error .controlCharacter
          let width := if c = '\r' then 2 else 1
          let (content, rest) ← longString quote hasEscapes fuel (text.drop width)
          return (text.take width ++ content, rest)

def string (text : Text) : Except Fault (Text × Text) :=
  let long (quote : Char) (hasEscapes : Bool) (rest : Text) :=
    longString quote hasEscapes (rest.length + 1) ((newline? rest).getD rest)
  match text with
  | '"' :: '"' :: '"' :: rest => long '"' true rest
  | '\'' :: '\'' :: '\'' :: rest => long '\'' false rest
  | '"' :: rest => basicString (rest.length + 1) rest
  | '\'' :: rest => literalString rest
  | _ => .error .unexpected

def isBareChar (c : Char) : Bool := c.isAlphanum || c == '_' || c == '-'

def simpleKey (text : Text) : Except Fault (String × Text) :=
  match text with
  | '"' :: rest => do
    let (name, rest) ← basicString (rest.length + 1) rest
    return (String.ofList name, rest)
  | '\'' :: rest => do
    let (name, rest) ← literalString rest
    return (String.ofList name, rest)
  | _ =>
    let name := text.takeWhile isBareChar
    if name.isEmpty then .error .unexpected
    else .ok (String.ofList name, text.dropWhile isBareChar)

def dottedKey : Nat → Read (List String)
  | 0, _ => .error .unexpected
  | fuel + 1, text => do
    let (key, rest) ← simpleKey (skipSpaces text)
    match skipSpaces rest with
    | '.' :: rest =>
      let (keys, rest) ← dottedKey fuel rest
      return (key :: keys, rest)
    | rest => return ([key], rest)

def keyPath (text : Text) : Except Fault (List String × Text) := dottedKey (text.length + 1) text

def equals (text : Text) : Except Fault Text :=
  match text with
  | '=' :: rest => .ok (skipSpaces rest)
  | _ => .error .unexpected

/-- Whether a date is followed by a blank and a time, which then belongs to it. -/
def isDateBeforeTime (word rest : Text) : Bool :=
  date? word == some [] &&
    match rest with
    | ' ' :: c :: _ => c.isDigit
    | _ => false

def scalarWord (text : Text) : Except Fault (Scalar × Text) := do
  let word := text.takeWhile isWordChar
  let rest := text.dropWhile isWordChar
  if isDateBeforeTime word rest then
    let time := (rest.drop 1).takeWhile isWordChar
    return (← Scalar.ofWord (word ++ ' ' :: time), (rest.drop 1).dropWhile isWordChar)
  else return (← Scalar.ofWord word, rest)

def maxDepth : Nat := 80

mutual

def value : Nat → Read Item
  | 0, _ => .error .tooDeep
  | depth + 1, text =>
    match text with
    | '[' :: rest => do
      let (items, rest) ← arrayItems depth rest.length rest
      return (.array items, rest)
    | '\x7b' :: rest => do
      let (entries, rest) ← inlineEntries depth rest.length [] rest
      return (.inlineTable entries, rest)
    | '"' :: _ => do
      let (content, rest) ← string text
      return (.scalar (.string content), rest)
    | '\'' :: _ => do
      let (content, rest) ← string text
      return (.scalar (.string content), rest)
    | _ => do
      let (scalar, rest) ← scalarWord text
      return (.scalar scalar, rest)
  termination_by depth => (depth, 0)

def arrayItems (depth : Nat) : Nat → Read (List Item)
  | 0, _ => .error .unexpected
  | fuel + 1, text => do
    match ← skipAll text with
    | ']' :: rest => return ([], rest)
    | text =>
      let (item, rest) ← value depth text
      match ← skipAll rest with
      | ',' :: rest =>
        let (items, rest) ← arrayItems depth fuel rest
        return (item :: items, rest)
      | ']' :: rest => return ([item], rest)
      | _ => .error .unexpected
  termination_by fuel => (depth, fuel + 1)

def inlineEntries (depth : Nat) : Nat → Entries → Read Entries
  | 0, _, _ => .error .unexpected
  | fuel + 1, entries, text => do
    match ← skipAll text with
    | '\x7d' :: rest => return (entries, rest)
    | text =>
      let (path, rest) ← keyPath text
      let (item, rest) ← value depth (← equals rest)
      let entries ← Entries.insertDotted path item .header entries
      match ← skipAll rest with
      | ',' :: rest => inlineEntries depth fuel entries rest
      | '\x7d' :: rest => return (entries, rest)
      | _ => .error .unexpected
  termination_by fuel => (depth, fuel + 1)

end

structure Document where
  entries : Entries := []
  home : List String := []

def header (isListed : Bool) (text : Text) : Except Fault (List String × Text) := do
  let (path, rest) ← keyPath text
  match rest, isListed with
  | ']' :: ']' :: rest, true => return (path, rest)
  | ']' :: rest, false => return (path, rest)
  | _, _ => .error .unexpected

def statement (document : Document) (text : Text) : Except Fault (Document × Text) :=
  match text with
  | '[' :: '[' :: rest => do
    let (path, rest) ← header true rest
    return (⟨← Entries.openListedTable path .header document.entries, path⟩, rest)
  | '[' :: rest => do
    let (path, rest) ← header false rest
    return (⟨← Entries.openTable path .header document.entries, path⟩, rest)
  | _ => do
    let (path, rest) ← keyPath text
    let (item, rest) ← value maxDepth (← equals rest)
    let entries ←
      Entries.update .implied document.home (Entries.insertDotted path item) .header
        document.entries
    return ({ document with entries }, rest)

def statements : Nat → Document → Text → Except Fault Document
  | 0, document, _ => .ok document
  | fuel + 1, document, text => do
    match ← skipAll text with
    | [] => return document
    | text =>
      let (document, rest) ← statement document text
      statements fuel document (← endLine rest)

/-- The entries of a document. A byte order mark in front counts for nothing. -/
def parse (text : Text) : Except Fault Entries := do
  let text := match text with
    | '\ufeff' :: rest => rest
    | text => text
  let document ← statements (text.length + 1) {} text
  return document.entries

end ClosureTemplate.Config.Toml
