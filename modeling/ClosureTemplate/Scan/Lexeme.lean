import ClosureTemplate.Text.Blank
import ClosureTemplate.Text.Identifier
import ClosureTemplate.Token.Kind

/-!
The raw lexemes at the head of a text, one class per family of modes. Each function gives the
longest lexeme and its width in characters; none stands for a text that starts with no lexeme of
the family.
-/

namespace ClosureTemplate.Scan

open Text (isTagBlank isNameStart isNameChar isDigit isHexDigit isLetter run identifierLength
  dottedLength)

inductive TextLexeme where
  | tagOpen (isDoubled isClosing : Bool)
  | close
  | comment
  | doc
  | lineComment
  | blank
  | text
  deriving DecidableEq, Repr

def isPlainText (c : Char) : Bool := !(isTagBlank c || c == '{' || c == '}' || c == '/')

def textLexeme : Char → Text → TextLexeme × Nat
  | '{', '{' :: '/' :: _ => (.tagOpen true true, 3)
  | '{', '{' :: _ => (.tagOpen true false, 2)
  | '{', '/' :: _ => (.tagOpen false true, 2)
  | '{', _ => (.tagOpen false false, 1)
  | '}', _ => (.close, 1)
  | '/', '*' :: '*' :: _ => (.doc, 3)
  | '/', '*' :: _ => (.comment, 2)
  | '/', '/' :: cs => (.lineComment, 2 + run (· != '\n') cs)
  | '/', _ => (.text, 1)
  | c, cs =>
    if isTagBlank c then (.blank, 1 + run isTagBlank cs) else (.text, 1 + run isPlainText cs)

inductive TagLexeme where
  | blank
  | word
  | variable
  | decimal
  | hex
  | float
  | operator (kind : Kind)
  | colon
  | comma
  | pipe
  | quote (terminator : Char)
  | lbrace
  | rbrace
  | slashRbrace
  deriving DecidableEq, Repr

def exponentLength : Text → Nat
  | mark :: cs =>
    if mark == 'e' || mark == 'E' then
      match cs with
      | sign :: ds =>
        if sign == '+' || sign == '-' then
          if run isDigit ds = 0 then 0 else 2 + run isDigit ds
        else if run isDigit cs = 0 then 0 else 1 + run isDigit cs
      | [] => 0
    else 0
  | [] => 0

def fractionLength : Text → Nat
  | '.' :: cs => if run isDigit cs = 0 then 0 else 1 + run isDigit cs
  | _ => 0

def hexLength : Text → Nat
  | mark :: cs => if mark == 'x' || mark == 'X' then run isHexDigit cs else 0
  | [] => 0

def numberLexeme (c : Char) (cs : Text) : TagLexeme × Nat :=
  if c = '0' && 0 < hexLength cs then (.hex, 2 + hexLength cs)
  else
    let after := cs.dropWhile isDigit
    let fraction := fractionLength after
    let exponent := exponentLength (after.drop fraction)
    if fraction + exponent = 0 then (.decimal, 1 + run isDigit cs)
    else (.float, 1 + run isDigit cs + fraction + exponent)

def variableLexeme? {lexeme : Type} (found : lexeme) (cs : Text) : Option (lexeme × Nat) :=
  if identifierLength cs = 0 then none else some (found, 1 + identifierLength cs)

def punctuation? : Char → Text → Option (TagLexeme × Nat)
  | '=', '=' :: _ => some (.operator .equal, 2)
  | '!', '=' :: _ => some (.operator .notEqual, 2)
  | '<', '=' :: _ => some (.operator .lessEqual, 2)
  | '>', '=' :: _ => some (.operator .greaterEqual, 2)
  | '?', ':' :: _ => some (.operator .elvis, 2)
  | '?', '.' :: _ => some (.operator .questionDot, 2)
  | '/', '}' :: _ => some (.slashRbrace, 2)
  | '=', _ => some (.operator .assign, 1)
  | '<', _ => some (.operator .less, 1)
  | '>', _ => some (.operator .greater, 1)
  | '+', _ => some (.operator .plus, 1)
  | '-', _ => some (.operator .minus, 1)
  | '*', _ => some (.operator .times, 1)
  | '/', _ => some (.operator .divide, 1)
  | '%', _ => some (.operator .modulo, 1)
  | '?', _ => some (.operator .question, 1)
  | '(', _ => some (.operator .lparen, 1)
  | ')', _ => some (.operator .rparen, 1)
  | '[', _ => some (.operator .lbracket, 1)
  | ']', _ => some (.operator .rbracket, 1)
  | '.', _ => some (.operator .dot, 1)
  | ':', _ => some (.colon, 1)
  | ',', _ => some (.comma, 1)
  | '|', _ => some (.pipe, 1)
  | '\'', _ => some (.quote '\'', 1)
  | '"', _ => some (.quote '"', 1)
  | '{', _ => some (.lbrace, 1)
  | '}', _ => some (.rbrace, 1)
  | _, _ => none

def tagLexeme? (c : Char) (cs : Text) : Option (TagLexeme × Nat) :=
  if isTagBlank c then some (.blank, 1 + run isTagBlank cs)
  else if isNameStart c then some (.word, 1 + run isNameChar cs)
  else if isDigit c then some (numberLexeme c cs)
  else if c = '$' then variableLexeme? .variable cs
  else punctuation? c cs

inductive NameLexeme where
  | blank
  | dotted
  | variable
  deriving DecidableEq, Repr

def nameLexeme? (c : Char) (cs : Text) : Option (NameLexeme × Nat) :=
  if isTagBlank c then some (.blank, 1 + run isTagBlank cs)
  else if c = '$' then variableLexeme? .variable cs
  else if c = '.' then
    if dottedLength cs = 0 then none else some (.dotted, 1 + dottedLength cs)
  else
    if dottedLength (c :: cs) = 0 then none else some (.dotted, dottedLength (c :: cs))

inductive AttributeLexeme where
  | blank
  | word
  | assign
  | colon
  | quote (terminator : Char)
  | lbrace
  | rbrace
  | slashRbrace
  deriving DecidableEq, Repr

def isAttributeChar (c : Char) : Bool := isNameChar c || c == '-'

def attributeLexeme? (c : Char) (cs : Text) : Option (AttributeLexeme × Nat) :=
  if isTagBlank c then some (.blank, 1 + run isTagBlank cs)
  else if isNameStart c then some (.word, 1 + run isAttributeChar cs)
  else match c, cs with
    | '=', _ => some (.assign, 1)
    | ':', _ => some (.colon, 1)
    | '\'', _ => some (.quote '\'', 1)
    | '"', _ => some (.quote '"', 1)
    | '{', _ => some (.lbrace, 1)
    | '}', _ => some (.rbrace, 1)
    | '/', '}' :: _ => some (.slashRbrace, 2)
    | _, _ => none

inductive StringLexeme where
  | text
  | escape
  | variable
  | quote (terminator : Char)
  deriving DecidableEq, Repr

def isStringText (c : Char) : Bool :=
  !(c == '\'' || c == '"' || c == '\\' || c == '\n' || c == '$')

def stringLexeme? : Char → Text → Option (StringLexeme × Nat)
  | '\'', _ => some (.quote '\'', 1)
  | '"', _ => some (.quote '"', 1)
  | '$', cs => some ((variableLexeme? .variable cs).getD (.text, 1))
  | '\\', escaped :: _ => if escaped = '\n' then none else some (.escape, 2)
  | '\\', [] => none
  | '\n', _ => none
  | _, cs => some (.text, 1 + run isStringText cs)

inductive DocLexeme where
  | blank
  | close
  | tag
  | word
  | text
  deriving DecidableEq, Repr

def isDocText (c : Char) : Bool := !(isTagBlank c || c == '*' || c == '@' || isNameStart c)

def docTagLength (cs : Text) : Nat :=
  if (cs.dropWhile isLetter).head? = some '?' then run isLetter cs + 1 else run isLetter cs

def docLexeme : Char → Text → DocLexeme × Nat
  | '*', '/' :: _ => (.close, 2)
  | '*', _ => (.text, 1)
  | '@', cs => if run isLetter cs = 0 then (.text, 1) else (.tag, 1 + docTagLength cs)
  | c, cs =>
    if isTagBlank c then (.blank, 1 + run isTagBlank cs)
    else if isNameStart c then (.word, 1 + run isNameChar cs)
    else (.text, 1 + run isDocText cs)

end ClosureTemplate.Scan
