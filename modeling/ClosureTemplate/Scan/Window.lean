import ClosureTemplate.Scan.Scanner

/-!
Scanning by byte offsets. A window keeps the whole source and looks up in it whatever it wants to
see, and nothing but the bounds of each of these reads holds it to its range. The widths of its
emissions count bytes.
-/

namespace ClosureTemplate.Scan

open Text (before? byteSize isBlank isHexDigit)

structure Window where
  source : Text
  start : Nat
  stop : Nat
  cursor : Point
  state : State

namespace Window

def ofRange (source : Text) (start stop : Nat) (mode : Mode) : Window :=
  { source, start, stop, cursor := .startOf start, state := .initial mode }

variable (window : Window)

def offset : Nat := window.cursor.offset

def rest : Text := (window.source.slice? window.offset window.stop).getD []

def charAt? (offset : Nat) : Option Char :=
  (window.source.slice? offset window.stop).bind List.head?

def previous? : Option Char :=
  (window.source.slice? window.start window.offset).bind List.getLast?

def findFrom? (offset : Nat) (needle : Text) : Option Nat :=
  ((window.source.slice? offset window.stop).bind (before? needle)).map fun body =>
    offset + body.byteSize

def lineRemainder : Nat := byteSize (window.rest.takeWhile (· != '\n'))

def ahead (length : Nat) : Text := (window.rest.takeBytes? length).getD []

def peek? {lexeme : Type} (lexeme? : Char → Text → Option (lexeme × Nat)) : Option (lexeme × Nat) :=
  match window.rest with
  | [] => none
  | head :: tail =>
    (lexeme? head tail).map fun (found, width) => (found, byteSize ((head :: tail).take width))

def stringTerminates (terminator : Char) : Bool := State.terminates terminator (window.rest.drop 1)

def escapeDigits (length : Nat) : Nat :=
  Text.run isHexDigit (((window.rest.dropBytes? length).getD []).take 4)

def emit (kind : Kind) (length : Nat) : Emission := { kind, width := length, state := window.state }

def badCharacter : Emission :=
  window.emit .badCharacter ((window.rest.head?.map Char.utf8Size).getD 1)

def openTag (isDoubled isClosing : Bool) (length : Nat) : Emission where
  kind := if isClosing then .endTagOpen else .tagOpen
  width := length
  state :=
    { window.state.push .tagCommand with
      tag := { isClosing, isDoubled }
      tagLine := window.cursor.line }

def closeBrace (isSelfClosing : Bool) : Emission :=
  let kind : Kind := if isSelfClosing then .tagSelfClose else .tagClose
  let length := if isSelfClosing then 2 else 1
  if window.state.tag.isDoubled then
    if window.charAt? (window.offset + length) = some '}' then
      window.state.closeTag kind (length + 1)
    else window.emit (if isSelfClosing then .divide else .rbrace) 1
  else window.state.closeTag kind length

def reopenTag : Emission where
  kind := .unterminatedTag
  width := 1
  state := { window.state.enter .tagCommand with tag := {}, tagLine := window.cursor.line }

def blockComment : Emission :=
  match window.findFrom? (window.offset + 2) "*/".toList with
  | some close => window.emit .comment (close + 2 - window.offset)
  | none => window.emit .unterminatedComment (window.stop - window.offset)

def openDoc (length : Nat) : Emission :=
  if window.charAt? (window.offset + length) = some '/' then window.emit .comment (length + 1)
  else if (window.findFrom? (window.offset + length) "*/".toList).isNone then
    window.emit .unterminatedComment (window.stop - window.offset)
  else
    { kind := .docBegin
      width := length
      state :=
        { window.state.push .docComment with doc := window.state.doc.reset, docActive := true } }

def scanDocComment : Emission :=
  match window.peek? fun head tail => some (docLexeme head tail) with
  | none => window.badCharacter
  | some (lexeme, length) =>
    let text := window.ahead length
    match lexeme with
    | .close =>
      let doc := window.state.doc.close
      { kind := .docEnd
        width := length
        state := { window.state.pop with doc }
        value := some (.doc doc) }
    | .word =>
      let (anticipating, doc) := window.state.doc.anticipating
      { kind := State.docKind .word text anticipating
        width := length
        state := { window.state with doc := doc.append text } }
    | lexeme =>
      { kind := State.docKind lexeme text false
        width := length
        state := { window.state with doc := window.state.doc.append text } }

def scanTemplateText : Emission :=
  match window.peek? fun head tail => some (textLexeme head tail) with
  | none => window.badCharacter
  | some (.tagOpen isDoubled isClosing, length) => window.openTag isDoubled isClosing length
  | some (.close, length) => window.emit .strayBrace length
  | some (.comment, _) => window.blockComment
  | some (.doc, length) => window.openDoc length
  | some (.lineComment, length) =>
    if window.previous?.all isBlank then window.emit .lineComment length
    else window.emit .templateText 2
  | some (.blank, length) => window.emit .blank length
  | some (.text, length) => window.emit .templateText length

def scanLiteral : Move :=
  match window.findFrom? window.offset "\x7b/literal\x7d".toList with
  | some close =>
    if close = window.offset then .shift .templateText
    else
      .emit
        { kind := .literalText
          width := close - window.offset
          state := window.state.enter .templateText }
  | none => .emit (window.emit .unterminatedLiteral (window.stop - window.offset))

def scanTagCommand : Move :=
  match window.peek? tagLexeme? with
  | some (.word, length) =>
    match Kind.command? (window.ahead length) with
    | some kind => .emit (window.state.commandWord kind length)
    | none =>
      if window.state.tag.isClosing then
        .emit { kind := .illegalCloseTag, width := length, state := window.state.enter .attributes }
      else .shift .expression
  | _ =>
    if window.state.tag.isClosing then .shift .attributes
    else if State.isSpecialEscape (window.ahead 2) then
      let tag := { window.state.tag with command := some .specialChar }
      .emit
        { kind := .specialChar, width := 2, state := { window.state.enter .attributes with tag } }
    else .shift .expression

def scanName : Move :=
  match window.peek? nameLexeme? with
  | some (.blank, length) => .emit (window.emit .blank length)
  | some (lexeme, length) =>
    match window.state.nameOf lexeme (window.ahead length) window.cursor.line with
    | some (kind, state) => .emit { kind, width := length, state := state.enter .attributes }
    | none => .shift .attributes
  | none => .shift .attributes

def openString (terminator : Char) (inAttribute : Bool) : Emission :=
  if window.stringTerminates terminator then
    { kind := .stringBegin
      width := 1
      state := { window.state.push .stringLiteral with quote := { terminator, inAttribute } } }
  else window.emit .unterminatedString window.lineRemainder

def stringEscape (length : Nat) : Emission :=
  match window.ahead length with
  | _ :: 'u' :: _ =>
    if window.escapeDigits length = 4 then window.emit .stringEscape (length + 4)
    else window.emit .badStringEscape length
  | _ :: c :: _ =>
    if "nrtbf\\'\"".toList.contains c then window.emit .stringEscape length
    else window.emit .badStringEscape length
  | _ => window.badCharacter

def scanString : Emission :=
  match window.peek? stringLexeme? with
  | some (.quote terminator, length) =>
    if terminator = window.state.quote.terminator then
      { kind := .stringEnd, width := length, state := { window.state.pop with quote := {} } }
    else window.emit .stringText length
  | some (.variable, length) =>
    window.emit (if window.state.quote.inAttribute then .stringParameterRef else .stringText) length
  | some (.escape, length) => window.stringEscape length
  | some (.text, length) => window.emit .stringText length
  | none => window.badCharacter

def scanAttributes : Emission :=
  match window.peek? attributeLexeme? with
  | some (.blank, length) => window.emit .blank length
  | some (.word, length) => window.emit .identifier length
  | some (.assign, length) => window.emit .assign length
  | some (.colon, length) =>
    if window.state.tag.command = some .paramWord || window.state.tag.command = some .letWord then
      { kind := .colon, width := length, state := window.state.enter .expression }
    else window.badCharacter
  | some (.quote terminator, _) => window.openString terminator true
  | some (.lbrace, length) =>
    if window.state.tag.isDoubled then window.emit .lbrace length else window.reopenTag
  | some (.rbrace, _) => window.closeBrace false
  | some (.slashRbrace, _) => window.closeBrace true
  | none => window.badCharacter

def scanDirective : Move :=
  match window.peek? tagLexeme? with
  | some (.blank, length) => .emit (window.emit .blank length)
  | some (.word, length) =>
    .emit
      { kind := .directiveIdentifier, width := length, state := window.state.enter .expression }
  | _ => .shift .expression

def expressionWord (length : Nat) : Emission :=
  let word := window.ahead length
  match Kind.keyword? word with
  | some .booleanLiteral =>
    { kind := .booleanLiteral
      width := length
      state := window.state
      value := some (.boolean (word = "true".toList)) }
  | some keyword => window.emit keyword length
  | none =>
    window.emit
      (if window.charAt? (window.offset + length) = some '(' then .functionIdentifier
        else .identifier)
      length

def scanExpression : Emission :=
  match window.peek? tagLexeme? with
  | some (.blank, length) => window.emit .blank length
  | some (.word, length) => window.expressionWord length
  | some (.variable, length) =>
    { kind := .parameterRef
      width := length
      state := window.state.referParameter ((window.ahead length).drop 1) }
  | some (.decimal, length) => window.state.integerLiteral 10 (window.ahead length) length
  | some (.hex, length) => window.state.integerLiteral 16 ((window.ahead length).drop 2) length
  | some (.float, length) =>
    let value := Number.Double.ofLiteral (window.ahead length)
    { kind := .floatLiteral, width := length, state := window.state, value := some (.float value) }
  | some (.operator kind, length) => window.emit kind length
  | some (.colon, length) =>
    window.emit (if window.state.tag.inDirective then .directiveColon else .colon) length
  | some (.comma, length) =>
    window.emit (if window.state.tag.inDirective then .directiveComma else .comma) length
  | some (.pipe, length) =>
    let tag := { window.state.tag with inDirective := true }
    { kind := .directivePipe
      width := length
      state := { window.state.enter .directive with tag } }
  | some (.quote terminator, _) => window.openString terminator false
  | some (.lbrace, length) =>
    if window.state.tag.isDoubled then window.emit .lbrace length else window.reopenTag
  | some (.rbrace, _) => window.closeBrace false
  | some (.slashRbrace, _) => window.closeBrace true
  | none => window.badCharacter

def move : Move :=
  match window.state.mode with
  | .templateText => .emit window.scanTemplateText
  | .tagCommand => window.scanTagCommand
  | .expression => .emit window.scanExpression
  | .name => window.scanName
  | .attributes => .emit window.scanAttributes
  | .directive => window.scanDirective
  | .stringLiteral => .emit window.scanString
  | .docComment => .emit window.scanDocComment
  | .literal => window.scanLiteral

def enter (mode : Mode) : Window := { window with state := window.state.enter mode }

def emission : Emission :=
  match window.move with
  | .emit emission => emission
  | .shift mode =>
    match (window.enter mode).move with
    | .emit emission => emission
    | .shift mode => (window.enter mode).badCharacter

def eof : Symbol where
  kind := .eof
  text := []
  start := window.stop
  stop := window.stop
  line := window.cursor.line
  column := window.cursor.column

/-- The text of an emission is cut out of the source, whatever the range. -/
def take (emission : Emission) : Symbol × Window :=
  let stop := window.offset + emission.width
  let text := (window.source.slice? window.offset stop).getD []
  let symbol : Symbol :=
    { kind := emission.kind
      text
      start := window.offset
      stop
      line := window.cursor.line
      column := window.cursor.column
      value := emission.value }
  (symbol, { window with cursor := window.cursor.advance text, state := emission.state })

def advance : Symbol × Window :=
  if window.stop ≤ window.offset then (window.eof, window) else window.take window.emission

end Window

end ClosureTemplate.Scan
