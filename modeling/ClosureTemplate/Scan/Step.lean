import ClosureTemplate.Number.Digits
import ClosureTemplate.Scan.Lexeme
import ClosureTemplate.Scan.State

/-!
One step of a scan. Every mode looks at the text and either emits a token or gives way to another
mode without taking any text; the mode it gives way to always emits.
-/

namespace ClosureTemplate.Scan

open Text (before? isBlank isHexDigit)

/-- A token, or a change of mode that takes no text. -/
inductive Move where
  | emit (emission : Emission)
  | shift (mode : Mode)

namespace State

def openTag (state : State) (view : View) (isDoubled isClosing : Bool) (width : Nat) :
    Emission where
  kind := if isClosing then .endTagOpen else .tagOpen
  width
  state := { state.push .tagCommand with tag := { isClosing, isDoubled }, tagLine := view.line }

/-- Leaves the tag. The closing brace of an opening `literal` tag starts its raw content. -/
def closeTag (state : State) (kind : Kind) (width : Nat) : Emission :=
  let opensLiteral :=
    state.tag.command = some .literalWord && !state.tag.isClosing && kind = .tagClose
  let after := { state.pop with tag := {} }
  { kind, width, state := if opensLiteral then after.enter .literal else after }

/-- A `}` or `/}` inside a tag. A tag opened by two braces needs two to close. -/
def closeBrace (state : State) (view : View) (isSelfClosing : Bool) : Emission :=
  let kind : Kind := if isSelfClosing then .tagSelfClose else .tagClose
  let width := if isSelfClosing then 2 else 1
  if state.tag.isDoubled then
    if (view.rest.drop width).head? = some '}' then state.closeTag kind (width + 1)
    else { kind := if isSelfClosing then .divide else .rbrace, width := 1, state }
  else state.closeTag kind width

/-- A `{` inside a tag: the open tag was never closed, so a new one starts here. -/
def reopenTag (state : State) (view : View) : Emission where
  kind := .unterminatedTag
  width := 1
  state := { state.enter .tagCommand with tag := {}, tagLine := view.line }

def badCharacter (state : State) : Emission where
  kind := .badCharacter
  width := 1
  state

def blockComment (state : State) (view : View) : Emission :=
  match before? "*/".toList (view.rest.drop 2) with
  | some body => { kind := .comment, width := body.length + 4, state }
  | none => { kind := .unterminatedComment, width := view.rest.length, state }

/-- A `/**`. The text `/**/` is an empty block comment. -/
def openDoc (state : State) (view : View) : Emission :=
  if (view.rest.drop 3).head? = some '/' then { kind := .comment, width := 4, state }
  else if (before? "*/".toList (view.rest.drop 3)).isNone then
    { kind := .unterminatedComment, width := view.rest.length, state }
  else
    { kind := .docBegin
      width := 3
      state := { state.push .docComment with doc := state.doc.reset, docActive := true } }

def docKind (lexeme : DocLexeme) (text : Text) (anticipating : Bool) : Kind :=
  match lexeme with
  | .blank => .docBlank
  | .close => .docEnd
  | .tag => if text = "@param".toList || text = "@param?".toList then .docParamTag else .docTag
  | .word => if anticipating then .docIdentifier else .docText
  | .text => .docText

/-- Feeds the doc comment to its buffer. Words ask the buffer whether they name a parameter. -/
def scanDocComment (state : State) (view : View) : Emission :=
  let (lexeme, width) := docLexeme view.head view.tail
  let text := view.rest.take width
  match lexeme with
  | .close =>
    let doc := state.doc.close
    { kind := .docEnd, width, state := { state.pop with doc }, value := some (.doc doc) }
  | .word =>
    let (anticipating, doc) := state.doc.anticipating
    { kind := docKind .word text anticipating
      width
      state := { state with doc := doc.append text } }
  | lexeme =>
    { kind := docKind lexeme text false
      width
      state := { state with doc := state.doc.append text } }

def scanTemplateText (state : State) (view : View) : Emission :=
  let (lexeme, width) := textLexeme view.head view.tail
  match lexeme with
  | .tagOpen isDoubled isClosing => state.openTag view isDoubled isClosing width
  | .close => { kind := .strayBrace, width, state }
  | .comment => state.blockComment view
  | .doc => state.openDoc view
  | .lineComment =>
    if view.previous.all isBlank then { kind := .lineComment, width, state }
    else { kind := .templateText, width := 2, state }
  | .blank => { kind := .blank, width, state }
  | .text => { kind := .templateText, width, state }

def scanLiteral (state : State) (view : View) : Move :=
  match before? "\x7b/literal\x7d".toList view.rest with
  | some [] => .shift .templateText
  | some content =>
    .emit { kind := .literalText, width := content.length, state := state.enter .templateText }
  | none => .emit { kind := .unterminatedLiteral, width := view.rest.length, state }

def followMode : Kind → Mode
  | .namespaceWord | .aliasWord | .delpackageWord | .templateWord | .deltemplateWord | .callWord
  | .delcallWord | .paramWord | .letWord => .name
  | .ifWord | .elseIfWord | .switchWord | .caseWord | .foreachWord | .forWord | .printWord
  | .cssWord => .expression
  | _ => .attributes

def handOutDoc (state : State) (kind : Kind) : Option Value × State :=
  if kind = .templateWord || kind = .deltemplateWord then
    let state := { state with templateName := none }
    if state.docActive then
      let (finished, doc) := state.doc.snapshot
      (some (.doc finished), { state with doc, docActive := false })
    else (none, state)
  else (none, state)

def commandWord (state : State) (kind : Kind) (width : Nat) : Emission :=
  let state := { state with tag := { state.tag with command := some kind } }
  if state.tag.isClosing then
    let (value, state) := (state.enter .attributes).handOutDoc kind
    { kind, width, state, value }
  else { kind, width, state := state.enter (followMode kind) }

def isSpecialEscape : Text → Bool
  | '\\' :: c :: _ => c == 'n' || c == 'r' || c == 't'
  | _ => false

def scanTagCommand (state : State) (view : View) : Move :=
  match tagLexeme? view.head view.tail with
  | some (.word, width) =>
    match Kind.command? (view.rest.take width) with
    | some kind => .emit (state.commandWord kind width)
    | none =>
      if state.tag.isClosing then
        .emit { kind := .illegalCloseTag, width, state := state.enter .attributes }
      else .shift .expression
  | _ =>
    if state.tag.isClosing then .shift .attributes
    else if isSpecialEscape view.rest then
      let tag := { state.tag with command := some .specialChar }
      .emit { kind := .specialChar, width := 2, state := { state.enter .attributes with tag } }
    else .shift .expression

def declareNamespace (state : State) (name : Text) : State :=
  { state with namespaceName := some name, doc := { state.doc with namespaceName := some name } }

def declareTemplate (state : State) (name : Text) (line : Nat) : State :=
  let state := { state with templateName := some name }
  if state.docActive then
    { state with doc := { state.doc with templateName := some name, templateLine := some line } }
  else state

def nameOf (state : State) (lexeme : NameLexeme) (text : Text) (line : Nat) :
    Option (Kind × State) :=
  match lexeme, state.tag.command with
  | .dotted, some .namespaceWord => some (.namespaceIdentifier, state.declareNamespace text)
  | .dotted, some .aliasWord => some (.namespaceIdentifier, state)
  | .dotted, some .delpackageWord => some (.packageIdentifier, state)
  | .dotted, some .templateWord => some (.templateIdentifier, state.declareTemplate text line)
  | .dotted, some .deltemplateWord => some (.deltemplateIdentifier, state.declareTemplate text line)
  | .dotted, some .callWord => some (.templateIdentifier, state)
  | .dotted, some .delcallWord => some (.deltemplateIdentifier, state)
  | .dotted, some .paramWord => some (.parameterDef, state)
  | .variable, some .letWord => some (.letIdentifier, state)
  | _, _ => none

def scanName (state : State) (view : View) : Move :=
  match nameLexeme? view.head view.tail with
  | some (.blank, width) => .emit { kind := .blank, width, state }
  | some (lexeme, width) =>
    match state.nameOf lexeme (view.rest.take width) view.line with
    | some (kind, state) => .emit { kind, width, state := state.enter .attributes }
    | none => .shift .attributes
  | none => .shift .attributes

/-- Whether the terminator comes before the line ends; a backslash hides the character behind it. -/
def terminates (terminator : Char) : Text → Bool
  | [] => false
  | '\\' :: [] => false
  | '\\' :: c :: cs => if c = '\n' then false else terminates terminator cs
  | c :: cs =>
    if c = '\n' then false else if c = terminator then true else terminates terminator cs

/-- A quote opens a string if its partner is on the same line, else the line is given up. -/
def openString (state : State) (view : View) (terminator : Char) (inAttribute : Bool) : Emission :=
  if terminates terminator view.tail then
    { kind := .stringBegin
      width := 1
      state := { state.push .stringLiteral with quote := { terminator, inAttribute } } }
  else
    { kind := .unterminatedString, width := Text.run (· != '\n') view.rest, state }

def stringEscape (state : State) (view : View) : Emission :=
  match view.tail with
  | 'u' :: cs =>
    if Text.run isHexDigit (cs.take 4) = 4 then { kind := .stringEscape, width := 6, state }
    else { kind := .badStringEscape, width := 2, state }
  | c :: _ =>
    if "nrtbf\\'\"".toList.contains c then { kind := .stringEscape, width := 2, state }
    else { kind := .badStringEscape, width := 2, state }
  | [] => state.badCharacter

def scanString (state : State) (view : View) : Emission :=
  match stringLexeme? view.head view.tail with
  | some (.quote terminator, width) =>
    if terminator = state.quote.terminator then
      { kind := .stringEnd, width, state := { state.pop with quote := {} } }
    else { kind := .stringText, width, state }
  | some (.variable, width) =>
    { kind := if state.quote.inAttribute then .stringParameterRef else .stringText, width, state }
  | some (.escape, _) => state.stringEscape view
  | some (.text, width) => { kind := .stringText, width, state }
  | none => state.badCharacter

def scanAttributes (state : State) (view : View) : Emission :=
  match attributeLexeme? view.head view.tail with
  | some (.blank, width) => { kind := .blank, width, state }
  | some (.word, width) => { kind := .identifier, width, state }
  | some (.assign, width) => { kind := .assign, width, state }
  | some (.colon, width) =>
    if state.tag.command = some .paramWord || state.tag.command = some .letWord then
      { kind := .colon, width, state := state.enter .expression }
    else state.badCharacter
  | some (.quote terminator, _) => state.openString view terminator true
  | some (.lbrace, width) =>
    if state.tag.isDoubled then { kind := .lbrace, width, state } else state.reopenTag view
  | some (.rbrace, _) => state.closeBrace view false
  | some (.slashRbrace, _) => state.closeBrace view true
  | none => state.badCharacter

def scanDirective (state : State) (view : View) : Move :=
  match tagLexeme? view.head view.tail with
  | some (.blank, width) => .emit { kind := .blank, width, state }
  | some (.word, width) =>
    .emit { kind := .directiveIdentifier, width, state := state.enter .expression }
  | _ => .shift .expression

def expressionWord (state : State) (view : View) (width : Nat) : Emission :=
  let word := view.rest.take width
  match Kind.keyword? word with
  | some .booleanLiteral =>
    { kind := .booleanLiteral, width, state, value := some (.boolean (word = "true".toList)) }
  | some keyword => { kind := keyword, width, state }
  | none =>
    let kind := if (view.rest.drop width).head? = some '(' then .functionIdentifier else .identifier
    { kind, width, state }

def integerLiteral (state : State) (radix : Nat) (digits : Text) (width : Nat) : Emission :=
  match Number.ofDigits? radix digits with
  | some value => { kind := .integerLiteral, width, state, value := some (.integer value) }
  | none => { kind := .invalidInteger, width, state }

def referParameter (state : State) (name : Text) : State :=
  if state.docActive && state.templateName.isSome then
    { state with doc := state.doc.recordUse name }
  else state

def scanExpression (state : State) (view : View) : Emission :=
  match tagLexeme? view.head view.tail with
  | some (.blank, width) => { kind := .blank, width, state }
  | some (.word, width) => state.expressionWord view width
  | some (.variable, width) =>
    { kind := .parameterRef, width, state := state.referParameter ((view.rest.take width).drop 1) }
  | some (.decimal, width) => state.integerLiteral 10 (view.rest.take width) width
  | some (.hex, width) => state.integerLiteral 16 ((view.rest.take width).drop 2) width
  | some (.float, width) =>
    let value := Number.Double.ofLiteral (view.rest.take width)
    { kind := .floatLiteral, width, state, value := some (.float value) }
  | some (.operator kind, width) => { kind, width, state }
  | some (.colon, width) =>
    { kind := if state.tag.inDirective then .directiveColon else .colon, width, state }
  | some (.comma, width) =>
    { kind := if state.tag.inDirective then .directiveComma else .comma, width, state }
  | some (.pipe, width) =>
    let tag := { state.tag with inDirective := true }
    { kind := .directivePipe, width, state := { state.enter .directive with tag } }
  | some (.quote terminator, _) => state.openString view terminator false
  | some (.lbrace, width) =>
    if state.tag.isDoubled then { kind := .lbrace, width, state } else state.reopenTag view
  | some (.rbrace, _) => state.closeBrace view false
  | some (.slashRbrace, _) => state.closeBrace view true
  | none => state.badCharacter

def move (state : State) (view : View) : Move :=
  match state.mode with
  | .templateText => .emit (state.scanTemplateText view)
  | .tagCommand => state.scanTagCommand view
  | .expression => .emit (state.scanExpression view)
  | .name => state.scanName view
  | .attributes => .emit (state.scanAttributes view)
  | .directive => state.scanDirective view
  | .stringLiteral => .emit (state.scanString view)
  | .docComment => .emit (state.scanDocComment view)
  | .literal => state.scanLiteral view

def emission (state : State) (view : View) : Emission :=
  match state.move view with
  | .emit emission => emission
  | .shift mode =>
    match (state.enter mode).move view with
    | .emit emission => emission
    | .shift mode => (state.enter mode).badCharacter

end State

end ClosureTemplate.Scan
