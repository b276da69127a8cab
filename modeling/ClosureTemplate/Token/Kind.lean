namespace ClosureTemplate

inductive Kind where
  | tagOpen
  | endTagOpen
  | tagClose
  | tagSelfClose
  | strayBrace
  /-- A `{` inside a tag that was never closed. -/
  | unterminatedTag
  | illegalCloseTag
  | namespaceWord
  | aliasWord
  | delpackageWord
  | templateWord
  | deltemplateWord
  | callWord
  | delcallWord
  | paramWord
  | letWord
  | ifWord
  | elseIfWord
  | elseWord
  | switchWord
  | caseWord
  | defaultWord
  | foreachWord
  | forWord
  | ifEmptyWord
  | msgWord
  | printWord
  | literalWord
  | cssWord
  /-- The commands `sp`, `nil`, `lb`, `rb` and the escapes for newline, return and tab. -/
  | specialChar
  | namespaceIdentifier
  | packageIdentifier
  | templateIdentifier
  | deltemplateIdentifier
  | parameterDef
  | letIdentifier
  | parameterRef
  | stringParameterRef
  | identifier
  | functionIdentifier
  | directiveIdentifier
  | notWord
  | andWord
  | orWord
  | inWord
  | booleanLiteral
  | nullLiteral
  | integerLiteral
  | floatLiteral
  | invalidInteger
  | stringBegin
  | stringText
  | stringEscape
  | stringEnd
  | badStringEscape
  /-- A quote without its partner on the same line, up to the line end. -/
  | unterminatedString
  | equal
  | notEqual
  | lessEqual
  | greaterEqual
  | less
  | greater
  | plus
  | minus
  | times
  | divide
  | modulo
  | elvis
  | questionDot
  | question
  | colon
  | comma
  | lparen
  | rparen
  | lbracket
  | rbracket
  | lbrace
  | rbrace
  | dot
  | assign
  | directivePipe
  | directiveColon
  | directiveComma
  | templateText
  | literalText
  | unterminatedLiteral
  | blank
  | ignoredText
  | comment
  | lineComment
  | unterminatedComment
  | docBegin
  | docText
  | docBlank
  | docParamTag
  | docTag
  | docIdentifier
  | docEnd
  | badCharacter
  | eof
  deriving DecidableEq, Repr

namespace Kind

def all : List Kind := [
  .tagOpen, .endTagOpen, .tagClose, .tagSelfClose, .strayBrace, .unterminatedTag,
  .illegalCloseTag, .namespaceWord, .aliasWord, .delpackageWord, .templateWord, .deltemplateWord,
  .callWord, .delcallWord, .paramWord, .letWord, .ifWord, .elseIfWord, .elseWord, .switchWord,
  .caseWord, .defaultWord, .foreachWord, .forWord, .ifEmptyWord, .msgWord, .printWord,
  .literalWord, .cssWord, .specialChar, .namespaceIdentifier, .packageIdentifier,
  .templateIdentifier, .deltemplateIdentifier, .parameterDef, .letIdentifier, .parameterRef,
  .stringParameterRef, .identifier, .functionIdentifier, .directiveIdentifier, .notWord,
  .andWord, .orWord, .inWord, .booleanLiteral, .nullLiteral, .integerLiteral, .floatLiteral,
  .invalidInteger, .stringBegin, .stringText, .stringEscape, .stringEnd, .badStringEscape,
  .unterminatedString, .equal, .notEqual, .lessEqual, .greaterEqual, .less, .greater, .plus,
  .minus, .times, .divide, .modulo, .elvis, .questionDot, .question, .colon, .comma, .lparen,
  .rparen, .lbracket, .rbracket, .lbrace, .rbrace, .dot, .assign, .directivePipe,
  .directiveColon, .directiveComma, .templateText, .literalText, .unterminatedLiteral, .blank,
  .ignoredText, .comment, .lineComment, .unterminatedComment, .docBegin, .docText, .docBlank,
  .docParamTag, .docTag, .docIdentifier, .docEnd, .badCharacter, .eof]

def name : Kind → String
  | .tagOpen => "TAG_LBRACE"
  | .endTagOpen => "TAG_END_LBRACE"
  | .tagClose => "TAG_RBRACE"
  | .tagSelfClose => "TAG_END_RBRACE"
  | .strayBrace => "RBRACE_ERROR"
  | .unterminatedTag => "UNTERMINATED_TAG"
  | .illegalCloseTag => "ILLEGAL_CLOSE_TAG"
  | .namespaceWord => "NAMESPACE"
  | .aliasWord => "ALIAS"
  | .delpackageWord => "DELPACKAGE"
  | .templateWord => "TEMPLATE"
  | .deltemplateWord => "DELTEMPLATE"
  | .callWord => "CALL"
  | .delcallWord => "DELCALL"
  | .paramWord => "PARAM"
  | .letWord => "LET"
  | .ifWord => "IF"
  | .elseIfWord => "ELSE_IF"
  | .elseWord => "ELSE"
  | .switchWord => "SWITCH"
  | .caseWord => "CASE"
  | .defaultWord => "DEFAULT"
  | .foreachWord => "FOREACH"
  | .forWord => "FOR"
  | .ifEmptyWord => "IF_EMPTY"
  | .msgWord => "MSG"
  | .printWord => "PRINT"
  | .literalWord => "LITERAL"
  | .cssWord => "CSS"
  | .specialChar => "SPECIAL_CHAR"
  | .namespaceIdentifier => "NAMESPACE_IDENTIFIER"
  | .packageIdentifier => "PACKAGE_IDENTIFIER"
  | .templateIdentifier => "TEMPLATE_IDENTIFIER"
  | .deltemplateIdentifier => "DELTEMPLATE_IDENTIFIER"
  | .parameterDef => "INNER_PARAMETER_DEF"
  | .letIdentifier => "LET_IDENTIFIER"
  | .parameterRef => "PARAMETER_REF"
  | .stringParameterRef => "STRING_PARAMETER_REF"
  | .identifier => "CAPTURED_IDENTIFIER"
  | .functionIdentifier => "CAPTURED_FUNCTION_IDENTIFIER"
  | .directiveIdentifier => "DIRECTIVE_IDENTIFIER"
  | .notWord => "NOT"
  | .andWord => "AND"
  | .orWord => "OR"
  | .inWord => "IN"
  | .booleanLiteral => "BOOLEAN_LITERAL"
  | .nullLiteral => "NULL_LITERAL"
  | .integerLiteral => "INTEGER_LITERAL"
  | .floatLiteral => "FLOATING_POINT_LITERAL"
  | .invalidInteger => "INVALID_INTEGER_LITERAL"
  | .stringBegin => "STRING_LITERAL_BEGIN"
  | .stringText => "STRING_LITERAL"
  | .stringEscape => "STRING_LITERAL_ESCAPE"
  | .stringEnd => "STRING_LITERAL_END"
  | .badStringEscape => "BAD_STRING_ESCAPE"
  | .unterminatedString => "UNTERMINATED_STRING_LITERAL"
  | .equal => "EQEQ"
  | .notEqual => "NOTEQ"
  | .lessEqual => "LTEQ"
  | .greaterEqual => "GTEQ"
  | .less => "LT"
  | .greater => "GT"
  | .plus => "PLUS"
  | .minus => "MINUS"
  | .times => "MULT"
  | .divide => "DIV"
  | .modulo => "MOD"
  | .elvis => "ELVIS"
  | .questionDot => "QUESTION_DOT"
  | .question => "QUESTION"
  | .colon => "COLON"
  | .comma => "COMMA"
  | .lparen => "LPAREN"
  | .rparen => "RPAREN"
  | .lbracket => "LBRACK"
  | .rbracket => "RBRACK"
  | .lbrace => "LBRACE"
  | .rbrace => "RBRACE"
  | .dot => "DOT"
  | .assign => "EQ"
  | .directivePipe => "DIRECTIVE_PIPE"
  | .directiveColon => "DIRECTIVE_COLON"
  | .directiveComma => "DIRECTIVE_COMMA"
  | .templateText => "TEMPLATE_TEXT"
  | .literalText => "LITERAL_TEXT"
  | .unterminatedLiteral => "UNTERMINATED_LITERAL"
  | .blank => "WHITESPACE"
  | .ignoredText => "IGNORED_TEXT"
  | .comment => "COMMENT"
  | .lineComment => "LINE_COMMENT"
  | .unterminatedComment => "UNTERMINATED_COMMENT"
  | .docBegin => "DOC_COMMENT_BEGIN"
  | .docText => "DOC_COMMENT"
  | .docBlank => "DOC_COMMENT_WHITESPACE"
  | .docParamTag => "DOC_COMMENT_PARAM_TAG"
  | .docTag => "DOC_COMMENT_TAG"
  | .docIdentifier => "DOC_COMMENT_IDENTIFIER"
  | .docEnd => "DOC_COMMENT_END"
  | .badCharacter => "BAD_CHARACTER"
  | .eof => "EOF"

def ofName? (name : String) : Option Kind := all.find? fun kind => kind.name == name

def isIgnorable : Kind → Bool
  | .blank | .docBlank | .comment | .lineComment | .ignoredText => true
  | _ => false

def isIdentifierLike : Kind → Bool
  | .namespaceIdentifier | .packageIdentifier | .templateIdentifier | .deltemplateIdentifier
  | .parameterDef | .letIdentifier | .parameterRef | .stringParameterRef | .identifier
  | .functionIdentifier | .directiveIdentifier | .docIdentifier => true
  | _ => false

def isFragmentable : Kind → Bool
  | .namespaceIdentifier | .templateIdentifier | .deltemplateIdentifier | .parameterRef
  | .stringParameterRef => true
  | _ => false

def isError : Kind → Bool
  | .strayBrace | .unterminatedTag | .illegalCloseTag | .invalidInteger | .badStringEscape
  | .unterminatedString | .unterminatedLiteral | .unterminatedComment | .badCharacter => true
  | _ => false

def isCommand : Kind → Bool
  | .namespaceWord | .aliasWord | .delpackageWord | .templateWord | .deltemplateWord
  | .callWord | .delcallWord | .paramWord | .letWord | .ifWord | .elseIfWord | .elseWord
  | .switchWord | .caseWord | .defaultWord | .foreachWord | .forWord | .ifEmptyWord | .msgWord
  | .printWord | .literalWord | .cssWord => true
  | _ => false

def isKeyword : Kind → Bool
  | .notWord | .andWord | .orWord | .inWord | .booleanLiteral | .nullLiteral => true
  | _ => false

def isLiteral : Kind → Bool
  | .booleanLiteral | .nullLiteral | .integerLiteral | .floatLiteral | .stringText => true
  | _ => false

def isOperator : Kind → Bool
  | .equal | .notEqual | .lessEqual | .greaterEqual | .less | .greater | .plus | .minus
  | .times | .divide | .modulo | .elvis | .questionDot | .question | .colon | .notWord
  | .andWord | .orWord => true
  | _ => false

def keywords : List (String × Kind) := [
  ("not", .notWord), ("and", .andWord), ("or", .orWord), ("in", .inWord),
  ("true", .booleanLiteral), ("false", .booleanLiteral), ("null", .nullLiteral)]

def commands : List (String × Kind) := [
  ("namespace", .namespaceWord), ("alias", .aliasWord), ("delpackage", .delpackageWord),
  ("template", .templateWord), ("deltemplate", .deltemplateWord),
  ("call", .callWord), ("delcall", .delcallWord), ("param", .paramWord), ("let", .letWord),
  ("if", .ifWord), ("elseif", .elseIfWord), ("else", .elseWord),
  ("switch", .switchWord), ("case", .caseWord), ("default", .defaultWord),
  ("foreach", .foreachWord), ("for", .forWord), ("ifempty", .ifEmptyWord),
  ("msg", .msgWord), ("print", .printWord), ("literal", .literalWord), ("css", .cssWord),
  ("sp", .specialChar), ("nil", .specialChar), ("lb", .specialChar), ("rb", .specialChar)]

def keyword? (word : List Char) : Option Kind := keywords.lookup (String.ofList word)

def command? (word : List Char) : Option Kind := commands.lookup (String.ofList word)

theorem mem_all (kind : Kind) : kind ∈ all := by
  cases kind <;> decide

end Kind

end ClosureTemplate
