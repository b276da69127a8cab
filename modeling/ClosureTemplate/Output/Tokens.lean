import ClosureTemplate.Output.Json
import ClosureTemplate.Output.Style
import ClosureTemplate.Token.Symbol

namespace ClosureTemplate.Output

def tokenLine (isColored : Bool) (symbol : Symbol) : Text :=
  let place := s!"{symbol.line}:{symbol.column}".toList
  let kind := padded 28 symbol.kind.name.toList
  let kind := if symbol.kind.isError then Style.red.paint isColored kind else kind
  padded 8 place ++ ' ' :: (kind ++ ' ' :: Text.quoted symbol.text)

def tokenJson (symbol : Symbol) : Json :=
  .object [
    ("column", .number symbol.column),
    ("end", .number symbol.stop),
    ("error", .boolean symbol.kind.isError),
    ("kind", .string symbol.kind.name.toList),
    ("line", .number symbol.line),
    ("start", .number symbol.start),
    ("text", .string symbol.text)]

end ClosureTemplate.Output
