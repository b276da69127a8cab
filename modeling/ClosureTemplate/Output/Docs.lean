import ClosureTemplate.Output.Json
import ClosureTemplate.Output.Style
import ClosureTemplate.Token.Symbol

namespace ClosureTemplate.Output

def templateDocs (symbols : List Symbol) : List Doc.Buffer :=
  let commands := symbols.filter fun symbol =>
    symbol.kind = .templateWord || symbol.kind = .deltemplateWord
  commands.filterMap Symbol.doc?

def usageLabel (usage : Doc.Usage) : String := if usage = .undefined then "unused" else "used"

def parameterLine (doc : Doc.Buffer) (name : Text) (parameter : Doc.Parameter) : Text :=
  let marker := if parameter.isOptional then "  @param? " else "  @param "
  let description :=
    if parameter.description.isEmpty then [] else ':' :: ' ' :: parameter.description
  marker.toList ++ name ++ description ++ s!" [{usageLabel (doc.usage name)}]".toList

def docLines (isColored : Bool) (doc : Doc.Buffer) : List Text :=
  let place := match doc.templateLine with
    | some line => s!" (line {line})".toList
    | none => []
  let title := Style.bold.paint isColored doc.qualifiedName ++ place
  let description := (doc.description?.map (' ' :: ' ' :: ·)).toList
  title :: (description ++ doc.parameters.map fun entry => parameterLine doc entry.1 entry.2)

def parameterJson (doc : Doc.Buffer) (name : Text) (parameter : Doc.Parameter) : Json :=
  .object [
    ("description", .string parameter.description),
    ("name", .string name),
    ("optional", .boolean parameter.isOptional),
    ("usage", .string (doc.usage name).name.toList)]

def docJson (doc : Doc.Buffer) : Json :=
  .object [
    ("description", .ofOption .string doc.description?),
    ("line", .ofOption .number doc.templateLine),
    ("parameters", .array (doc.parameters.map fun entry => parameterJson doc entry.1 entry.2)),
    ("template", .string doc.qualifiedName)]

end ClosureTemplate.Output
