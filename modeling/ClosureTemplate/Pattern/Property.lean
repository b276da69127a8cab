import ClosureTemplate.Pattern.CharSet
import ClosureTemplate.Text.Category
import ClosureTemplate.Text.Property
import ClosureTemplate.Text.Script

namespace ClosureTemplate.Pattern.Property

def categoryNames : List (String × List String) := [
  ("Lu", ["uppercaseletter"]), ("Ll", ["lowercaseletter"]), ("Lt", ["titlecaseletter"]),
  ("Lm", ["modifierletter"]), ("Lo", ["otherletter"]),
  ("Mn", ["nonspacingmark"]), ("Mc", ["spacingmark"]), ("Me", ["enclosingmark"]),
  ("Nd", ["decimalnumber", "digit"]), ("Nl", ["letternumber"]), ("No", ["othernumber"]),
  ("Pc", ["connectorpunctuation"]), ("Pd", ["dashpunctuation"]), ("Ps", ["openpunctuation"]),
  ("Pe", ["closepunctuation"]), ("Pi", ["initialpunctuation"]), ("Pf", ["finalpunctuation"]),
  ("Po", ["otherpunctuation"]),
  ("Sm", ["mathsymbol"]), ("Sc", ["currencysymbol"]), ("Sk", ["modifiersymbol"]),
  ("So", ["othersymbol"]),
  ("Zs", ["spaceseparator"]), ("Zl", ["lineseparator"]), ("Zp", ["paragraphseparator"]),
  ("Cc", ["control", "cntrl"]), ("Cf", ["format"]), ("Cs", ["surrogate"]), ("Co", ["privateuse"]),
  ("Cn", ["unassigned"])]

def groupNames : List (List String × (String → Bool)) := [
  (["l", "letter"], fun label => label.toList.head? = some 'L'),
  (["lc", "casedletter"], fun label => ["Lu", "Ll", "Lt"].contains label),
  (["m", "mark", "combiningmark"], fun label => label.toList.head? = some 'M'),
  (["n", "number"], fun label => label.toList.head? = some 'N'),
  (["p", "punctuation", "punct"], fun label => label.toList.head? = some 'P'),
  (["s", "symbol"], fun label => label.toList.head? = some 'S'),
  (["z", "separator"], fun label => label.toList.head? = some 'Z'),
  (["c", "other"], fun label => label.toList.head? = some 'C'),
  (["any"], fun _ => true),
  (["assigned"], fun label => label != "Cn")]

def lowerAscii (c : Char) : Char := if c.isUpper then Char.ofNat (c.toNat + 32) else c

/-- The form in which names are compared. A leading `is` counts for nothing. -/
def normalize (name : Text) : String :=
  let kept := fun (t : Text) =>
    ((t.filter fun c => c.toNat < 128 && c != ' ' && c != '_' && c != '-').map lowerAscii)
  let lowered := name.map lowerAscii
  let body := if "is".toList.isPrefixOf lowered then name.drop 2 else name
  let result := kept body
  if result == ['c'] && body.length != name.length then "isc" else String.ofList result

def category? (name : String) : Option CharSet :=
  if name == "ascii" then some [(0, 127)]
  else match groupNames.find? fun group => group.1.contains name with
    | some group => some (CharSet.ofRanges (Text.categoryRanges group.2))
    | none =>
      (categoryNames.find? fun entry =>
        normalize entry.1.toList == name || entry.2.contains name).map fun entry =>
          CharSet.ofRanges (Text.categoryRanges (· == entry.1))

def script? (name : String) : Option CharSet :=
  (Text.scriptNames.find? fun entry =>
    normalize entry.1.toList == name || normalize entry.2.toList == name).map fun entry =>
      CharSet.ofRanges (Text.rangesWhere (· == entry.1) Text.scriptRuns)

def blanks : CharSet := [(9, 13), (0x20, 0x20), (0x85, 0x85), (0xA0, 0xA0), (0x1680, 0x1680),
  (0x2000, 0x200A), (0x2028, 0x2029), (0x202F, 0x202F), (0x205F, 0x205F), (0x3000, 0x3000)]

def smallProperties : List (List String × CharSet) := [
  (["space", "wspace", "whitespace"], blanks),
  (["ahex", "asciihexdigit"], [(48, 57), (65, 70), (97, 102)]),
  (["hex", "hexdigit"], [(48, 57), (65, 70), (97, 102), (0xFF10, 0xFF19), (0xFF21, 0xFF26),
    (0xFF41, 0xFF46)]),
  (["joinc", "joincontrol"], [(0x200C, 0x200D)])]

def binary? (name : String) : Option CharSet :=
  match smallProperties.find? fun entry => entry.1.contains name with
  | some entry => some entry.2
  | none =>
    (Text.propertyRows.find? fun entry => entry.1.contains name).map fun entry =>
      Text.gapRanges entry.2

/-- The class called `name`. A few names of properties are short names of categories too, and
stand for these. -/
def named? (name : Text) : Option CharSet :=
  let name := normalize name
  let property := if ["cf", "sc", "lc"].contains name then none else binary? name
  property <|> category? name <|> script? name

def valued? (property value : Text) : Option CharSet :=
  let value := normalize value
  match normalize property with
  | "gc" | "generalcategory" => category? value
  | "sc" | "script" | "scx" | "scriptextensions" => script? value
  | _ => none

def digits : CharSet := CharSet.ofRanges (Text.categoryRanges (· == "Nd"))

def wordChars : CharSet :=
  CharSet.ofRanges (Text.gapRanges Text.alphabeticRows ++ [(0x200C, 0x200D)] ++
    Text.categoryRanges fun label =>
      label.toList.head? = some 'M' || label == "Nd" || label == "Pc")

def asciiDigits : CharSet := [(48, 57)]

def asciiBlanks : CharSet := [(9, 13), (32, 32)]

def asciiWordChars : CharSet := [(48, 57), (65, 90), (95, 95), (97, 122)]

def asciiClass? : String → Option CharSet
  | "alnum" => some [(48, 57), (65, 90), (97, 122)]
  | "alpha" => some [(65, 90), (97, 122)]
  | "ascii" => some [(0, 127)]
  | "blank" => some [(9, 9), (32, 32)]
  | "cntrl" => some [(0, 31), (127, 127)]
  | "digit" => some asciiDigits
  | "graph" => some [(33, 126)]
  | "lower" => some [(97, 122)]
  | "print" => some [(32, 126)]
  | "punct" => some [(33, 47), (58, 64), (91, 96), (123, 126)]
  | "space" => some asciiBlanks
  | "upper" => some [(65, 90)]
  | "word" => some asciiWordChars
  | "xdigit" => some [(48, 57), (65, 70), (97, 102)]
  | _ => none

end ClosureTemplate.Pattern.Property
