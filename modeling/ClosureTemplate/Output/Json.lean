import ClosureTemplate.Text.Quoted

namespace ClosureTemplate.Output

inductive Json where
  | null
  | boolean (value : Bool)
  | number (value : Nat)
  | string (text : Text)
  | array (items : List Json)
  | object (fields : List (String × Json))

namespace Json

/-- Controls are escaped, by a letter where there is one; all else but the quote and the backslash
stands for itself. -/
def escapedChar (c : Char) : Text :=
  if c = '"' then ['\\', '"']
  else if c = '\\' then ['\\', '\\']
  else if c = '\x08' then ['\\', 'b']
  else if c = '\x0c' then ['\\', 'f']
  else if c = '\n' then ['\\', 'n']
  else if c = '\r' then ['\\', 'r']
  else if c = '\t' then ['\\', 't']
  else if c.toNat < 16 then "\\u000".toList ++ Text.hexDigits c.toNat
  else if c.toNat < 32 then "\\u00".toList ++ Text.hexDigits c.toNat
  else [c]

def stringLiteral (text : Text) : Text := '"' :: (text.flatMap escapedChar ++ ['"'])

def indent (depth : Nat) : Text := List.replicate (2 * depth) ' '

/-- Entries on lines of their own between two brackets; nothing stands between the brackets of an
empty list. -/
def block (depth : Nat) (opening closing : Char) : List Text → Text
  | [] => [opening, closing]
  | entries =>
    let lines := entries.map (indent (depth + 1) ++ ·)
    opening :: '\n' :: ([',', '\n'].intercalate lines ++ '\n' :: (indent depth ++ [closing]))

mutual

def render (depth : Nat) : Json → Text
  | .null => "null".toList
  | .boolean value => if value then "true".toList else "false".toList
  | .number value => Nat.toDigits 10 value
  | .string text => stringLiteral text
  | .array items => block depth '[' ']' (renderItems (depth + 1) items)
  | .object fields => block depth '\x7b' '\x7d' (renderFields (depth + 1) fields)

def renderItems (depth : Nat) : List Json → List Text
  | [] => []
  | item :: items => render depth item :: renderItems depth items

def renderFields (depth : Nat) : List (String × Json) → List Text
  | [] => []
  | (name, value) :: fields =>
    (stringLiteral name.toList ++ ':' :: ' ' :: render depth value) :: renderFields depth fields

end

def ofOption {α : Type} (encode : α → Json) : Option α → Json
  | some value => encode value
  | none => .null

end Json

end ClosureTemplate.Output
