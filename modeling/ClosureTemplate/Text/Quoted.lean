import ClosureTemplate.Text.Category
import ClosureTemplate.Text.GraphemeExtend

namespace ClosureTemplate.Text

def isHiddenCategory (label : String) : Bool :=
  ["Cc", "Cf", "Cs", "Co", "Cn", "Zl", "Zp", "Zs"].contains label

def isPrintable (c : Char) : Bool :=
  if c.toNat < 127 then 32 ≤ c.toNat else !isHiddenCategory (category c)

def hexDigits (n : Nat) : Text := Nat.toDigits 16 n

def quotedChar (c : Char) : Text :=
  if c = '\x00' then "\\0".toList
  else if c = '\t' then "\\t".toList
  else if c = '\r' then "\\r".toList
  else if c = '\n' then "\\n".toList
  else if c = '"' then "\\\"".toList
  else if c = '\\' then "\\\\".toList
  else if isGraphemeExtend c || !isPrintable c then
    "\\u\x7b".toList ++ hexDigits c.toNat ++ "\x7d".toList
  else [c]

def quoted (text : Text) : Text := '"' :: (text.flatMap quotedChar ++ ['"'])

def quotedString (s : String) : String := String.ofList (quoted s.toList)

end ClosureTemplate.Text
