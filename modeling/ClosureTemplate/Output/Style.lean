import ClosureTemplate.Text.Basic

namespace ClosureTemplate.Output

inductive Style where
  | red
  | yellow
  | bold
  deriving DecidableEq, Repr

namespace Style

def sequences : Style → Text × Text
  | .red => ("\x1b[31m".toList, "\x1b[39m".toList)
  | .yellow => ("\x1b[33m".toList, "\x1b[39m".toList)
  | .bold => ("\x1b[1m".toList, "\x1b[0m".toList)

def paint (style : Style) (isColored : Bool) (text : Text) : Text :=
  if isColored then style.sequences.1 ++ text ++ style.sequences.2 else text

end Style

def padded (width : Nat) (text : Text) : Text := text ++ List.replicate (width - text.length) ' '

end ClosureTemplate.Output
