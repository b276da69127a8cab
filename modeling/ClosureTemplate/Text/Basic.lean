/-!
Source text is a list of characters. Positions in it are byte offsets of its UTF-8 form, so cutting
at an offset can fail: the offset has to fall between two characters.
-/

namespace ClosureTemplate

abbrev Text := List Char

namespace Text

def byteSize : Text → Nat
  | [] => 0
  | c :: cs => c.utf8Size + byteSize cs

/-- The text from byte `offset` on, if that offset is a boundary. -/
def dropBytes? : Nat → Text → Option Text
  | 0, cs => some cs
  | _ + 1, [] => none
  | offset + 1, c :: cs =>
    if c.utf8Size ≤ offset + 1 then dropBytes? (offset + 1 - c.utf8Size) cs else none

def takeBytes? : Nat → Text → Option Text
  | 0, _ => some []
  | _ + 1, [] => none
  | size + 1, c :: cs =>
    if c.utf8Size ≤ size + 1 then
      (takeBytes? (size + 1 - c.utf8Size) cs).map (c :: ·)
    else none

/-- An offset that falls between two characters, or at either end. -/
def isBoundary (text : Text) (offset : Nat) : Bool :=
  (dropBytes? offset text).isSome

def slice? (text : Text) (start stop : Nat) : Option Text :=
  if start ≤ stop then (dropBytes? start text).bind (takeBytes? (stop - start)) else none

/-- The text before the first occurrence of `needle`. -/
def before? (needle : Text) : Text → Option Text
  | [] => if needle.isEmpty then some [] else none
  | c :: cs =>
    if needle.isPrefixOf (c :: cs) then some [] else (before? needle cs).map (c :: ·)

@[simp]
theorem byteSize_nil : byteSize [] = 0 := rfl

@[simp]
theorem byteSize_cons (c : Char) (cs : Text) : byteSize (c :: cs) = c.utf8Size + byteSize cs := rfl

@[simp]
theorem byteSize_append (a b : Text) : byteSize (a ++ b) = byteSize a + byteSize b := by
  induction a with
  | nil => simp
  | cons c cs ih => simp [ih, Nat.add_assoc]

end Text

end ClosureTemplate
