import ClosureTemplate.Text.Basic

/-!
Points of a source text. Lines and columns count from 1 and columns count characters, while the
offset counts bytes.
-/

namespace ClosureTemplate

structure Point where
  line : Nat
  column : Nat
  offset : Nat
  deriving DecidableEq, Repr

namespace Point

def startOf (offset : Nat) : Point := ⟨1, 1, offset⟩

def advanceChar (point : Point) (c : Char) : Point :=
  if c = '\n' then ⟨point.line + 1, 1, point.offset + c.utf8Size⟩
  else ⟨point.line, point.column + 1, point.offset + c.utf8Size⟩

def advance (point : Point) (text : Text) : Point := text.foldl advanceChar point

@[simp]
theorem advance_nil (point : Point) : point.advance [] = point := rfl

@[simp]
theorem advance_append (point : Point) (a b : Text) :
    point.advance (a ++ b) = (point.advance a).advance b := by
  simp [advance]

@[simp]
theorem advance_offset (point : Point) (text : Text) :
    (point.advance text).offset = point.offset + text.byteSize := by
  induction text generalizing point with
  | nil => simp
  | cons c cs ih =>
    have step : (point.advanceChar c).offset = point.offset + c.utf8Size := by
      unfold advanceChar
      split <;> rfl
    have rest := ih (point.advanceChar c)
    simp only [advance, List.foldl_cons] at rest ⊢
    rw [rest, step, Text.byteSize_cons, Nat.add_assoc]

end Point

end ClosureTemplate
