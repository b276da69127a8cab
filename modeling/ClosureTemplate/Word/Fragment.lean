import ClosureTemplate.Text.Identifier
import ClosureTemplate.Token.Symbol

namespace ClosureTemplate.Word

/-- A part of a token, in bytes from the token's start. -/
structure Fragment where
  kind : Kind
  start : Nat
  stop : Nat
  deriving DecidableEq, Repr

def pieceLength : Text → Nat
  | [] => 0
  | c :: cs =>
    if Text.isNameStart c then 1 + Text.run Text.isNameChar cs
    else 1 + Text.run (fun d => !Text.isNameStart d) cs

def pieces (text : Text) : List Text :=
  match text with
  | [] => []
  | c :: cs =>
    (c :: cs).take (pieceLength (c :: cs)) :: pieces ((c :: cs).drop (pieceLength (c :: cs)))
  termination_by text.length
  decreasing_by
    simp only [pieceLength, List.length_drop, List.length_cons]
    split <;> omega

def pieceKind (kind : Kind) (piece : Text) : Kind :=
  if Text.isIdentifier piece then kind else .ignoredText

def layOut (kind : Kind) : Nat → List Text → List Fragment
  | _, [] => []
  | offset, piece :: rest =>
    let stop := offset + piece.byteSize
    ⟨pieceKind kind piece, offset, stop⟩ :: layOut kind stop rest

def split (text : Text) (kind : Kind) : List Fragment := layOut kind 0 (pieces text)

def Fragment.symbol (fragment : Fragment) (parent : Symbol) : Symbol where
  kind := fragment.kind
  text := (parent.text.slice? fragment.start fragment.stop).getD []
  start := parent.start + fragment.start
  stop := parent.start + fragment.stop
  line := parent.line
  column := parent.column + ((parent.text.slice? 0 fragment.start).getD []).length

end ClosureTemplate.Word
