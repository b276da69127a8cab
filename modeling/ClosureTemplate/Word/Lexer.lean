import ClosureTemplate.Scan.Scanner
import ClosureTemplate.Word.Fragment

namespace ClosureTemplate.Word

open Scan (Scanner Mode Position)

structure Lexer where
  scanner : Scanner := {}
  parent : Option Symbol := none
  waiting : List Fragment := []
  current : Option Symbol := none
  deriving DecidableEq, Repr

namespace Lexer

def bind (source : Text) (start stop : Nat) (mode : Mode) : Except Error Lexer :=
  (Scanner.bind source start stop mode).map fun scanner => { scanner }

def start (lexer : Lexer) (source : Text) (first last : Nat) (mode : Mode) : Except Error Lexer :=
  (lexer.scanner.reset source first last mode).map fun scanner =>
    { lexer with scanner, parent := none, waiting := [], current := none }

def fragments (symbol : Symbol) : List Fragment :=
  if symbol.kind.isFragmentable then split symbol.text symbol.kind else []

def refill (lexer : Lexer) : Symbol × Lexer :=
  let (token, scanner) := lexer.scanner.advance
  match fragments token with
  | [] => (token, { scanner, current := some token })
  | fragment :: waiting =>
    let word := fragment.symbol token
    (word, { scanner, parent := some token, waiting, current := some word })

def advance (lexer : Lexer) : Symbol × Lexer :=
  match lexer.waiting, lexer.parent with
  | fragment :: waiting, some parent =>
    let word := fragment.symbol parent
    (word, { lexer with waiting, current := some word })
  | _, _ => lexer.refill

def tokenKind (lexer : Lexer) : Option Kind := lexer.current.map Symbol.kind

def tokenStart (lexer : Lexer) : Nat :=
  (lexer.current.map Symbol.start).getD lexer.scanner.tokenStart

def tokenStop (lexer : Lexer) : Nat :=
  (lexer.current.map Symbol.stop).getD lexer.scanner.tokenStop

def tokenText (lexer : Lexer) : Text := (lexer.current.map Symbol.text).getD []

/-- The place of the scanner; waiting fragments are not part of it. -/
def position (lexer : Lexer) : Position := lexer.scanner.position

def restore (lexer : Lexer) (position : Position) : Lexer :=
  { scanner := lexer.scanner.restore position }

def isDrained (lexer : Lexer) : Prop := lexer.waiting = [] ∧ lexer.scanner.rest = []

instance (lexer : Lexer) : Decidable lexer.isDrained := inferInstanceAs (Decidable (_ ∧ _))

theorem refill_scanner (lexer : Lexer) : lexer.refill.2.scanner = lexer.scanner.advance.2 := by
  unfold refill
  dsimp only
  split <;> rfl

theorem refill_at_end (lexer : Lexer) (ended : lexer.scanner.rest = []) :
    lexer.refill.2.waiting = [] := by
  simp [refill, Scanner.advance_at_end _ ended, Scanner.eof, fragments, Kind.isFragmentable]

theorem advance_progress (lexer : Lexer) (more : ¬ lexer.isDrained) :
    Prod.Lex (· < ·) (· < ·)
      (lexer.advance.2.scanner.rest.length, lexer.advance.2.waiting.length)
      (lexer.scanner.rest.length, lexer.waiting.length) := by
  have refills : ¬ lexer.isDrained → Prod.Lex (· < ·) (· < ·)
      (lexer.refill.2.scanner.rest.length, lexer.refill.2.waiting.length)
      (lexer.scanner.rest.length, lexer.waiting.length) := by
    intro more
    by_cases ended : lexer.scanner.rest = []
    · have same : lexer.scanner.advance.2.rest = lexer.scanner.rest := by
        rw [Scanner.advance_at_end _ ended]
      rw [refill_scanner, same, refill_at_end lexer ended]
      exact Prod.Lex.right _ (List.length_pos_iff.mpr fun empty => more ⟨empty, ended⟩)
    · rw [refill_scanner]
      exact Prod.Lex.left _ _ (lexer.scanner.rest_advance_lt ended)
  unfold advance
  split
  · next waiting _ =>
    exact Prod.Lex.right _ (by simp [waiting])
  · exact refills more

def drain (lexer : Lexer) : List Symbol × Lexer :=
  if _ : lexer.isDrained then ([], lexer)
  else
    let step := lexer.advance
    let remaining := step.2.drain
    (step.1 :: remaining.1, remaining.2)
  termination_by (lexer.scanner.rest.length, lexer.waiting.length)
  decreasing_by exact lexer.advance_progress ‹_›

end Lexer

def tokenizeRange (source : Text) (start stop : Nat) (mode : Mode) : Except Error (List Symbol) :=
  (Lexer.bind source start stop mode).map fun lexer => lexer.drain.1

def tokenize (source : Text) : List Symbol :=
  { scanner := .ofRange source 0 source.byteSize .templateText : Lexer }.drain.1

end ClosureTemplate.Word
