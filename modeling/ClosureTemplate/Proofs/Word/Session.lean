import ClosureTemplate.Proofs.Scan.Session
import ClosureTemplate.Proofs.Word.Refinement

namespace ClosureTemplate.Word

open Scan (Scanner Mode Position Reader Request Session)

namespace Lexer

theorem start_eq_bind (lexer : Lexer) (source : Text) (first last : Nat) (mode : Mode) :
    lexer.start source first last mode = Lexer.bind source first last mode := rfl

theorem start_of_bind (lexer : Lexer) {source : Text} {first last : Nat} {mode : Mode}
    {scanner : Scanner} (accepted : Scanner.bind source first last mode = .ok scanner) :
    lexer.start source first last mode = .ok { scanner } := by
  rw [start_eq_bind, Lexer.bind, accepted]
  rfl

theorem start_of_refused (lexer : Lexer) {source : Text} {first last : Nat} {mode : Mode}
    {fault : Error} (refused : Scanner.bind source first last mode = .error fault) :
    lexer.start source first last mode = .error fault := by
  rw [start_eq_bind, Lexer.bind, refused]
  rfl

theorem advance_scanner (lexer : Lexer) :
    lexer.advance.2.scanner = lexer.scanner ∨
      lexer.advance.2.scanner = lexer.scanner.advance.2 := by
  unfold advance
  split
  · exact .inl rfl
  · exact .inr lexer.refill_scanner

def reader : Reader Lexer where
  scanner := Lexer.scanner
  reset := Lexer.start
  advance := Lexer.advance
  restore := Lexer.restore
  reset_scanner lexer source first last mode := by
    cases scanned : Scanner.bind source first last mode with
    | ok scanner => rw [start_of_bind lexer scanned]; rfl
    | error fault => rw [start_of_refused lexer scanned]; rfl
  advance_scanner := advance_scanner
  restore_scanner _ _ := rfl

/-- The token that fragments wait of and the current word are slices of the source. -/
structure IsCut (source : Text) (lexer : Lexer) : Prop where
  coherent : lexer.IsCoherent
  parent : ∀ parent, lexer.parent = some parent →
    source.slice? parent.start parent.stop = some parent.text
  current : ∀ word, lexer.current = some word →
    source.slice? word.start word.stop = some word.text

theorem isCut_fresh (source : Text) (scanner : Scanner) : IsCut source { scanner } :=
  ⟨.inl rfl, by simp, by simp⟩

theorem slice?_of_fragment {source : Text} {parent : Symbol} {fragment : Fragment}
    (found : source.slice? parent.start parent.stop = some parent.text)
    (member : fragment ∈ fragments parent) :
    source.slice? (fragment.symbol parent).start (fragment.symbol parent).stop =
      some (fragment.symbol parent).text := by
  unfold fragments at member
  split at member
  · obtain ⟨before, piece, after, shape, rfl⟩ := exists_piece_of_mem_split member
    rw [symbol_text _ shape]
    exact slice?_of_piece shape found
  · cases member

theorem IsCut.advance {source : Text} {first last : Nat} {lexer : Lexer}
    (cut : lexer.IsCut source) (onRange : lexer.scanner.OnRange source first last) :
    lexer.advance.2.IsCut source := by
  suffices slices : (∀ parent, lexer.advance.2.parent = some parent →
      source.slice? parent.start parent.stop = some parent.text) ∧
      ∀ word, lexer.advance.2.current = some word →
        source.slice? word.start word.stop = some word.text from
    ⟨isCoherent_advance cut.coherent, slices.1, slices.2⟩
  have token := onRange.slice?_advance
  cases queued : lexer.waiting with
  | nil =>
    rw [advance_of_empty queued]
    unfold refill
    dsimp only
    split
    · refine ⟨by simp, ?_⟩
      rintro word ⟨⟩
      exact token
    · next fragment waiting shape =>
      constructor
      · rintro parent ⟨⟩
        exact token
      · rintro word ⟨⟩
        exact slice?_of_fragment token (by simp [shape])
  | cons fragment waiting =>
    rcases cut.coherent with empty | ⟨parent, stored, others⟩
    · rw [queued] at empty
      cases empty
    · rw [advance_of_waiting queued stored]
      refine ⟨cut.parent, ?_⟩
      rintro word ⟨⟩
      apply slice?_of_fragment (cut.parent parent stored)
      rw [queued] at others
      exact others.subset List.mem_cons_self

end Lexer

def KeepsCut (session : Session Lexer) : Prop :=
  ∃ source first last, session.IsSound Lexer.reader source first last ∧
    session.machine.IsCut source

theorem keepsCut_serve {session : Session Lexer} (keeps : KeepsCut session) (request : Request) :
    KeepsCut (session.serve Lexer.reader request) := by
  obtain ⟨source, first, last, sound, cut⟩ := keeps
  cases request with
  | reset text start stop mode =>
    cases scanned : Scanner.bind text start stop mode with
    | ok scanner =>
      have accepted := Lexer.start_of_bind session.machine scanned
      rw [Session.serve_reset_of_ok accepted]
      exact ⟨_, _, _, Session.isSound_of_reset accepted, Lexer.isCut_fresh text scanner⟩
    | error fault =>
      rw [Session.serve_reset_of_error (Lexer.start_of_refused session.machine scanned)]
      exact ⟨_, _, _, sound, cut⟩
  | advance => exact ⟨_, _, _, sound.serve trivial, cut.advance sound.machine.onRange⟩
  | save => exact ⟨_, _, _, sound.serve trivial, cut⟩
  | restore slot =>
    refine ⟨_, _, _, sound.serve trivial, ?_⟩
    unfold Session.serve
    dsimp only
    split
    · exact Lexer.isCut_fresh source _
    · exact cut

theorem keepsCut_run (requests : List Request) :
    KeepsCut (Session.run Lexer.reader { machine := {} } requests) := by
  have initial : KeepsCut { machine := {} } :=
    ⟨[], 0, 0, ⟨Scanner.stands_default, by simp⟩, Lexer.isCut_fresh [] {}⟩
  generalize ({ machine := {} } : Session Lexer) = session at initial ⊢
  induction requests generalizing session with
  | nil => exact initial
  | cons request others ih => exact ih _ (keepsCut_serve initial request)

end ClosureTemplate.Word
