import ClosureTemplate.Proofs.Doc.Buffer

/-!
Text in chunks. However a text is cut, and however often the complete lines are read in between,
closing the buffer gives what it gives for the text as a whole: for any buffer and any calls
(`flush_foldl_receive`), and for the comment that a scan is in (`IsReading`).
-/

namespace ClosureTemplate.Doc

def linesOf (text : Text) : List Text :=
  if (splitLines text).2.isEmpty then (splitLines text).1
  else (splitLines text).1 ++ [(splitLines text).2]

theorem splitLines_append (a b : Text) :
    splitLines (a ++ b) = ((splitLines a).1 ++ (splitLines ((splitLines a).2 ++ b)).1,
      (splitLines ((splitLines a).2 ++ b)).2) := by
  induction a with
  | nil => simp [splitLines]
  | cons c cs ih =>
    by_cases newline : c = '\n'
    · simp [splitLines, newline, ih]
    · -- the first character joins the first line, which may still be the unfinished one
      cases lines : (splitLines cs).1 with
      | nil =>
        simp only [lines, List.nil_append] at ih
        simp [splitLines, newline, lines, ih]
      | cons line others => simp [splitLines, newline, lines, ih]

theorem splitLines_of_no_newline {text : Text} (single : '\n' ∉ text) :
    splitLines text = ([], text) := by
  induction text with
  | nil => rfl
  | cons c cs ih =>
    simp only [List.mem_cons, not_or] at single
    simp [splitLines, ih single.2, Ne.symm single.1]

theorem newline_notMem_snd_splitLines (text : Text) : '\n' ∉ (splitLines text).2 := by
  induction text with
  | nil => simp [splitLines]
  | cons c cs ih =>
    by_cases newline : c = '\n'
    · simpa [splitLines, newline] using ih
    · cases lines : (splitLines cs).1 with
      | nil => simpa [splitLines, newline, lines, Ne.symm newline] using ih
      | cons line others => simpa [splitLines, newline, lines] using ih

theorem linesOf_append (a b : Text) :
    linesOf (a ++ b) = (splitLines a).1 ++ linesOf ((splitLines a).2 ++ b) := by
  simp only [linesOf, splitLines_append a b]
  split <;> simp

namespace Buffer

variable (buffer : Buffer)

/-- The buffer with everything that lines neither read nor change taken from `frame`. -/
def inFrame (frame : Buffer) : Buffer :=
  { buffer with
    namespaceName := frame.namespaceName
    templateName := frame.templateName
    templateLine := frame.templateLine
    usages := frame.usages
    pending := frame.pending }

theorem startParameter_inFrame (frame : Buffer) (isOptional : Bool) (body : Text) :
    (buffer.inFrame frame).startParameter isOptional body =
      (buffer.startParameter isOptional body).inFrame frame := by
  by_cases unnamed : Text.dottedLength body = 0 <;> simp [startParameter, inFrame, unnamed]

theorem continueSection_inFrame (frame : Buffer) (line : Text) :
    (buffer.inFrame frame).continueSection line = (buffer.continueSection line).inFrame frame := by
  cases place : buffer.current with
  | parameter name =>
    cases known : buffer.parameters.get? name <;> simp [continueSection, inFrame, place, known]
  | _ => simp [continueSection, inFrame, place]

theorem readLine_inFrame (frame : Buffer) (raw : Text) :
    (buffer.inFrame frame).readLine raw = (buffer.readLine raw).inFrame frame := by
  cases marker : markerRest? (cleanLine raw) with
  | none =>
    simp only [readLine, marker]
    exact continueSection_inFrame { buffer with captured := buffer.captured ++ [raw] } frame _
  | some rest =>
    simp only [readLine, marker]
    exact startParameter_inFrame { buffer with captured := buffer.captured ++ [raw] } frame _ _

theorem readLines_inFrame (frame : Buffer) (lines : List Text) :
    lines.foldl readLine (buffer.inFrame frame) = (lines.foldl readLine buffer).inFrame frame := by
  induction lines generalizing buffer with
  | nil => rfl
  | cons line lines ih =>
    rw [List.foldl_cons, readLine_inFrame]
    exact ih (buffer.readLine line)

theorem readLines_keep_frame (lines : List Text) :
    (lines.foldl readLine buffer).inFrame buffer = lines.foldl readLine buffer := by
  rw [← readLines_inFrame]
  rfl

def withPending (pending : Text) : Buffer := { buffer with pending }

@[simp]
theorem withPending_withPending (first second : Text) :
    (buffer.withPending first).withPending second = buffer.withPending second := rfl

@[simp]
theorem withPending_pending (pending : Text) : (buffer.withPending pending).pending = pending := rfl

theorem append_eq (text : Text) :
    buffer.append text = buffer.withPending (buffer.pending ++ text) :=
  rfl

theorem readLines_withPending (pending : Text) (lines : List Text) :
    lines.foldl readLine (buffer.withPending pending) =
      (lines.foldl readLine buffer).withPending pending := by
  calc
    _ = (lines.foldl readLine buffer).inFrame (buffer.withPending pending) :=
      buffer.readLines_inFrame (buffer.withPending pending) lines
    _ = ((lines.foldl readLine buffer).inFrame buffer).withPending pending := rfl
    _ = (lines.foldl readLine buffer).withPending pending := by rw [readLines_keep_frame]

theorem flush_eq :
    buffer.flush = ((splitLines buffer.pending).1.foldl readLine buffer).withPending
      (splitLines buffer.pending).2 :=
  readLines_withPending buffer _ _

theorem close_eq :
    buffer.close = ((linesOf buffer.pending).foldl readLine buffer).withPending [] := by
  by_cases complete : (splitLines buffer.pending).2 = []
  · simp [close, linesOf, complete, flush_eq]
  · have last := readLines_withPending ((splitLines buffer.pending).1.foldl readLine buffer) []
      [(splitLines buffer.pending).2]
    have closed : buffer.close =
        (buffer.flush.withPending []).readLine (splitLines buffer.pending).2 := by
      simp [close, complete, withPending]
    rw [closed, flush_eq]
    simpa [linesOf, complete] using last

theorem close_of_pending {buffer : Buffer} (read : buffer.pending = []) :
    buffer.close = buffer := by
  have unread : buffer.withPending [] = buffer := by rw [withPending, ← read]
  rw [close_eq, read]
  exact unread

@[simp]
theorem append_append (a b : Text) : (buffer.append a).append b = buffer.append (a ++ b) := by
  simp [append_eq]

@[simp]
theorem append_nil : buffer.append [] = buffer := by
  simp [append]

theorem flush_append_flush (text : Text) :
    (buffer.flush.append text).flush = (buffer.append text).flush := by
  have early : buffer.flush.append text =
      ((splitLines buffer.pending).1.foldl readLine buffer).withPending
        ((splitLines buffer.pending).2 ++ text) := by
    rw [flush_eq]
    rfl
  rw [early, flush_eq, flush_eq, append_eq]
  simp only [withPending_pending, splitLines_append buffer.pending text, List.foldl_append,
    readLines_withPending, withPending_withPending]

@[simp]
theorem flush_flush : buffer.flush.flush = buffer.flush := by
  simpa using flush_append_flush buffer []

theorem close_flush : buffer.flush.close = buffer.close := by
  unfold close
  rw [flush_flush]

theorem flush_append_congr {one other : Buffer} (same : one.flush = other.flush) (text : Text) :
    (one.append text).flush = (other.append text).flush := by
  rw [← one.flush_append_flush, same, other.flush_append_flush]

/-- What happens to a buffer while its comment is read: a chunk of text comes in, or it is asked
whether a parameter name is due. -/
inductive Arrival where
  | chunk (text : Text)
  | question
  deriving DecidableEq, Repr

def Arrival.text : Arrival → Text
  | .chunk text => text
  | .question => []

def receive : Arrival → Buffer
  | .chunk text => buffer.append text
  | .question => buffer.anticipating.2

theorem flush_receive (arrival : Arrival) :
    (buffer.receive arrival).flush = (buffer.append arrival.text).flush := by
  cases arrival with
  | chunk text => rfl
  | question =>
    have asked : (buffer.receive .question).flush = buffer.flush := buffer.flush_flush
    rw [asked, Arrival.text, append_nil]

theorem flush_foldl_receive (arrivals : List Arrival) :
    (arrivals.foldl receive buffer).flush =
      (buffer.append (arrivals.flatMap Arrival.text)).flush := by
  induction arrivals generalizing buffer with
  | nil => simp
  | cons arrival arrivals ih =>
    calc
      _ = ((buffer.receive arrival).append (arrivals.flatMap Arrival.text)).flush := ih _
      _ = ((buffer.append arrival.text).append (arrivals.flatMap Arrival.text)).flush :=
        flush_append_congr (buffer.flush_receive arrival) _
      _ = (buffer.append ((arrival :: arrivals).flatMap Arrival.text)).flush := by
        rw [append_append, List.flatMap_cons]

theorem close_close : buffer.close.close = buffer.close :=
  close_of_pending buffer.close_pending

theorem flush_close : buffer.close.flush = buffer.close := by
  have unread : buffer.close.withPending [] = buffer.close := by
    rw [withPending, ← buffer.close_pending]
  rw [flush_eq, close_pending]
  exact unread

theorem questions_close (n : Nat) :
    (List.replicate n .question).foldl receive buffer.close = buffer.close := by
  induction n with
  | zero => rfl
  | succ n ih =>
    have asked : buffer.close.receive .question = buffer.close := buffer.flush_close
    rw [List.replicate_succ, List.foldl_cons, asked, ih]

theorem snapshot_eq :
    buffer.snapshot = (buffer.close, buffer.namespaceName.elim empty ofNamespace) := by
  have fresh : buffer.close.reset = { namespaceName := buffer.namespaceName } := by
    rw [reset, close_namespaceName]
  rw [snapshot, fresh]
  cases buffer.namespaceName <;> rfl

/-- However a text is cut, and however often a name is asked for on the way, the closed buffer is
the one that was given the text as a whole. Closing again and asking again change nothing then, and
a snapshot is the closed buffer and leaves a fresh one of the same namespace behind. -/
theorem chunks_are_read_as_whole (arrivals : List Arrival) :
    (arrivals.foldl receive buffer).close =
        (buffer.append (arrivals.flatMap Arrival.text)).close ∧
      buffer.close.close = buffer.close ∧
      (∀ n, (List.replicate n .question).foldl receive buffer.close = buffer.close) ∧
      buffer.snapshot = (buffer.close, buffer.namespaceName.elim empty ofNamespace) := by
  refine ⟨?_, buffer.close_close, buffer.questions_close, buffer.snapshot_eq⟩
  rw [← close_flush, flush_foldl_receive, close_flush]

/-- The buffer is where a fresh one would be that was given `body` at once, up to lines that are
complete and not read yet. -/
def IsReading (namespaceName : Option Text) (body : Text) : Prop :=
  buffer.flush = (append { namespaceName } body).flush

variable {buffer} {namespaceName : Option Text} {body : Text}

theorem isReading_fresh (namespaceName : Option Text) :
    IsReading { namespaceName } namespaceName [] := by
  rw [IsReading, append_nil]

theorem IsReading.append (reading : buffer.IsReading namespaceName body) (text : Text) :
    (buffer.append text).IsReading namespaceName (body ++ text) := by
  rw [IsReading, flush_append_congr reading, append_append]

theorem IsReading.anticipating (reading : buffer.IsReading namespaceName body) :
    buffer.anticipating.2.IsReading namespaceName body := by
  have same : buffer.anticipating.2.flush = buffer.flush := buffer.flush_flush
  rw [IsReading, same, reading]

theorem IsReading.close (reading : buffer.IsReading namespaceName body) :
    buffer.close = ofText namespaceName body := by
  rw [← close_flush, reading, close_flush]
  rfl

theorem IsReading.anticipates (reading : buffer.IsReading namespaceName body) :
    buffer.anticipating.1 = anticipatesName (splitLines body).2 := by
  have last : buffer.flush.pending = (splitLines body).2 := by
    rw [reading, flush_pending]
    rfl
  rw [anticipating_fst, ← flush_pending, last]

theorem ofText_eq (namespaceName : Option Text) (text : Text) :
    ofText namespaceName text = ((linesOf text).foldl readLine {}).inFrame { namespaceName } := by
  have fresh : ({ namespaceName } : Buffer) = inFrame {} { namespaceName } := rfl
  have pending : (append { namespaceName } text).pending = text := rfl
  rw [ofText, close_eq, pending, append_eq, readLines_withPending, withPending_withPending, fresh,
    readLines_inFrame]
  rfl

theorem ofText_namespaceName (first second : Option Text) (text : Text) :
    { ofText first text with namespaceName := second } = ofText second text := by
  rw [ofText_eq, ofText_eq]
  rfl

end Buffer

end ClosureTemplate.Doc
