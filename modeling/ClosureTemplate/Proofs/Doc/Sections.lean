import ClosureTemplate.Proofs.Doc.Declared

/-!
What a comment says, without a reader: its cleaned lines are cut at their markers (`outline`), and
each description is the lines that belong to it with single spaces between. Reading line by line,
with the open section in hand, comes to the same (`Buffer.Holds`), so no line is lost and none is
given to another parameter.
-/

namespace ClosureTemplate

namespace Text

theorem trim_of_isTrimmed {text : Text} (trimmed : text.IsTrimmed) : trim text = text := by
  have whole := trim_append (rfl : List.all [] isBlank = true) trimmed
    (rfl : List.all [] isBlank = true)
  simpa using whole

theorem isTrimmed_nil : IsTrimmed [] := ⟨by simp, by simp⟩

theorem IsTrimmed.append {first middle last : Text} (left : first.IsTrimmed)
    (right : last.IsTrimmed) (begins : first ≠ []) (ends : last ≠ []) :
    IsTrimmed (first ++ (middle ++ last)) := by
  constructor
  · intro c found
    obtain ⟨d, ds, rfl⟩ := List.exists_cons_of_ne_nil begins
    exact left.head c found
  · intro c found
    rw [← List.append_assoc, getLast?_append_of_nonempty _ ends] at found
    exact right.last c found

theorem intercalate_concat (separator : Text) {pieces : List Text} (some : pieces ≠ [])
    (piece : Text) :
    separator.intercalate (pieces ++ [piece]) =
      separator.intercalate pieces ++ (separator ++ piece) := by
  induction pieces with
  | nil => exact absurd rfl some
  | cons first others ih =>
    cases others with
    | nil => simp [List.intercalate_cons_cons, List.intercalate_singleton]
    | cons second others =>
      have later := ih (List.cons_ne_nil second others)
      simp only [List.cons_append, List.intercalate_cons_cons, List.append_assoc] at later ⊢
      rw [later]

theorem eraseDups_concat (names : List Text) (name : Text) :
    (names ++ [name]).eraseDups =
      if name ∈ names then names.eraseDups else names.eraseDups ++ [name] := by
  rw [List.eraseDups_append]
  split
  · next known => simp [List.removeAll, known]
  · next new => simp [List.removeAll, new, List.eraseDups_cons]

end Text

namespace Doc

open Text

/-- The segments with single spaces between; empty ones leave no trace. -/
def spaced (segments : List Text) : Text := [' '].intercalate (segments.filter (!·.isEmpty))

theorem isTrimmed_joinSegments {existing line : Text} (first : existing.IsTrimmed)
    (second : line.IsTrimmed) : (joinSegments existing line).IsTrimmed := by
  unfold joinSegments
  split
  · exact second
  · split
    · exact first
    · exact isTrimmed_trim _

theorem intercalate_ne_nil {pieces : List Text} (some : pieces ≠ [])
    (full : ∀ piece ∈ pieces, piece ≠ []) : [' '].intercalate pieces ≠ [] := by
  obtain ⟨first, others, rfl⟩ := List.exists_cons_of_ne_nil some
  have begins := full first List.mem_cons_self
  cases others with
  | nil => simpa [List.intercalate_singleton] using begins
  | cons second others => simp [List.intercalate_cons_cons, begins]

theorem spaced_concat_nil (segments : List Text) : spaced (segments ++ [[]]) = spaced segments := by
  simp [spaced, List.filter_append]

theorem spaced_concat {segments : List Text} (trimmed : (spaced segments).IsTrimmed) {line : Text}
    (lineTrimmed : line.IsTrimmed) :
    spaced (segments ++ [line]) = joinSegments (spaced segments) line := by
  unfold joinSegments
  by_cases blank : line = []
  · rw [blank, spaced_concat_nil]
    by_cases empty : spaced segments = [] <;> simp [empty]
  · have listed : (segments ++ [line]).filter (!·.isEmpty) =
        segments.filter (!·.isEmpty) ++ [line] := by
      simp [List.filter_append, blank]
    by_cases empty : segments.filter (!·.isEmpty) = []
    · simp [spaced, listed, empty, List.intercalate_singleton]
    · have filled : spaced segments ≠ [] := intercalate_ne_nil empty (by simp)
      have whole : spaced (segments ++ [line]) = spaced segments ++ ([' '] ++ line) := by
        rw [spaced, listed, intercalate_concat _ empty]
        rfl
      have clean : IsTrimmed (spaced segments ++ ([' '] ++ line)) :=
        trimmed.append lineTrimmed filled blank
      simp only [List.isEmpty_iff, filled, blank, if_false]
      rw [whole]
      exact (trim_of_isTrimmed clean).symm

theorem isTrimmed_withoutDelimiter (remove : Text → Option Text) {line : Text}
    (trimmed : line.IsTrimmed) : (withoutDelimiter remove line).IsTrimmed := by
  unfold withoutDelimiter
  split
  · exact isTrimmed_trim _
  · exact trimmed

theorem isTrimmed_cleanLine (raw : Text) : (cleanLine raw).IsTrimmed :=
  isTrimmed_withoutDelimiter _ (isTrimmed_withoutDelimiter _ (isTrimmed_withoutDelimiter _
    (isTrimmed_trim raw)))

/-- A marker, by the text behind it, and the lines up to the next one. -/
structure Paragraph where
  marker : Text
  lines : List Text
  deriving DecidableEq, Repr

namespace Paragraph

variable (paragraph : Paragraph)

def isOptional : Bool := (markerBody paragraph.marker).1

def body : Text := (markerBody paragraph.marker).2

def name? : Option Text :=
  if dottedLength paragraph.body = 0 then none
  else some (paragraph.body.take (dottedLength paragraph.body))

def segments : List Text :=
  trim (paragraph.body.drop (dottedLength paragraph.body)) :: paragraph.lines

/-- The mark of an optional parameter, the blanks behind it and the body make up the marker's
text. -/
theorem marker_split : ∃ gap, gap.all isBlank = true ∧
    paragraph.marker = optionalMark paragraph.isOptional ++ (gap ++ paragraph.body) ∧
    (∀ c, paragraph.body.head? = some c → isBlank c = false) ∧
    (paragraph.isOptional = false → paragraph.marker.head? ≠ some '?') := by
  have cut : markerBody paragraph.marker = (paragraph.isOptional, paragraph.body) := rfl
  obtain ⟨⟨gap, blank, shape⟩, head, plain⟩ := markerBody_eq_iff.mp cut
  exact ⟨gap, blank, shape, head, plain⟩

/-- The name of a paragraph is the longest dotted name at the head of the body. -/
theorem name?_eq_some_iff {name : Text} : paragraph.name? = some name ↔
    IsDotted name ∧ name <+: paragraph.body ∧
      ∀ other, IsDotted other → other <+: paragraph.body → other.length ≤ name.length := by
  unfold name?
  split
  · next unnamed =>
    constructor
    · intro found
      cases found
    · rintro ⟨dotted, begins, -⟩
      have fits := dotted.length_le begins
      rw [unnamed] at fits
      exact absurd (List.length_eq_zero_iff.mp (Nat.le_zero.mp fits)) dotted.ne_nil
  · next named => rw [Option.some_inj, take_dottedLength_eq_iff named]

theorem segments_of_name? {name rest : Text} (named : paragraph.name? = some name)
    (split : paragraph.body = name ++ rest) :
    paragraph.segments = trim rest :: paragraph.lines := by
  unfold name? at named
  split at named
  · cases named
  · have cut := List.take_append_drop (dottedLength paragraph.body) paragraph.body
    rw [Option.some.inj named] at cut
    have behind := List.append_cancel_left (cut.trans split)
    rw [segments, behind]

end Paragraph

/-- The lines before the first marker, and the markers with the lines of each. -/
structure Outline where
  lead : List Text
  paragraphs : List Paragraph
  deriving DecidableEq, Repr

/-- Cuts cleaned lines at their markers. -/
def outline : List Text → Outline
  | [] => ⟨[], []⟩
  | line :: later =>
    match markerRest? line with
    | some marker => ⟨[], ⟨marker, (outline later).lead⟩ :: (outline later).paragraphs⟩
    | none => ⟨line :: (outline later).lead, (outline later).paragraphs⟩

namespace Outline

variable (outline : Outline)

def names : List Text := (outline.paragraphs.filterMap Paragraph.name?).eraseDups

def paragraphsOf (name : Text) : List Paragraph :=
  outline.paragraphs.filter (·.name? = some name)

/-- All that is said of a name. Whether it is optional is up to its last marker. -/
def parameter (name : Text) : Parameter where
  description := spaced ((outline.paragraphsOf name).flatMap Paragraph.segments)
  isOptional := (outline.paragraphsOf name).getLast?.any Paragraph.isOptional

def current : Section :=
  match outline.paragraphs.getLast? with
  | none => .description
  | some last => match last.name? with
    | some name => .parameter name
    | none => .discarded

end Outline

namespace Outline

variable (lead : List Text) (front : List Paragraph) {paragraph : Paragraph} {name : Text}

theorem names_concat_unnamed (unnamed : paragraph.name? = none) :
    names ⟨lead, front ++ [paragraph]⟩ = names ⟨lead, front⟩ := by
  simp [names, List.filterMap_append, unnamed]

theorem names_concat (named : paragraph.name? = some name) :
    names ⟨lead, front ++ [paragraph]⟩ =
      if name ∈ names ⟨lead, front⟩ then names ⟨lead, front⟩
      else names ⟨lead, front⟩ ++ [name] := by
  simp only [names, List.filterMap_append, List.filterMap_cons, named, List.filterMap_nil,
    eraseDups_concat, List.mem_eraseDups]

theorem parameter_concat (named : paragraph.name? = some name) :
    parameter ⟨lead, front ++ [paragraph]⟩ name =
      ⟨spaced ((paragraphsOf ⟨lead, front⟩ name).flatMap Paragraph.segments ++ paragraph.segments),
        paragraph.isOptional⟩ := by
  simp [parameter, paragraphsOf, List.filter_append, named]

theorem parameter_concat_of_ne (other : paragraph.name? ≠ some name) :
    parameter ⟨lead, front ++ [paragraph]⟩ name = parameter ⟨lead, front⟩ name := by
  simp [parameter, paragraphsOf, List.filter_append, other]

theorem current_concat :
    current ⟨lead, front ++ [paragraph]⟩ = match paragraph.name? with
      | some name => .parameter name
      | none => .discarded := by
  simp [current]

end Outline

theorem outline_concat_marker (lines : List Text) {line marker : Text}
    (marks : markerRest? line = some marker) :
    outline (lines ++ [line]) =
      ⟨(outline lines).lead, (outline lines).paragraphs ++ [⟨marker, []⟩]⟩ := by
  induction lines with
  | nil => simp [outline, marks]
  | cons first later ih => cases begins : markerRest? first <;> simp [outline, begins, ih]

theorem outline_concat_lead {lines : List Text} {line : Text} (plain : markerRest? line = none)
    (unmarked : (outline lines).paragraphs = []) :
    outline (lines ++ [line]) = ⟨(outline lines).lead ++ [line], []⟩ := by
  induction lines with
  | nil => simp [outline, plain]
  | cons first later ih =>
    cases begins : markerRest? first with
    | none =>
      simp only [outline, begins] at unmarked
      simp [outline, begins, ih unmarked]
    | some marker => simp [outline, begins] at unmarked

theorem outline_concat_last {lines : List Text} {line : Text} (plain : markerRest? line = none)
    {front : List Paragraph} {last : Paragraph}
    (marked : (outline lines).paragraphs = front ++ [last]) :
    outline (lines ++ [line]) =
      ⟨(outline lines).lead, front ++ [{ last with lines := last.lines ++ [line] }]⟩ := by
  induction lines generalizing front with
  | nil => simp [outline] at marked
  | cons first later ih =>
    cases begins : markerRest? first with
    | none =>
      simp only [outline, begins] at marked
      simp [outline, begins, ih marked]
    | some marker =>
      simp only [outline, begins] at marked
      cases front with
      | nil =>
        -- the marker in front is the only one, so the line continues its lines
        simp only [List.nil_append, List.cons.injEq] at marked
        obtain ⟨rfl, none⟩ := marked
        simp [outline, begins, outline_concat_lead plain none]
      | cons other front =>
        simp only [List.cons_append, List.cons.injEq] at marked
        obtain ⟨rfl, others⟩ := marked
        simp [outline, begins, ih others]

namespace Buffer

/-- No description has blanks around it, and the open section is that of a known parameter. -/
structure IsSound (buffer : Buffer) : Prop where
  description : ∀ text, buffer.description = some text → text.IsTrimmed
  parameter : ∀ name parameter, buffer.parameters.get? name = some parameter →
    parameter.description.IsTrimmed
  current : ∀ name, buffer.current = .parameter name → name ∈ buffer.parameterNames

theorem isSound_fresh (namespaceName : Option Text) : IsSound { namespaceName } :=
  ⟨by simp, by simp, by simp⟩

variable {buffer : Buffer}

theorem IsSound.withPending (sound : buffer.IsSound) (pending : Text) :
    (buffer.withPending pending).IsSound :=
  ⟨sound.description, sound.parameter, sound.current⟩

theorem IsSound.description_getD (sound : buffer.IsSound) :
    (buffer.description.getD []).IsTrimmed := by
  cases stored : buffer.description with
  | none => exact isTrimmed_nil
  | some text => exact sound.description text stored

theorem IsSound.known_description (sound : buffer.IsSound) (name : Text) :
    ((buffer.parameters.get? name).getD {}).description.IsTrimmed := by
  cases known : buffer.parameters.get? name with
  | none => exact isTrimmed_nil
  | some parameter => exact sound.parameter name parameter known

theorem IsSound.put (sound : buffer.IsSound) {name : Text} {parameter : Parameter}
    (trimmed : parameter.description.IsTrimmed) (other : Text) (found : Parameter)
    (stored : (buffer.parameters.put name parameter).get? other = some found) :
    found.description.IsTrimmed := by
  by_cases same : name = other
  · subst same
    rw [Table.get?_put_self] at stored
    obtain rfl := Option.some.inj stored
    exact trimmed
  · rw [Table.get?_put_of_ne _ _ same] at stored
    exact sound.parameter other found stored

theorem IsSound.startParameter (sound : buffer.IsSound) (isOptional : Bool) (body : Text) :
    (buffer.startParameter isOptional body).IsSound := by
  unfold Buffer.startParameter
  dsimp only
  split
  · exact ⟨sound.description, sound.parameter, by simp⟩
  · refine ⟨sound.description, ?_, ?_⟩
    · exact sound.put (isTrimmed_joinSegments (sound.known_description _) (isTrimmed_trim _))
    · rintro name ⟨⟩
      exact Table.mem_keys_put.mpr (.inl rfl)

theorem IsSound.continueSection (sound : buffer.IsSound) {line : Text} (trimmed : line.IsTrimmed) :
    (buffer.continueSection line).IsSound := by
  unfold Buffer.continueSection
  split
  · refine ⟨?_, sound.parameter, sound.current⟩
    rintro text ⟨⟩
    exact isTrimmed_joinSegments sound.description_getD trimmed
  · next name opened =>
    split
    · next parameter known =>
      refine ⟨sound.description, ?_, ?_⟩
      · exact sound.put (isTrimmed_joinSegments (sound.parameter name parameter known) trimmed)
      · intro other current
        exact Table.mem_keys_put.mpr (.inr (sound.current other current))
    · exact sound
  · exact sound

theorem IsSound.readLine (sound : buffer.IsSound) (raw : Text) : (buffer.readLine raw).IsSound := by
  have captured : IsSound { buffer with captured := buffer.captured ++ [raw] } :=
    ⟨sound.description, sound.parameter, sound.current⟩
  unfold Buffer.readLine
  dsimp only
  split
  · exact captured.startParameter _ _
  · exact captured.continueSection (isTrimmed_cleanLine raw)

theorem IsSound.readLines (sound : buffer.IsSound) (lines : List Text) :
    (lines.foldl Buffer.readLine buffer).IsSound := by
  induction lines generalizing buffer with
  | nil => exact sound
  | cons raw lines ih => exact ih (sound.readLine raw)

theorem IsSound.close (sound : buffer.IsSound) : buffer.close.IsSound := by
  rw [close_eq]
  exact (sound.readLines _).withPending []

theorem IsSound.receive (sound : buffer.IsSound) (arrival : Arrival) :
    (buffer.receive arrival).IsSound := by
  cases arrival with
  | chunk text => exact ⟨sound.description, sound.parameter, sound.current⟩
  | question =>
    have flushed : buffer.receive .question = buffer.flush := rfl
    rw [flushed, flush_eq]
    exact (sound.readLines _).withPending _

structure Holds (buffer : Buffer) (outline : Outline) : Prop where
  description : buffer.description.getD [] = spaced outline.lead
  names : buffer.parameterNames = outline.names
  parameter : ∀ name, (buffer.parameters.get? name).getD {} = outline.parameter name
  current : buffer.current = outline.current

theorem holds_fresh (namespaceName : Option Text) : Holds { namespaceName } ⟨[], []⟩ :=
  ⟨rfl, rfl, fun _ => rfl, rfl⟩

variable {lead : List Text} {front : List Paragraph} {last : Paragraph} {line : Text}

theorem Holds.startParameter (holds : buffer.Holds ⟨lead, front⟩) (sound : buffer.IsSound)
    (marker : Text) :
    (buffer.startParameter (markerBody marker).1 (markerBody marker).2).Holds
      ⟨lead, front ++ [⟨marker, []⟩]⟩ := by
  obtain ⟨description, names, parameter, current⟩ := holds
  by_cases unnamed : dottedLength (markerBody marker).2 = 0
  · have name : Paragraph.name? ⟨marker, []⟩ = none := if_pos unnamed
    rw [Buffer.startParameter, if_pos unnamed]
    refine ⟨description, ?_, ?_, ?_⟩
    · rw [Outline.names_concat_unnamed _ _ name]
      exact names
    · intro other
      rw [Outline.parameter_concat_of_ne _ _ (by simp [name])]
      exact parameter other
    · rw [Outline.current_concat, name]
  · have named : Paragraph.name? ⟨marker, []⟩ =
        some ((markerBody marker).2.take (dottedLength (markerBody marker).2)) := if_neg unnamed
    rw [Buffer.startParameter, if_neg unnamed]
    dsimp only
    generalize (markerBody marker).2.take (dottedLength (markerBody marker).2) = name at named ⊢
    refine ⟨description, ?_, ?_, ?_⟩
    · have known : buffer.parameters.keys = _ := names
      rw [Outline.names_concat _ _ named, parameterNames, Table.keys_put, known]
      congr
    · intro other
      by_cases same : name = other
      · subst same
        have trimmed := sound.known_description name
        rw [parameter] at trimmed
        rw [Table.get?_put_self, Outline.parameter_concat _ _ named, parameter]
        exact congrArg (Parameter.mk · _) (spaced_concat trimmed (isTrimmed_trim _)).symm
      · rw [Table.get?_put_of_ne _ _ same,
          Outline.parameter_concat_of_ne _ _ (by simpa [named] using same)]
        exact parameter other
    · rw [Outline.current_concat, named]

theorem Holds.continueLead (holds : buffer.Holds ⟨lead, []⟩) (sound : buffer.IsSound)
    (trimmed : line.IsTrimmed) : (buffer.continueSection line).Holds ⟨lead ++ [line], []⟩ := by
  obtain ⟨description, names, parameter, current⟩ := holds
  have opened : buffer.current = .description := current
  have first := sound.description_getD
  rw [Buffer.continueSection, opened]
  refine ⟨?_, names, parameter, rfl⟩
  rw [description] at first
  rw [Option.getD_some, description]
  exact (spaced_concat first trimmed).symm

theorem Holds.continueUnnamed (holds : buffer.Holds ⟨lead, front ++ [last]⟩)
    (unnamed : last.name? = none) :
    (buffer.continueSection line).Holds
      ⟨lead, front ++ [{ last with lines := last.lines ++ [line] }]⟩ := by
  obtain ⟨description, names, parameter, current⟩ := holds
  have still : Paragraph.name? { last with lines := last.lines ++ [line] } = none := unnamed
  rw [Outline.names_concat_unnamed _ _ unnamed] at names
  rw [Outline.current_concat, unnamed] at current
  have dropped : buffer.continueSection line = buffer := by
    rw [Buffer.continueSection, current]
  rw [dropped]
  refine ⟨description, ?_, ?_, ?_⟩
  · rw [Outline.names_concat_unnamed _ _ still]
    exact names
  · intro other
    have former := parameter other
    rw [Outline.parameter_concat_of_ne _ _ (by simp [unnamed])] at former
    rw [Outline.parameter_concat_of_ne _ _ (by simp [still])]
    exact former
  · rw [Outline.current_concat, still]
    exact current

theorem Holds.continueNamed (holds : buffer.Holds ⟨lead, front ++ [last]⟩) (sound : buffer.IsSound)
    {name : Text} (named : last.name? = some name) (trimmed : line.IsTrimmed) :
    (buffer.continueSection line).Holds
      ⟨lead, front ++ [{ last with lines := last.lines ++ [line] }]⟩ := by
  obtain ⟨description, names, parameter, current⟩ := holds
  have still : Paragraph.name? { last with lines := last.lines ++ [line] } = some name := named
  rw [Outline.names_concat _ _ named] at names
  rw [Outline.current_concat, named] at current
  have listed : name ∈ buffer.parameters.keys := sound.current name current
  obtain ⟨known, found⟩ := Table.exists_of_mem_keys listed
  have stored := parameter name
  have first := sound.parameter name known found
  rw [found, Option.getD_some, Outline.parameter_concat _ _ named] at stored
  rw [Buffer.continueSection, current]
  simp only [found]
  refine ⟨description, ?_, ?_, ?_⟩
  · rw [Outline.names_concat _ _ still, parameterNames, Table.keys_put, if_pos listed]
    exact names
  · intro other
    by_cases same : name = other
    · subst same
      rw [stored] at first
      rw [Table.get?_put_self, Option.getD_some, Outline.parameter_concat _ _ still, stored,
        ← spaced_concat first trimmed, List.append_assoc]
      rfl
    · have former := parameter other
      rw [Outline.parameter_concat_of_ne _ _ (by simpa [named] using same)] at former
      rw [Table.get?_put_of_ne _ _ same,
        Outline.parameter_concat_of_ne _ _ (by simpa [still] using same)]
      exact former
  · rw [Outline.current_concat, still]

theorem Holds.readLine {lines : List Text} (holds : buffer.Holds (outline lines))
    (sound : buffer.IsSound) (raw : Text) :
    (buffer.readLine raw).Holds (outline (lines ++ [cleanLine raw])) := by
  have same : Holds { buffer with captured := buffer.captured ++ [raw] } (outline lines) :=
    ⟨holds.description, holds.names, holds.parameter, holds.current⟩
  have still : IsSound { buffer with captured := buffer.captured ++ [raw] } :=
    ⟨sound.description, sound.parameter, sound.current⟩
  generalize shape : outline lines = parts at same
  obtain ⟨lead, paragraphs⟩ := parts
  cases marks : markerRest? (cleanLine raw) with
  | some marker =>
    simp only [Buffer.readLine, marks]
    rw [outline_concat_marker lines marks, shape]
    exact same.startParameter still marker
  | none =>
    simp only [Buffer.readLine, marks]
    rcases List.eq_nil_or_concat paragraphs with rfl | ⟨front, last, rfl⟩
    · rw [outline_concat_lead marks (by rw [shape]), shape]
      exact same.continueLead still (isTrimmed_cleanLine raw)
    · rw [List.concat_eq_append] at shape same
      rw [outline_concat_last marks (by rw [shape]), shape]
      cases named : last.name? with
      | none => exact same.continueUnnamed named
      | some name => exact same.continueNamed still named (isTrimmed_cleanLine raw)

theorem Holds.readLines {lines : List Text} (holds : buffer.Holds (outline lines))
    (sound : buffer.IsSound) (others : List Text) :
    (others.foldl Buffer.readLine buffer).Holds (outline (lines ++ others.map cleanLine)) := by
  induction others generalizing buffer lines with
  | nil => simpa using holds
  | cons raw others ih =>
    have later := ih (holds.readLine sound raw) (sound.readLine raw)
    simpa using later

theorem holds_ofText (namespaceName : Option Text) (text : Text) :
    (ofText namespaceName text).Holds (outline ((linesOf text).map cleanLine)) := by
  have fresh : Holds {} (outline []) := holds_fresh none
  have read := fresh.readLines (isSound_fresh none) (linesOf text)
  rw [ofText_eq]
  exact ⟨read.description, read.names, read.parameter, read.current⟩

theorem description?_eq (buffer : Buffer) :
    buffer.description? =
      if buffer.description.getD [] = [] then none else some (buffer.description.getD []) := by
  unfold description?
  cases stored : buffer.description with
  | none => rfl
  | some text => by_cases empty : text = [] <;> simp [Option.filter, empty]

end Buffer

theorem splitOn_newline (text : Text) :
    text.splitOn '\n' = (splitLines text).1 ++ [(splitLines text).2] := by
  induction text with
  | nil => simp [splitLines]
  | cons c cs ih =>
    rw [List.splitOn_cons_eq_if_modifyHead, ih]
    by_cases newline : c = '\n'
    · simp [splitLines, newline]
    · -- the character joins the first piece, which may be the last one
      cases lines : (splitLines cs).1 <;> simp [splitLines, newline, lines]

end Doc

end ClosureTemplate
