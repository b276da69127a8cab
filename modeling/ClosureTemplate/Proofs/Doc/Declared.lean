import ClosureTemplate.Proofs.Doc.Marker
import ClosureTemplate.Proofs.Table
import ClosureTemplate.Proofs.Text.Dotted

namespace ClosureTemplate

namespace Text

def firstSegment (name : Text) : Text := name.takeWhile (· != '.')

theorem firstSegment_append {word rest : Text} (identifier : word.isIdentifier = true)
    (ends : ∀ c, rest.head? = some c → isNameChar c = false) :
    firstSegment ((word ++ rest).take (dottedLength (word ++ rest))) = word := by
  have undotted : ∀ c ∈ word, (c != '.') = true := by
    intro c member
    apply bne_iff_ne.mpr
    rintro rfl
    cases isNameChar_of_mem identifier member
  have dotted : ∀ c, (rest.take (segmentsLength rest)).head? = some c → (c != '.') = false := by
    intro c found
    cases rest with
    | nil => simp at found
    | cons d ds =>
      by_cases dot : d = '.'
      · rw [dot, List.head?_take] at found
        split at found
        · cases found
        · obtain rfl := Option.some.inj found
          rfl
      · -- segments start with a dot
        have none : segmentsLength (d :: ds) = 0 := by
          rw [segmentsLength]
          simpa using dot
        rw [none] at found
        cases found
  rw [dottedLength_append identifier ends, List.take_length_add_append, firstSegment,
    takeWhile_append_of_stop undotted dotted]

end Text

namespace Doc

open Text

/-- The name that a line declares. -/
def declaredName? (raw : Text) : Option Text :=
  (declaration? raw).map fun body => body.take (dottedLength body)

namespace Buffer

variable (buffer : Buffer)

theorem mem_parameterNames_continueSection (line name : Text) :
    name ∈ (buffer.continueSection line).parameterNames ↔ name ∈ buffer.parameterNames := by
  unfold continueSection
  split
  · exact Iff.rfl
  · next current _ =>
    split
    · next found =>
      rw [parameterNames, Table.mem_keys_put, parameterNames]
      constructor
      · rintro (rfl | member)
        · exact Table.mem_keys_of_get? found
        · exact member
      · exact .inr
    · exact Iff.rfl
  · exact Iff.rfl

theorem mem_parameterNames_readLine (raw name : Text) :
    name ∈ (buffer.readLine raw).parameterNames ↔
      name ∈ buffer.parameterNames ∨ declaredName? raw = some name := by
  cases marker : markerRest? (cleanLine raw) with
  | none =>
    simp only [readLine, marker, mem_parameterNames_continueSection]
    simp [declaredName?, declaration?, marker, parameterNames]
  | some rest =>
    by_cases unnamed : dottedLength (markerBody rest).2 = 0
    · simp [readLine, marker, startParameter, unnamed, declaredName?, declaration?, parameterNames]
    · simp only [readLine, marker, startParameter, unnamed, if_false, declaredName?, declaration?,
        parameterNames, Table.mem_keys_put, Option.bind_some, Option.map_some, Option.some.injEq]
      rw [or_comm, eq_comm]

theorem readLine_current {raw name : Text} (declared : declaredName? raw = some name) :
    (buffer.readLine raw).current = .parameter name := by
  obtain ⟨body, found, rfl⟩ := Option.map_eq_some_iff.mp declared
  obtain ⟨rest, marker, named⟩ := Option.bind_eq_some_iff.mp found
  by_cases unnamed : dottedLength (markerBody rest).2 = 0
  · simp [unnamed] at named
  · obtain rfl : (markerBody rest).2 = body := by simpa [unnamed] using named
    simp [readLine, marker, startParameter, unnamed]

theorem mem_parameterNames_readLines (lines : List Text) (name : Text) :
    name ∈ (lines.foldl readLine buffer).parameterNames ↔
      name ∈ buffer.parameterNames ∨ ∃ raw ∈ lines, declaredName? raw = some name := by
  induction lines generalizing buffer with
  | nil => simp
  | cons raw lines ih =>
    rw [List.foldl_cons, ih, mem_parameterNames_readLine]
    simp [or_assoc]

theorem mem_parameterNames_ofText {namespaceName : Option Text} {text name : Text} :
    name ∈ (ofText namespaceName text).parameterNames ↔
      ∃ raw ∈ linesOf text, declaredName? raw = some name := by
  rw [ofText_eq]
  change name ∈ ((linesOf text).foldl readLine {}).parameterNames ↔ _
  rw [mem_parameterNames_readLines]
  simp [parameterNames]

end Buffer

/-- Reading the line opens the section of a parameter whose name begins at the offset and has the
word for its first segment. -/
structure DeclaresAt (raw : Text) (offset : Nat) (word : Text) : Prop where
  place : declaration? raw = some (trimEnd (raw.drop offset))
  opens : ∃ name, (∀ buffer : Buffer, (buffer.readLine raw).current = .parameter name) ∧
    firstSegment name = word

theorem head_of_trimEnd {text : Text} {c : Char} (found : (trimEnd text).head? = some c) :
    text.head? = some c := by
  obtain ⟨trail, -, split⟩ := exists_trimEnd text
  rw [split, List.head?_append, found]
  rfl

section Word

variable {before word rest : Text} (identifier : word.isIdentifier = true)
  (ends : ∀ c, rest.head? = some c → isNameChar c = false)

include identifier

theorem trimEnd_word_append : trimEnd (word ++ rest) = word ++ trimEnd rest := by
  apply trimEnd_append
  intro c last
  exact isBlank_of_isNameChar (isNameChar_of_mem identifier (List.mem_of_getLast? last))

include ends

theorem dottedLength_word_pos : 0 < dottedLength (trimEnd (word ++ rest)) := by
  have nonempty : 0 < word.length := List.length_pos_iff.mpr (ne_nil_of_isIdentifier identifier)
  rw [trimEnd_word_append identifier,
    dottedLength_append identifier fun c found => ends c (head_of_trimEnd found)]
  omega

theorem declaredName?_of_place {raw : Text}
    (place : declaration? raw = some (trimEnd (word ++ rest))) :
    ∃ name, declaredName? raw = some name ∧ firstSegment name = word := by
  refine ⟨_, by rw [declaredName?, place]; rfl, ?_⟩
  rw [trimEnd_word_append identifier]
  exact firstSegment_append identifier fun c found => ends c (head_of_trimEnd found)

theorem declaresAt_iff :
    DeclaresAt (before ++ (word ++ rest)) before.length word ↔
      declaration? (before ++ (word ++ rest)) = some (trimEnd (word ++ rest)) := by
  have cut : (before ++ (word ++ rest)).drop before.length = word ++ rest := List.drop_left
  constructor
  · intro declares
    rw [← cut]
    exact cut.symm ▸ declares.place
  · intro place
    obtain ⟨name, declared, segment⟩ := declaredName?_of_place identifier ends place
    refine ⟨by rw [cut]; exact place, name, ?_, segment⟩
    intro buffer
    exact buffer.readLine_current declared

/-- In front of a word a name is due exactly if the line declares one there, but for lines that
repeat the delimiter and for announcements that stray. -/
theorem anticipatesName_iff_declaresAt (isOpen : IsOpen (before ++ (word ++ rest))) :
    anticipatesName before = true ↔
      DeclaresAt (before ++ (word ++ rest)) before.length word ∧
          ¬Reopens (before ++ (word ++ rest)) ∨
        Strays before := by
  rw [declaresAt_iff identifier ends]
  exact anticipatesName_iff_declares isOpen (dottedLength_word_pos identifier ends)

theorem not_declaresAt_of_strays (isOpen : IsOpen (before ++ (word ++ rest)))
    (strays : Strays before) : ¬DeclaresAt (before ++ (word ++ rest)) before.length word := by
  rw [declaresAt_iff identifier ends]
  exact not_declares_of_strays isOpen strays

end Word

def lineAt (before after : Text) : Text :=
  (splitLines before).2 ++ after.takeWhile (· != '\n')

theorem linesOf_of_no_newline {text : Text} (single : '\n' ∉ text) (nonempty : text ≠ []) :
    linesOf text = [text] := by
  simp [linesOf, splitLines_of_no_newline single, nonempty]

theorem splitLines_append_newline {line : Text} (single : '\n' ∉ line) (rest : Text) :
    splitLines (line ++ '\n' :: rest) = (line :: (splitLines rest).1, (splitLines rest).2) := by
  induction line with
  | nil => simp [splitLines]
  | cons c cs ih =>
    simp only [List.mem_cons, not_or] at single
    simp [splitLines, ih single.2, Ne.symm single.1]

theorem linesOf_append_newline {line : Text} (single : '\n' ∉ line) (rest : Text) :
    linesOf (line ++ '\n' :: rest) = line :: linesOf rest := by
  simp only [linesOf, splitLines_append_newline single]
  split <;> rfl

theorem takeWhile_line {line rest : Text} (single : '\n' ∉ line)
    (ends : ∀ c, rest.head? = some c → c = '\n') :
    (line ++ rest).takeWhile (· != '\n') = line := by
  apply takeWhile_append_of_stop
  · intro c member
    apply bne_iff_ne.mpr
    rintro rfl
    exact single member
  · intro c found
    simp [ends c found]

theorem exists_line (text : Text) :
    '\n' ∉ text ∨ ∃ line rest, '\n' ∉ line ∧ text = line ++ '\n' :: rest := by
  induction text with
  | nil => exact .inl (by simp)
  | cons c cs ih =>
    by_cases newline : c = '\n'
    · exact .inr ⟨[], cs, by simp, by simp [newline]⟩
    · rcases ih with single | ⟨line, rest, single, rfl⟩
      · exact .inl (by simp [single, Ne.symm newline])
      · exact .inr ⟨c :: line, rest, by simp [single, Ne.symm newline], rfl⟩

theorem lineAt_mem_linesOf (before : Text) {after : Text} (nonempty : after ≠ []) :
    lineAt before after ∈ linesOf (before ++ after) := by
  have clean := newline_notMem_snd_splitLines before
  rw [linesOf_append, List.mem_append, lineAt]
  refine .inr ?_
  rcases exists_line after with single | ⟨line, rest, single, rfl⟩
  · have whole : after.takeWhile (· != '\n') = after := by
      have none : ∀ c, ([] : Text).head? = some c → c = '\n' := by simp
      simpa using takeWhile_line single none
    rw [whole, linesOf_of_no_newline (by simp [clean, single]) (by simp [nonempty])]
    exact List.mem_singleton_self _
  · rw [takeWhile_line single (by simp), ← List.append_assoc,
      linesOf_append_newline (by simp [clean, single])]
    exact List.mem_cons_self

theorem exists_place_of_mem_linesOf {text raw : Text} (member : raw ∈ linesOf text) :
    '\n' ∉ raw ∧ ∃ before after, text = before ++ (raw ++ after) ∧ (splitLines before).2 = [] ∧
      ∀ c, after.head? = some c → c = '\n' := by
  -- by the number of characters: what follows the first newline is a shorter text
  induction size : text.length using Nat.strongRecOn generalizing text with
  | _ n ih =>
    rcases exists_line text with single | ⟨line, rest, single, rfl⟩
    · by_cases nonempty : text = []
      · rw [nonempty] at member
        cases member
      · rw [linesOf_of_no_newline single nonempty] at member
        obtain rfl := List.mem_singleton.mp member
        exact ⟨single, [], [], by simp, rfl, by simp⟩
    · rw [linesOf_append_newline single] at member
      rcases List.mem_cons.mp member with rfl | later
      · exact ⟨single, [], '\n' :: rest, rfl, rfl, by simp⟩
      · have shorter : rest.length < n := by
          rw [← size, List.length_append, List.length_cons]
          omega
        obtain ⟨clean, before, after, rfl, atStart, ends⟩ := ih _ shorter later rfl
        refine ⟨clean, line ++ '\n' :: before, after, by simp, ?_, ends⟩
        rw [splitLines_append_newline single]
        exact atStart

theorem lineAt_of_place {before start rest after : Text} (atStart : (splitLines before).2 = [])
    (single : '\n' ∉ start ++ rest) (ends : ∀ c, after.head? = some c → c = '\n') :
    (splitLines (before ++ start)).2 = start ∧
      lineAt (before ++ start) (rest ++ after) = start ++ rest := by
  rw [List.mem_append, not_or] at single
  have cut : (splitLines (before ++ start)).2 = start := by
    rw [splitLines_append, atStart, List.nil_append, splitLines_of_no_newline single.1]
  refine ⟨cut, ?_⟩
  rw [lineAt, cut, takeWhile_line single.2 ends]

end Doc

end ClosureTemplate
