import ClosureTemplate.Proofs.Doc.Sections

/-!
The delimiters of a comment. A comment says the same with its delimiters as without
(`sameDocumentation_enclosed_iff`), but for two kinds of text: a first line that opens with another
delimiter, which a reading of the body takes for the comment's own, and a last line `/*`, which the
closing delimiter turns into an opening one.
-/

namespace ClosureTemplate

namespace Text

theorem trimStart_append_of_head (front : Text) {rest : Text}
    (head : ∀ c, rest.head? = some c → isBlank c = false) :
    trimStart (front ++ rest) = trimStart front ++ rest := by
  obtain ⟨lead, blank, split⟩ := exists_trimStart front
  have start : trimStart (trimStart front ++ rest) = trimStart front ++ rest := by
    apply trimStart_of_head
    intro c found
    rw [List.head?_append] at found
    cases inner : (trimStart front).head? with
    | none =>
      rw [inner] at found
      exact head c found
    | some d =>
      rw [inner] at found
      obtain rfl : d = c := Option.some.inj found
      exact head_trimStart front d inner
  calc
    trimStart (front ++ rest) = trimStart (lead ++ (trimStart front ++ rest)) := by
      rw [← List.append_assoc, ← split]
    _ = trimStart front ++ rest := by rw [trimStart_append_of_blank _ blank, start]

theorem trim_trimStart (text : Text) : trim (trimStart text) = trim text := by
  obtain ⟨lead, leadBlank, start⟩ := exists_trimStart text
  obtain ⟨gap, trail, gapBlank, trailBlank, shape⟩ := exists_trim (trimStart text)
  have whole : text = lead ++ gap ++ (trim (trimStart text) ++ trail) := by
    rw [List.append_assoc, ← shape]
    exact start
  have core := trim_append (by simp [leadBlank, gapBlank] : (lead ++ gap).all isBlank = true)
    (isTrimmed_trim (trimStart text)) trailBlank
  rw [← whole] at core
  exact core.symm

theorem trim_trimEnd (text : Text) : trim (trimEnd text) = trim text := by
  obtain ⟨trail, trailBlank, stop⟩ := exists_trimEnd text
  obtain ⟨lead, gap, leadBlank, gapBlank, shape⟩ := exists_trim (trimEnd text)
  have whole : text = lead ++ (trim (trimEnd text) ++ (gap ++ trail)) := by
    rw [← List.append_assoc, ← List.append_assoc, List.append_assoc lead, ← shape]
    exact stop
  have core := trim_append leadBlank (isTrimmed_trim (trimEnd text))
    (by simp [gapBlank, trailBlank] : (gap ++ trail).all isBlank = true)
  rw [← whole] at core
  exact core.symm

theorem length_trim_le (text : Text) : (trim text).length ≤ text.length := by
  obtain ⟨lead, trail, -, -, shape⟩ := exists_trim text
  have whole := congrArg List.length shape
  simp only [List.length_append] at whole
  omega

theorem dropTail?_append (front tail : Text) : dropTail? tail (front ++ tail) = some front := by
  simp [dropTail?]

theorem dropHead?_eq_none {head text : Text} (apart : ¬head <+: text) :
    dropHead? head text = none := by
  rw [dropHead?, if_neg (by simpa using apart)]

end Text

namespace Doc

open Text

def bareLine (raw : Text) : Text := withoutDelimiter (dropHead? ['*']) (trim raw)

theorem IsOpen.of_infix {part raw : Text} (isOpen : IsOpen raw) (within : part <:+: raw) :
    IsOpen part :=
  fun closes => isOpen (closes.trans within)

theorem IsOpen.trim {raw : Text} (isOpen : IsOpen raw) : IsOpen (trim raw) := by
  obtain ⟨lead, trail, -, -, shape⟩ := exists_trim raw
  exact isOpen.of_infix ⟨lead, trail, by rw [List.append_assoc, ← shape]⟩

theorem withoutTail_of_isOpen {line : Text} (isOpen : IsOpen line) :
    withoutDelimiter (dropTail? "*/".toList) line = line := by
  unfold withoutDelimiter
  cases found : dropTail? "*/".toList line with
  | none => rfl
  | some rest => exact absurd (suffix_of_dropTail? found).isInfix isOpen

theorem withoutTail_append (front : Text) :
    withoutDelimiter (dropTail? "*/".toList) (front ++ "*/".toList) = trim front := by
  simp only [withoutDelimiter, dropTail?_append]

theorem withoutHead_append (rest : Text) :
    withoutDelimiter (dropHead? "/**".toList) ("/**".toList ++ rest) = trim rest := by
  simp only [withoutDelimiter, dropHead?_eq_some_iff.mpr rfl]

theorem withoutHead_of_unopened {line : Text} (apart : ¬"/**".toList <+: line) :
    withoutDelimiter (dropHead? "/**".toList) line = line := by
  simp only [withoutDelimiter, dropHead?_eq_none apart]

theorem trim_opening_append {rest : Text} : trim ("/**".toList ++ rest) =
    "/**".toList ++ trimEnd rest := by
  have start : trimStart ("/**".toList ++ rest) = "/**".toList ++ rest := by
    apply trimStart_of_head
    rintro c ⟨⟩
    decide
  rw [trim, start]
  apply trimEnd_append
  rintro c ⟨⟩
  decide

theorem trim_append_closing (front : Text) :
    trim (front ++ "*/".toList) = trimStart front ++ "*/".toList := by
  have start : trimStart (front ++ "*/".toList) = trimStart front ++ "*/".toList := by
    apply trimStart_append_of_head front
    rintro c ⟨⟩
    decide
  rw [trim, start]
  apply trimEnd_of_last
  intro c found
  rw [getLast?_append_of_nonempty _ (by decide)] at found
  obtain rfl : '/' = c := Option.some.inj found
  decide

theorem Reopens.trim {raw : Text} (reopens : Reopens raw) :
    ∃ rest, trimStart raw = "/**".toList ++ rest ∧ trim raw = "/**".toList ++ trimEnd rest := by
  obtain ⟨rest, split⟩ := reopens
  refine ⟨rest, split.symm, ?_⟩
  rw [← trim_trimStart, ← split, trim_opening_append]

theorem reopens_iff {raw : Text} : Reopens raw ↔ "/**".toList <+: trim raw := by
  constructor
  · intro reopens
    obtain ⟨rest, -, shape⟩ := reopens.trim
    exact ⟨_, shape.symm⟩
  · intro starts
    obtain ⟨trail, -, split⟩ := exists_trimEnd (trimStart raw)
    rw [Reopens, split]
    exact starts.trans (List.prefix_append _ _)

theorem cleanLine_of_single {raw : Text} (isOpen : IsOpen raw) (single : ¬Reopens raw) :
    cleanLine raw = bareLine raw := by
  rw [cleanLine_of_isOpen isOpen, withoutHead_of_unopened (mt reopens_iff.mpr single)]
  rfl

theorem cleanLine_opened {first : Text} (isOpen : IsOpen first) :
    cleanLine ("/**".toList ++ first) = bareLine first := by
  unfold cleanLine
  dsimp only
  rw [trim_opening_append, withoutHead_append, trim_trimEnd, withoutTail_of_isOpen isOpen.trim]
  rfl

theorem cleanLine_enclosed (body : Text) :
    cleanLine ("/**".toList ++ (body ++ "*/".toList)) = bareLine body := by
  have ends : trimEnd (body ++ "*/".toList) = body ++ "*/".toList := by
    apply trimEnd_of_last
    intro c found
    rw [getLast?_append_of_nonempty _ (by decide)] at found
    obtain rfl : '/' = c := Option.some.inj found
    decide
  unfold cleanLine
  dsimp only
  rw [trim_opening_append, ends, withoutHead_append, trim_append_closing, withoutTail_append,
    trim_trimStart]
  rfl

theorem opening_prefix_append {line : Text} (starts : "/**".toList <+: line ++ "*/".toList) :
    "/**".toList <+: line ∨ line = "/*".toList := by
  obtain ⟨rest, split⟩ := starts
  rcases List.append_eq_append_iff.mp split.symm with ⟨gap, same, closing⟩ | ⟨gap, same, -⟩
  · -- the line is a proper part of the delimiter, which leaves a star to be shared
    rcases line with _ | ⟨c, _ | ⟨d, _ | ⟨e, others⟩⟩⟩
    · rw [List.nil_append] at same
      rw [← same] at closing
      cases closing
    · obtain ⟨-, rfl⟩ := List.cons.inj same
      cases closing
    · obtain ⟨rfl, inner⟩ := List.cons.inj same
      obtain ⟨rfl, -⟩ := List.cons.inj inner
      exact .inr rfl
    · obtain ⟨rfl, inner⟩ := List.cons.inj same
      obtain ⟨rfl, innermost⟩ := List.cons.inj inner
      obtain ⟨rfl, -⟩ := List.cons.inj innermost
      exact .inl ⟨others, rfl⟩
  · exact .inl ⟨gap, same.symm⟩

theorem cleanLine_closed {last : Text} (isOpen : IsOpen last)
    (apart : trimStart last ≠ "/*".toList) : cleanLine (last ++ "*/".toList) = cleanLine last := by
  rw [cleanLine_of_isOpen isOpen]
  unfold cleanLine
  dsimp only
  rw [trim_append_closing]
  congr 1
  by_cases reopens : Reopens last
  · obtain ⟨rest, start, shape⟩ := reopens.trim
    rw [start, shape, List.append_assoc, withoutHead_append, withoutHead_append,
      trim_append_closing, withoutTail_append, trim_trimStart, trim_trimEnd]
  · have unopened : ¬"/**".toList <+: trimStart last ++ "*/".toList := by
      intro starts
      rcases opening_prefix_append starts with within | shared
      · exact reopens within
      · exact apart shared
    rw [withoutHead_of_unopened unopened, withoutTail_append, trim_trimStart,
      withoutHead_of_unopened (mt reopens_iff.mpr reopens)]

theorem cleanLine_shared {last : Text} (shared : trimStart last = "/*".toList) :
    cleanLine last = "/*".toList ∧ cleanLine (last ++ "*/".toList) = "/".toList := by
  have trimmed : trim last = "/*".toList := by
    rw [← trim_trimStart, shared]
    decide
  have closed : trim (last ++ "*/".toList) = "/**/".toList := by
    rw [trim_append_closing, shared]
    rfl
  constructor
  · unfold cleanLine
    rw [trimmed]
    decide
  · unfold cleanLine
    rw [closed]
    decide

theorem length_withoutHead_le (opening : Text) {line : Text} (trimmed : line.IsTrimmed) :
    (withoutDelimiter (dropHead? opening) line).length ≤ line.length := by
  obtain ⟨-, piece, trail, -, -, shape⟩ := withoutDelimiter_split opening trimmed
  have whole := congrArg List.length shape
  simp only [List.length_append] at whole
  omega

theorem Reopens.shortens {raw : Text} (reopens : Reopens raw) (isOpen : IsOpen raw) :
    markerRest? (bareLine raw) = none ∧ (cleanLine raw).length + 3 ≤ (bareLine raw).length := by
  obtain ⟨rest, -, shape⟩ := reopens.trim
  have bare : bareLine raw = "/**".toList ++ trimEnd rest := by
    rw [bareLine, shape]
    rfl
  have cleaned : cleanLine raw = withoutDelimiter (dropHead? ['*']) (Text.trim (trimEnd rest)) := by
    rw [cleanLine_of_isOpen isOpen, shape, withoutHead_append]
  have shorter := length_withoutHead_le ['*'] (isTrimmed_trim (trimEnd rest))
  have trimmed := length_trim_le (trimEnd rest)
  rw [bare, cleaned]
  refine ⟨rfl, ?_⟩
  rw [List.length_append]
  change _ ≤ 3 + _
  omega

def weight (segments : List Text) : Nat :=
  (segments.filter (!·.isEmpty)).foldr (fun segment rest => segment.length + 1 + rest) 0

theorem length_spaced (segments : List Text) : (spaced segments).length = weight segments - 1 := by
  unfold spaced weight
  generalize segments.filter (!·.isEmpty) = pieces
  induction pieces with
  | nil => rfl
  | cons first others ih =>
    cases others with
    | nil => simp [List.intercalate_singleton]
    | cons second others =>
      rw [List.intercalate_cons_cons, List.length_append, List.length_append, ih]
      simp only [List.foldr_cons, List.length_singleton]
      omega

theorem spaced_ne_of_weight {one other : List Text} (lighter : weight one < weight other)
    (some : 1 < weight other) : spaced one ≠ spaced other := by
  intro same
  have lengths := congrArg List.length same
  rw [length_spaced, length_spaced] at lengths
  omega

theorem weight_cons {line : Text} (nonempty : line ≠ []) (lines : List Text) :
    weight (line :: lines) = line.length + 1 + weight lines := by
  simp [weight, nonempty]

theorem weight_nil_cons (lines : List Text) : weight ([] :: lines) = weight lines := rfl

theorem weight_cons_le (line : Text) (lines : List Text) :
    weight (line :: lines) ≤ line.length + 1 + weight lines := by
  by_cases empty : line = []
  · rw [empty, weight_nil_cons]
    exact Nat.le_add_left _ _
  · exact Nat.le_of_eq (weight_cons empty lines)

theorem weight_append (one other : List Text) :
    weight (one ++ other) = weight one + weight other := by
  induction one with
  | nil => exact (Nat.zero_add _).symm
  | cons line lines ih =>
    by_cases empty : line = []
    · rw [List.cons_append, empty, weight_nil_cons, weight_nil_cons, ih]
    · rw [List.cons_append, weight_cons empty, weight_cons empty, ih, Nat.add_assoc _ (weight lines)]

theorem Paragraph.segments_concat (marker : Text) (lines : List Text) (line : Text) :
    segments ⟨marker, lines ++ [line]⟩ = segments ⟨marker, lines⟩ ++ [line] := rfl

namespace Outline

structure Agree (one other : Outline) : Prop where
  lead : spaced one.lead = spaced other.lead
  names : one.names = other.names
  parameter : ∀ name, one.parameter name = other.parameter name

theorem Agree.refl (outline : Outline) : outline.Agree outline := ⟨rfl, rfl, fun _ => rfl⟩

theorem Agree.symm {one other : Outline} (agree : one.Agree other) : other.Agree one :=
  ⟨agree.lead.symm, agree.names.symm, fun name => (agree.parameter name).symm⟩

theorem Agree.trans {one other third : Outline} (first : one.Agree other)
    (second : other.Agree third) : one.Agree third :=
  ⟨first.lead.trans second.lead, first.names.trans second.names,
    fun name => (first.parameter name).trans (second.parameter name)⟩

variable {lead : List Text} {front : List Paragraph} {last : Paragraph}

theorem agree_concat_iff (one other : List Text) :
    Agree ⟨lead, front ++ [{ last with lines := one }]⟩
        ⟨lead, front ++ [{ last with lines := other }]⟩ ↔
      ∀ name, last.name? = some name →
        spaced ((paragraphsOf ⟨lead, front⟩ name).flatMap Paragraph.segments ++
            Paragraph.segments { last with lines := one }) =
          spaced ((paragraphsOf ⟨lead, front⟩ name).flatMap Paragraph.segments ++
            Paragraph.segments { last with lines := other }) := by
  have marked (lines : List Text) : Paragraph.name? { last with lines } = last.name? := rfl
  constructor
  · intro agree name named
    have said := agree.parameter name
    rw [parameter_concat lead front ((marked one).trans named),
      parameter_concat lead front ((marked other).trans named)] at said
    exact congrArg Parameter.description said
  · intro said
    cases named : last.name? with
    | none =>
      refine ⟨rfl, ?_, ?_⟩
      · rw [names_concat_unnamed lead front ((marked one).trans named),
          names_concat_unnamed lead front ((marked other).trans named)]
      · intro name
        rw [parameter_concat_of_ne lead front (by simp [marked, named]),
          parameter_concat_of_ne lead front (by simp [marked, named])]
    | some name =>
      refine ⟨rfl, ?_, ?_⟩
      · rw [names_concat lead front ((marked one).trans named),
          names_concat lead front ((marked other).trans named)]
      · intro candidate
        by_cases same : name = candidate
        · subst same
          rw [parameter_concat lead front ((marked one).trans named),
            parameter_concat lead front ((marked other).trans named), said name named]
          rfl
        · rw [parameter_concat_of_ne lead front (by simpa [marked, named] using same),
            parameter_concat_of_ne lead front (by simpa [marked, named] using same)]

end Outline

theorem current_concat_plain {line : Text} (plain : markerRest? line = none) (lines : List Text) :
    (outline (lines ++ [line])).current = (outline lines).current := by
  generalize shape : outline lines = parts
  obtain ⟨lead, paragraphs⟩ := parts
  rcases List.eq_nil_or_concat paragraphs with rfl | ⟨front, last, rfl⟩
  · rw [outline_concat_lead plain (by rw [shape])]
    rfl
  · rw [List.concat_eq_append] at shape ⊢
    rw [outline_concat_last plain (by rw [shape]), Outline.current_concat, Outline.current_concat]
    rfl

theorem agree_concat_nil (lines : List Text) :
    (outline (lines ++ [[]])).Agree (outline lines) := by
  generalize shape : outline lines = parts
  obtain ⟨lead, paragraphs⟩ := parts
  rcases List.eq_nil_or_concat paragraphs with rfl | ⟨front, last, rfl⟩
  · rw [outline_concat_lead rfl (by rw [shape]), shape]
    exact ⟨spaced_concat_nil lead, rfl, fun _ => rfl⟩
  · rw [List.concat_eq_append] at shape ⊢
    rw [outline_concat_last rfl (by rw [shape]), shape]
    apply (Outline.agree_concat_iff (last.lines ++ [[]]) last.lines).mpr
    intro name _
    rw [Paragraph.segments_concat, ← List.append_assoc, spaced_concat_nil]

section Last

variable {line other : Text} (plain : markerRest? line = none)
  (otherPlain : markerRest? other = none) (begun : line ≠ [])

include plain otherPlain begun

/-- Two last lines of different lengths say the same only where lines are dropped. -/
theorem agree_concat_iff_discarded (lines : List Text)
    (longer : line.length < other.length) :
    (outline (lines ++ [line])).Agree (outline (lines ++ [other])) ↔
      (outline (lines ++ [other])).current = .discarded := by
  have filled : other ≠ [] := by
    rintro rfl
    cases longer
  have differ (segments : List Text) :
      spaced (segments ++ [line]) ≠ spaced (segments ++ [other]) := by
    apply spaced_ne_of_weight <;>
      simp only [weight_append, weight_cons begun, weight_cons filled] <;> omega
  generalize shape : outline lines = parts
  obtain ⟨lead, paragraphs⟩ := parts
  rcases List.eq_nil_or_concat paragraphs with rfl | ⟨front, last, rfl⟩
  · rw [outline_concat_lead plain (by rw [shape]), outline_concat_lead otherPlain (by rw [shape]),
      shape]
    constructor
    · intro agree
      exact absurd agree.lead (differ lead)
    · rintro ⟨⟩
  · rw [List.concat_eq_append] at shape
    rw [outline_concat_last plain (by rw [shape]), outline_concat_last otherPlain (by rw [shape]),
      shape, Outline.agree_concat_iff, Outline.current_concat]
    have marked : Paragraph.name? { last with lines := last.lines ++ [other] } = last.name? := rfl
    rw [marked]
    cases named : last.name? with
    | none => simp
    | some name =>
      constructor
      · intro said
        have same := said name rfl
        rw [Paragraph.segments_concat, Paragraph.segments_concat, ← List.append_assoc,
          ← List.append_assoc] at same
        exact absurd same (differ _)
      · rintro ⟨⟩

theorem weight_lead_concat_le (lines : List Text) (longer : other.length ≤ line.length + 1) :
    weight (outline (lines ++ [other])).lead ≤ weight (outline (lines ++ [line])).lead + 1 := by
  generalize shape : outline lines = parts
  obtain ⟨lead, paragraphs⟩ := parts
  rcases List.eq_nil_or_concat paragraphs with rfl | ⟨front, last, rfl⟩
  · have heavy := weight_cons_le other []
    rw [outline_concat_lead plain (by rw [shape]), outline_concat_lead otherPlain (by rw [shape]),
      shape, weight_append, weight_append, weight_cons begun]
    dsimp only
    omega
  · rw [List.concat_eq_append] at shape
    rw [outline_concat_last plain (by rw [shape]), outline_concat_last otherPlain (by rw [shape])]
    exact Nat.le_succ _

end Last

theorem not_agree_of_longer {first other : Text} {lines others : List Text}
    (plain : markerRest? other = none) (longer : first.length + 3 ≤ other.length)
    (close : weight (outline lines).lead ≤ weight (outline others).lead + 1) :
    ¬(outline (other :: others)).Agree (outline (first :: lines)) := by
  intro agree
  have filled : other ≠ [] := by
    rintro rfl
    cases longer
  have heavy : weight (outline (other :: others)).lead =
      other.length + 1 + weight (outline others).lead := by
    simp only [outline, plain]
    exact weight_cons filled _
  have light : weight (outline (first :: lines)).lead ≤
      first.length + 1 + weight (outline lines).lead := by
    cases begins : markerRest? first with
    | none =>
      simp only [outline, begins]
      exact weight_cons_le first _
    | some marker =>
      simp only [outline, begins]
      exact Nat.zero_le _
  refine absurd agree.lead.symm (spaced_ne_of_weight ?_ ?_) <;> omega

namespace Buffer

/-- The same description, the same names in the same order, and the same of each of them. -/
structure SameDocumentation (one other : Buffer) : Prop where
  description : one.description? = other.description?
  names : one.parameterNames = other.parameterNames
  parameter : ∀ name, one.parameters.get? name = other.parameters.get? name

theorem description?_getD (buffer : Buffer) :
    buffer.description?.getD [] = buffer.description.getD [] := by
  rw [description?_eq]
  split
  · next empty => exact empty.symm
  · rfl

theorem sameDocumentation_iff {one other : Buffer} {first second : Outline}
    (holds : one.Holds first) (otherHolds : other.Holds second) :
    one.SameDocumentation other ↔ first.Agree second := by
  constructor
  · intro same
    refine ⟨?_, ?_, ?_⟩
    · rw [← holds.description, ← otherHolds.description, ← description?_getD, same.description,
        description?_getD]
    · rw [← holds.names, same.names, otherHolds.names]
    · intro name
      rw [← holds.parameter, same.parameter, otherHolds.parameter]
  · intro agree
    have names : one.parameterNames = other.parameterNames := by
      rw [holds.names, agree.names, otherHolds.names]
    refine ⟨?_, names, ?_⟩
    · rw [description?_eq, description?_eq, holds.description, otherHolds.description, agree.lead]
    · intro name
      have said : (one.parameters.get? name).getD {} = (other.parameters.get? name).getD {} := by
        rw [holds.parameter, agree.parameter, otherHolds.parameter]
      have listed : name ∈ one.parameters.keys ↔ name ∈ other.parameters.keys :=
        iff_of_eq (congrArg (name ∈ ·) names)
      cases known : one.parameters.get? name with
      | some parameter =>
        obtain ⟨value, found⟩ :=
          Table.exists_of_mem_keys (listed.mp (Table.mem_keys_of_get? known))
        rw [known, found] at said
        rw [found]
        exact congrArg some said
      | none =>
        cases found : other.parameters.get? name with
        | none => rfl
        | some parameter =>
          obtain ⟨value, again⟩ :=
            Table.exists_of_mem_keys (listed.mpr (Table.mem_keys_of_get? found))
          rw [known] at again
          cases again

end Buffer

/-- A comment with its delimiters. -/
def enclosed (body : Text) : Text := "/**".toList ++ (body ++ "*/".toList)

def firstLine (body : Text) : Text := body.takeWhile (· != '\n')

/-- The body has several lines, the last of which makes an opening delimiter with the closing one. -/
def SharesDelimiter (body : Text) : Prop :=
  '\n' ∈ body ∧ trimStart (splitLines body).2 = "/*".toList

theorem isOpen_lastLine {text : Text} (isOpen : IsOpen text) : IsOpen (splitLines text).2 := by
  by_cases ended : (splitLines text).2 = []
  · rw [ended]
    intro closes
    cases List.infix_nil.mp closes
  · have listed : (splitLines text).2 ∈ linesOf text := by simp [linesOf, ended]
    obtain ⟨-, before, after, split, -⟩ := exists_place_of_mem_linesOf listed
    exact isOpen.of_infix ⟨before, after, by rw [List.append_assoc, ← split]⟩

theorem agree_splitOn (text : Text) :
    (outline ((text.splitOn '\n').map cleanLine)).Agree (outline ((linesOf text).map cleanLine)) ∧
      (outline ((text.splitOn '\n').map cleanLine)).current =
        (outline ((linesOf text).map cleanLine)).current := by
  rw [splitOn_newline, linesOf]
  split
  · next ended =>
    rw [List.isEmpty_iff.mp ended, List.map_append]
    exact ⟨agree_concat_nil _, current_concat_plain rfl _⟩
  · exact ⟨.refl _, rfl⟩

theorem splitOn_enclosed_of_single {body : Text} (single : '\n' ∉ body) :
    (enclosed body).splitOn '\n' = [enclosed body] := by
  rw [splitOn_newline, splitLines_of_no_newline (by simp [enclosed, single])]
  rfl

theorem splitOn_enclosed {first : Text} (single : '\n' ∉ first) (rest : Text) :
    (enclosed (first ++ '\n' :: rest)).splitOn '\n' =
      ("/**".toList ++ first) ::
        ((splitLines rest).1 ++ [(splitLines rest).2 ++ "*/".toList]) := by
  have cut : enclosed (first ++ '\n' :: rest) =
      ("/**".toList ++ first) ++ '\n' :: (rest ++ "*/".toList) := by
    simp [enclosed]
  have clean : '\n' ∉ (splitLines rest).2 ++ "*/".toList := by
    simp [newline_notMem_snd_splitLines rest]
  have ending : splitLines (rest ++ "*/".toList) =
      ((splitLines rest).1, (splitLines rest).2 ++ "*/".toList) := by
    rw [splitLines_append, splitLines_of_no_newline clean, List.append_nil]
  rw [splitOn_newline, cut, splitLines_append_newline (by simp [single]), ending]
  rfl

/-- A text is the same with delimiters as without, but for the two lines at its ends. -/
theorem agree_enclosed_iff {first : Text} (single : '\n' ∉ first) (rest : Text)
    (isOpen : IsOpen (first ++ '\n' :: rest)) :
    (outline (((enclosed (first ++ '\n' :: rest)).splitOn '\n').map cleanLine)).Agree
        (outline (((first ++ '\n' :: rest).splitOn '\n').map cleanLine)) ↔
      ¬Reopens first ∧ (trimStart (splitLines rest).2 = "/*".toList →
        (outline (((first ++ '\n' :: rest).splitOn '\n').map cleanLine)).current =
          .discarded) := by
  rw [splitOn_enclosed single, splitOn_newline, splitLines_append_newline single]
  have firstOpen : IsOpen first := isOpen.of_infix (List.prefix_append _ _).isInfix
  have lastOpen : IsOpen (splitLines rest).2 :=
    isOpen_lastLine (isOpen.of_infix ((List.suffix_cons _ _).trans (List.suffix_append _ _)).isInfix)
  generalize (splitLines rest).1 = middle
  generalize (splitLines rest).2 = last at lastOpen
  simp only [List.cons_append, List.map_cons, List.map_append, List.map_nil,
    cleanLine_opened firstOpen]
  by_cases reopens : Reopens first
  · obtain ⟨plain, longer⟩ := reopens.shortens firstOpen
    refine iff_of_false (not_agree_of_longer plain longer ?_) (fun both => both.1 reopens)
    by_cases shared : trimStart last = "/*".toList
    · rw [(cleanLine_shared shared).1, (cleanLine_shared shared).2]
      exact weight_lead_concat_le rfl rfl (by decide) _ (by decide)
    · rw [cleanLine_closed lastOpen shared]
      exact Nat.le_succ _
  · rw [cleanLine_of_single firstOpen reopens, ← List.cons_append, ← List.cons_append]
    by_cases shared : trimStart last = "/*".toList
    · rw [(cleanLine_shared shared).1, (cleanLine_shared shared).2,
        agree_concat_iff_discarded rfl rfl (by decide) _ (by decide)]
      simp [reopens, shared]
    · rw [cleanLine_closed lastOpen shared]
      exact iff_of_true (.refl _) ⟨reopens, fun same => absurd same shared⟩

theorem agree_enclosed_iff_of_single {body : Text} (single : '\n' ∉ body) (isOpen : IsOpen body) :
    (outline (((enclosed body).splitOn '\n').map cleanLine)).Agree
        (outline ((body.splitOn '\n').map cleanLine)) ↔ ¬Reopens body := by
  rw [splitOn_enclosed_of_single single, splitOn_newline, splitLines_of_no_newline single]
  simp only [List.nil_append, List.map_cons, List.map_nil, enclosed, cleanLine_enclosed]
  constructor
  · intro agree reopens
    obtain ⟨plain, longer⟩ := reopens.shortens isOpen
    exact not_agree_of_longer plain longer (Nat.le_succ _) agree
  · intro once
    rw [cleanLine_of_single isOpen once]
    exact .refl _

namespace Buffer

theorem sameDocumentation_enclosed_iff {body : Text} (isOpen : IsOpen body)
    (one other : Option Text) :
    (ofText one (enclosed body)).SameDocumentation (ofText other body) ↔
      ¬Reopens (firstLine body) ∧
        (SharesDelimiter body → (ofText other body).current = .discarded) := by
  obtain ⟨wholeSame, -⟩ := agree_splitOn (enclosed body)
  obtain ⟨bodySame, current⟩ := agree_splitOn body
  have pieces : (ofText one (enclosed body)).SameDocumentation (ofText other body) ↔
      (outline (((enclosed body).splitOn '\n').map cleanLine)).Agree
        (outline ((body.splitOn '\n').map cleanLine)) := by
    rw [sameDocumentation_iff (holds_ofText one (enclosed body)) (holds_ofText other body)]
    exact ⟨fun agree => (wholeSame.trans agree).trans bodySame.symm,
      fun agree => (wholeSame.symm.trans agree).trans bodySame⟩
  rw [pieces, (holds_ofText other body).current, ← current]
  rcases exists_line body with single | ⟨first, rest, single, rfl⟩
  · have whole : firstLine body = body := by
      have line := @takeWhile_line body [] single (by simp)
      rw [List.append_nil] at line
      exact line
    rw [agree_enclosed_iff_of_single single isOpen, whole]
    simp [SharesDelimiter, single]
  · have line : firstLine (first ++ '\n' :: rest) = first := takeWhile_line single (by simp)
    rw [agree_enclosed_iff single rest isOpen, line, SharesDelimiter,
      splitLines_append_newline single]
    simp

end Buffer

end Doc

end ClosureTemplate
