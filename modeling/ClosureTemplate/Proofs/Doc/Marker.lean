import ClosureTemplate.Proofs.Doc.Chunks
import ClosureTemplate.Proofs.Text.CharClass
import ClosureTemplate.Proofs.Text.Trim

/-!
Markers of parameters. Two readers look for them: the one in front of a name asks whether the line
so far announces one (`anticipatesName_iff`), the one behind the line asks what the whole line
declares (`declaration?_place`). They agree on lines that open with at most one star and do not
repeat the delimiter of the comment.
-/

namespace ClosureTemplate

namespace Text

theorem dropHead?_eq_some_iff {head text rest : Text} :
    dropHead? head text = some rest ↔ text = head ++ rest := by
  unfold dropHead?
  constructor
  · intro found
    split at found
    · next starts =>
      obtain ⟨after, rfl⟩ := List.isPrefixOf_iff_prefix.mp starts
      obtain rfl : after = rest := by simpa using found
      rfl
    · cases found
  · rintro rfl
    simp

theorem suffix_of_dropTail? {tail text rest : Text} (found : dropTail? tail text = some rest) :
    tail <:+ text := by
  unfold dropTail? at found
  split at found
  · next ends => exact List.isSuffixOf_iff_suffix.mp ends
  · cases found

theorem dottedLength_pos_iff {text : Text} :
    0 < dottedLength text ↔ ∃ c cs, text = c :: cs ∧ isNameStart c = true := by
  cases text with
  | nil => simp [dottedLength, identifierLength]
  | cons c cs =>
    by_cases starts : isNameStart c = true
    · have width : 0 < dottedLength (c :: cs) := by
        rw [dottedLength, identifierLength, if_pos starts, if_neg (by omega)]
        omega
      exact ⟨fun _ => ⟨c, cs, rfl, starts⟩, fun _ => width⟩
    · simp [dottedLength, identifierLength, starts]

end Text

namespace Doc

open Text

def optionalMark (isOptional : Bool) : Text := if isOptional then ['?'] else []

/-- A marker with stars before it and blanks between and behind. -/
def announcement (stars : Nat) (gap : Text) (isOptional : Bool) (trail : Text) : Text :=
  List.replicate stars '*' ++ (gap ++ ("@param".toList ++ (optionalMark isOptional ++ trail)))

/-- The line is an announcement behind blanks. -/
def Announces (line : Text) (stars : Nat) (isOptional : Bool) (trail : Text) : Prop :=
  trail.all isBlank = true ∧ ∃ lead gap, lead.all isBlank = true ∧ gap.all isBlank = true ∧
    line = lead ++ announcement stars gap isOptional trail

def announcesMarker (line : Text) : Bool :=
  match dropHead? "@param".toList line with
  | some ('?' :: rest) => rest.all isBlank
  | some rest => rest.all isBlank
  | none => false

theorem announcesMarker_iff {line : Text} :
    announcesMarker line = true ↔ ∃ isOptional trail, trail.all isBlank = true ∧
      line = "@param".toList ++ (optionalMark isOptional ++ trail) := by
  constructor
  · intro ends
    unfold announcesMarker at ends
    split at ends
    · next rest found => exact ⟨true, rest, ends, dropHead?_eq_some_iff.mp found⟩
    · next rest _ found => exact ⟨false, rest, ends, dropHead?_eq_some_iff.mp found⟩
    · cases ends
  · rintro ⟨isOptional, trail, blank, split⟩
    have found := dropHead?_eq_some_iff.mpr split
    unfold announcesMarker
    rw [found]
    cases isOptional with
    | true => exact blank
    | false =>
      -- a question mark is no blank
      cases trail with
      | nil => rfl
      | cons c cs =>
        by_cases question : c = '?'
        · subst question
          have solid : isBlank '?' = false := by decide
          simp [solid] at blank
        · simpa [optionalMark, question] using blank

theorem trimStart_announcement {gap : Text} (blank : gap.all isBlank = true) (isOptional : Bool)
    (trail : Text) : trimStart (gap ++ ("@param".toList ++ (optionalMark isOptional ++ trail))) =
      "@param".toList ++ (optionalMark isOptional ++ trail) := by
  rw [trimStart_append_of_blank _ blank]
  apply trimStart_of_head
  intro c found
  obtain rfl : '@' = c := by simpa using found
  decide

theorem head_behind_stars {gap : Text} (blank : gap.all isBlank = true) (isOptional : Bool)
    (trail : Text) :
    ∀ c, (gap ++ ("@param".toList ++ (optionalMark isOptional ++ trail))).head? = some c →
      (c == '*') = false := by
  intro c found
  apply beq_false_of_ne
  rintro rfl
  cases gap with
  | nil => cases found
  | cons d ds =>
    obtain rfl : d = '*' := Option.some.inj found
    have solid : isBlank '*' = false := by decide
    simp [solid] at blank

theorem dropStars_append {gap : Text} (blank : gap.all isBlank = true) (stars : Nat)
    (isOptional : Bool) (trail : Text) :
    (announcement stars gap isOptional trail).dropWhile (· == '*') =
      gap ++ ("@param".toList ++ (optionalMark isOptional ++ trail)) := by
  have taken : (announcement stars gap isOptional trail).takeWhile (· == '*') =
      List.replicate stars '*' :=
    takeWhile_append_of_stop (by simp) (head_behind_stars blank isOptional trail)
  have whole : List.replicate stars '*' ++
      (announcement stars gap isOptional trail).dropWhile (· == '*') =
        announcement stars gap isOptional trail := by
    rw [← taken, List.takeWhile_append_dropWhile]
  exact List.append_cancel_left whole

theorem anticipatesName_starred {line rest : Text} (starred : trimStart line = '*' :: rest) :
    anticipatesName line = announcesMarker (trimStart (rest.dropWhile (· == '*'))) := by
  unfold anticipatesName
  rw [starred]
  rfl

theorem anticipatesName_unstarred {line : Text} (unstarred : (trimStart line).head? ≠ some '*') :
    anticipatesName line = announcesMarker (trimStart line) := by
  unfold anticipatesName
  cases shape : trimStart line with
  | nil => rfl
  | cons c cs =>
    have other : c ≠ '*' := by
      rintro rfl
      rw [shape] at unstarred
      exact unstarred rfl
    simp only [List.cons.injEq, other, false_and, imp_self, implies_true]
    rfl

theorem anticipatesName_iff {line : Text} :
    anticipatesName line = true ↔
      ∃ stars isOptional trail, Announces line stars isOptional trail := by
  constructor
  · intro anticipates
    obtain ⟨lead, leadBlank, split⟩ := exists_trimStart line
    by_cases starred : (trimStart line).head? = some '*'
    · obtain ⟨rest, shape⟩ := List.head?_eq_some_iff.mp starred
      rw [anticipatesName_starred shape] at anticipates
      obtain ⟨isOptional, trail, trailBlank, marker⟩ := announcesMarker_iff.mp anticipates
      obtain ⟨gap, gapBlank, inner⟩ := exists_trimStart (rest.dropWhile (· == '*'))
      have stars : rest.takeWhile (· == '*') =
          List.replicate (rest.takeWhile (· == '*')).length '*' := by
        apply List.eq_replicate_of_mem
        intro c member
        simpa using List.all_eq_true.mp List.all_takeWhile c member
      refine ⟨(rest.takeWhile (· == '*')).length + 1, isOptional, trail, trailBlank, lead, gap,
        leadBlank, gapBlank, ?_⟩
      rw [announcement, ← marker, ← inner, List.replicate_succ, ← stars, List.cons_append,
        List.takeWhile_append_dropWhile, ← shape]
      exact split
    · rw [anticipatesName_unstarred starred] at anticipates
      obtain ⟨isOptional, trail, trailBlank, marker⟩ := announcesMarker_iff.mp anticipates
      refine ⟨0, isOptional, trail, trailBlank, lead, [], leadBlank, rfl, ?_⟩
      rw [marker] at split
      exact split
  · rintro ⟨stars, isOptional, trail, trailBlank, lead, gap, leadBlank, gapBlank, rfl⟩
    have ends : announcesMarker ("@param".toList ++ (optionalMark isOptional ++ trail)) = true :=
      announcesMarker_iff.mpr ⟨isOptional, trail, trailBlank, rfl⟩
    have start := trimStart_append_of_blank (announcement stars gap isOptional trail) leadBlank
    cases stars with
    | zero =>
      have shape : trimStart (lead ++ announcement 0 gap isOptional trail) =
          "@param".toList ++ (optionalMark isOptional ++ trail) :=
        start.trans (trimStart_announcement gapBlank isOptional trail)
      rw [anticipatesName_unstarred (by rw [shape]; simp), shape]
      exact ends
    | succ stars =>
      have shape : trimStart (lead ++ announcement (stars + 1) gap isOptional trail) =
          '*' :: announcement stars gap isOptional trail := by
        rw [start]
        rfl
      rw [anticipatesName_starred shape, dropStars_append gapBlank, trimStart_announcement gapBlank]
      exact ends

def declaration? (raw : Text) : Option Text :=
  (markerRest? (cleanLine raw)).bind fun rest =>
    if dottedLength (markerBody rest).2 = 0 then none else some (markerBody rest).2

theorem markerRest?_eq_some_iff {line rest : Text} :
    markerRest? line = some rest ↔ line = "@param".toList ++ rest ∧
      ∀ c, rest.head? = some c → c = '?' ∨ isBlank c = true := by
  unfold markerRest?
  constructor
  · intro found
    split at found
    · next marker =>
      cases found
      exact ⟨dropHead?_eq_some_iff.mp marker, by simp⟩
    · next c cs marker =>
      split at found
      · next follows =>
        cases found
        exact ⟨dropHead?_eq_some_iff.mp marker, by simpa using follows⟩
      · cases found
    · cases found
  · rintro ⟨rfl, follows⟩
    rw [dropHead?_eq_some_iff.mpr rfl]
    cases rest with
    | nil => rfl
    | cons c cs =>
      have follows : (decide (c = '?') || isBlank c) = true := by simpa using follows c rfl
      exact if_pos follows

theorem markerBody_plain {rest : Text} (plain : rest.head? ≠ some '?') :
    markerBody rest = (false, trimStart rest) := by
  unfold markerBody
  split
  · simp at plain
  · rfl

/-- Behind a marker stand the mark of an optional parameter, blanks and the body. -/
theorem markerBody_eq_iff {rest body : Text} {isOptional : Bool} :
    markerBody rest = (isOptional, body) ↔
      (∃ gap, gap.all isBlank = true ∧ rest = optionalMark isOptional ++ (gap ++ body)) ∧
        (∀ c, body.head? = some c → isBlank c = false) ∧
        (isOptional = false → rest.head? ≠ some '?') := by
  constructor
  · intro found
    by_cases question : rest.head? = some '?'
    · obtain ⟨inner, rfl⟩ := List.head?_eq_some_iff.mp question
      cases found
      obtain ⟨gap, blank, shape⟩ := exists_trimStart inner
      exact ⟨⟨gap, blank, congrArg ('?' :: ·) shape⟩, head_trimStart inner, by simp⟩
    · rw [markerBody_plain question] at found
      cases found
      obtain ⟨gap, blank, shape⟩ := exists_trimStart rest
      exact ⟨⟨gap, blank, shape⟩, head_trimStart rest, fun _ => question⟩
  · rintro ⟨⟨gap, blank, rfl⟩, head, plain⟩
    have trimmed : trimStart (gap ++ body) = body := by
      rw [trimStart_append_of_blank _ blank, trimStart_of_head head]
    cases isOptional with
    | true => exact congrArg (Prod.mk true) trimmed
    | false =>
      rw [markerBody_plain (plain rfl)]
      exact congrArg (Prod.mk false) trimmed

theorem declaration?_eq_some_iff {raw body : Text} :
    declaration? raw = some body ↔ 0 < dottedLength body ∧
      ∃ isOptional gap, gap.all isBlank = true ∧ (isOptional = true ∨ gap ≠ []) ∧
        cleanLine raw = "@param".toList ++ (optionalMark isOptional ++ (gap ++ body)) := by
  constructor
  · intro declared
    obtain ⟨rest, marker, found⟩ := Option.bind_eq_some_iff.mp declared
    obtain ⟨split, follows⟩ := markerRest?_eq_some_iff.mp marker
    obtain ⟨isOptional, inner, cut⟩ : ∃ isOptional inner, markerBody rest = (isOptional, inner) :=
      ⟨_, _, rfl⟩
    rw [cut] at found
    by_cases unnamed : dottedLength inner = 0
    · simp [unnamed] at found
    obtain rfl : inner = body := by simpa [unnamed] using found
    obtain ⟨⟨gap, blank, shape⟩, -, plain⟩ := markerBody_eq_iff.mp cut
    refine ⟨Nat.pos_of_ne_zero unnamed, isOptional, gap, blank, ?_,
      split.trans (congrArg _ shape)⟩
    refine Decidable.or_iff_not_imp_left.mpr fun required => ?_
    rw [Bool.not_eq_true] at required
    -- a name does not follow the marker at once
    rintro rfl
    obtain ⟨c, cs, rfl, starts⟩ := dottedLength_pos_iff.mp (Nat.pos_of_ne_zero unnamed)
    have first : rest.head? = some c := by
      rw [shape, required]
      rfl
    rcases follows c first with rfl | isBlank
    · exact plain required first
    · rw [isBlank_of_isNameStart starts] at isBlank
      cases isBlank
  · rintro ⟨named, isOptional, gap, blank, spaced, split⟩
    obtain ⟨c, cs, rfl, starts⟩ := dottedLength_pos_iff.mp named
    have head : ∀ d, (c :: cs).head? = some d → isBlank d = false := by
      rintro d ⟨⟩
      exact isBlank_of_isNameStart starts
    -- what follows the marker is a question mark or else a blank
    have follows : isOptional = false →
        ∃ d ds, optionalMark isOptional ++ (gap ++ c :: cs) = d :: ds ∧ isBlank d = true := by
      rintro rfl
      obtain ⟨d, ds, rfl⟩ := List.exists_cons_of_ne_nil (spaced.resolve_left Bool.false_ne_true)
      exact ⟨d, ds ++ c :: cs, rfl, (Bool.and_eq_true_iff.mp blank).1⟩
    have marker : markerRest? (cleanLine raw) =
        some (optionalMark isOptional ++ (gap ++ c :: cs)) := by
      refine markerRest?_eq_some_iff.mpr ⟨split, fun e found => ?_⟩
      cases isOptional with
      | true => exact .inl (Option.some.inj found).symm
      | false =>
        obtain ⟨d, ds, shape, isBlank⟩ := follows rfl
        rw [shape] at found
        exact .inr (Option.some.inj found ▸ isBlank)
    have inner : markerBody (optionalMark isOptional ++ (gap ++ c :: cs)) =
        (isOptional, c :: cs) := by
      refine markerBody_eq_iff.mpr ⟨⟨gap, blank, rfl⟩, head, fun required question => ?_⟩
      obtain ⟨d, ds, shape, isBlank⟩ := follows required
      rw [shape] at question
      obtain rfl := Option.some.inj question
      cases isBlank
    simp [declaration?, marker, inner, Nat.ne_of_gt named]

def IsOpen (text : Text) : Prop := ¬"*/".toList <:+: text

def Removed (opening piece : Text) : Prop :=
  piece = [] ∨ ∃ gap, gap.all isBlank = true ∧ piece = opening ++ gap

theorem withoutDelimiter_split (opening : Text) {line : Text} (trimmed : line.IsTrimmed) :
    (withoutDelimiter (dropHead? opening) line).IsTrimmed ∧
      ∃ piece trail, Removed opening piece ∧ trail.all isBlank = true ∧
        line = piece ++ (withoutDelimiter (dropHead? opening) line ++ trail) := by
  unfold withoutDelimiter
  cases found : dropHead? opening line with
  | none => exact ⟨trimmed, [], [], .inl rfl, rfl, by simp⟩
  | some rest =>
    obtain ⟨gap, trail, gapBlank, trailBlank, shape⟩ := exists_trim rest
    refine ⟨isTrimmed_trim rest, opening ++ gap, trail, .inr ⟨gap, gapBlank, rfl⟩, trailBlank, ?_⟩
    rw [List.append_assoc, ← shape]
    exact dropHead?_eq_some_iff.mp found

theorem cleanLine_of_isOpen {raw : Text} (isOpen : IsOpen raw) :
    cleanLine raw = withoutDelimiter (dropHead? ['*'])
      (withoutDelimiter (dropHead? "/**".toList) (trim raw)) := by
  obtain ⟨lead, after, -, -, shape⟩ := exists_trim raw
  obtain ⟨-, piece, trail, -, -, inner⟩ :=
    withoutDelimiter_split "/**".toList (isTrimmed_trim raw)
  have whole : lead ++ piece ++ withoutDelimiter (dropHead? "/**".toList) (trim raw) ++
      (trail ++ after) = raw := by
    calc
      _ = lead ++ (piece ++ (withoutDelimiter (dropHead? "/**".toList) (trim raw) ++ trail) ++
          after) := by simp only [List.append_assoc]
      _ = raw := by rw [← inner, ← shape]
  have unclosed : withoutDelimiter (dropTail? "*/".toList)
      (withoutDelimiter (dropHead? "/**".toList) (trim raw)) =
        withoutDelimiter (dropHead? "/**".toList) (trim raw) := by
    generalize withoutDelimiter (dropHead? "/**".toList) (trim raw) = line at whole
    unfold withoutDelimiter
    cases found : dropTail? "*/".toList line with
    | none => rfl
    | some rest =>
      have inside : line <:+: raw := ⟨lead ++ piece, trail ++ after, whole⟩
      exact absurd ((suffix_of_dropTail? found).isInfix.trans inside) isOpen
  unfold cleanLine
  dsimp only
  rw [unclosed]

theorem cleanLine_split {raw : Text} (isOpen : IsOpen raw) :
    (cleanLine raw).IsTrimmed ∧ ∃ lead delimiter star trail, lead.all isBlank = true ∧
      Removed "/**".toList delimiter ∧ Removed ['*'] star ∧ trail.all isBlank = true ∧
      raw = lead ++ (delimiter ++ (star ++ (cleanLine raw ++ trail))) := by
  obtain ⟨lead, after, leadBlank, afterBlank, shape⟩ := exists_trim raw
  obtain ⟨trimmed, delimiter, between, removed, betweenBlank, inner⟩ :=
    withoutDelimiter_split "/**".toList (isTrimmed_trim raw)
  obtain ⟨clean, star, trail, starRemoved, trailBlank, innermost⟩ :=
    withoutDelimiter_split ['*'] trimmed
  rw [← cleanLine_of_isOpen isOpen] at clean innermost
  refine ⟨clean, lead, delimiter, star, trail ++ (between ++ after), leadBlank, removed,
    starRemoved, by simp [trailBlank, betweenBlank, afterBlank], ?_⟩
  calc
    raw = lead ++ (trim raw ++ after) := shape
    _ = lead ++ (delimiter ++ (star ++ (cleanLine raw ++ trail) ++ between) ++ after) := by
      rw [← innermost, ← inner]
    _ = _ := by simp only [List.append_assoc]

theorem declaration?_place {raw body : Text} (isOpen : IsOpen raw)
    (declared : declaration? raw = some body) :
    ∃ lead delimiter stars gap isOptional inner trail, lead.all isBlank = true ∧
      Removed "/**".toList delimiter ∧ stars ≤ 1 ∧ gap.all isBlank = true ∧
      inner.all isBlank = true ∧ (isOptional = true ∨ inner ≠ []) ∧ trail.all isBlank = true ∧
      raw = lead ++ (delimiter ++ announcement stars gap isOptional inner) ++ (body ++ trail) ∧
      trimEnd (body ++ trail) = body := by
  obtain ⟨-, isOptional, inner, innerBlank, spaced, clean⟩ := declaration?_eq_some_iff.mp declared
  obtain ⟨trimmed, lead, delimiter, star, trail, leadBlank, removed, starred, trailBlank, split⟩ :=
    cleanLine_split isOpen
  have ends : trimEnd (body ++ trail) = body := by
    rw [trimEnd_append_of_blank _ trailBlank]
    apply trimEnd_of_last
    intro c last
    apply trimmed.last c
    simp only [clean, List.getLast?_append, last, Option.some_or]
  obtain ⟨stars, gap, few, gapBlank, rfl⟩ : ∃ stars gap, stars ≤ 1 ∧ gap.all isBlank = true ∧
      star = List.replicate stars '*' ++ gap := by
    rcases starred with rfl | ⟨gap, gapBlank, rfl⟩
    · exact ⟨0, [], Nat.zero_le 1, rfl, rfl⟩
    · exact ⟨1, gap, Nat.le_refl 1, gapBlank, rfl⟩
  refine ⟨lead, delimiter, stars, gap, isOptional, inner, trail, leadBlank, removed, few, gapBlank,
    innerBlank, spaced, trailBlank, ?_, ends⟩
  calc
    raw = lead ++ (delimiter ++ (List.replicate stars '*' ++ gap ++
        ("@param".toList ++ (optionalMark isOptional ++ (inner ++ body)) ++ trail))) := by
      rw [← clean]
      exact split
    _ = _ := by simp only [announcement, List.append_assoc]

theorem getLast?_announcement (front : Text) (stars : Nat) (gap : Text) (isOptional : Bool)
    (trail : Text) : (front ++ announcement stars gap isOptional trail).getLast? =
      some ((optionalMark isOptional ++ trail).getLast?.getD 'm') := by
  simp only [announcement, List.getLast?_append]
  cases trail.getLast?.or (optionalMark isOptional).getLast? <;> rfl

theorem last_of_spaced {isOptional : Bool} {trail : Text} (blank : trail.all isBlank = true)
    (spaced : isOptional = true ∨ trail ≠ []) :
    (optionalMark isOptional ++ trail).getLast?.getD 'm' = '?' ∨
      isBlank ((optionalMark isOptional ++ trail).getLast?.getD 'm') = true := by
  rw [List.getLast?_append]
  cases ends : trail.getLast? with
  | none =>
    obtain rfl := List.getLast?_eq_none_iff.mp ends
    obtain rfl : isOptional = true := by simpa using spaced
    exact .inl rfl
  | some c => exact .inr (List.all_eq_true.mp blank c (List.mem_of_getLast? ends))

theorem declaration?_start {raw body : Text} (isOpen : IsOpen raw)
    (declared : declaration? raw = some body) :
    ∃ start trail d, raw = start ++ (body ++ trail) ∧ trimEnd (body ++ trail) = body ∧
      start.getLast? = some d ∧ (d = '?' ∨ isBlank d = true) := by
  obtain ⟨lead, delimiter, stars, gap, isOptional, inner, trail, -, -, -, -, innerBlank, spaced, -,
    split, trimmed⟩ := declaration?_place isOpen declared
  refine ⟨_, trail, _, split, trimmed, ?_, last_of_spaced innerBlank spaced⟩
  rw [← List.append_assoc]
  exact getLast?_announcement (lead ++ delimiter) stars gap isOptional inner

/-- The line opens with another delimiter of the comment. -/
def Reopens (raw : Text) : Prop := "/**".toList <+: trimStart raw

/-- A line prefix that announces a name behind more than one star, or that touches the name. -/
def Strays (before : Text) : Prop :=
  ∃ stars isOptional trail, Announces before stars isOptional trail ∧
    (2 ≤ stars ∨ isOptional = false ∧ trail = [])

theorem isTrimmed_marker_append (middle : Text) {tail : Text} (nonempty : tail ≠ [])
    (last : ∀ c, tail.getLast? = some c → isBlank c = false) :
    IsTrimmed ("@param".toList ++ (middle ++ tail)) := by
  constructor
  · intro c found
    obtain rfl : '@' = c := by simpa using found
    decide
  · intro c found
    rw [← List.append_assoc, getLast?_append_of_nonempty _ nonempty] at found
    exact last c found

theorem declares_of_announces {before rest : Text} (isOpen : IsOpen (before ++ rest))
    (named : 0 < dottedLength (trimEnd rest)) {stars : Nat} {isOptional : Bool} {inner : Text}
    (announces : Announces before stars isOptional inner) (few : stars ≤ 1)
    (spaced : isOptional = true ∨ inner ≠ []) :
    declaration? (before ++ rest) = some (trimEnd rest) := by
  obtain ⟨innerBlank, lead, gap, leadBlank, gapBlank, rfl⟩ := announces
  obtain ⟨trail, trailBlank, shape⟩ := exists_trimEnd rest
  have nonempty : trimEnd rest ≠ [] := by
    obtain ⟨c, cs, starts, -⟩ := dottedLength_pos_iff.mp named
    simp [starts]
  have trimmed := isTrimmed_marker_append (optionalMark isOptional ++ inner) nonempty
    (last_trimEnd rest)
  rw [List.append_assoc] at trimmed
  refine declaration?_eq_some_iff.mpr ⟨named, isOptional, inner, innerBlank, spaced, ?_⟩
  rw [cleanLine_of_isOpen isOpen]
  generalize core_eq : "@param".toList ++ (optionalMark isOptional ++ (inner ++ trimEnd rest)) =
    core at trimmed ⊢
  have whole : lead ++ announcement stars gap isOptional inner ++ rest =
      lead ++ (List.replicate stars '*' ++ (gap ++ (core ++ trail))) := by
    calc
      _ = lead ++ announcement stars gap isOptional inner ++ (trimEnd rest ++ trail) := by
        rw [← shape]
      _ = _ := by simp only [← core_eq, announcement, List.append_assoc]
  rw [whole]
  cases stars with
  | zero =>
    have bare : trim (lead ++ (List.replicate 0 '*' ++ (gap ++ (core ++ trail)))) = core := by
      rw [List.replicate_zero, List.nil_append, ← List.append_assoc]
      exact trim_append (by simp [leadBlank, gapBlank]) trimmed trailBlank
    rw [bare, ← core_eq]
    rfl
  | succ stars =>
    obtain rfl : stars = 0 := by omega
    have starred : IsTrimmed ('*' :: (gap ++ core)) := by
      constructor
      · rintro c ⟨⟩
        decide
      · intro c found
        have filled : core ≠ [] := by
          rw [← core_eq]
          simp
        rw [← List.cons_append, getLast?_append_of_nonempty _ filled] at found
        exact trimmed.last c found
    have bare : trim (lead ++ (List.replicate 1 '*' ++ (gap ++ (core ++ trail)))) =
        '*' :: (gap ++ core) := by
      have joined := trim_append leadBlank starred trailBlank
      simpa using joined
    have unstarred := trim_append gapBlank trimmed (rfl : List.all [] isBlank = true)
    rw [List.append_nil] at unstarred
    rw [bare]
    exact unstarred

theorem announces_of_declares {before rest : Text} (isOpen : IsOpen (before ++ rest))
    (declared : declaration? (before ++ rest) = some (trimEnd rest)) :
    ∃ lead delimiter stars gap isOptional inner, lead.all isBlank = true ∧
      Removed "/**".toList delimiter ∧ stars ≤ 1 ∧ gap.all isBlank = true ∧
      inner.all isBlank = true ∧ (isOptional = true ∨ inner ≠ []) ∧
      before = lead ++ (delimiter ++ announcement stars gap isOptional inner) := by
  obtain ⟨lead, delimiter, stars, gap, isOptional, inner, trail, leadBlank, removed, few, gapBlank,
    innerBlank, spaced, trailBlank, split, ends⟩ := declaration?_place isOpen declared
  refine ⟨lead, delimiter, stars, gap, isOptional, inner, leadBlank, removed, few, gapBlank,
    innerBlank, spaced, ?_⟩
  -- both splits of the line, cut behind the last character that is no blank
  obtain ⟨after, afterBlank, shape⟩ := exists_trimEnd rest
  have nonempty : trimEnd rest ≠ [] := by
    obtain ⟨c, cs, starts, -⟩ := dottedLength_pos_iff.mp (declaration?_eq_some_iff.mp declared).1
    simp [starts]
  have cut := trimEnd_append_append before nonempty (last_trimEnd rest) afterBlank
  rw [← shape, split, trimEnd_append_append _ nonempty (last_trimEnd rest) trailBlank] at cut
  exact (List.append_cancel_right cut).symm

theorem reopens_of_delimiter {lead : Text} (blank : lead.all isBlank = true) (rest : Text) :
    Reopens (lead ++ ("/**".toList ++ rest)) := by
  have start : trimStart ("/**".toList ++ rest) = "/**".toList ++ rest := by
    apply trimStart_of_head
    rintro c ⟨⟩
    decide
  rw [Reopens, trimStart_append_of_blank _ blank, start]
  exact List.prefix_append _ _

theorem trimStart_announces {line : Text} {stars : Nat} {isOptional : Bool} {trail : Text}
    (announces : Announces line stars isOptional trail) (rest : Text) :
    trimStart (line ++ rest) =
          '@' :: ("param".toList ++ (optionalMark isOptional ++ trail) ++ rest) ∧
        stars = 0 ∨
      ∃ gap, gap.all isBlank = true ∧ 0 < stars ∧ trimStart (line ++ rest) =
        '*' :: (announcement (stars - 1) gap isOptional trail ++ rest) := by
  obtain ⟨-, lead, gap, leadBlank, gapBlank, rfl⟩ := announces
  rw [List.append_assoc, trimStart_append_of_blank _ leadBlank]
  cases stars with
  | zero =>
    refine .inl ⟨?_, rfl⟩
    rw [announcement, List.replicate_zero, List.nil_append, List.append_assoc,
      trimStart_append_of_blank _ gapBlank]
    apply trimStart_of_head
    rintro c ⟨⟩
    decide
  | succ stars =>
    refine .inr ⟨gap, gapBlank, Nat.succ_pos stars, ?_⟩
    apply trimStart_of_head
    rintro c ⟨⟩
    decide

theorem not_reopens_of_announces {before : Text} {stars : Nat} {isOptional : Bool} {trail : Text}
    (announces : Announces before stars isOptional trail) (rest : Text) :
    ¬Reopens (before ++ rest) := by
  rintro ⟨after, reopened⟩
  rcases trimStart_announces announces rest with ⟨shape, -⟩ | ⟨gap, -, -, shape⟩ <;>
    rw [shape] at reopened <;> cases reopened

/-- A name is due exactly where the line will declare one, but for lines that repeat the delimiter
and for announcements that stray. -/
theorem anticipatesName_iff_declares {before rest : Text} (isOpen : IsOpen (before ++ rest))
    (named : 0 < dottedLength (trimEnd rest)) :
    anticipatesName before = true ↔
      declaration? (before ++ rest) = some (trimEnd rest) ∧ ¬Reopens (before ++ rest) ∨
        Strays before := by
  rw [anticipatesName_iff]
  constructor
  · rintro ⟨stars, isOptional, trail, announces⟩
    by_cases proper : stars ≤ 1 ∧ (isOptional = true ∨ trail ≠ [])
    · exact .inl ⟨declares_of_announces isOpen named announces proper.1 proper.2,
        not_reopens_of_announces announces rest⟩
    · refine .inr ⟨stars, isOptional, trail, announces, ?_⟩
      cases isOptional with
      | true =>
        have crowded : 1 < stars := by simpa using proper
        exact .inl crowded
      | false => simpa [Nat.lt_iff_add_one_le, Classical.or_iff_not_imp_left] using proper
  · rintro (⟨declared, single⟩ | ⟨stars, isOptional, trail, announces, -⟩)
    · obtain ⟨lead, delimiter, stars, gap, isOptional, inner, leadBlank, removed, -, gapBlank,
        innerBlank, -, split⟩ := announces_of_declares isOpen declared
      rcases removed with rfl | ⟨space, -, rfl⟩
      · exact ⟨stars, isOptional, inner, innerBlank, lead, gap, leadBlank, gapBlank, split⟩
      · rw [split, List.append_assoc, List.append_assoc, List.append_assoc] at single
        exact absurd (reopens_of_delimiter leadBlank _) single
    · exact ⟨stars, isOptional, trail, announces⟩

theorem Announces.stars {line : Text} {stars : Nat} {isOptional : Bool} {trail : Text}
    (announces : Announces line stars isOptional trail) :
    ((trimStart line).takeWhile (· == '*')).length = stars := by
  obtain ⟨-, lead, gap, leadBlank, gapBlank, rfl⟩ := announces
  rw [trimStart_append_of_blank _ leadBlank]
  cases stars with
  | zero =>
    have start := trimStart_announcement gapBlank isOptional trail
    rw [announcement, List.replicate_zero, List.nil_append, start]
    rfl
  | succ stars =>
    have start : trimStart (announcement (stars + 1) gap isOptional trail) =
        announcement (stars + 1) gap isOptional trail := by
      apply trimStart_of_head
      rintro c ⟨⟩
      decide
    rw [start, announcement, takeWhile_append_of_stop (by simp) (head_behind_stars gapBlank _ _)]
    simp

theorem not_declares_of_strays {before rest : Text} (isOpen : IsOpen (before ++ rest))
    (strays : Strays before) : declaration? (before ++ rest) ≠ some (trimEnd rest) := by
  intro declared
  obtain ⟨stars, isOptional, trail, announces, astray⟩ := strays
  obtain ⟨lead, delimiter, few, gap, isMarked, inner, leadBlank, removed, atMost, gapBlank,
    innerBlank, spaced, split⟩ := announces_of_declares isOpen declared
  rcases removed with rfl | ⟨space, -, rfl⟩
  · have proper : Announces before few isMarked inner :=
      ⟨innerBlank, lead, gap, leadBlank, gapBlank, split⟩
    rcases astray with crowded | ⟨rfl, rfl⟩
    · have same := announces.stars.symm.trans proper.stars
      omega
    · obtain ⟨-, indent, space, -, -, touching⟩ := announces
      have last := congrArg List.getLast? (touching.symm.trans split)
      rw [List.nil_append, getLast?_announcement, getLast?_announcement] at last
      have apart := last_of_spaced innerBlank spaced
      rw [← Option.some.inj last] at apart
      rcases apart with question | blank
      · cases question
      · cases blank
  · apply not_reopens_of_announces announces rest
    rw [split, List.append_assoc, List.append_assoc, List.append_assoc]
    exact reopens_of_delimiter leadBlank _

end Doc

end ClosureTemplate
