import ClosureTemplate.Proofs.Text.Basic
import ClosureTemplate.Proofs.Text.CharClass
import ClosureTemplate.Proofs.Word.Fragment
import Mathlib.Data.List.Chain

/-!
The only way to cut a token into words. Pieces that are identifiers and gaps in turn, where no gap
goes on with a digit behind an identifier, are the pieces that cutting gives (`pieces_flatten`). A
search for identifiers, with what is left around them, gives the same (`Finds.fragmentsAround_eq`),
and ranges with such texts that cover the token are its fragments (`split_is_only_decomposition`).
-/

namespace ClosureTemplate

namespace Word

open Text

/-- No identifier starts in the text. -/
def IsGap (part : Text) : Prop := ∀ c ∈ part, isNameStart c = false

/-- A gap follows an identifier and does not go on with a digit, and an identifier follows a gap. -/
def Alternate (part next : Text) : Prop :=
  isIdentifier part = true ∧ IsGap next ∧ (∀ c, next.head? = some c → isDigit c = false) ∨
    IsGap part ∧ isIdentifier next = true

/-- Identifiers and gaps in turn, none of them empty. -/
structure IsAlternation (parts : List Text) : Prop where
  nonempty : ∀ part ∈ parts, part ≠ []
  classes : ∀ part ∈ parts, isIdentifier part = true ∨ IsGap part
  chain : parts.IsChain Alternate

section Pieces

variable {c : Char} {cs part rest next : Text}

theorem not_isGap_of_isIdentifier (identifier : isIdentifier part = true) : ¬IsGap part := by
  intro gap
  cases part with
  | nil => cases identifier
  | cons c cs =>
    have starts := isNameStart_head identifier rfl
    rw [gap c (List.mem_cons_self ..)] at starts
    cases starts

theorem pieces_of_start (starts : isNameStart c = true) :
    pieces (c :: cs) = (c :: cs.takeWhile isNameChar) :: pieces (cs.dropWhile isNameChar) := by
  rw [pieces, pieceLength, if_pos starts, Nat.add_comm, List.take_succ_cons, List.drop_succ_cons,
    take_run, drop_run]

theorem pieces_of_other (other : isNameStart c = false) :
    pieces (c :: cs) = (c :: cs.takeWhile fun d => !isNameStart d) ::
      pieces (cs.dropWhile fun d => !isNameStart d) := by
  rw [pieces, pieceLength, if_neg (Bool.not_eq_true _ ▸ other), Nat.add_comm, List.take_succ_cons,
    List.drop_succ_cons, take_run, drop_run]

theorem pieces_identifier_append (identifier : isIdentifier part = true)
    (stops : ∀ c, rest.head? = some c → isNameChar c = false) :
    pieces (part ++ rest) = part :: pieces rest := by
  cases part with
  | nil => cases identifier
  | cons c cs =>
    obtain ⟨starts, continues⟩ := Bool.and_eq_true_iff.mp identifier
    have all := List.all_eq_true.mp continues
    rw [List.cons_append, pieces_of_start starts, takeWhile_append_of_stop all stops,
      dropWhile_append_of_stop all stops]

theorem pieces_gap_append (gap : IsGap part) (nonempty : part ≠ [])
    (stops : ∀ c, rest.head? = some c → isNameStart c = true) :
    pieces (part ++ rest) = part :: pieces rest := by
  obtain ⟨c, cs, rfl⟩ := List.exists_cons_of_ne_nil nonempty
  have all : ∀ d ∈ cs, (!isNameStart d) = true := by
    intro d member
    rw [gap d (List.mem_cons_of_mem c member)]
    rfl
  have ends : ∀ d, rest.head? = some d → (!isNameStart d) = false := by
    intro d head
    rw [stops d head]
    rfl
  rw [List.cons_append, pieces_of_other (gap c (List.mem_cons_self ..)),
    takeWhile_append_of_stop all ends, dropWhile_append_of_stop all ends]

theorem pieces_flatten {parts : List Text} (alternation : IsAlternation parts) :
    pieces parts.flatten = parts := by
  obtain ⟨nonempty, classes, chain⟩ := alternation
  induction parts with
  | nil => rw [List.flatten_nil, pieces]
  | cons part parts ih =>
    obtain ⟨follows, others⟩ := List.isChain_cons.mp chain
    have later := ih (fun other listed => nonempty other (List.mem_cons_of_mem part listed))
      (fun other listed => classes other (List.mem_cons_of_mem part listed)) others
    -- what comes behind the part begins with the next one
    have head : ∀ c, parts.flatten.head? = some c →
        ∃ next, Alternate part next ∧ next.head? = some c := by
      intro c found
      cases parts with
      | nil => cases found
      | cons next parts =>
        refine ⟨next, follows next rfl, ?_⟩
        have present : next ≠ [] := nonempty next (by simp)
        obtain ⟨d, ds, rfl⟩ := List.exists_cons_of_ne_nil present
        exact found
    rw [List.flatten_cons]
    rcases classes part (List.mem_cons_self ..) with identifier | gap
    · rw [pieces_identifier_append identifier, later]
      intro c found
      obtain ⟨next, alternate, first⟩ := head c found
      rcases alternate with ⟨-, gap, noDigit⟩ | ⟨gap, -⟩
      · rw [isNameChar, gap c (List.mem_of_head? first), noDigit c first]
        rfl
      · exact absurd gap (not_isGap_of_isIdentifier identifier)
    · rw [pieces_gap_append gap (nonempty part (List.mem_cons_self ..)), later]
      intro c found
      obtain ⟨next, alternate, first⟩ := head c found
      rcases alternate with ⟨identifier, -⟩ | ⟨-, identifier⟩
      · exact absurd gap (not_isGap_of_isIdentifier identifier)
      · exact isNameStart_head identifier first

theorem isIdentifier_piece (starts : isNameStart c = true) :
    isIdentifier (c :: cs.takeWhile isNameChar) = true := by
  rw [isIdentifier, starts, Bool.true_and]
  exact List.all_takeWhile

theorem isGap_takeWhile (text : Text) : IsGap (text.takeWhile fun d => !isNameStart d) := by
  intro d member
  have passed := List.all_eq_true.mp List.all_takeWhile d member
  exact Bool.not_eq_true' .. ▸ passed

theorem isGap_piece (other : isNameStart c = false) :
    IsGap (c :: cs.takeWhile fun d => !isNameStart d) :=
  List.forall_mem_cons.mpr ⟨other, isGap_takeWhile cs⟩

theorem head_pieces (found : (pieces rest).head? = some next) :
    ∃ c, rest.head? = some c ∧ next.head? = some c ∧
      (isNameStart c = true ∧ isIdentifier next = true ∨ isNameStart c = false ∧ IsGap next) := by
  cases rest with
  | nil =>
    rw [pieces] at found
    cases found
  | cons c cs =>
    refine ⟨c, rfl, ?_⟩
    cases starts : isNameStart c with
    | true =>
      rw [pieces_of_start starts] at found
      cases found
      exact ⟨rfl, .inl ⟨rfl, isIdentifier_piece starts⟩⟩
    | false =>
      rw [pieces_of_other starts] at found
      cases found
      exact ⟨rfl, .inr ⟨rfl, isGap_piece starts⟩⟩

theorem IsAlternation.cons {parts : List Text} (others : IsAlternation parts)
    (nonempty : part ≠ []) (isClass : isIdentifier part = true ∨ IsGap part)
    (follows : ∀ next, parts.head? = some next → Alternate part next) :
    IsAlternation (part :: parts) where
  nonempty := List.forall_mem_cons.mpr ⟨nonempty, others.nonempty⟩
  classes := List.forall_mem_cons.mpr ⟨isClass, others.classes⟩
  chain := List.isChain_cons.mpr ⟨follows, others.chain⟩

theorem isAlternation_pieces (text : Text) : IsAlternation (pieces text) := by
  -- by induction on the text that is left, since no piece is empty
  induction size : text.length using Nat.strongRecOn generalizing text with
  | ind n ih =>
    cases text with
    | nil =>
      rw [pieces]
      exact ⟨by simp, by simp, .nil⟩
    | cons c cs =>
      have shorter (test : Char → Bool) : (cs.dropWhile test).length < n := by
        have fits := run_add_dropWhile test cs
        rw [List.length_cons] at size
        omega
      cases starts : isNameStart c with
      | true =>
        rw [pieces_of_start starts]
        refine (ih _ (shorter isNameChar) _ rfl).cons (List.cons_ne_nil _ _)
          (.inl (isIdentifier_piece starts)) ?_
        intro next found
        obtain ⟨d, head, first, isClass⟩ := head_pieces found
        have stopped := head_dropWhile head
        obtain ⟨other, noDigit⟩ := Bool.or_eq_false_iff.mp stopped
        refine .inl ⟨isIdentifier_piece starts, ?_, ?_⟩
        · rcases isClass with ⟨begins, -⟩ | ⟨-, gap⟩
          · rw [other] at begins
            cases begins
          · exact gap
        · intro e same
          rw [first] at same
          exact Option.some.inj same ▸ noDigit
      | false =>
        rw [pieces_of_other starts]
        refine (ih _ (shorter fun d => !isNameStart d) _ rfl).cons (List.cons_ne_nil _ _)
          (.inr (isGap_piece starts)) ?_
        intro next found
        obtain ⟨d, head, -, isClass⟩ := head_pieces found
        have stopped := head_dropWhile head
        rw [Bool.not_eq_false'] at stopped
        rcases isClass with ⟨-, identifier⟩ | ⟨other, -⟩
        · exact .inr ⟨isGap_piece starts, identifier⟩
        · rw [other] at stopped
          cases stopped

end Pieces

/-- What a search for identifiers finds from an offset on: the leftmost one, as long as it can be,
and then those behind it. -/
inductive Finds : Nat → Text → List (Nat × Nat) → Prop
  | nothing {offset : Nat} {text : Text}
      (absent : ∀ front part rest, text = front ++ (part ++ rest) → isIdentifier part = false) :
      Finds offset text []
  | next {offset : Nat} {before found after : Text} {ranges : List (Nat × Nat)}
      (identifier : isIdentifier found = true)
      (leftmost : ∀ front part rest, before ++ (found ++ after) = front ++ (part ++ rest) →
        isIdentifier part = true → before.length ≤ front.length)
      (longest : ∀ part rest, found ++ after = part ++ rest → isIdentifier part = true →
        part.length ≤ found.length)
      (later : Finds (offset + before.byteSize + found.byteSize) after ranges) :
      Finds offset (before ++ (found ++ after))
        ((offset + before.byteSize, offset + before.byteSize + found.byteSize) :: ranges)

/-- The fragments for the identifiers found: each of them, and as ignored text what is left between
them and up to the end. -/
def fragmentsAround (kind : Kind) (size : Nat) : Nat → List (Nat × Nat) → List Fragment
  | cursor, [] => if cursor < size then [⟨.ignoredText, cursor, size⟩] else []
  | cursor, (start, stop) :: ranges =>
    (if cursor < start then [⟨.ignoredText, cursor, start⟩] else []) ++
      ⟨kind, start, stop⟩ :: fragmentsAround kind size stop ranges

section Searching

variable {text gap found after : Text} {offset : Nat} {ranges : List (Nat × Nat)}

theorem IsGap.length_le (free : IsGap gap) {front part rest : Text}
    (shape : gap ++ after = front ++ (part ++ rest)) (identifier : isIdentifier part = true) :
    gap.length ≤ front.length := by
  apply Nat.le_of_not_lt
  intro inside
  obtain ⟨d, ds, rfl⟩ := List.exists_cons_of_ne_nil (ne_nil_of_isIdentifier identifier)
  have here : (gap ++ after)[front.length]? = some d := by
    rw [shape, List.getElem?_append_right (Nat.le_refl _), Nat.sub_self]
    rfl
  rw [List.getElem?_append_left inside] at here
  have other := free d (List.mem_of_getElem? here)
  rw [isNameStart_head identifier rfl] at other
  cases other

theorem length_le_of_stops (stops : ∀ c, after.head? = some c → isNameChar c = false)
    {part rest : Text} (shape : found ++ after = part ++ rest)
    (identifier : isIdentifier part = true) : part.length ≤ found.length := by
  apply Nat.le_of_not_lt
  intro longer
  have here : after.head? = some part[found.length] := by
    rw [← List.getElem?_eq_getElem longer, ← List.getElem?_append_left longer, ← shape,
      List.getElem?_append_right (Nat.le_refl _), Nat.sub_self, List.head?_eq_getElem?]
  have stopped := stops _ here
  rw [isNameChar_of_mem identifier (List.getElem_mem longer)] at stopped
  cases stopped

theorem exists_gap (text : Text) : ∃ gap rest, text = gap ++ rest ∧ IsGap gap ∧
    ∀ c, rest.head? = some c → isNameStart c = true := by
  refine ⟨text.takeWhile fun c => !isNameStart c, text.dropWhile fun c => !isNameStart c,
    List.takeWhile_append_dropWhile.symm, isGap_takeWhile text, ?_⟩
  intro c head
  exact Bool.not_eq_false' .. ▸ head_dropWhile head

theorem exists_finds (offset : Nat) (text : Text) : ∃ ranges, Finds offset text ranges := by
  -- by induction on the text that is left, since what is found is not empty
  induction size : text.length using Nat.strongRecOn generalizing offset text with
  | ind n ih =>
    obtain ⟨gap, rest, rfl, free, starts⟩ := exists_gap text
    cases rest with
    | nil =>
      refine ⟨[], .nothing fun front part rest shape => ?_⟩
      cases identifier : isIdentifier part with
      | false => rfl
      | true =>
        have behind := free.length_le shape identifier
        have present := List.length_pos_iff.mpr (ne_nil_of_isIdentifier identifier)
        have lengths := congrArg List.length shape
        simp only [List.length_append, List.length_nil] at lengths
        omega
    | cons c cs =>
      have identifier := @isIdentifier_piece c cs (starts c rfl)
      have whole : c :: cs = (c :: cs.takeWhile isNameChar) ++ cs.dropWhile isNameChar :=
        congrArg (c :: ·) List.takeWhile_append_dropWhile.symm
      have shorter : (cs.dropWhile isNameChar).length < n := by
        have fits := run_add_dropWhile isNameChar cs
        rw [List.length_append, List.length_cons] at size
        omega
      rw [whole]
      obtain ⟨ranges, later⟩ := ih _ shorter _ _ rfl
      exact ⟨_, .next identifier (fun _ _ _ shape isPart => free.length_le shape isPart)
        (fun _ _ shape isPart => length_le_of_stops (fun d => head_dropWhile) shape isPart) later⟩

theorem layOut_gap_append (kind : Kind) (offset : Nat) (free : IsGap gap)
    (stops : ∀ c, after.head? = some c → isNameStart c = true) :
    layOut kind offset (pieces (gap ++ after)) =
      (if offset < offset + gap.byteSize then
        [⟨.ignoredText, offset, offset + gap.byteSize⟩] else []) ++
        layOut kind (offset + gap.byteSize) (pieces after) := by
  by_cases empty : gap = []
  · subst empty
    rw [List.nil_append, byteSize_nil, Nat.add_zero, if_neg (Nat.lt_irrefl offset), List.nil_append]
  · have positive : 0 < gap.byteSize :=
      Nat.pos_of_ne_zero fun zero => empty (byteSize_eq_zero_iff.mp zero)
    rw [pieces_gap_append free empty stops, layOut, pieceKind,
      if_neg fun identifier => not_isGap_of_isIdentifier identifier free,
      if_pos (Nat.lt_add_of_pos_right positive)]
    rfl

theorem isGap_of_leftmost (leftmost : ∀ front part rest, gap ++ after = front ++ (part ++ rest) →
    isIdentifier part = true → gap.length ≤ front.length) : IsGap gap := by
  intro c member
  obtain ⟨front, rest, rfl⟩ := List.append_of_mem member
  refine Bool.eq_false_iff.mpr fun starts => ?_
  have inside := leftmost front [c] (rest ++ after) (by simp) (by simp [isIdentifier, starts])
  rw [List.length_append, List.length_cons] at inside
  omega

theorem stops_of_longest (identifier : isIdentifier found = true)
    (longest : ∀ part rest, found ++ after = part ++ rest → isIdentifier part = true →
      part.length ≤ found.length) {c : Char} (head : after.head? = some c) :
    isNameChar c = false := by
  obtain ⟨cs, rfl⟩ := List.head?_eq_some_iff.mp head
  obtain ⟨d, ds, rfl⟩ := List.exists_cons_of_ne_nil (ne_nil_of_isIdentifier identifier)
  refine Bool.eq_false_iff.mpr fun continues => ?_
  obtain ⟨starts, others⟩ := Bool.and_eq_true_iff.mp identifier
  have longer := longest (d :: ds ++ [c]) cs (by simp)
    (by simp [isIdentifier, starts, others, continues])
  rw [List.length_append, List.length_singleton] at longer
  omega

theorem Finds.fragmentsAround_eq (kind : Kind) (finds : Finds offset text ranges) :
    fragmentsAround kind (offset + text.byteSize) offset ranges =
      layOut kind offset (pieces text) := by
  induction finds with
  | @nothing offset text absent =>
    have free : IsGap text := by
      refine @isGap_of_leftmost text [] fun front part rest shape identifier => ?_
      rw [absent front part rest ((List.append_nil text).symm.trans shape)] at identifier
      cases identifier
    have laid := @layOut_gap_append text [] kind offset free (by simp)
    rw [List.append_nil] at laid
    rw [laid, fragmentsAround, pieces, layOut, List.append_nil]
  | @next offset before found after ranges identifier leftmost longest later ih =>
    rw [layOut_gap_append kind offset (isGap_of_leftmost leftmost) ?_,
      pieces_identifier_append identifier fun c head => stops_of_longest identifier longest head,
      layOut, pieceKind, if_pos identifier, fragmentsAround, byteSize_append, byteSize_append,
      ← Nat.add_assoc, ← Nat.add_assoc, ih]
    intro c head
    obtain ⟨d, ds, rfl⟩ := List.exists_cons_of_ne_nil (ne_nil_of_isIdentifier identifier)
    exact isNameStart_head identifier head

end Searching

def Fragment.part (fragment : Fragment) (text : Text) : Text :=
  (text.slice? fragment.start fragment.stop).getD []

structure Fragment.IsWord (fragment : Fragment) (text : Text) (kind : Kind) : Prop where
  kind : fragment.kind = kind
  identifier : isIdentifier (fragment.part text) = true

structure Fragment.IsIgnored (fragment : Fragment) (text : Text) : Prop where
  kind : fragment.kind = .ignoredText
  gap : IsGap (fragment.part text)

def Spans : List Fragment → Nat → Nat → Prop
  | [], start, stop => start = stop
  | fragment :: rest, start, stop => fragment.start = start ∧ Spans rest fragment.stop stop

/-- Ranges that cover a text, words and gaps in turn. -/
structure IsDecomposition (text : Text) (kind : Kind) (fragments : List Fragment) : Prop where
  nonempty : ∀ fragment ∈ fragments, fragment.start < fragment.stop
  boundaries : ∀ fragment ∈ fragments,
    text.isBoundary fragment.start = true ∧ text.isBoundary fragment.stop = true
  spans : Spans fragments 0 text.byteSize
  classes : ∀ fragment ∈ fragments, fragment.IsWord text kind ∨ fragment.IsIgnored text
  alternates : fragments.IsChain fun first second =>
    Alternate (first.part text) (second.part text)

section Fragments

variable {text : Text} {kind : Kind} {fragments : List Fragment} {parts : List Text}

theorem spans_layOut (kind : Kind) (offset : Nat) (parts : List Text) :
    Spans (layOut kind offset parts) offset (offset + byteSize parts.flatten) := by
  induction parts generalizing offset with
  | nil => rfl
  | cons part parts ih =>
    refine ⟨rfl, ?_⟩
    have rest := ih (offset + part.byteSize)
    rw [Nat.add_assoc, ← byteSize_append] at rest
    exact rest

theorem parts_layOut (kind : Kind) (done : Text) (parts : List Text)
    (shape : text = done ++ parts.flatten) :
    (layOut kind done.byteSize parts).map (fun fragment => fragment.part text) = parts := by
  induction parts generalizing done with
  | nil => rfl
  | cons part parts ih =>
    rw [List.flatten_cons, ← List.append_assoc] at shape
    have found : text.slice? done.byteSize (done.byteSize + part.byteSize) = some part :=
      slice?_eq_some_iff.mpr ⟨done, parts.flatten, shape, rfl, rfl⟩
    have rest := ih (done ++ part) shape
    rw [byteSize_append] at rest
    rw [layOut, List.map_cons, rest, Fragment.part, found, Option.getD_some]

theorem isDecomposition_split (text : Text) (kind : Kind) :
    IsDecomposition text kind (split text kind) := by
  have cuts : (split text kind).map (fun fragment => fragment.part text) = pieces text :=
    parts_layOut kind [] (pieces text) (flatten_pieces text).symm
  have alternation := isAlternation_pieces text
  have listed {fragment : Fragment} (member : fragment ∈ split text kind) :
      fragment.part text ∈ pieces text := by
    rw [← cuts]
    exact List.mem_map_of_mem member
  have found {fragment : Fragment} (member : fragment ∈ split text kind) :
      text.slice? fragment.start fragment.stop = some (fragment.part text) ∧
        fragment.kind = pieceKind kind (fragment.part text) := by
    obtain ⟨before, piece, after, shape, rfl⟩ := exists_piece_of_mem_split member
    have cut := slice?_eq_some_iff.mpr ⟨before, after, shape, rfl, rfl⟩
    simp only [Fragment.part, cut, Option.getD_some, and_self]
  refine ⟨?_, ?_, ?_, ?_, ?_⟩
  · intro fragment member
    obtain ⟨before, after, -, -, size⟩ := slice?_eq_some_iff.mp (found member).1
    have present := alternation.nonempty _ (listed member)
    have positive := Nat.pos_of_ne_zero fun zero => present (byteSize_eq_zero_iff.mp zero)
    omega
  · intro fragment member
    exact isBoundary_of_slice? (found member).1
  · have spans := spans_layOut kind 0 (pieces text)
    rw [flatten_pieces, Nat.zero_add] at spans
    exact spans
  · intro fragment member
    have isKind := (found member).2
    rcases alternation.classes _ (listed member) with identifier | gap
    · rw [pieceKind, if_pos identifier] at isKind
      exact .inl ⟨isKind, identifier⟩
    · rw [pieceKind, if_neg fun identifier => not_isGap_of_isIdentifier identifier gap] at isKind
      exact .inr ⟨isKind, gap⟩
  · have chain := alternation.chain
    rw [← cuts, List.isChain_map] at chain
    exact chain

theorem layOut_of_spans {done rest : Text} (shape : text = done ++ rest)
    (spans : Spans fragments done.byteSize text.byteSize)
    (ordered : ∀ fragment ∈ fragments, fragment.start ≤ fragment.stop)
    (boundaries : ∀ fragment ∈ fragments,
      text.isBoundary fragment.start = true ∧ text.isBoundary fragment.stop = true)
    (kinds : ∀ fragment ∈ fragments, fragment.kind = pieceKind kind (fragment.part text)) :
    rest = (fragments.map fun fragment => fragment.part text).flatten ∧
      fragments = layOut kind done.byteSize (fragments.map fun fragment => fragment.part text) := by
  induction fragments generalizing done rest with
  | nil =>
    refine ⟨?_, rfl⟩
    have size : done.byteSize = text.byteSize := spans
    rw [shape, byteSize_append] at size
    exact byteSize_eq_zero_iff.mp (by omega)
  | cons fragment fragments ih =>
    obtain ⟨starts, others⟩ := spans
    have here : fragment ∈ fragment :: fragments := List.mem_cons_self ..
    obtain ⟨first, last⟩ := boundaries fragment here
    obtain ⟨part, cut⟩ := slice?_of_isBoundary (ordered fragment here) first last
    obtain ⟨before, after, whole, startSize, stopSize⟩ := slice?_eq_some_iff.mp cut
    have isPart : fragment.part text = part := by rw [Fragment.part, cut, Option.getD_some]
    rw [List.append_assoc] at whole
    obtain ⟨rfl, rfl⟩ := append_inj_of_byteSize (shape.symm.trans whole)
      (starts.symm.trans startSize.symm)
    have stops : fragment.stop = byteSize (done ++ part) := by
      rw [byteSize_append, ← stopSize, starts]
    rw [stops] at others
    obtain ⟨behind, later⟩ := ih (whole.trans (List.append_assoc ..).symm) others
      (fun other listed => ordered other (List.mem_cons_of_mem fragment listed))
      (fun other listed => boundaries other (List.mem_cons_of_mem fragment listed))
      (fun other listed => kinds other (List.mem_cons_of_mem fragment listed))
    have isFragment : fragment =
        ⟨pieceKind kind part, done.byteSize, done.byteSize + part.byteSize⟩ := by
      rw [← isPart, ← kinds fragment here, isPart, ← byteSize_append, ← stops, ← starts]
    rw [List.map_cons, isPart, List.flatten_cons, ← behind, layOut, ← byteSize_append, ← later]
    exact ⟨rfl, congrArg (· :: fragments) (byteSize_append done part ▸ isFragment)⟩

theorem IsDecomposition.kinds (decomposition : IsDecomposition text kind fragments)
    {fragment : Fragment} (member : fragment ∈ fragments) :
    fragment.kind = pieceKind kind (fragment.part text) := by
  rcases decomposition.classes fragment member with word | ignored
  · rw [pieceKind, if_pos word.identifier, word.kind]
  · rw [pieceKind, if_neg fun identifier => not_isGap_of_isIdentifier identifier ignored.gap,
      ignored.kind]

theorem IsDecomposition.isAlternation (decomposition : IsDecomposition text kind fragments) :
    IsAlternation (fragments.map fun fragment => fragment.part text) := by
  refine ⟨?_, ?_, (List.isChain_map _).mpr decomposition.alternates⟩
  · intro part listed
    obtain ⟨fragment, member, rfl⟩ := List.mem_map.mp listed
    obtain ⟨first, last⟩ := decomposition.boundaries fragment member
    have proper := decomposition.nonempty fragment member
    obtain ⟨part, cut⟩ := slice?_of_isBoundary (Nat.le_of_lt proper) first last
    obtain ⟨before, after, -, -, size⟩ := slice?_eq_some_iff.mp cut
    rw [Fragment.part, cut, Option.getD_some]
    rintro rfl
    rw [byteSize_nil] at size
    omega
  · intro part listed
    obtain ⟨fragment, member, rfl⟩ := List.mem_map.mp listed
    exact (decomposition.classes fragment member).imp (fun word => word.identifier)
      fun ignored => ignored.gap

end Fragments

/-- The fragments of a token are what is emitted around the identifiers that a search finds in it,
and they are its only decomposition into words and gaps in turn. -/
theorem split_is_only_decomposition (text : Text) (kind : Kind) :
    (∃ ranges, Finds 0 text ranges) ∧
      (∀ ranges, Finds 0 text ranges →
        split text kind = fragmentsAround kind text.byteSize 0 ranges) ∧
      ∀ fragments, IsDecomposition text kind fragments ↔ fragments = split text kind := by
  refine ⟨exists_finds 0 text, fun ranges finds => ?_, fun fragments => ⟨?_, ?_⟩⟩
  · have around := finds.fragmentsAround_eq kind
    rw [Nat.zero_add] at around
    exact around.symm
  · intro decomposition
    obtain ⟨whole, same⟩ := @layOut_of_spans text kind fragments [] text rfl decomposition.spans
      (fun fragment member => Nat.le_of_lt (decomposition.nonempty fragment member))
      decomposition.boundaries (fun fragment member => decomposition.kinds member)
    have parts := pieces_flatten decomposition.isAlternation
    rw [← whole] at parts
    rw [split, parts]
    exact same
  · rintro rfl
    exact isDecomposition_split text kind

theorem split_is_only_decomposition_digits :
    let fragments : List Fragment :=
      [⟨.ignoredText, 0, 1⟩, ⟨.identifier, 1, 3⟩, ⟨.ignoredText, 3, 7⟩, ⟨.identifier, 7, 8⟩]
    ∃ ranges, Finds 0 "$a1.9é_".toList ranges ∧
      fragments = fragmentsAround .identifier 8 0 ranges ∧
      ∀ others, IsDecomposition "$a1.9é_".toList .identifier others ↔ others = fragments := by
  intro fragments
  obtain ⟨⟨ranges, finds⟩, around, only⟩ := split_is_only_decomposition "$a1.9é_".toList .identifier
  have cut : split "$a1.9é_".toList .identifier = fragments := by decide +kernel
  rw [cut] at only
  exact ⟨ranges, finds, cut.symm.trans (around ranges finds), only⟩

end Word

end ClosureTemplate
