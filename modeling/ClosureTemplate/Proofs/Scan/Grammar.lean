import ClosureTemplate.Proofs.Scan.Layout

/-!
The grammar of token streams. `IsGrammatical` states it over the kinds and texts of a stream alone:
tags do not nest and are closed with the braces that opened them, and every token stands where its
kind belongs. It follows from the places that the tokens lead through: a place such as a tag is
entered and left by certain tokens only (`Leads.enters_or_stays`, `Leads.exits`).
-/

namespace ClosureTemplate

namespace Kind

def isOutside (kind : Kind) : Bool :=
  kind.isText || kind.isDocBody || kind = .docBegin || kind = .docEnd

end Kind

namespace Scan

/-- The tags that are opened less those that are closed. -/
def tagDepth (symbols : List Symbol) : Int :=
  symbols.countP (·.kind.opensTag) - symbols.countP (·.kind.closesTag)

/-- The tokens end behind one that opens something which none of the later ones closes. -/
def EndsBehind (opens closes : Symbol → Prop) (before : List Symbol) : Prop :=
  ∃ earlier opening inside, before = earlier ++ opening :: inside ∧ opens opening ∧
    ∀ other ∈ inside, ¬closes other

/-- The tokens end inside of a tag that was opened by one brace or by two. -/
def EndsInTag (isDoubled : Bool) (before : List Symbol) : Prop :=
  EndsBehind
    (fun symbol => symbol.kind.opensTag = true ∧
      symbol.kind.delimiter? isDoubled = some symbol.text)
    (fun symbol => symbol.kind.closesTag = true) before

def EndsInString (before : List Symbol) : Prop :=
  EndsBehind (·.kind = .stringBegin) (·.kind = .stringEnd) before

/-- A place between an opening and a closing token, with nothing but `body` around it. -/
structure IsEnclosed (opens closes : Kind) (body : Kind → Bool) (before after earlier : List Symbol)
    (opening closing : Symbol) : Prop where
  opens : opening.kind = opens
  closes : closing.kind = closes
  before : ∃ inside, before = earlier ++ opening :: inside ∧
    ∀ other ∈ inside, body other.kind = true
  after : ∃ inside later, after = inside ++ closing :: later ∧
    ∀ other ∈ inside, body other.kind = true

/-- What the grammar asks of a token by what comes before and behind it. -/
structure Fits (before : List Symbol) (symbol : Symbol) (after : List Symbol) : Prop where
  outside : tagDepth before = 0 → symbol.kind.isOutside = true ∨ symbol.kind.opensTag = true
  inside : tagDepth before = 1 →
    symbol.kind.isOutside = true ∨ symbol.kind.opensTag = true → symbol.kind = .blank
  opening : symbol.kind.opensTag = true →
    ∃ isDoubled, symbol.kind.delimiter? isDoubled = some symbol.text
  inTag : tagDepth before = 1 → ∃ isDoubled, EndsInTag isDoubled before
  closing : ∀ {isDoubled}, EndsInTag isDoubled before → symbol.kind.closesTag = true →
    symbol.kind.delimiter? isDoubled = some symbol.text
  reopening : EndsInTag true before → symbol.kind ≠ .unterminatedTag
  brace : symbol.kind = .lbrace ∨ symbol.kind = .rbrace → EndsInTag true before
  string : symbol.kind.isStringBody = true → ∃ earlier opening closing,
    IsEnclosed .stringBegin .stringEnd Kind.isStringBody before after earlier opening closing ∧
      closing.text = opening.text ∧ tagDepth earlier = 1
  comment : symbol.kind.isDocBody = true → ∃ earlier opening closing,
    IsEnclosed .docBegin .docEnd Kind.isDocBody before after earlier opening closing ∧
      tagDepth earlier = 0
  badCharacter : symbol.kind = .badCharacter → tagDepth before = 1 ∧ ¬EndsInString before

structure IsGrammatical (stream : List Symbol) : Prop where
  depth : ∀ before, before <+: stream → tagDepth before = 0 ∨ tagDepth before = 1
  fits : ∀ before symbol after, stream = before ++ symbol :: after → Fits before symbol after

theorem leads_append_iff {place last : Place} {front back : List Symbol} :
    Leads place (front ++ back) last ↔
      ∃ middle, Leads place front middle ∧ Leads middle back last := by
  induction front generalizing place with
  | nil =>
    constructor
    · intro leads
      exact ⟨place, .nil, leads⟩
    · rintro ⟨middle, leads, rest⟩
      cases leads
      exact rest
  | cons symbol symbols ih =>
    constructor
    · intro leads
      cases leads with
      | cons turn leads =>
        obtain ⟨middle, first, second⟩ := ih.mp leads
        exact ⟨middle, .cons turn first, second⟩
    · rintro ⟨middle, first, second⟩
      cases first with
      | cons turn first => exact .cons turn (ih.mpr ⟨middle, first, second⟩)

theorem Leads.at_symbol {place last : Place} {before after : List Symbol} {symbol : Symbol}
    (leads : Leads place (before ++ symbol :: after) last) :
    ∃ here next, Leads place before here ∧ Turn here symbol.kind symbol.text next ∧
      Leads next after last := by
  obtain ⟨here, first, second⟩ := leads_append_iff.mp leads
  cases second with
  | cons turn rest => exact ⟨here, _, first, turn, rest⟩

def StaysIn (region : Place → Prop) (symbol : Symbol) : Prop :=
  ∃ here next, region here ∧ Turn here symbol.kind symbol.text next ∧ region next

section Region

variable {region : Place → Prop} {place last : Place} {symbols : List Symbol}

/-- The last token that leads into a region, and the tokens inside of it since then. -/
structure Enters (region : Place → Prop) (place : Place) (symbols earlier : List Symbol)
    (opening : Symbol) (inside : List Symbol) (outer inner : Place) : Prop where
  split : symbols = earlier ++ opening :: inside
  leads : Leads place earlier outer
  outside : ¬region outer
  turn : Turn outer opening.kind opening.text inner
  entered : region inner
  stays : ∀ other ∈ inside, StaysIn region other

structure Exits (region : Place → Prop) (symbols inside : List Symbol) (closing : Symbol)
    (later : List Symbol) (inner outer : Place) : Prop where
  split : symbols = inside ++ closing :: later
  stays : ∀ other ∈ inside, StaysIn region other
  inside : region inner
  turn : Turn inner closing.kind closing.text outer
  left : ¬region outer

theorem Leads.enters_or_stays (leads : Leads place symbols last) (reached : region last) :
    (region place ∧ ∀ other ∈ symbols, StaysIn region other) ∨
      ∃ earlier opening inside outer inner,
        Enters region place symbols earlier opening inside outer inner := by
  induction leads with
  | nil => exact .inl ⟨reached, fun _ member => absurd member List.not_mem_nil⟩
  | @cons place next last symbol symbols turn leads ih =>
    -- an entrance further on is a later one, so this token counts only if there is none
    rcases ih reached with ⟨inNext, stays⟩ | ⟨earlier, opening, inside, outer, inner, enters⟩
    · by_cases inPlace : region place
      · refine .inl ⟨inPlace, fun other member => ?_⟩
        rcases List.mem_cons.mp member with rfl | later
        · exact ⟨place, next, inPlace, turn, inNext⟩
        · exact stays other later
      · exact .inr ⟨[], symbol, symbols, place, next, rfl, .nil, inPlace, turn, inNext, stays⟩
    · refine .inr ⟨symbol :: earlier, opening, inside, outer, inner, ?_, .cons turn enters.leads,
        enters.outside, enters.turn, enters.entered, enters.stays⟩
      rw [enters.split]
      rfl

theorem Leads.enters (leads : Leads place symbols last) (outside : ¬region place)
    (reached : region last) : ∃ earlier opening inside outer inner,
      Enters region place symbols earlier opening inside outer inner := by
  rcases leads.enters_or_stays reached with ⟨inside, -⟩ | enters
  · exact absurd inside outside
  · exact enters

theorem Leads.exits (leads : Leads place symbols last) (inside : region place)
    (reached : ¬region last) : ∃ inside closing later inner outer,
      Exits region symbols inside closing later inner outer := by
  induction leads with
  | nil => exact absurd inside reached
  | @cons place next last symbol symbols turn leads ih =>
    by_cases inNext : region next
    · obtain ⟨before, closing, later, inner, outer, exits⟩ := ih inNext reached
      refine ⟨symbol :: before, closing, later, inner, outer, ?_, ?_, exits.inside, exits.turn,
        exits.left⟩
      · rw [exits.split]
        rfl
      · intro other member
        rcases List.mem_cons.mp member with rfl | behind
        · exact ⟨place, next, inside, turn, inNext⟩
        · exact exits.stays other behind
    · exact ⟨[], symbol, symbols, place, next, rfl, fun _ member => absurd member List.not_mem_nil,
        inside, turn, inNext⟩

end Region

theorem eq_of_opensTag {kind : Kind} (opens : kind.opensTag = true) :
    kind = .tagOpen ∨ kind = .endTagOpen := by
  revert opens
  cases kind <;> decide

theorem eq_of_closesTag {kind : Kind} (closes : kind.closesTag = true) :
    kind = .tagClose ∨ kind = .tagSelfClose := by
  revert closes
  cases kind <;> decide

theorem eq_of_isStringBody {kind : Kind} (body : kind.isStringBody = true) :
    kind = .stringText ∨ kind = .stringEscape ∨ kind = .badStringEscape ∨
      kind = .stringParameterRef := by
  revert body
  cases kind <;> decide

theorem eq_of_isDocBody {kind : Kind} (body : kind.isDocBody = true) :
    kind = .docBlank ∨ kind = .docText ∨ kind = .docTag ∨ kind = .docParamTag ∨
      kind = .docIdentifier := by
  revert body
  cases kind <;> decide

theorem isTagBody_isOutside {kind : Kind} {isDoubled : Bool}
    (body : kind.isTagBody isDoubled = true) (outside : kind.isOutside = true) :
    kind = .blank := by
  revert body outside
  cases isDoubled <;> cases kind <;> decide

theorem delimiter?_inj {kind : Kind} {text : Text} {one other : Bool}
    (first : kind.delimiter? one = some text) (second : kind.delimiter? other = some text) :
    one = other := by
  unfold Kind.delimiter? at first second
  split at first <;> cases first <;> revert second <;> cases one <;> cases other <;> decide

namespace Place

def depth : Place → Int
  | .text | .comment => 0
  | .tag _ | .string _ _ => 1

def InTag (isDoubled : Bool) : Place → Prop
  | .tag other | .string other _ => other = isDoubled
  | _ => False

theorem exists_inTag {place : Place} (inside : place.depth = 1) :
    ∃ isDoubled, place.InTag isDoubled := by
  cases place with
  | text | comment => cases inside
  | tag isDoubled | string isDoubled => exact ⟨isDoubled, rfl⟩

end Place

namespace Turn

variable {here next : Place} {kind : Kind} {text : Text} {isDoubled : Bool}

theorem of_opensTag (turn : Turn here kind text next) (opens : kind.opensTag = true) :
    here = .text ∧ ∃ isDoubled, next = .tag isDoubled ∧ kind.delimiter? isDoubled = some text := by
  cases turn with
  | opened _ spelled => exact ⟨rfl, _, rfl, spelled⟩
  | commented | uncommented | quoted | unquoted => cases opens
  | text other | noted other | tagged other | spelled other | closed other =>
    rcases eq_of_opensTag opens with rfl | rfl <;> cases other

theorem of_closesTag (turn : Turn here kind text next) (closes : kind.closesTag = true) :
    ∃ isDoubled, here = .tag isDoubled ∧ next = .text ∧ kind.delimiter? isDoubled = some text := by
  cases turn with
  | closed _ spelled => exact ⟨_, rfl, rfl, spelled⟩
  | commented | uncommented | quoted | unquoted => cases closes
  | text other | noted other | tagged other | spelled other | opened other =>
    rcases eq_of_closesTag closes with rfl | rfl <;> cases other

theorem of_isStringBody (turn : Turn here kind text next) (body : kind.isStringBody = true) :
    ∃ isDoubled quote, here = .string isDoubled quote ∧ next = here := by
  cases turn with
  | spelled => exact ⟨_, _, rfl, rfl⟩
  | commented | uncommented | quoted | unquoted => cases body
  | text other | noted other | tagged other | opened other | closed other =>
    rcases eq_of_isStringBody body with rfl | rfl | rfl | rfl <;> cases other

theorem of_isDocBody (turn : Turn here kind text next) (body : kind.isDocBody = true) :
    here = .comment ∧ next = .comment := by
  cases turn with
  | noted => exact ⟨rfl, rfl⟩
  | commented | uncommented | quoted | unquoted => cases body
  | text other | spelled other | tagged other | opened other | closed other =>
    rcases eq_of_isDocBody body with rfl | rfl | rfl | rfl | rfl <;> cases other

theorem of_stringBegin (turn : Turn here .stringBegin text next) :
    ∃ isDoubled, next = .string isDoubled text := by
  cases turn with
  | quoted => exact ⟨_, rfl⟩
  | text other | noted other | tagged other | spelled other | opened other | closed other =>
    cases other

theorem tagged_of_kind (turn : Turn here kind text next)
    (inner : kind ∈ [.badCharacter, .lbrace, .rbrace, .unterminatedTag]) :
    ∃ isDoubled, here = .tag isDoubled ∧ kind.isTagBody isDoubled = true := by
  simp only [List.mem_cons, List.not_mem_nil, or_false] at inner
  cases turn with
  | tagged body => exact ⟨_, rfl, body⟩
  | commented | uncommented | quoted | unquoted => simp at inner
  | text other | noted other | spelled other | opened other | closed other =>
    rcases inner with rfl | rfl | rfl | rfl <;> cases other

theorem depth (turn : Turn here kind text next) :
    next.depth = here.depth + (if kind.opensTag then 1 else 0) -
      (if kind.closesTag then 1 else 0) := by
  by_cases opens : kind.opensTag = true
  · obtain ⟨rfl, isDoubled, rfl, -⟩ := turn.of_opensTag opens
    rcases eq_of_opensTag opens with rfl | rfl <;> rfl
  by_cases closes : kind.closesTag = true
  · obtain ⟨isDoubled, rfl, rfl, -⟩ := turn.of_closesTag closes
    rcases eq_of_closesTag closes with rfl | rfl <;> rfl
  rw [if_neg opens, if_neg closes]
  cases turn with
  | opened other => exact absurd other opens
  | closed other => exact absurd other closes
  | _ => rfl

theorem kind_outside (turn : Turn here kind text next) (outside : here.depth = 0) :
    kind.isOutside = true ∨ kind.opensTag = true := by
  cases turn with
  | text plain => simp [Kind.isOutside, plain]
  | opened opens => exact .inr opens
  | noted body => simp [Kind.isOutside, body]
  | commented | uncommented => exact .inl rfl
  | tagged | quoted | spelled | unquoted | closed => cases outside

theorem kind_inside (turn : Turn here kind text next) (inside : here.depth = 1)
    (outer : kind.isOutside = true ∨ kind.opensTag = true) : kind = .blank := by
  rcases outer with outer | opens
  · cases turn with
    | tagged body => exact isTagBody_isOutside body outer
    | spelled body =>
      rcases eq_of_isStringBody body with rfl | rfl | rfl | rfl <;> cases outer
    | closed closes => rcases eq_of_closesTag closes with rfl | rfl <;> cases outer
    | quoted | unquoted => cases outer
    | text | opened | commented | noted | uncommented => cases inside
  · obtain ⟨rfl, -⟩ := turn.of_opensTag opens
    cases inside

theorem into_tag (turn : Turn here kind text next) (outside : ¬here.InTag isDoubled)
    (inside : next.InTag isDoubled) :
    kind.opensTag = true ∧ kind.delimiter? isDoubled = some text := by
  cases turn with
  | opened opens spelled =>
    cases inside
    exact ⟨opens, spelled⟩
  | tagged | quoted | spelled | unquoted => exact absurd inside outside
  | text | commented | noted | uncommented | closed => cases inside

theorem out_of_tag (turn : Turn here kind text next) (inside : here.InTag isDoubled)
    (outside : ¬next.InTag isDoubled) : kind.closesTag = true := by
  cases turn with
  | closed closes => exact closes
  | tagged | quoted | spelled | unquoted => exact absurd inside outside
  | text | opened | commented | noted | uncommented => cases inside

theorem into_string {quote : Text} (turn : Turn here kind text next)
    (outside : here ≠ .string isDoubled quote) (inside : next = .string isDoubled quote) :
    kind = .stringBegin ∧ text = quote ∧ here = .tag isDoubled := by
  cases turn with
  | quoted =>
    cases inside
    exact ⟨rfl, rfl, rfl⟩
  | spelled => exact absurd inside outside
  | _ => cases inside

theorem out_of_string {quote : Text} (turn : Turn here kind text next)
    (inside : here = .string isDoubled quote) (outside : next ≠ .string isDoubled quote) :
    kind = .stringEnd ∧ text = quote := by
  cases turn with
  | unquoted =>
    cases inside
    exact ⟨rfl, rfl⟩
  | spelled => exact absurd inside outside
  | _ => cases inside

theorem within_string {quote : Text} (turn : Turn here kind text next)
    (inside : here = .string isDoubled quote) (stays : next = .string isDoubled quote) :
    kind.isStringBody = true := by
  cases turn with
  | spelled body => exact body
  | unquoted => cases stays
  | _ => cases inside

theorem into_comment (turn : Turn here kind text next) (outside : here ≠ .comment)
    (inside : next = .comment) : kind = .docBegin ∧ here = .text := by
  cases turn with
  | commented => exact ⟨rfl, rfl⟩
  | noted => exact absurd inside outside
  | _ => cases inside

theorem out_of_comment (turn : Turn here kind text next) (inside : here = .comment)
    (outside : next ≠ .comment) : kind = .docEnd := by
  cases turn with
  | uncommented => rfl
  | noted => exact absurd inside outside
  | _ => cases inside

theorem within_comment (turn : Turn here kind text next) (inside : here = .comment)
    (stays : next = .comment) : kind.isDocBody = true := by
  cases turn with
  | noted body => exact body
  | uncommented => cases stays
  | _ => cases inside

end Turn

theorem tagDepth_cons (symbol : Symbol) (symbols : List Symbol) :
    tagDepth (symbol :: symbols) = (if symbol.kind.opensTag then 1 else 0) -
      (if symbol.kind.closesTag then 1 else 0) + tagDepth symbols := by
  simp only [tagDepth, List.countP_cons]
  split <;> split <;> omega

theorem Leads.depth {place last : Place} {symbols : List Symbol}
    (leads : Leads place symbols last) : last.depth = place.depth + tagDepth symbols := by
  induction leads with
  | nil => simp [tagDepth]
  | cons turn _ ih =>
    rw [ih, turn.depth, tagDepth_cons]
    omega

theorem Leads.tagDepth_eq {symbols : List Symbol} {last : Place}
    (leads : Leads .text symbols last) : tagDepth symbols = last.depth := by
  have counted := leads.depth
  rw [counted]
  exact (Int.zero_add _).symm

theorem Place.depth_cases (place : Place) : place.depth = 0 ∨ place.depth = 1 := by
  cases place with
  | text | comment => exact .inl rfl
  | tag | string => exact .inr rfl

section Path

variable {before after : List Symbol} {symbol : Symbol} {here next last : Place} {isDoubled : Bool}

theorem Leads.inTag_iff (leads : Leads .text before here) :
    here.InTag isDoubled ↔ EndsInTag isDoubled before := by
  constructor
  · intro inside
    have outside : ¬Place.text.InTag isDoubled := fun inText => inText
    obtain ⟨earlier, opening, since, outer, inner, enters⟩ := leads.enters outside inside
    refine ⟨earlier, opening, since, enters.split,
      enters.turn.into_tag enters.outside enters.entered, ?_⟩
    intro other member closes
    obtain ⟨here, next, -, turn, stays⟩ := enters.stays other member
    obtain ⟨-, -, rfl, -⟩ := turn.of_closesTag closes
    exact stays
  · rintro ⟨earlier, opening, since, rfl, ⟨opens, spelled⟩, unclosed⟩
    obtain ⟨outer, inner, -, turn, rest⟩ := leads.at_symbol
    obtain ⟨-, other, rfl, sameText⟩ := turn.of_opensTag opens
    obtain rfl := delimiter?_inj sameText spelled
    apply Classical.byContradiction
    intro outside
    -- a path that has left the tag has passed a token that closes it
    have entered : (Place.tag other).InTag other := rfl
    obtain ⟨inside, closing, later, inner, outer, exits⟩ := rest.exits entered outside
    refine unclosed closing ?_ (exits.turn.out_of_tag exits.inside exits.left)
    rw [exits.split]
    simp

theorem Leads.not_endsInString (leads : Leads .text before (.tag isDoubled)) :
    ¬EndsInString before := by
  rintro ⟨earlier, opening, since, rfl, begins, unended⟩
  obtain ⟨outer, inner, -, turn, rest⟩ := leads.at_symbol
  rw [begins] at turn
  obtain ⟨other, inString⟩ := turn.of_stringBegin
  have outside : Place.tag isDoubled ≠ .string other opening.text := Place.noConfusion
  obtain ⟨inside, closing, later, inner, outer, exits⟩ :
      ∃ inside closing later inner outer,
        Exits (· = .string other opening.text) since inside closing later inner outer :=
    rest.exits inString outside
  refine unended closing ?_ (exits.turn.out_of_string exits.inside exits.left).1
  rw [exits.split]
  simp

theorem Leads.isEnclosed {opens closes : Kind} {body : Kind → Bool}
    (leads : Leads .text before here) (onward : Leads here after last) (notText : .text ≠ here)
    (left : last ≠ here)
    (into : ∀ {outer kind text}, Turn outer kind text here → outer ≠ here → kind = opens)
    (out : ∀ {outer kind text}, Turn here kind text outer → outer ≠ here → kind = closes)
    (within : ∀ {kind text}, Turn here kind text here → body kind = true) :
    ∃ earlier opening closing outer next,
      IsEnclosed opens closes body before after earlier opening closing ∧
        Leads .text earlier outer ∧ outer ≠ here ∧ Turn outer opening.kind opening.text here ∧
        Turn here closing.kind closing.text next ∧ next ≠ here := by
  have bodies {symbols : List Symbol} (stays : ∀ other ∈ symbols, StaysIn (· = here) other) :
      ∀ other ∈ symbols, body other.kind = true := by
    intro other member
    obtain ⟨place, next, rfl, turn, rfl⟩ := stays other member
    exact within turn
  obtain ⟨earlier, opening, inside, outer, inner, enters⟩ :
      ∃ earlier opening inside outer inner,
        Enters (· = here) .text before earlier opening inside outer inner :=
    leads.enters notText rfl
  obtain ⟨rest, closing, later, place, next, exits⟩ :
      ∃ rest closing later place next, Exits (· = here) after rest closing later place next :=
    onward.exits rfl left
  obtain rfl := enters.entered
  obtain rfl := exits.inside
  refine ⟨earlier, opening, closing, outer, next, ⟨into enters.turn enters.outside,
    out exits.turn exits.left, ⟨inside, enters.split, bodies enters.stays⟩,
    ⟨rest, later, exits.split, bodies exits.stays⟩⟩, enters.leads, enters.outside, enters.turn,
    exits.turn, exits.left⟩

theorem Leads.string_isEnclosed {quote : Text}
    (leads : Leads .text before (.string isDoubled quote))
    (onward : Leads (.string isDoubled quote) after last)
    (left : last ≠ .string isDoubled quote) : ∃ earlier opening closing,
      IsEnclosed .stringBegin .stringEnd Kind.isStringBody before after earlier opening closing ∧
        closing.text = opening.text ∧ tagDepth earlier = 1 := by
  obtain ⟨earlier, opening, closing, outer, next, enclosed, outside, apart, enters, exits, left⟩ :=
    leads.isEnclosed onward Place.noConfusion left
      (fun turn outside => (turn.into_string outside rfl).1)
      (fun turn outside => (turn.out_of_string rfl outside).1)
      (fun turn => turn.within_string rfl rfl)
  obtain ⟨-, opened, rfl⟩ := enters.into_string apart rfl
  obtain ⟨-, closed⟩ := exits.out_of_string rfl left
  exact ⟨earlier, opening, closing, enclosed, closed.trans opened.symm, outside.tagDepth_eq⟩

theorem Leads.comment_isEnclosed (leads : Leads .text before .comment)
    (onward : Leads .comment after last) (left : last ≠ .comment) :
    ∃ earlier opening closing,
      IsEnclosed .docBegin .docEnd Kind.isDocBody before after earlier opening closing ∧
        tagDepth earlier = 0 := by
  obtain ⟨earlier, opening, closing, outer, next, enclosed, outside, apart, enters, -, -⟩ :=
    leads.isEnclosed onward Place.noConfusion left
      (fun turn outside => (turn.into_comment outside rfl).1)
      (fun turn outside => turn.out_of_comment rfl outside)
      (fun turn => turn.within_comment rfl rfl)
  obtain ⟨-, rfl⟩ := enters.into_comment apart rfl
  exact ⟨earlier, opening, closing, enclosed, outside.tagDepth_eq⟩

theorem fits_of_leads (leads : Leads .text before here)
    (turn : Turn here symbol.kind symbol.text next) (onward : Leads next after last)
    (ended : last = .text ∨ ∃ isDoubled, last = .tag isDoubled) : Fits before symbol after where
  outside depth := turn.kind_outside (leads.tagDepth_eq ▸ depth)
  inside depth := turn.kind_inside (leads.tagDepth_eq ▸ depth)
  opening opens := by
    obtain ⟨-, isDoubled, -, spelled⟩ := turn.of_opensTag opens
    exact ⟨isDoubled, spelled⟩
  inTag depth := by
    obtain ⟨isDoubled, inTag⟩ := Place.exists_inTag (leads.tagDepth_eq ▸ depth)
    exact ⟨isDoubled, leads.inTag_iff.mp inTag⟩
  closing inTag closes := by
    obtain ⟨other, rfl, -, spelled⟩ := turn.of_closesTag closes
    obtain rfl : other = _ := leads.inTag_iff.mpr inTag
    exact spelled
  reopening inTag reopens := by
    obtain ⟨other, rfl, body⟩ := turn.tagged_of_kind (by simp [reopens])
    obtain rfl : other = _ := leads.inTag_iff.mpr inTag
    rw [reopens] at body
    cases body
  brace isBrace := by
    obtain ⟨isDoubled, rfl, body⟩ :=
      turn.tagged_of_kind (by rcases isBrace with same | same <;> simp [same])
    have doubled : isDoubled = true := by
      rcases isBrace with same | same <;> rw [same] at body <;> exact body
    rw [← doubled]
    exact leads.inTag_iff.mp rfl
  string body := by
    obtain ⟨isDoubled, quote, rfl, rfl⟩ := turn.of_isStringBody body
    refine leads.string_isEnclosed onward ?_
    rcases ended with rfl | ⟨_, rfl⟩ <;> exact Place.noConfusion
  comment body := by
    obtain ⟨rfl, rfl⟩ := turn.of_isDocBody body
    refine leads.comment_isEnclosed onward ?_
    rcases ended with rfl | ⟨_, rfl⟩ <;> exact Place.noConfusion
  badCharacter bad := by
    obtain ⟨isDoubled, rfl, -⟩ := turn.tagged_of_kind (by simp [bad])
    exact ⟨leads.tagDepth_eq, leads.not_endsInString⟩

end Path

/-- The tokens of every source, well-formed or not, follow the grammar. -/
theorem tokenize_isGrammatical (source : Text) : IsGrammatical (tokenize source) := by
  obtain ⟨last, leads, ended⟩ := leads_tokenize source
  constructor
  · rintro before ⟨after, whole⟩
    rw [← whole] at leads
    obtain ⟨place, first, -⟩ := leads_append_iff.mp leads
    rw [first.tagDepth_eq]
    exact place.depth_cases
  · intro before symbol after split
    rw [split] at leads
    obtain ⟨here, next, first, turn, onward⟩ := leads.at_symbol
    exact fits_of_leads first turn onward ended

end Scan

end ClosureTemplate
