import ClosureTemplate.Proofs.Scan.Passage
import ClosureTemplate.Proofs.Scan.StackBottom
import ClosureTemplate.Proofs.Text.Occurrence

/-!
Braces that interrupt an open tag. Nothing but the stack is left of the interrupted tag, and the
stack holds nothing but template text, so the scan goes on as one that is started behind the brace
(`nth_of_interrupts`). The brace alone is taken, whatever delimiter it begins.
-/

namespace ClosureTemplate.Scan

namespace State

variable (state : State) (view : View)

/-- A tag is left unterminated at a brace, and the token is the brace. -/
def InterruptsAtBrace (view : View) (emission : Emission) : Prop :=
  emission.kind = .unterminatedTag → view.head = '{' ∧ emission.width = 1

theorem openString_interrupts (terminator : Char) (inAttribute : Bool) :
    InterruptsAtBrace view (state.openString view terminator inAttribute) := by
  unfold openString
  split <;> exact nofun

theorem closeBrace_interrupts (isSelfClosing : Bool) :
    InterruptsAtBrace view (state.closeBrace view isSelfClosing) := by
  unfold closeBrace closeTag
  dsimp only
  by_cases doubled : state.tag.isDoubled = true
  · rw [if_pos doubled]
    by_cases another : (view.rest.drop (if isSelfClosing then 2 else 1)).head? = some '}'
    · rw [if_pos another]
      cases isSelfClosing <;> exact nofun
    · rw [if_neg another]
      cases isSelfClosing <;> exact nofun
  · rw [if_neg doubled]
    cases isSelfClosing <;> exact nofun

theorem expressionWord_interrupts (width : Nat) :
    InterruptsAtBrace view (state.expressionWord view width) := by
  unfold expressionWord
  dsimp only
  split
  · exact nofun
  · next known =>
    rintro rfl
    exact absurd (keyword?_kept known) (by decide)
  · split <;> exact nofun

theorem integerLiteral_interrupts (radix : Nat) (digits : Text) (width : Nat) :
    InterruptsAtBrace view (state.integerLiteral radix digits width) := by
  unfold integerLiteral
  split <;> exact nofun

theorem attributeLexeme?_lbrace {c : Char} {cs : Text} {width : Nat}
    (matched : attributeLexeme? c cs = some (.lbrace, width)) : c = '{' := by
  unfold attributeLexeme? at matched
  split at matched
  · cases matched
  split at matched
  · cases matched
  split at matched <;> cases matched
  rfl

theorem tagLexeme?_lbrace {c : Char} {cs : Text} {width : Nat}
    (matched : tagLexeme? c cs = some (.lbrace, width)) : c = '{' := by
  rcases tagLexeme?_cases matched with classed | mark
  · simp at classed
  · unfold punctuation? at mark
    split at mark <;> cases mark
    rfl

theorem scanAttributes_interrupts : InterruptsAtBrace view (state.scanAttributes view) := by
  unfold scanAttributes
  split
  · exact nofun
  · exact nofun
  · exact nofun
  · split <;> exact nofun
  · exact openString_interrupts _ _ _ _
  · next matched =>
    split
    · exact nofun
    · exact fun _ => ⟨attributeLexeme?_lbrace matched, rfl⟩
  · exact closeBrace_interrupts _ _ _
  · exact closeBrace_interrupts _ _ _
  · exact nofun

theorem scanExpression_interrupts : InterruptsAtBrace view (state.scanExpression view) := by
  unfold scanExpression
  split
  case h_2 => exact expressionWord_interrupts _ _ _
  case h_4 => exact integerLiteral_interrupts _ _ _ _ _
  case h_5 => exact integerLiteral_interrupts _ _ _ _ _
  case h_7 kind _ matched =>
    rintro rfl
    exact absurd (tagLexeme?_operator matched) (by decide)
  case h_8 => split <;> exact nofun
  case h_9 => split <;> exact nofun
  case h_11 => exact openString_interrupts _ _ _ _
  case h_12 matched =>
    split
    · exact nofun
    · exact fun _ => ⟨tagLexeme?_lbrace matched, rfl⟩
  case h_13 => exact closeBrace_interrupts _ _ _
  case h_14 => exact closeBrace_interrupts _ _ _
  all_goals exact nofun

theorem Transition.interrupts {state after : State} {kind : Kind} {text : Text} {line : Nat}
    (step : Transition state kind text line after) (interrupts : kind = .unterminatedTag) :
    (state.mode = .attributes ∨ state.mode = .expression) ∧
      after = { state.enter .tagCommand with tag := {}, tagLine := line } := by
  have inBody : state.mode = .attributes ∨ state.mode = .expression := by
    have all : ∀ mode : Mode, .unterminatedTag ∈ mode.kinds →
        mode = .attributes ∨ mode = .expression := by
      intro mode
      cases mode <;> decide
    exact all _ (interrupts ▸ step.kind_mem)
  refine ⟨inBody, ?_⟩
  cases step with
  | reopened => rfl
  | kept keeps =>
    subst interrupts
    rcases inBody with mode | mode <;> rw [mode] at keeps <;> exact absurd keeps (by decide)
  | closed width mode closes => rcases closes with rfl | rfl <;> cases interrupts
  | quoted | valued | piped | referred => cases interrupts
  | tagOpened isDoubled isClosing mode | docOpened mode | literalRead mode | named lexeme mode
  | commanded width mode | miscommanded mode | escaped mode | directed mode | unquoted mode
  | docClosed mode | docWord mode | docRead lexeme mode =>
    rcases inBody with body | body <;> rw [body] at mode <;> cases mode

theorem emission_interrupts : InterruptsAtBrace view (state.emission view) := by
  have emits := state.move_settled view
  intro interrupts
  obtain ⟨inBody, -⟩ := (steps_of_emits view emits).interrupts interrupts
  rcases inBody with mode | mode
  · rw [move, mode] at emits
    rw [← Move.emit.inj emits] at interrupts ⊢
    exact scanAttributes_interrupts _ view interrupts
  · rw [move, mode] at emits
    rw [← Move.emit.inj emits] at interrupts ⊢
    exact scanExpression_interrupts _ view interrupts

theorem isCoherent_onText (line : Nat) :
    IsCoherent { (initial .tagCommand).onText with tagLine := line } := by
  refine (isCoherent_iff_isTagState rfl).mpr ⟨rfl, .inr rfl, ?_, rfl, rfl, rfl⟩
  intro inDirective
  cases inDirective

theorem outline_of_isTagState {state : State} (tagState : state.IsTagState)
    (mode : state.mode = .tagCommand) (tag : state.tag = {}) :
    state.outline = (initial .tagCommand).outline ∨
      state.outline = (initial .tagCommand).onText.outline := by
  rcases tagState.base with base | base
  · refine .inl ?_
    rw [outline, mode, base, tag, tagState.quote, tagState.pending]
    rfl
  · refine .inr ?_
    rw [outline, mode, base, tag, tagState.quote, tagState.pending]
    rfl

end State

theorem textLexeme_single {cs : Text} (single : ∀ c ∈ cs.head?, c ≠ '{' ∧ c ≠ '/') :
    textLexeme '{' cs = (.tagOpen false false, 1) := by
  unfold textLexeme
  split <;> simp_all

namespace Scanner

/-- The scanner where it stands, as at the start of a scan. -/
def afresh (scanner : Scanner) (mode : Mode) : Scanner :=
  { scanner with state := .initial mode, token := none }

def startAt (scanner : Scanner) (cursor : Point) (mode : Mode) : Scanner :=
  scanner.restore ⟨cursor, .initial mode, none⟩

theorem startAt_cursor {source : Text} {start stop : Nat} {one other : Scanner}
    (onRange : one.OnRange source start stop) (otherOnRange : other.OnRange source start stop)
    (mode : Mode) : one.startAt other.cursor mode = other.afresh mode := by
  have back := otherOnRange.rest
  obtain ⟨sameSource, sameStart, sameStop, consumed, held⟩ := otherOnRange
  have front := Text.slice?_front held.range
  rw [← held.offset, sameSource, sameStart] at front
  have before : other.previous = (one.source.slice? one.start other.cursor.offset).bind
      List.getLast? := by
    rw [onRange.source, onRange.start, front]
    exact held.previous
  have after : other.rest = (one.source.slice? other.cursor.offset one.stop).getD [] := by
    rw [onRange.source, onRange.stop, back]
    rfl
  rw [afresh, before, after, sameSource, sameStart, sameStop, ← onRange.source, ← onRange.start,
    ← onRange.stop]
  rfl

theorem takes_brace {scanner : Scanner}
    (interrupts : scanner.advance.1.kind = .unterminatedTag) :
    ∃ tail emission, scanner.rest = '{' :: tail ∧ scanner.advance = scanner.take emission ∧
      emission.width = 1 := by
  have more : scanner.rest ≠ [] := by
    intro ended
    rw [advance_kind.mpr ended] at interrupts
    cases interrupts
  obtain ⟨head, tail, shape⟩ := List.exists_cons_of_ne_nil more
  rw [advance_of_rest shape] at interrupts ⊢
  obtain ⟨rfl, width⟩ := scanner.state.emission_interrupts (scanner.viewOf head tail) interrupts
  exact ⟨tail, _, shape, rfl, width⟩

theorem alike_of_interrupts {scanner : Scanner} (coherent : scanner.state.IsCoherent)
    (interrupts : scanner.advance.1.kind = .unterminatedTag) :
    Alike scanner.advance.2 (scanner.advance.2.afresh .tagCommand) ∨
      Alike scanner.advance.2 (scanner.advance.2.afresh .tagCommand).onText := by
  obtain ⟨tail, -, shape, -⟩ := takes_brace interrupts
  obtain ⟨settled, -, step⟩ := advance_steps (by rw [shape]; simp : scanner.rest ≠ [])
  obtain ⟨-, reopened⟩ := step.interrupts interrupts
  have coherentBehind := isCoherent_advance coherent
  have mode : scanner.advance.2.state.mode = .tagCommand := by
    rw [reopened]
    rfl
  have tag : scanner.advance.2.state.tag = {} := by rw [reopened]
  have tagState := State.isTagState_of_mode coherentBehind mode rfl
  rcases State.outline_of_isTagState tagState mode tag with same | same
  · exact .inl ⟨rfl, rfl, rfl, rfl, same, coherentBehind, State.isCoherent_initial _⟩
  · exact .inr ⟨rfl, rfl, rfl, rfl, same, coherentBehind, State.isCoherent_onText 0⟩

theorem nth_of_interrupts {scanner : Scanner} (coherent : scanner.state.IsCoherent)
    (interrupts : scanner.advance.1.kind = .unterminatedTag) (k : Nat) :
    (nth advance scanner (k + 1)).withoutDoc =
      (nth advance (scanner.advance.2.afresh .tagCommand) k).withoutDoc := by
  rw [← nth_advance]
  rcases alike_of_interrupts coherent interrupts with alike | alike
  · exact isSimulation_alike.nth alike k
  · rw [isSimulation_alike.nth alike k, nth_onText]

theorem advance_afresh_brace {scanner : Scanner} {tail : Text} (shape : scanner.rest = '{' :: tail)
    (single : ∀ c ∈ tail.head?, c ≠ '{' ∧ c ≠ '/') :
    (scanner.afresh .templateText).advance = (scanner.afresh .templateText).take
      ((State.initial .templateText).openTag (scanner.viewOf '{' tail) false false 1) := by
  have fresh : (scanner.afresh .templateText).rest = '{' :: tail := shape
  have opens : (State.initial .templateText).scanTemplateText (scanner.viewOf '{' tail) =
      (State.initial .templateText).openTag (scanner.viewOf '{' tail) false false 1 := by
    simp only [State.scanTemplateText, viewOf, textLexeme_single single]
  rw [advance_of_rest fresh]
  exact congrArg _ opens

theorem nth_afresh_of_interrupts {scanner : Scanner} {tail : Text}
    (interrupts : scanner.advance.1.kind = .unterminatedTag) (shape : scanner.rest = '{' :: tail)
    (single : ∀ c ∈ tail.head?, c ≠ '{' ∧ c ≠ '/') :
    (nth advance (scanner.afresh .templateText) 0).Covers .tagOpen scanner.cursor.offset
        scanner.advance.2.cursor.offset ∧
      ∀ k, (nth advance (scanner.afresh .templateText) (k + 1)).withoutDoc =
        (nth advance (scanner.advance.2.afresh .tagCommand) k).withoutDoc := by
  obtain ⟨-, emission, -, takes, width⟩ := takes_brace interrupts
  have opens := advance_afresh_brace shape single
  constructor
  · rw [nth, behind, opens, takes]
    refine ⟨rfl, rfl, ?_⟩
    simp only [take, afresh, State.openTag, width]
  · intro k
    -- the brace pushes template text, which is all that tells the two apart
    have alike : Alike (scanner.afresh .templateText).advance.2
        (scanner.advance.2.afresh .tagCommand).onText := by
      rw [opens, takes]
      refine ⟨rfl, ?_, ?_, ?_, rfl, State.isCoherent_onText _, State.isCoherent_onText 0⟩ <;>
        simp only [take, afresh, onText, State.openTag, width]
    rw [← nth_advance, isSimulation_alike.nth alike k, nth_onText]

end Scanner

/-- Behind a brace that interrupts a tag, in any scan, come the tokens of a scan that is started
there, at a command word, doc comments apart. If the brace is a whole delimiter, these are the
tokens of the tag that the brace opens in template text. -/
theorem interrupted_tags_start_afresh {source : Text} {start stop : Nat} {mode : Mode}
    {scanner : Scanner} (accepted : Scanner.bind source start stop mode = .ok scanner) {n : Nat}
    (interrupts : (nth Scanner.advance scanner n).kind = .unterminatedTag) :
    ∃ brace inside : Point,
      (nth Scanner.advance scanner n).Covers .unterminatedTag brace.offset inside.offset ∧
      inside.offset = brace.offset + 1 ∧
      (∀ k, (nth Scanner.advance scanner (n + 1 + k)).withoutDoc =
        (nth Scanner.advance (scanner.startAt inside .tagCommand) k).withoutDoc) ∧
      (¬Text.OccursAt source stop "\x7b\x7b".toList brace.offset →
        ¬Text.OccursAt source stop "\x7b/".toList brace.offset →
        (nth Scanner.advance (scanner.startAt brace .templateText) 0).Covers .tagOpen brace.offset
          inside.offset ∧
        ∀ k, (nth Scanner.advance scanner (n + 1 + k)).withoutDoc =
          (nth Scanner.advance (scanner.startAt brace .templateText) (k + 1)).withoutDoc) := by
  have onRange := Scanner.onRange_of_bind accepted
  have here := onRange.behind n
  have coherent := Scanner.isCoherent_behind accepted n
  obtain ⟨tail, emission, shape, takes, width⟩ := Scanner.takes_brace interrupts
  have more : (behind Scanner.advance scanner n).rest ≠ [] := by simp [shape]
  obtain ⟨starts, stops⟩ := Scanner.advance_symbol_start more
  have later (k : Nat) : nth Scanner.advance scanner (n + 1 + k) =
      nth Scanner.advance (behind Scanner.advance scanner n) (k + 1) := by
    rw [nth_add, Nat.add_assoc, Nat.add_comm 1 k]
  refine ⟨_, _, ⟨interrupts, starts, stops⟩, ?_, ?_, ?_⟩
  · rw [Scanner.advance_cursor_offset, takes]
    simp only [Scanner.take, shape, width]
    rfl
  · intro k
    rw [later, Scanner.startAt_cursor onRange here.advance]
    exact Scanner.nth_of_interrupts coherent interrupts k
  · intro notDoubled notClosing
    have single : ∀ c ∈ tail.head?, c ≠ '{' ∧ c ≠ '/' := by
      intro c first
      obtain ⟨others, rfl⟩ := List.head?_eq_some_iff.mp first
      constructor
      · rintro rfl
        exact notDoubled ⟨others, by rw [here.rest, shape]; rfl⟩
      · rintro rfl
        exact notClosing ⟨others, by rw [here.rest, shape]; rfl⟩
    obtain ⟨opens, alike⟩ := Scanner.nth_afresh_of_interrupts interrupts shape single
    rw [Scanner.startAt_cursor onRange here]
    refine ⟨opens, fun k => ?_⟩
    rw [later, alike k]
    exact Scanner.nth_of_interrupts coherent interrupts k

theorem interrupted_tags_start_afresh_on_empty_stack :
    ∃ scanner brace,
      Scanner.bind "$a \x7bif $b\x7d".toList 0 10 .expression = .ok scanner ∧
      (nth Scanner.advance scanner 2).Covers .unterminatedTag 3 4 ∧ Point.offset brace = 3 ∧
      ∀ k, (nth Scanner.advance scanner (3 + k)).withoutDoc =
        (nth Scanner.advance (scanner.startAt brace .templateText) (k + 1)).withoutDoc := by
  have accepted : Scanner.bind "$a \x7bif $b\x7d".toList 0 10 .expression =
      .ok (Scanner.ofRange "$a \x7bif $b\x7d".toList 0 10 .expression) := rfl
  have place : (nth Scanner.advance (Scanner.ofRange "$a \x7bif $b\x7d".toList 0 10 .expression)
      2).Covers .unterminatedTag 3 4 := ⟨by decide, by decide, by decide⟩
  obtain ⟨brace, _, covers, -, -, alike⟩ := interrupted_tags_start_afresh accepted place.kind
  have offset : brace.offset = 3 := covers.start.symm.trans place.start
  have word : Text.slice? "$a \x7bif $b\x7d".toList 3 10 = some "\x7bif $b\x7d".toList := by
    decide
  rw [offset] at alike
  refine ⟨_, brace, accepted, place, offset, (alike ?_ ?_).2⟩
  · rintro ⟨after, cut⟩
    rw [word] at cut
    simp at cut
  · rintro ⟨after, cut⟩
    rw [word] at cut
    simp at cut

/-- The rest of a longer delimiter is lost: the tag is then neither a closing one nor one of two
braces. -/
theorem interrupted_tags_lose_longer_delimiters :
    (∃ scanner, Scanner.bind "\x7b$a \x7b/if\x7d".toList 0 9 .templateText = .ok scanner ∧
      (nth Scanner.advance scanner 3).Covers .unterminatedTag 4 5 ∧
      (nth Scanner.advance scanner 5).Covers .identifier 6 8 ∧
      (nth Scanner.advance (scanner.startAt (behind Scanner.advance scanner 3).cursor
        .templateText) 1).Covers .ifWord 6 8) ∧
    ∃ scanner, Scanner.bind "\x7b$a \x7b\x7b$b\x7d\x7d".toList 0 10 .templateText = .ok scanner ∧
      (nth Scanner.advance scanner 3).Covers .unterminatedTag 4 5 ∧
      (nth Scanner.advance scanner 6).Covers .tagClose 8 9 ∧
      (nth Scanner.advance (scanner.startAt (behind Scanner.advance scanner 3).cursor
        .templateText) 2).Covers .tagClose 8 10 := by
  refine ⟨⟨_, rfl, ?_, ?_, ?_⟩, _, rfl, ?_, ?_, ?_⟩
  all_goals exact ⟨by decide +kernel, by decide +kernel, by decide +kernel⟩

end ClosureTemplate.Scan
