import ClosureTemplate.Cli.Run
import ClosureTemplate.Proofs.Word.Fragment
import ClosureTemplate.Word.Lexer

/-!
The word lexer gives out the tokens of its scanner, each replaced by its words. The queue always
holds the last words of the token that is stored beside it (`IsCoherent`), whatever is asked of the
lexer, so a lexer is as good as its queue followed by the rest of its scanner (`drain_eq_words`).
-/

namespace ClosureTemplate.Word

open Scan (Scanner Mode Position)

namespace Lexer

/-- The waiting fragments are the last ones of the stored token. -/
def IsCoherent (lexer : Lexer) : Prop :=
  lexer.waiting = [] ∨
    ∃ parent, lexer.parent = some parent ∧ lexer.waiting <:+ fragments parent

/-- The words that wait. -/
def queue (lexer : Lexer) : List Symbol :=
  match lexer.parent with
  | some parent => lexer.waiting.map fun fragment => fragment.symbol parent
  | none => []

theorem queue_of_empty {lexer : Lexer} (empty : lexer.waiting = []) : lexer.queue = [] := by
  unfold queue
  split
  · rw [empty, List.map_nil]
  · rfl

theorem advance_of_waiting {lexer : Lexer} {fragment : Fragment} {waiting : List Fragment}
    {parent : Symbol} (queued : lexer.waiting = fragment :: waiting)
    (stored : lexer.parent = some parent) :
    lexer.advance = (fragment.symbol parent,
      { lexer with waiting, current := some (fragment.symbol parent) }) := by
  unfold advance
  rw [queued, stored]

theorem advance_of_empty {lexer : Lexer} (empty : lexer.waiting = []) :
    lexer.advance = lexer.refill := by
  unfold advance
  rw [empty]

theorem wordsOf_advance (scanner : Scanner) :
    wordsOf scanner.advance.1 =
      if fragments scanner.advance.1 = [] then [scanner.advance.1]
      else (fragments scanner.advance.1).map fun fragment => fragment.symbol scanner.advance.1 := by
  unfold wordsOf fragments
  by_cases fragmentable : scanner.advance.1.kind.isFragmentable = true
  · have more : scanner.rest ≠ [] := by
      intro ended
      rw [Scanner.advance_kind.mpr ended] at fragmentable
      cases fragmentable
    have cut := split_ne_nil scanner.advance.1.kind (Scanner.advance_text_ne_nil more)
    rw [if_pos fragmentable, if_pos fragmentable, if_neg cut]
  · rw [if_neg fragmentable, if_neg fragmentable, if_pos rfl]

theorem refill_words (lexer : Lexer) :
    lexer.refill.1 :: lexer.refill.2.queue = wordsOf lexer.scanner.advance.1 := by
  rw [wordsOf_advance]
  unfold refill
  dsimp only
  split
  · next whole =>
    rw [if_pos whole]
    rfl
  · next fragment waiting cut =>
    rw [cut, if_neg (List.cons_ne_nil fragment waiting)]
    rfl

theorem isCoherent_refill (lexer : Lexer) : lexer.refill.2.IsCoherent := by
  unfold refill
  dsimp only
  split
  · exact .inl rfl
  · next fragment waiting cut =>
    refine .inr ⟨lexer.scanner.advance.1, rfl, ?_⟩
    rw [cut]
    exact List.suffix_cons fragment waiting

theorem isCoherent_advance {lexer : Lexer} (coherent : lexer.IsCoherent) :
    lexer.advance.2.IsCoherent := by
  cases queued : lexer.waiting with
  | nil =>
    rw [advance_of_empty queued]
    exact lexer.isCoherent_refill
  | cons fragment waiting =>
    rcases coherent with empty | ⟨parent, stored, last⟩
    · rw [queued] at empty
      cases empty
    · rw [advance_of_waiting queued stored]
      rw [queued] at last
      exact .inr ⟨parent, stored, (List.suffix_cons fragment waiting).trans last⟩

theorem advance_words {lexer : Lexer} (coherent : lexer.IsCoherent) (more : ¬ lexer.isDrained) :
    lexer.queue ++ lexer.scanner.drain.1.flatMap wordsOf =
      lexer.advance.1 ::
        (lexer.advance.2.queue ++ lexer.advance.2.scanner.drain.1.flatMap wordsOf) := by
  cases queued : lexer.waiting with
  | nil =>
    -- the scanner moves on by one token, whose words are the one given out and the new queue
    have left : lexer.scanner.rest ≠ [] := fun ended => more ⟨queued, ended⟩
    rw [advance_of_empty queued, refill_scanner, queue_of_empty queued,
      Scanner.drain_of_rest left, List.flatMap_cons, ← lexer.refill_words]
    rfl
  | cons fragment waiting =>
    rcases coherent with empty | ⟨parent, stored, -⟩
    · rw [queued] at empty
      cases empty
    · rw [advance_of_waiting queued stored]
      simp only [queue, stored, queued, List.map_cons, List.cons_append]

theorem queue_ne_eof {lexer : Lexer} (coherent : lexer.IsCoherent) :
    ∀ word ∈ lexer.queue, word.kind ≠ .eof := by
  intro word member
  rcases coherent with empty | ⟨parent, stored, last⟩
  · rw [queue_of_empty empty] at member
    cases member
  · simp only [queue, stored] at member
    obtain ⟨fragment, waits, rfl⟩ := List.mem_map.mp member
    have listed := last.subset waits
    unfold fragments at listed
    split at listed
    · next fragmentable =>
      have proper : parent.kind ≠ .eof := by
        intro eof
        rw [eof] at fragmentable
        cases fragmentable
      apply wordsOf_ne_eof proper
      rw [wordsOf, if_pos fragmentable]
      exact List.mem_map_of_mem listed
    · cases listed

theorem advance_ne_eof {lexer : Lexer} (coherent : lexer.IsCoherent) (more : ¬ lexer.isDrained) :
    lexer.advance.1.kind ≠ .eof := by
  have shown : lexer.advance.1 ∈ lexer.queue ++ lexer.scanner.drain.1.flatMap wordsOf := by
    rw [advance_words coherent more]
    exact List.mem_cons_self ..
  rcases List.mem_append.mp shown with waits | scanned
  · exact queue_ne_eof coherent _ waits
  · obtain ⟨symbol, given, word⟩ := List.mem_flatMap.mp scanned
    exact wordsOf_ne_eof (lexer.scanner.yields_drain.proper symbol given) word

theorem drain_induction {fact : Lexer → Prop}
    (ended : ∀ lexer, lexer.isDrained → fact lexer)
    (more : ∀ lexer, ¬ lexer.isDrained → fact lexer.advance.2 → fact lexer)
    (lexer : Lexer) : fact lexer := by
  induction lexer using drain.induct with
  | case1 lexer drained => exact ended lexer drained
  | case2 lexer left _ ih => exact more lexer left ih

theorem drain_at_end {lexer : Lexer} (drained : lexer.isDrained) : lexer.drain = ([], lexer) := by
  rw [drain, dif_pos drained]

theorem drain_of_more {lexer : Lexer} (more : ¬ lexer.isDrained) :
    lexer.drain = (lexer.advance.1 :: lexer.advance.2.drain.1, lexer.advance.2.drain.2) := by
  rw [drain, dif_neg more]

theorem drain_eq_words {lexer : Lexer} (coherent : lexer.IsCoherent) :
    lexer.drain.1 = lexer.queue ++ lexer.scanner.drain.1.flatMap wordsOf := by
  induction lexer using drain_induction with
  | ended lexer drained =>
    rw [drain_at_end drained, queue_of_empty drained.1, Scanner.drain_at_end drained.2]
    rfl
  | more lexer left ih =>
    rw [drain_of_more left, ih (isCoherent_advance coherent), advance_words coherent left]

theorem drain_scanner {lexer : Lexer} (coherent : lexer.IsCoherent) :
    lexer.drain.2.scanner = lexer.scanner.drain.2 := by
  induction lexer using drain_induction with
  | ended lexer drained => rw [drain_at_end drained, Scanner.drain_at_end drained.2]
  | more lexer left ih =>
    rw [drain_of_more left, ih (isCoherent_advance coherent)]
    cases queued : lexer.waiting with
    | nil =>
      rw [advance_of_empty queued, refill_scanner,
        Scanner.drain_of_rest fun ended => left ⟨queued, ended⟩]
    | cons fragment waiting =>
      rcases coherent with empty | ⟨parent, stored, -⟩
      · rw [queued] at empty
        cases empty
      · rw [advance_of_waiting queued stored]

theorem advance_of_drained {lexer : Lexer} (drained : lexer.isDrained) :
    lexer.advance.1 = lexer.scanner.eof ∧ lexer.advance.2.isDrained ∧
      lexer.advance.2.scanner.eof = lexer.scanner.eof := by
  have scanned := Scanner.advance_at_end _ drained.2
  rw [advance_of_empty drained.1]
  refine ⟨?_, ⟨refill_at_end lexer drained.2, ?_⟩, ?_⟩
  · simp [refill, scanned, Scanner.eof, fragments, Kind.isFragmentable]
  · rw [refill_scanner, scanned]
    exact drained.2
  · rw [refill_scanner, scanned]
    rfl

theorem yields_of_drained {lexer : Lexer} (drained : lexer.isDrained) :
    Yields advance lexer [] lexer.scanner.eof where
  token n inside := absurd inside (Nat.not_lt_zero n)
  proper symbol member := absurd member List.not_mem_nil
  ended n _ := by
    have stays : (behind advance lexer n).isDrained ∧
        (behind advance lexer n).scanner.eof = lexer.scanner.eof :=
      behind_induction (fun current : Lexer => current.isDrained ∧
          current.scanner.eof = lexer.scanner.eof) ⟨drained, rfl⟩
        (fun _ held => ⟨(advance_of_drained held.1).2.1,
          (advance_of_drained held.1).2.2.trans held.2⟩) n
    rw [nth, (advance_of_drained stays.1).1, stays.2]
  isEof := rfl

theorem yields_drain {lexer : Lexer} (coherent : lexer.IsCoherent) :
    Yields advance lexer lexer.drain.1 lexer.drain.2.scanner.eof := by
  induction lexer using drain_induction with
  | ended lexer drained =>
    rw [drain_at_end drained]
    exact yields_of_drained drained
  | more lexer left ih =>
    rw [drain_of_more left]
    exact (ih (isCoherent_advance coherent)).cons (advance_ne_eof coherent left)

def pop? (lexer : Lexer) : Option (Symbol × Lexer) :=
  match lexer.waiting, lexer.parent with
  | fragment :: waiting, some parent =>
    let word := fragment.symbol parent
    some (word, { lexer with waiting, current := some word })
  | _, _ => none

/-- A call in its single steps: an empty queue is filled with the fragments of the next token, a
token without any is passed on whole, and otherwise the queue has to give out a word. -/
def advance? (lexer : Lexer) : Option (Symbol × Lexer) :=
  if lexer.waiting = [] then
    let (token, scanner) := lexer.scanner.advance
    if fragments token = [] then
      some (token, { lexer with scanner, parent := none, current := some token })
    else { lexer with scanner, parent := some token, waiting := fragments token }.pop?
  else lexer.pop?

theorem advance?_eq {lexer : Lexer} (coherent : lexer.IsCoherent) :
    lexer.advance? = some lexer.advance := by
  unfold advance?
  by_cases empty : lexer.waiting = []
  · rw [if_pos empty, advance_of_empty empty]
    unfold refill
    dsimp only
    split
    · next whole => rw [empty, whole]
    · next cut =>
      obtain ⟨fragment, waiting, shape⟩ := List.exists_cons_of_ne_nil cut
      simp only [pop?, shape]
  · rw [if_neg empty]
    obtain ⟨fragment, waiting, queued⟩ := List.exists_cons_of_ne_nil empty
    rcases coherent with none | ⟨parent, stored, -⟩
    · exact absurd none empty
    · rw [advance_of_waiting queued stored]
      simp only [pop?, queued, stored]

inductive Request where
  | start (source : Text) (start stop : Nat) (mode : Mode)
  | advance
  | restore (position : Position)

def serve (lexer : Lexer) : Request → Lexer
  | .start source start stop mode =>
    match Lexer.bind source start stop mode with
    | .ok fresh => fresh
    | .error _ => lexer
  | .advance => lexer.advance.2
  | .restore position => lexer.restore position

theorem isCoherent_of_bind {source : Text} {start stop : Nat} {mode : Mode} {lexer : Lexer}
    (accepted : Lexer.bind source start stop mode = .ok lexer) : lexer.IsCoherent := by
  unfold Lexer.bind at accepted
  cases bound : Scanner.bind source start stop mode with
  | error fault => rw [bound] at accepted; cases accepted
  | ok scanner => rw [bound] at accepted; cases accepted; exact .inl rfl

theorem isCoherent_serve {lexer : Lexer} (coherent : lexer.IsCoherent) (request : Request) :
    (lexer.serve request).IsCoherent := by
  cases request with
  | start source start stop mode =>
    simp only [serve]
    split
    · next accepted => exact isCoherent_of_bind accepted
    · exact coherent
  | advance => exact isCoherent_advance coherent
  | restore position => exact .inl rfl

theorem isCoherent_history {lexer : Lexer} (coherent : lexer.IsCoherent)
    (requests : List Request) : (requests.foldl serve lexer).IsCoherent := by
  induction requests generalizing lexer with
  | nil => exact coherent
  | cons request requests ih => exact ih (isCoherent_serve coherent request)

theorem parent_isSome {lexer : Lexer} (coherent : lexer.IsCoherent)
    (waits : 0 < lexer.waiting.length) : lexer.parent.isSome = true := by
  rcases coherent with empty | ⟨parent, stored, -⟩
  · rw [empty] at waits
    exact absurd waits (Nat.lt_irrefl 0)
  · rw [stored]
    rfl

end Lexer

theorem tokenizeRange_eq_words (source : Text) (start stop : Nat) (mode : Mode) :
    tokenizeRange source start stop mode =
      (Scan.tokenizeRange source start stop mode).map (·.flatMap wordsOf) := by
  unfold tokenizeRange Scan.tokenizeRange Lexer.bind
  cases Scanner.bind source start stop mode with
  | error fault => rfl
  | ok scanner =>
    have words : ({ scanner : Lexer }).drain.1 = scanner.drain.1.flatMap wordsOf :=
      Lexer.drain_eq_words (.inl rfl)
    exact congrArg Except.ok words

theorem tokenize_eq_words (source : Text) :
    tokenize source = (Scan.tokenize source).flatMap wordsOf :=
  Lexer.drain_eq_words (.inl rfl)

/-- The words of a range are the words of its tokens, in place and in order. They tile the range
again, and no word of a kind that is cut can be cut further. Whatever was asked of a lexer, waiting
fragments have their token and every call finds a word to give out. -/
theorem words_refine_tokens {source : Text} {start stop : Nat} (mode : Mode)
    (ordered : start ≤ stop) (startBoundary : source.isBoundary start = true)
    (stopBoundary : source.isBoundary stop = true) :
    (∃ scanner lexer symbols eof, Scanner.bind source start stop mode = .ok scanner ∧
      Lexer.bind source start stop mode = .ok lexer ∧
      Yields Scanner.advance scanner symbols eof ∧
      Yields Lexer.advance lexer (symbols.flatMap wordsOf) eof ∧
      Scan.tokenizeRange source start stop mode = .ok symbols ∧
      tokenizeRange source start stop mode = .ok (symbols.flatMap wordsOf) ∧
      Tiles source start stop (symbols.flatMap wordsOf) ∧
      (∀ symbol ∈ symbols, ∀ fragment ∈ split symbol.text symbol.kind,
        (fragment.kind = symbol.kind ∨ fragment.kind = .ignoredText) ∧
        symbol.text.slice? fragment.start fragment.stop = some (fragment.symbol symbol).text) ∧
      ∀ word ∈ symbols.flatMap wordsOf, word.kind.isFragmentable = true →
        Text.isIdentifier word.text = true) ∧
    (∀ requests : List Lexer.Request,
      (0 < (requests.foldl Lexer.serve {}).waiting.length →
        (requests.foldl Lexer.serve {}).parent.isSome = true) ∧
      (requests.foldl Lexer.serve {}).advance? = some (requests.foldl Lexer.serve {}).advance) ∧
    tokenize source = (Scan.tokenize source).flatMap wordsOf ∧
    Cli.scan source mode true = (Cli.scan source mode false).map (·.flatMap wordsOf) := by
  refine ⟨?_, ?_, tokenize_eq_words source, tokenizeRange_eq_words source 0 source.byteSize mode⟩
  · obtain ⟨scanner, accepted⟩ : ∃ scanner, Scanner.bind source start stop mode = .ok scanner :=
      ⟨_, Scanner.bind_eq_ok_iff.mpr ⟨⟨ordered, startBoundary, stopBoundary⟩, rfl⟩⟩
    have coherent : ({ scanner : Lexer }).IsCoherent := .inl rfl
    have scanned : Scan.tokenizeRange source start stop mode = .ok scanner.drain.1 := by
      rw [Scan.tokenizeRange, accepted]
      rfl
    refine ⟨scanner, { scanner }, scanner.drain.1, scanner.drain.2.eof, accepted, ?_,
      scanner.yields_drain, ?_, scanned, ?_, ?_, ?_, ?_⟩
    · rw [Lexer.bind, accepted]
      rfl
    · have yields := Lexer.yields_drain coherent
      rw [Lexer.drain_eq_words coherent, Lexer.drain_scanner coherent] at yields
      exact yields
    · rw [tokenizeRange_eq_words, scanned]
      rfl
    · exact tiles_flatMap_wordsOf (Scanner.tiles_of_bind accepted)
    · intro symbol _ fragment member
      refine ⟨?_, slice?_of_mem_split member⟩
      rw [kind_of_mem_split member, pieceKind]
      split
      · exact .inl rfl
      · exact .inr rfl
    · intro word member fragmentable
      obtain ⟨symbol, -, cut⟩ := List.mem_flatMap.mp member
      exact isIdentifier_of_mem_wordsOf cut fragmentable
  · intro requests
    have coherent : (requests.foldl Lexer.serve {}).IsCoherent :=
      Lexer.isCoherent_history (.inl rfl) requests
    exact ⟨Lexer.parent_isSome coherent, Lexer.advance?_eq coherent⟩

theorem words_refine_tokens_namespace :
    Text.isBoundary "\x7bnamespace a.b\x7d".toList 0 = true ∧
      Text.isBoundary "\x7bnamespace a.b\x7d".toList 15 = true ∧
      ∃ symbols,
        Scan.tokenizeRange "\x7bnamespace a.b\x7d".toList 0 15 .templateText = .ok symbols ∧
        tokenizeRange "\x7bnamespace a.b\x7d".toList 0 15 .templateText =
          .ok (symbols.flatMap wordsOf) := by
  have start : Text.isBoundary "\x7bnamespace a.b\x7d".toList 0 = true := by decide
  have stop : Text.isBoundary "\x7bnamespace a.b\x7d".toList 15 = true := by decide
  obtain ⟨⟨_, _, symbols, _, _, _, _, _, scanned, words, _⟩, _⟩ :=
    words_refine_tokens .templateText (Nat.zero_le 15) start stop
  exact ⟨start, stop, symbols, scanned, words⟩

end ClosureTemplate.Word
