import ClosureTemplate.Proofs.Doc.Declared
import ClosureTemplate.Scan.Step
import ClosureTemplate.Token.Symbol

/-!
The words of a doc comment. `IsDocLexeme` says once what a lexeme of a comment can look like; from
it follow, for a whole body in lexemes, that the body holds no closing delimiter (`Lexed.isOpen`)
and that a name which follows a blank or a question mark is a lexeme of its own
(`Lexed.exists_word`).
-/

namespace ClosureTemplate

namespace Scan

open Text

/-- A lexeme of a comment other than the closing delimiter, by its text and what follows it. -/
inductive IsDocLexeme : DocLexeme → Text → Text → Prop
  | star {after : Text} (unclosed : after.head? ≠ some '/') : IsDocLexeme .text ['*'] after
  | lone {after : Text} : IsDocLexeme .text ['@'] after
  | tag {letters mark after : Text} (all : ∀ c ∈ letters, isLetter c = true)
      (marked : mark = [] ∨ mark = ['?']) : IsDocLexeme .tag ('@' :: (letters ++ mark)) after
  | blank {text after : Text} (all : ∀ c ∈ text, isTagBlank c = true) :
      IsDocLexeme .blank text after
  | word {text after : Text} (identifier : text.isIdentifier = true)
      (ends : ∀ c, after.head? = some c → isNameChar c = false) : IsDocLexeme .word text after
  | text {text after : Text} (all : ∀ c ∈ text, isDocText c = true) : IsDocLexeme .text text after

theorem eq_of_run {test : Char → Bool} {text after tail : Text} {head : Char}
    (split : text ++ after = head :: tail) (width : text.length = 1 + run test tail) :
    text = head :: tail.takeWhile test ∧ after = tail.dropWhile test := by
  have cut : head :: tail = (head :: tail.takeWhile test) ++ tail.dropWhile test := by
    rw [List.cons_append, List.takeWhile_append_dropWhile]
  apply List.append_inj (split.trans cut)
  rw [width, List.length_cons, run, Nat.add_comm]

theorem isDocLexeme_tag {text after tail : Text} (split : text ++ after = '@' :: tail)
    (width : text.length = 1 + docTagLength tail) : IsDocLexeme .tag text after := by
  unfold docTagLength at width
  split at width
  · next question =>
    obtain ⟨rest, found⟩ := List.head?_eq_some_iff.mp question
    have cut : '@' :: tail = '@' :: (tail.takeWhile isLetter ++ ['?']) ++ rest := by
      rw [List.cons_append, List.append_assoc, List.singleton_append, ← found,
        List.takeWhile_append_dropWhile]
    obtain ⟨rfl, rfl⟩ := List.append_inj (split.trans cut) (by simp [width, run]; omega)
    exact .tag (List.all_eq_true.mp List.all_takeWhile) (.inr rfl)
  · obtain ⟨rfl, rfl⟩ := eq_of_run split width
    rw [← List.append_nil (tail.takeWhile isLetter)]
    exact .tag (List.all_eq_true.mp List.all_takeWhile) (.inl rfl)

theorem isDocLexeme_of_docLexeme {head : Char} {tail text after : Text} {lexeme : DocLexeme}
    (split : text ++ after = head :: tail) (reads : docLexeme head tail = (lexeme, text.length))
    (notClose : lexeme ≠ .close) : IsDocLexeme lexeme text after := by
  have single (width : 1 = text.length) : text = [head] ∧ after = tail :=
    List.append_inj (split.trans (List.singleton_append).symm) (by simpa using width.symm)
  unfold docLexeme at reads
  split at reads
  · exact absurd (congrArg Prod.fst reads).symm notClose
  · next notSlash =>
    obtain ⟨rfl, width⟩ := Prod.mk.inj reads
    obtain ⟨rfl, rfl⟩ := single width
    refine .star fun slash => ?_
    obtain ⟨rest, rfl⟩ := List.head?_eq_some_iff.mp slash
    exact notSlash rest rfl
  · split at reads
    · obtain ⟨rfl, width⟩ := Prod.mk.inj reads
      obtain ⟨rfl, rfl⟩ := single width
      exact .lone
    · obtain ⟨rfl, width⟩ := Prod.mk.inj reads
      exact isDocLexeme_tag split width.symm
  · next noStar noAt _ =>
    split at reads
    · next blank =>
      obtain ⟨rfl, width⟩ := Prod.mk.inj reads
      obtain ⟨rfl, rfl⟩ := eq_of_run split width.symm
      refine .blank fun c member => ?_
      rcases List.mem_cons.mp member with rfl | later
      · exact blank
      · exact List.all_eq_true.mp List.all_takeWhile c later
    · next notBlank =>
      split at reads
      · next starts =>
        obtain ⟨rfl, width⟩ := Prod.mk.inj reads
        obtain ⟨rfl, rfl⟩ := eq_of_run split width.symm
        refine .word ?_ fun c found => head_dropWhile found
        rw [isIdentifier, starts, Bool.true_and]
        exact List.all_takeWhile
      · next notStart =>
        obtain ⟨rfl, width⟩ := Prod.mk.inj reads
        obtain ⟨rfl, rfl⟩ := eq_of_run split width.symm
        refine .text fun c member => ?_
        rcases List.mem_cons.mp member with rfl | later
        · have notStar : c ≠ '*' := noStar
          have notAt : c ≠ '@' := noAt
          simp [isDocText, notBlank, notStart, notStar, notAt]
        · exact List.all_eq_true.mp List.all_takeWhile c later

theorem IsDocLexeme.star_notMem {lexeme : DocLexeme} {text after : Text}
    (shape : IsDocLexeme lexeme text after) :
    text = ['*'] ∧ after.head? ≠ some '/' ∨ '*' ∉ text := by
  cases shape with
  | star unclosed => exact .inl ⟨rfl, unclosed⟩
  | lone => exact .inr (by simp)
  | @tag letters mark _ all marked =>
    refine .inr fun member => ?_
    rcases List.mem_cons.mp member with same | later
    · cases same
    · rcases List.mem_append.mp later with inLetters | inMark
      · cases all '*' inLetters
      · rcases marked with rfl | rfl <;> simp at inMark
  | blank all => exact .inr fun member => by cases all '*' member
  | word identifier => exact .inr fun member => by cases isNameChar_of_mem identifier member
  | text all => exact .inr fun member => by cases all '*' member

theorem IsDocLexeme.last_of_start {lexeme : DocLexeme} {front back after : Text} {c : Char}
    (shape : IsDocLexeme lexeme (front ++ c :: back) after) (starts : isNameStart c = true)
    (nonempty : front ≠ []) :
    ∃ d, front.getLast? = some d ∧ (isNameChar d = true ∨ d = '@') := by
  generalize whole : front ++ c :: back = text at shape
  have member : c ∈ text := by simp [← whole]
  cases last : front.getLast? with
  | none => exact absurd (List.getLast?_eq_none_iff.mp last) nonempty
  | some d =>
    have before : d ∈ front := List.mem_of_getLast? last
    have inside : d ∈ text := by simp [← whole, before]
    refine ⟨d, rfl, ?_⟩
    cases shape with
    | star | lone =>
      obtain rfl := List.mem_singleton.mp member
      cases starts
    | @tag letters mark _ all marked =>
      rcases List.mem_cons.mp inside with rfl | later
      · exact .inr rfl
      · rcases List.mem_append.mp later with letter | question
        · exact .inl (by simp [isNameChar, isNameStart, all d letter])
        · -- a question mark ends the tag, so that nothing can follow it
          obtain ⟨rfl, rfl⟩ : mark = ['?'] ∧ d = '?' := by
            rcases marked with rfl | rfl <;> simp_all
          obtain ⟨earlier, rfl⟩ := List.getLast?_eq_some_iff.mp last
          have shorter := congrArg List.dropLast whole
          rw [List.append_assoc, List.singleton_append, ← List.cons_append,
            List.dropLast_append_of_ne_nil (by simp), List.dropLast_cons_cons,
            List.dropLast_concat] at shorter
          have inTag : '?' ∈ '@' :: letters := by simp [← shorter]
          rcases List.mem_cons.mp inTag with same | letter
          · cases same
          · cases all '?' letter
    | blank all =>
      have blank := isBlank_of_isTagBlank (all c member)
      rw [isBlank_of_isNameStart starts] at blank
      cases blank
    | word identifier => exact .inl (isNameChar_of_mem identifier inside)
    | text all =>
      have plain := all c member
      simp [isDocText, starts] at plain

theorem IsDocLexeme.word_of_start {lexeme : DocLexeme} {back after : Text} {c : Char}
    (shape : IsDocLexeme lexeme (c :: back) after) (starts : isNameStart c = true) :
    lexeme = .word := by
  cases shape with
  | star | lone | tag => cases starts
  | blank all =>
    have blank := isBlank_of_isTagBlank (all c List.mem_cons_self)
    rw [isBlank_of_isNameStart starts] at blank
    cases blank
  | word => rfl
  | text all =>
    have plain := all c List.mem_cons_self
    simp [isDocText, starts] at plain

theorem IsDocLexeme.isIdentifier_iff {lexeme : DocLexeme} {text after : Text}
    (shape : IsDocLexeme lexeme text after) : text.isIdentifier = true ↔ lexeme = .word := by
  constructor
  · intro identifier
    cases text with
    | nil => cases identifier
    | cons c cs => exact shape.word_of_start (Bool.and_eq_true_iff.mp identifier).1
  · rintro rfl
    cases shape
    assumption

/-- A token of a comment, read behind the part `before` of the body. -/
structure ReadsLexeme (before : Text) (symbol : Symbol) (after : Text) (lexeme : DocLexeme) :
    Prop where
  shape : IsDocLexeme lexeme symbol.text after
  kind : symbol.kind =
    State.docKind lexeme symbol.text (Doc.anticipatesName (Doc.splitLines before).2)

/-- Tokens of a comment one after the other, with `after` behind the last of them. -/
inductive Lexed (after : Text) : Text → List Symbol → Prop
  | nil {before : Text} : Lexed after before []
  | cons {before : Text} {symbol : Symbol} {rest : List Symbol} {lexeme : DocLexeme}
      (reads : ReadsLexeme before symbol (rest.flatMap Symbol.text ++ after) lexeme)
      (others : Lexed after (before ++ symbol.text) rest) : Lexed after before (symbol :: rest)

theorem Lexed.reads_of_split {after before : Text} {front back : List Symbol} {symbol : Symbol}
    (lexed : Lexed after before (front ++ symbol :: back)) :
    ∃ lexeme, ReadsLexeme (before ++ front.flatMap Symbol.text) symbol
      (back.flatMap Symbol.text ++ after) lexeme := by
  induction front generalizing before with
  | nil =>
    cases lexed with
    | cons reads => exact ⟨_, by simpa using reads⟩
  | cons first rest ih =>
    cases lexed with
    | cons _ others =>
      obtain ⟨lexeme, reads⟩ := ih others
      exact ⟨lexeme, by simpa using reads⟩

theorem closes_cons_iff {c : Char} {cs : Text} :
    "*/".toList <+: c :: cs ↔ c = '*' ∧ cs.head? = some '/' := by
  cases cs with
  | nil => simp
  | cons d ds => simp [List.cons_prefix_cons, eq_comm]

theorem isOpen_cons_iff {c : Char} {cs : Text} :
    Doc.IsOpen (c :: cs) ↔ ¬(c = '*' ∧ cs.head? = some '/') ∧ Doc.IsOpen cs := by
  rw [Doc.IsOpen, List.infix_cons_iff, not_or, closes_cons_iff]
  rfl

theorem isOpen_append {text rest : Text} (noStar : '*' ∉ text) (isOpen : Doc.IsOpen rest) :
    Doc.IsOpen (text ++ rest) := by
  induction text with
  | nil => exact isOpen
  | cons c cs ih =>
    simp only [List.mem_cons, not_or] at noStar
    rw [List.cons_append, isOpen_cons_iff]
    exact ⟨fun closes => noStar.1 closes.1.symm, ih noStar.2⟩

theorem Lexed.isOpen {after before : Text} {tokens : List Symbol}
    (lexed : Lexed after before tokens) : Doc.IsOpen (tokens.flatMap Symbol.text) := by
  induction lexed with
  | nil =>
    intro closes
    cases List.infix_nil.mp closes
  | @cons before symbol rest lexeme reads _ ih =>
    rw [List.flatMap_cons]
    rcases reads.shape.star_notMem with ⟨star, unclosed⟩ | noStar
    · rw [star, List.singleton_append, isOpen_cons_iff]
      refine ⟨fun closes => unclosed ?_, ih⟩
      rw [List.head?_append, closes.2]
      rfl
    · exact isOpen_append noStar ih

theorem Lexed.exists_word {after before front rest : Text} {tokens : List Symbol} {c : Char}
    (lexed : Lexed after before tokens) (split : tokens.flatMap Symbol.text = front ++ c :: rest)
    (starts : isNameStart c = true)
    (apart : ∀ d, front.getLast? = some d → isNameChar d = false ∧ d ≠ '@') :
    ∃ earlier word later, tokens = earlier ++ word :: later ∧
      earlier.flatMap Symbol.text = front ∧ word.text.isIdentifier = true := by
  induction lexed generalizing front with
  | nil => simp at split
  | @cons before symbol others lexeme reads _ ih =>
    rw [List.flatMap_cons] at split
    rcases List.append_eq_append_iff.mp split with ⟨gap, rfl, inner⟩ | ⟨gap, text, inner⟩
    · have still : ∀ d, gap.getLast? = some d → isNameChar d = false ∧ d ≠ '@' := by
        intro d last
        apply apart d
        rw [List.getLast?_append, last]
        rfl
      obtain ⟨earlier, word, later, rfl, same, identifier⟩ := ih inner still
      exact ⟨symbol :: earlier, word, later, rfl, by simp [same], identifier⟩
    · cases gap with
      | nil =>
        have behind : others.flatMap Symbol.text = [] ++ c :: rest := inner.symm
        obtain ⟨earlier, word, later, rfl, same, identifier⟩ := ih behind (by simp)
        refine ⟨symbol :: earlier, word, later, rfl, ?_, identifier⟩
        rw [List.flatMap_cons, same, text, List.append_nil, List.append_nil]
      | cons d ds =>
        obtain ⟨rfl, -⟩ := List.cons.inj inner
        have shape := reads.shape
        by_cases first : front = []
        · rw [first, List.nil_append] at text
          rw [text] at shape
          refine ⟨[], symbol, others, rfl, first.symm, ?_⟩
          rw [text, shape.isIdentifier_iff]
          exact shape.word_of_start starts
        · -- inside of a lexeme a name could only follow what it must not follow
          rw [text] at shape
          obtain ⟨e, last, joined⟩ := shape.last_of_start starts first
          obtain ⟨notName, notAt⟩ := apart e last
          rcases joined with name | at_
          · rw [notName] at name
            cases name
          · exact absurd at_ notAt

end Scan

end ClosureTemplate
