import ClosureTemplate.Proofs.Table
import ClosureTemplate.Token.GrammarCodes

/-!
Codes are written once. An import goes through its entries up to the first that contradicts what is
known by then, from the table or from the entries before it (`clash?`). The table behind it knows
its old codes and, for every other terminal, the first new one; no history of imports takes a code
back (`codes_are_written_once`).
-/

namespace ClosureTemplate.GrammarCodes

def firstCode? (entries : List (String × Int)) (kind : Kind) : Option Int :=
  (entries.find? fun entry => Kind.ofName? entry.1 = some kind).map Prod.snd

def known? (codes : GrammarCodes) (entries : List (String × Int)) (kind : Kind) : Option Int :=
  (codes.get? kind).or (firstCode? entries kind)

/-- The name, the existing and the proposed code of the entry at a place, if they differ in the table
extended by the entries before it. -/
def clash? (codes : GrammarCodes) (entries : List (String × Int)) (place : Nat) :
    Option (String × Int × Int) := do
  let (name, proposed) ← entries[place]?
  let kind ← Kind.ofName? name
  let existing ← codes.known? (entries.take place) kind
  if existing = proposed then none else some (name, existing, proposed)

def resolved (codes : GrammarCodes) : Nat := Kind.all.countP fun kind => (codes.get? kind).isSome

/-- The table behind one import after the other, whatever they answer. -/
def afterImports (codes : GrammarCodes) (imports : List (List (String × Int))) : GrammarCodes :=
  imports.foldl (fun codes entries => (codes.addAll entries).1) codes

variable {codes later : GrammarCodes} {entries : List (String × Int)} {name : String} {code : Int}

theorem firstCode?_cons (kind : Kind) :
    firstCode? ((name, code) :: entries) kind =
      (if Kind.ofName? name = some kind then some code else none).or (firstCode? entries kind) := by
  by_cases named : Kind.ofName? name = some kind <;> simp [firstCode?, named]

theorem record_of_named {kind : Kind} (named : Kind.ofName? name = some kind) :
    codes.record name code = codes.put kind code := by
  rw [record, named]

theorem record_of_unnamed (unnamed : Kind.ofName? name = none) :
    codes.record name code = codes := by
  rw [record, unnamed]

theorem existing_eq_of_agreement {kind : Kind} {existing : Int}
    (agrees : codes.conflict? name code = none) (named : Kind.ofName? name = some kind)
    (known : codes.get? kind = some existing) : existing = code := by
  rw [conflict?, named, Option.bind_some, known] at agrees
  dsimp only at agrees
  split at agrees
  · assumption
  · cases agrees

theorem get?_record (agrees : codes.conflict? name code = none) (kind : Kind) :
    (codes.record name code).get? kind =
      (codes.get? kind).or (if Kind.ofName? name = some kind then some code else none) := by
  cases named : Kind.ofName? name with
  | none => simp [record_of_unnamed named]
  | some own =>
    simp only [record_of_named named, Option.some.injEq]
    by_cases same : own = kind
    · subst same
      rw [Table.get?_put_self, if_pos rfl]
      cases known : codes.get? own with
      | none => rfl
      | some existing => rw [existing_eq_of_agreement agrees named known, Option.some_or]
    · rw [Table.get?_put_of_ne _ _ same, if_neg same, Option.or_none]

theorem known?_record (agrees : codes.conflict? name code = none)
    (entries : List (String × Int)) (kind : Kind) :
    (codes.record name code).known? entries kind =
      codes.known? ((name, code) :: entries) kind := by
  rw [known?, known?, get?_record agrees, firstCode?_cons, Option.or_assoc]

theorem conflict?_eq (entries : List (String × Int)) :
    codes.conflict? name code =
      (codes.clash? ((name, code) :: entries) 0).map fun (name, existing, proposed) =>
        .codesConflict name existing proposed := by
  cases named : Kind.ofName? name with
  | none => simp [conflict?, clash?, named]
  | some kind =>
    cases known : codes.get? kind with
    | none => simp [conflict?, clash?, known?, firstCode?, named, known]
    | some existing =>
      by_cases same : existing = code <;>
        simp [conflict?, clash?, known?, firstCode?, named, known, same]

theorem clash?_succ (agrees : codes.conflict? name code = none) (place : Nat) :
    codes.clash? ((name, code) :: entries) (place + 1) =
      (codes.record name code).clash? entries place := by
  simp only [clash?, List.getElem?_cons_succ, List.take_succ_cons, known?_record agrees]

theorem addAll_of_conflict {error : Error} (conflict : codes.conflict? name code = some error) :
    codes.addAll ((name, code) :: entries) = (codes, .error error) := by
  rw [addAll, conflict]

theorem addAll_of_agreement (agrees : codes.conflict? name code = none) :
    codes.addAll ((name, code) :: entries) = (codes.record name code).addAll entries := by
  rw [addAll, agrees]

theorem agrees_of_clash? (clashless : codes.clash? ((name, code) :: entries) 0 = none) :
    codes.conflict? name code = none := by
  rw [conflict?_eq entries, clashless, Option.map_none]

theorem addAll_of_clashless (clashless : ∀ place, codes.clash? entries place = none) :
    (codes.addAll entries).2 = .ok (codes.addAll entries).1.length ∧
      ∀ kind, (codes.addAll entries).1.get? kind = codes.known? entries kind := by
  induction entries generalizing codes with
  | nil => exact ⟨rfl, fun kind => (Option.or_none).symm⟩
  | cons entry entries ih =>
    have agrees := agrees_of_clash? (clashless 0)
    obtain ⟨answer, table⟩ := ih fun place => clash?_succ agrees place ▸ clashless (place + 1)
    rw [addAll_of_agreement agrees]
    exact ⟨answer, fun kind => (table kind).trans (known?_record agrees entries kind)⟩

theorem addAll_of_clash {place : Nat} {existing proposed : Int}
    (first : ∀ earlier < place, codes.clash? entries earlier = none)
    (clash : codes.clash? entries place = some (name, existing, proposed)) :
    (codes.addAll entries).2 = .error (.codesConflict name existing proposed) ∧
      ∀ kind, (codes.addAll entries).1.get? kind = codes.known? (entries.take place) kind := by
  induction entries generalizing codes place with
  | nil => cases clash
  | cons entry entries ih =>
    cases place with
    | zero =>
      have conflict := @conflict?_eq codes entry.1 entry.2 entries
      rw [clash, Option.map_some] at conflict
      rw [addAll_of_conflict conflict]
      exact ⟨rfl, fun kind => (Option.or_none).symm⟩
    | succ place =>
      have agrees := agrees_of_clash? (first 0 (Nat.succ_pos place))
      rw [clash?_succ agrees] at clash
      obtain ⟨answer, table⟩ := ih (fun earlier before => clash?_succ agrees earlier ▸
        first (earlier + 1) (Nat.succ_lt_succ before)) clash
      rw [addAll_of_agreement agrees, List.take_succ_cons]
      exact ⟨answer, fun kind => (table kind).trans (known?_record agrees _ kind)⟩

/-- A table that has every code of another one. -/
def IsKeptBy (codes later : GrammarCodes) : Prop :=
  ∀ kind code, codes.get? kind = some code → later.get? kind = some code

theorem isKeptBy_addAll (codes : GrammarCodes) (entries : List (String × Int)) :
    codes.IsKeptBy (codes.addAll entries).1 := by
  induction entries generalizing codes with
  | nil => exact fun kind code known => known
  | cons entry entries ih =>
    intro kind code known
    cases conflict : codes.conflict? entry.1 entry.2 with
    | some error =>
      rw [addAll_of_conflict conflict]
      exact known
    | none =>
      rw [addAll_of_agreement conflict]
      apply ih
      rw [get?_record conflict, known, Option.some_or]

theorem nodup_keys_addAll (codes : GrammarCodes) (entries : List (String × Int))
    (distinct : codes.keys.Nodup) : (codes.addAll entries).1.keys.Nodup := by
  induction entries generalizing codes with
  | nil => exact distinct
  | cons entry entries ih =>
    cases conflict : codes.conflict? entry.1 entry.2 with
    | some error =>
      rw [addAll_of_conflict conflict]
      exact distinct
    | none =>
      rw [addAll_of_agreement conflict]
      apply ih
      unfold record
      split
      · exact Table.nodup_keys_put distinct
      · exact distinct

theorem isKeptBy_afterImports (codes : GrammarCodes) (imports : List (List (String × Int))) :
    codes.IsKeptBy (codes.afterImports imports) := by
  induction imports generalizing codes with
  | nil => exact fun kind code known => known
  | cons entries imports ih =>
    intro kind code known
    exact ih _ kind code (isKeptBy_addAll codes entries kind code known)

theorem nodup_keys_afterImports (codes : GrammarCodes) (imports : List (List (String × Int)))
    (distinct : codes.keys.Nodup) : (codes.afterImports imports).keys.Nodup := by
  induction imports generalizing codes with
  | nil => exact distinct
  | cons entries imports ih => exact ih _ (nodup_keys_addAll codes entries distinct)

theorem afterImports_append (codes : GrammarCodes) (earlier later : List (List (String × Int))) :
    codes.afterImports (earlier ++ later) = (codes.afterImports earlier).afterImports later :=
  List.foldl_append

theorem length_eq_resolved (distinct : codes.keys.Nodup) : codes.length = codes.resolved := by
  have everyKind : Kind.all.Nodup := by decide +kernel
  have same : codes.keys.Perm (Kind.all.filter fun kind => (codes.get? kind).isSome) := by
    rw [List.perm_ext_iff_of_nodup distinct (everyKind.filter _)]
    intro kind
    rw [List.mem_filter, Option.isSome_iff_exists]
    exact ⟨fun listed => ⟨Kind.mem_all kind, Table.exists_of_mem_keys listed⟩,
      fun ⟨_, _, found⟩ => Table.mem_keys_of_get? found⟩
  rw [resolved, List.countP_eq_length_filter, ← same.length_eq, Table.keys, List.length_map]

/-- Every terminal that is named has the code that is given to it. -/
def Holds (codes : GrammarCodes) (entries : List (String × Int)) : Prop :=
  ∀ entry ∈ entries, ∀ kind, Kind.ofName? entry.1 = some kind → codes.get? kind = some entry.2

theorem Holds.mono (holds : codes.Holds entries) (kept : codes.IsKeptBy later) :
    later.Holds entries :=
  fun entry listed kind named => kept kind entry.2 (holds entry listed kind named)

theorem holds_addAll {count : Nat} (accepted : (codes.addAll entries).2 = .ok count) :
    (codes.addAll entries).1.Holds entries := by
  induction entries generalizing codes with
  | nil => exact fun entry listed => absurd listed List.not_mem_nil
  | cons entry entries ih =>
    cases conflict : codes.conflict? entry.1 entry.2 with
    | some error =>
      rw [addAll_of_conflict conflict] at accepted
      cases accepted
    | none =>
      rw [addAll_of_agreement conflict] at accepted ⊢
      intro other listed kind named
      rcases List.mem_cons.mp listed with rfl | behind
      · apply isKeptBy_addAll
        rw [record_of_named named, Table.get?_put_self]
      · exact ih accepted other behind kind named

theorem conflict?_of_known (known : ∀ kind, Kind.ofName? name = some kind →
    codes.get? kind = some code) : codes.conflict? name code = none := by
  unfold conflict?
  cases named : Kind.ofName? name with
  | none => rfl
  | some kind => simp [known kind named]

theorem record_of_known (known : ∀ kind, Kind.ofName? name = some kind →
    codes.get? kind = some code) : codes.record name code = codes := by
  cases named : Kind.ofName? name with
  | none => exact record_of_unnamed named
  | some kind => rw [record_of_named named, Table.put_of_get? (known kind named)]

theorem addAll_of_holds (holds : codes.Holds entries) :
    codes.addAll entries = (codes, .ok codes.length) := by
  induction entries with
  | nil => rfl
  | cons entry entries ih =>
    have known := holds entry (List.mem_cons_self ..)
    rw [addAll_of_agreement (conflict?_of_known known), record_of_known known]
    exact ih fun other listed => holds other (List.mem_cons_of_mem entry listed)

/-- An import takes its entries up to the first clash, whatever the table. Along every history of
imports, with those that are refused, a code that is set stays, and a list that was taken can be
imported again without a change. -/
theorem codes_are_written_once (codes : GrammarCodes) (distinct : codes.keys.Nodup) :
    (∀ entries,
      ((∀ place, codes.clash? entries place = none) →
        (codes.addAll entries).2 = .ok (codes.addAll entries).1.resolved ∧
          ∀ kind, (codes.addAll entries).1.get? kind = codes.known? entries kind) ∧
      ∀ place name existing proposed,
        (∀ earlier < place, codes.clash? entries earlier = none) →
        codes.clash? entries place = some (name, existing, proposed) →
        (codes.addAll entries).2 = .error (.codesConflict name existing proposed) ∧
          ∀ kind, (codes.addAll entries).1.get? kind = codes.known? (entries.take place) kind) ∧
    ∀ earlier,
      (codes.afterImports earlier).keys.Nodup ∧
      (∀ later kind code, (codes.afterImports earlier).get? kind = some code →
        (codes.afterImports (earlier ++ later)).get? kind = some code) ∧
      ∀ entries later count, ((codes.afterImports earlier).addAll entries).2 = .ok count →
        let now := codes.afterImports (earlier ++ entries :: later)
        now.addAll entries = (now, .ok now.resolved) := by
  refine ⟨fun entries => ⟨?_, ?_⟩, fun earlier => ⟨?_, ?_, ?_⟩⟩
  · intro clashless
    obtain ⟨answer, table⟩ := addAll_of_clashless clashless
    exact ⟨answer.trans (congrArg _ (length_eq_resolved (nodup_keys_addAll codes entries distinct))),
      table⟩
  · intro place name existing proposed first clash
    exact addAll_of_clash first clash
  · exact nodup_keys_afterImports codes earlier distinct
  · intro later kind code known
    rw [afterImports_append]
    exact isKeptBy_afterImports _ later kind code known
  · intro entries later count accepted now
    have holds : now.Holds entries := by
      have kept := isKeptBy_afterImports ((codes.afterImports earlier).addAll entries).1 later
      rw [show now = _ from afterImports_append codes earlier (entries :: later)]
      exact (holds_addAll accepted).mono kept
    rw [addAll_of_holds holds, length_eq_resolved (nodup_keys_afterImports codes _ distinct)]

theorem codes_are_written_once_contradiction :
    let codes : GrammarCodes := [(.plus, 7)]
    let front := [("template_body", 99), ("MINUS", 8), ("PLUS", 7), ("MINUS", 8)]
    let entries := front ++ [("MINUS", 9), ("MULT", 3)]
    let now := codes.afterImports [entries, front, [("PLUS", 0)]]
    codes.keys.Nodup ∧
      (codes.addAll entries).2 = .error (.codesConflict "MINUS" 8 9) ∧
      (∀ kind, (codes.addAll entries).1.get? kind = codes.known? front kind) ∧
      (codes.afterImports [entries]).addAll front = (codes.afterImports [entries], .ok 2) ∧
      now.addAll front = (now, .ok now.resolved) := by
  intro codes front entries now
  have distinct : codes.keys.Nodup := by decide
  obtain ⟨imports, histories⟩ := codes_are_written_once codes distinct
  have accepted : (codes.afterImports [entries]).addAll front =
      (codes.afterImports [entries], .ok 2) := by
    rfl
  obtain ⟨answer, table⟩ := (imports entries).2 4 "MINUS" 8 9 (by decide +kernel)
    (by decide +kernel)
  obtain ⟨-, -, again⟩ := histories [entries]
  exact ⟨distinct, answer, table, accepted,
    again front [[("PLUS", 0)]] 2 (congrArg Prod.snd accepted)⟩

end ClosureTemplate.GrammarCodes
