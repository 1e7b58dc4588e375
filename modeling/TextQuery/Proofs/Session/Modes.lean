import TextQuery.Proofs.Candidate
import TextQuery.Proofs.Session.Words
import TextQuery.Proofs.Validator.Private

set_option autoImplicit false

namespace TextQuery

open Engine Engine.Change Text

namespace Validator

variable {columns : List String} {there : Prop}

theorem there_append {database : Database} {name : String} {made : List Table}
    (other : ∀ table ∈ made, sameName table.name (helper columns) = false) :
    There columns (database.within name (· ++ made)) ↔ There columns database := by
  rcases database.within_tables name (· ++ made) with same | ⟨-, same⟩
  · rw [There, There, same]
  · rw [There, There, same]
    constructor
    · rintro ⟨table, member, named⟩
      rcases List.mem_append.1 member with old | new
      · exact ⟨table, old, named⟩
      · rw [other table new] at named
        cases named
    · rintro ⟨table, member, named⟩
      exact ⟨table, List.mem_append_left _ member, named⟩

-- Writing rows and reading change nothing about which tables there are.
theorem lasting_there (columns : List String) (there : Prop) :
    Lasting (fun _ _ => True) (fun _ => True) fun database => There columns database ↔ there where
  noted _ _ _ _ holds := holds
  read holds := holds
  checked _ holds := holds
  several _ := trivial
  started _ holds := holds
  reread holds := holds
  undone _ before _ := before
  written {database home name _ _ rows} _ _ _ holds := by
    refine Iff.trans ?_ holds
    rcases database.within_tables home (·.map (Table.withRows name rows)) with same | ⟨-, same⟩
    · rw [There, There, same]
    · rw [There, There, same]
      constructor
      · rintro ⟨table, member, named⟩
        obtain ⟨held, found, rfl⟩ := List.mem_map.1 member
        exact ⟨held, found, by rwa [Table.withRows_name] at named⟩
      · rintro ⟨table, member, named⟩
        exact ⟨_, List.mem_map_of_mem member, by rwa [Table.withRows_name]⟩

theorem asks_there (choice : TokenizerChoice) :
    Tokenizer.Asks (fun database => There columns database ↔ there) choice := by
  have lasting := lasting_there columns there
  refine tokenizerAsks_of lasting.toSteadfast ?_ fun _ _ holds _ _ => lasting.reread holds
  intro _ database splitter holds _ _
  refine (there_append ?_).trans holds
  intro table member
  rw [List.mem_singleton.1 member]
  exact tokens_ne_probe choice columns

/-- The probe that a validator knows has been dropped. -/
def Lost (validator : Validator) (columns : List String) (database : Database) : Prop :=
  validator.target.isSome = true ∧ ¬There columns database

end Validator

theorem Candidate.texts_words (mode : Mode) (words : List String) :
    texts mode (words.map .text) = .ok words := by
  induction words with
  | nil => rfl
  | cons word words ih =>
    unfold texts at ih ⊢
    rw [List.map_cons, List.mapM_cons, ih]
    rfl

namespace Compiler

theorem tokenize_eq {σ : Type} [Engine σ] (compiler : Compiler) (text : String) (world : World σ) :
    ((compiler.tokenize text) world).1.1 =
      ((compiler.tokenizer.tokenize (normalize text)) world).1.1 := by
  unfold tokenize
  simp only [bind, StateT.bind]
  cases (compiler.tokenizer.tokenize (normalize text)) world
  rfl

-- A mode asks for the words of a text, joins them, and has the candidate validated.
theorem compileMode_eq {σ : Type} [Engine σ] {compiler : Compiler} {mode : Mode}
    {join : List String → String} (joins : Candidate.join? mode = some join) {text : String}
    {world : World σ} {words : List String}
    (found : ((compiler.tokenizer.tokenize (normalize text)) world).1.1 = .ok (words.map .text)) :
    ∃ middle : World σ, middle.engine = ((compiler.tokenizer.tokenize (normalize text)) world).2.engine ∧
      ((compiler.compileMode mode text) world).1.1 =
        if words = [] then .ok none
        else ((compiler.validator.validate (join words)) middle).1.1.map some := by
  unfold compileMode Candidate.build
  simp only [joins, bind, StateT.bind]
  cases tokenized : (compiler.tokenizer.tokenize (normalize text)) world with
  | mk result after =>
    obtain ⟨answer, tokenizer⟩ := result
    rw [tokenized] at found
    cases found
    cases words with
    | nil => exact ⟨after, rfl, rfl⟩
    | cons first rest =>
      have texts : Candidate.texts mode ((first :: rest).map .text) = .ok (first :: rest) :=
        Candidate.texts_words mode (first :: rest)
      simp only [List.map_cons] at texts ⊢
      rw [texts]
      let recorded : Run σ Unit := Run.debug
        ("Validating candidate mode=" ++ mode.name ++ " pattern=" ++ quoted (join (first :: rest)))
      exact ⟨(recorded after).2, rfl, rfl⟩

end Compiler

namespace Session

/-- A mode finds nothing where there are no words, and makes its pattern of them otherwise, unless the probe
has been dropped or a word holds the character zero. Its index has to be as the helpers leave it. -/
theorem compileMode_outcome {session : Session} (reachable : Reachable Step.Spares session) {id : String}
    {compiler : Compiler} (found : session.compiler? id = some compiler) {columns : List String}
    (probe : compiler.validator.probe = .helper columns) (creatable : Validator.Creatable columns)
    {mode : Mode} {join : List String → String} (joins : Candidate.join? mode = some join)
    (text : String) :
    let world : World Database := { engine := session.database }
    let answer := ((compiler.compileMode mode text) world).1.1
    ∃ words : List String, ((compiler.tokenize text) world).1.1 = .ok (words.map .text) ∧
      (answer = .ok none ↔ words = []) ∧
      ((∃ found rejected, answer = .error (.diagnostic found) ∧ found.subject = .grammar rejected) →
        Candidate.holdsNul words = true) ∧
      (words ≠ [] → compiler.validator.Lost columns session.database →
        answer = .error (.diagnostic (.noSuchTableIn "temp" (Validator.helper columns)))) ∧
      (words ≠ [] → ¬compiler.validator.Lost columns session.database →
        session.SparesProbe compiler.validator → Intact session.database.temp.tables →
        answer = if Candidate.holdsNul words then
            .error (.diagnostic (.grammar (join words) "unterminated string" Diagnostic.errorCode))
          else .ok (some ⟨join words⟩)) ∧
      (Reachable Step.Respects session →
        session.SparesProbe compiler.validator ∧ Intact session.database.temp.tables) := by
  intro world answer
  have has := reachable.has Database.Kept.outlasting
  have kept : world.engine.Kept := has.database
  have faithful := faithful_of_compiler? has found
  obtain ⟨words, tokenized, readable⟩ :=
    Tokenizer.tokenize_words faithful.tokenizer kept (normalize text)
  obtain ⟨middle, same, compiled⟩ := Compiler.compileMode_eq joins tokenized
  rw [← same] at readable
  -- What is known of the database once the words have been found.
  have lead {P : Database → Prop} (asks : Tokenizer.Asks P compiler.tokenizer.choice)
      (holds : P world.engine) : P middle.engine := by
    rw [same]
    exact (Tokenizer.leads_tokenize faithful.tokenizer asks (normalize text) world holds).1
  have keptAfter := lead (Watched.asks Database.Kept.outlasting.watched _) kept
  have thereAfter := lead (Validator.asks_there compiler.tokenizer.choice)
    (Iff.refl (Validator.There columns world.engine))
  refine ⟨words, (Compiler.tokenize_eq compiler text world).trans tokenized, ?_, ?_, ?_, ?_, ?_⟩
  · change ((compiler.compileMode mode text) world).1.1 = _ ↔ _
    rw [compiled]
    split
    · rename_i none
      simp [none]
    · rename_i some
      have apart (made : Except Failure Pattern) : made.map Option.some ≠ .ok none := by
        cases made <;> simp [Except.map]
      exact iff_of_false (apart _) some
  · rintro ⟨diagnostic, rejected, failed, grammar⟩
    change ((compiler.compileMode mode text) world).1.1 = _ at failed
    rw [compiled] at failed
    split at failed
    · cases failed
    · rename_i some
      cases validated : ((compiler.validator.validate (join words)) middle).1.1 with
      | ok pattern =>
        rw [validated] at failed
        cases failed
      | error failure =>
        rw [validated] at failed
        cases failed
        obtain ⟨scope, full, refused⟩ :=
          Validator.refused_of_grammar faithful.validator probe keptAfter validated grammar
        by_contra clean
        rw [Candidate.check_joined full joins some, if_neg clean] at refused
        exact refused rfl
  · rintro some ⟨known, missing⟩
    obtain ⟨target, known⟩ := Option.isSome_iff_exists.1 known
    cases faithful.validator.target_eq probe known
    change ((compiler.compileMode mode text) world).1.1 = _
    rw [compiled, if_neg some, Validator.validate_missing keptAfter (readable some) known
      (mt thereAfter.1 missing)]
    rfl
  · intro some present _ intact
    have wholeAfter := lead (Watched.asks Database.Whole.outlasting.watched _) ⟨kept, intact⟩
    have there (known : compiler.validator.target.isSome = true) :=
      thereAfter.2 (not_not.1 fun missing => present ⟨known, missing⟩)
    obtain ⟨index, plain, validated⟩ :=
      Validator.validate_private creatable faithful.validator probe wholeAfter (readable some) there
    change ((compiler.compileMode mode text) world).1.1 = _
    rw [compiled, if_neg some, validated, Validator.verdict,
      Candidate.check_joined plain.detail joins some]
    cases Candidate.holdsNul words <;> rfl
  · intro respected
    refine ⟨?_, (respected.has Database.Whole.outlasting).database.intact⟩
    have spared : Reachable (Step.SparesSegments (some "temp") (Validator.helper columns)) session :=
      respected.mono fun _ respects => respects.sparesSegments columns
    unfold SparesProbe
    cases known : compiler.validator.target with
    | none => simpa only [probe] using spared
    | some target =>
      cases faithful.validator.target_eq probe known
      exact spared

-- The character zero is a word of its own, and its string is never closed.
theorem compileMode_outcome_nul :
    let compiler : Compiler := ⟨{ choice := ⟨"simple", []⟩ }, { probe := .helper ["content"] }⟩
    let session := (fresh.step (.create "compiler" {})).2.2
    Reachable Step.Spares session ∧ session.compiler? "compiler" = some compiler ∧
    Validator.Creatable ["content"] ∧
    ((compiler.tokenize "\x00") { engine := session.database }).1.1 = .ok [.text "\x00"] ∧
    ((compiler.compileMode .any "\x00") { engine := session.database }).1.1 =
      .error (.diagnostic (.grammar "\"\x00\"" "unterminated string" 1)) := by
  intro compiler session
  have reachable : Reachable Step.Spares session := .step (.opened _) _ trivial
  have respected : Reachable Step.Respects session := .step (.opened _) _ trivial
  have found : session.compiler? "compiler" = some compiler := by decide
  have creatable : Validator.Creatable ["content"] := by decide +kernel
  have tokens : ((compiler.tokenize "\x00") { engine := session.database }).1.1 = .ok [.text "\x00"] := by
    decide +kernel
  have joins : Candidate.join? .any = some Candidate.joinAny := rfl
  refine ⟨reachable, found, creatable, tokens, ?_⟩
  obtain ⟨words, tokenized, -, -, -, made, intact⟩ :=
    compileMode_outcome reachable found rfl creatable joins "\x00"
  have same : words = ["\x00"] := by
    have cells := Except.ok.inj (tokenized.symm.trans tokens)
    simpa [List.map_eq_cons_iff] using cells
  subst same
  obtain ⟨spared, intact⟩ := intact respected
  refine (made (by simp) (by simp [Validator.Lost, compiler]) spared intact).trans ?_
  decide

end Session

end TextQuery
