import TextQuery.Proofs.Session.Modes
import TextQuery.Proofs.Session.Provisions

set_option autoImplicit false

namespace TextQuery

open Engine Engine.Change Text

namespace Tokenizer

def wordsOf (choice : TokenizerChoice) (text : String) : List String :=
  if text.isEmpty then []
  else
    match made choice with
    | .error _ => []
    | .ok splitter =>
      match splitter.tokens text with
      | .ok words => words
      | .error _ => []

end Tokenizer

def Validator.reply (columns : List String) (expression : String) : Except Failure Pattern :=
  match made columns with
  | .ok index => verdict index.scope expression
  | .error fault =>
    if fault.kind = .operational then .error (.diagnostic (.probeNotCreated fault))
    else .error (.engine fault)

def Candidate.made (mode : Mode) (words : List String) (text : String) : Option String :=
  match join? mode with
  | none => some text
  | some join => if words = [] then none else some (join words)

def Compiler.reply (choice : TokenizerChoice) (columns : List String) (mode : Mode) (text : String) :
    Except Failure (Option Pattern) :=
  match Candidate.made mode (Tokenizer.wordsOf choice (normalize text)) text with
  | none => .ok none
  | some candidate => (Validator.reply columns candidate).map some

/-- The answer to a request by a compiler with a tokenizer and a private probe of some columns. -/
def Request.reply (choice : TokenizerChoice) (columns : List String) : Request → Except Failure Answer
  | .compile expression | .deserialize expression =>
    (Validator.reply columns expression).map fun made => .pattern (some made)
  | .compileMode name text =>
    match Mode.ofName? name with
    | some mode => (Compiler.reply choice columns mode text).map .pattern
    | none => .error (.notAMode name)
  | .compileAny text => (Compiler.reply choice columns .any text).map .pattern
  | .compileAll text => (Compiler.reply choice columns .all text).map .pattern
  | .compilePhrase text => (Compiler.reply choice columns .phrase text).map .pattern
  | .tokenize text => .ok (.tokens ((Tokenizer.wordsOf choice (normalize text)).map .text))
  | .descriptor => .ok (.text choice.descriptor)

theorem Compiler.Asks.and {σ : Type} [Engine σ] {P Q : σ → Prop} {compiler : Compiler}
    (first : compiler.Asks P) (second : compiler.Asks Q) :
    compiler.Asks fun engine => P engine ∧ Q engine where
  tokenizer :=
    { created := fun engine holds =>
        ⟨first.tokenizer.created engine holds.1, second.tokenizer.created engine holds.2⟩
      selected := fun input engine holds =>
        ⟨first.tokenizer.selected input engine holds.1, second.tokenizer.selected input engine holds.2⟩ }
  validator :=
    { created := fun columns same engine holds =>
        ⟨first.validator.created columns same engine holds.1,
          second.validator.created columns same engine holds.2⟩
      matched := fun target expression fits engine holds =>
        ⟨first.validator.matched target expression fits engine holds.1,
          second.validator.matched target expression fits engine holds.2⟩
      lookedUp := fun statement lookup engine holds =>
        ⟨first.validator.lookedUp statement lookup engine holds.1,
          second.validator.lookedUp statement lookup engine holds.2⟩ }

namespace Engine.Database

def Ready (choice : TokenizerChoice) (columns : List String) (known found : Prop) (database : Database) :
    Prop :=
  database.Provides choice columns known found ∧ database.condition = .usable

variable {choice : TokenizerChoice} {columns : List String} {known found : Prop} {database : Database}

namespace Ready

theorem asks (choice : TokenizerChoice) (columns : List String) (known found : Prop) :
    Compiler.Asks (Ready choice columns known found) ⟨{ choice }, { probe := .helper columns }⟩ := by
  refine Compiler.Asks.and (Provides.asks (fun _ => rfl) ?_)
    (Watched.compilerAsks (watched_condition .usable) _)
  intro others own _ _ _
  cases own
  rfl

theorem kept (ready : database.Ready choice columns known found) : database.Kept := ready.1.toKept

theorem readable (ready : database.Ready choice columns known found) : database.Readable := .inl ready.2

theorem admits (ready : database.Ready choice columns known found) (wording : Wording) :
    database.Admits wording := .inl (by rw [ready.2]; decide)

theorem weaken {known' found' : Prop} (ready : database.Ready choice columns known found)
    (knows : known' → known) (finds : found' → found) : database.Ready choice columns known' found' :=
  ⟨⟨ready.1.toWhole, ready.1.provided.toFits, fun is => ready.1.provided.known (knows is),
    fun is => ready.1.provided.found (finds is)⟩, ready.2⟩

end Ready

end Engine.Database

-- A statement with the character zero in it is refused unread.
theorem answer_nul {α : Type} {statement : Statement α} (nul : '\x00' ∈ statement.text.toList)
    (database : Database) : Engine.answer statement database = (.error .nulInText, database) := by
  change Change.answer statement database = _
  unfold Change.answer
  rw [if_pos (by simpa using nul)]
  rfl

theorem exists_find? {tables : List Table} {name : String}
    (there : ∃ table ∈ tables, sameName table.name name = true) :
    ∃ held, Table.find? tables name = some held ∧ held ∈ tables ∧ sameName held.name name = true := by
  obtain ⟨table, member, same⟩ := there
  have isSome : (Table.find? tables name).isSome = true := List.find?_isSome.2 ⟨table, member, same⟩
  obtain ⟨held, found⟩ := Option.isSome_iff_exists.1 isSome
  exact ⟨held, found, List.mem_of_find?_eq_some found, by simpa using List.find?_some found⟩

section

variable {choice : TokenizerChoice} {columns : List String} {known found : Prop} {database : Database}

namespace Tokenizer

-- Whether there is one already or not, a helper table is there in the end if it can be made.
theorem createTokens_there (main : database.main.name = "main") (temp : database.temp.name = "temp")
    {table : String} (isPrivate : IsPrivate table)
    (done : (createTokens table choice database).1 = .ok ()) :
    ∃ held ∈ (createTokens table choice database).2.temp.tables, sameName held.name table = true := by
  rw [createTokens_eq] at done ⊢
  cases read : TokenTable.readName choice.name with
  | error fault =>
    rw [read] at done
    cases done
  | ok name =>
    rw [read] at done
    dsimp only at done ⊢
    split
    · rename_i vacant
      rw [if_pos vacant] at done
      cases made : TokenTable.splitter table name choice.arguments with
      | error fault =>
        have constructed : (construct (.error fault) : Change Token.Splitter) database =
            (.error fault, database.forget) := rfl
        rw [made, bind_error _ constructed] at done
        cases done
      | ok splitter =>
        have constructed : construct (.ok splitter) database = (.ok splitter, database) := rfl
        obtain ⟨after, added, tables, -⟩ := Database.addTables_temp main temp
          [⟨table, TokenTable.sql table choice, .splitter splitter⟩]
        rw [bind_ok _ constructed, added]
        refine ⟨⟨table, TokenTable.sql table choice, .splitter splitter⟩, ?_, sameName_refl table⟩
        rw [tables]
        exact List.mem_append_right _ List.mem_cons_self
    · rename_i taken
      rw [find?_private isPrivate] at taken
      obtain ⟨held, looked⟩ := Option.ne_none_iff_exists'.1 (by simpa using taken)
      exact ⟨held, List.mem_of_find?_eq_some looked, by simpa using List.find?_some looked⟩

theorem answer_createTokens (ready : database.Ready choice columns known found) :
    let answered := Engine.answer (.createTokens (helper choice) choice) database
    answered.1 = (made choice).map (fun _ => ()) ∧
      answered.2.Ready choice columns (known ∨ ∃ splitter, made choice = .ok splitter) found := by
  intro answered
  have after : answered.2.Ready choice columns known found :=
    (Database.Ready.asks choice columns known found).tokenizer.created database ready
  suffices result : answered.1 = (made choice).map (fun _ => ()) ∧
      ((∃ splitter, made choice = .ok splitter) →
        ∃ table ∈ answered.2.temp.tables, sameName table.name (helper choice) = true) by
    refine ⟨result.1, ⟨after.1.toWhole, after.1.provided.toFits, ?_, after.1.provided.found⟩, after.2⟩
    exact fun either => either.elim after.1.provided.known result.2
  by_cases nul : '\x00' ∈ (Statement.createTokens (helper choice) choice).text.toList
  · have unmade : made choice = .error .nulInText := by rw [made, if_pos (by simpa using nul)]
    have refused : answered = (.error .nulInText, database) := answer_nul nul database
    rw [refused, unmade]
    exact ⟨rfl, by simp⟩
  · have same : made choice = splitterOf (helper choice) choice := by
      rw [made, if_neg (by simpa using nul)]
    have looksUp : Database.looksUp (.createTokens (helper choice) choice) = true := rfl
    obtain ⟨begun, follows, -, responds⟩ :=
      answer_eq looksUp (by simp [Database.pragmaSchema?]) nul (ready.admits _) ready.readable
    have opening : openTarget (.createTokens (helper choice) choice) begun = (.ok (), begun) := rfl
    have responds : answered = createTokens (helper choice) choice begun :=
      responds.trans (bind_ok _ opening)
    have result := @createTokens_result choice begun (helper choice)
    rw [← responds, follows.temp, find?_private (isPrivate_tokens choice)] at result
    have there (done : answered.1 = .ok ()) :
        ∃ table ∈ answered.2.temp.tables, sameName table.name (helper choice) = true := by
      rw [responds] at done ⊢
      exact createTokens_there (follows.main ▸ ready.kept.main) (follows.temp ▸ ready.kept.temp)
        (isPrivate_tokens choice) done
    rw [same]
    cases looked : Table.find? database.temp.tables (helper choice) with
    | none =>
      rw [looked, Option.isNone_none, if_pos rfl] at result
      refine ⟨result, ?_⟩
      rintro ⟨splitter, made⟩
      exact there (by rw [result, made]; rfl)
    | some held =>
      -- It has been made before, so its name has been read before.
      obtain ⟨splitter, -, made⟩ := ready.1.provided.tokens held (List.mem_of_find?_eq_some looked)
        (by simpa using List.find?_some looked)
      rw [same] at made
      rw [looked, Option.isNone_some, if_neg (by simp)] at result
      have read : ∃ name, TokenTable.readName choice.name = .ok name := by
        obtain ⟨name, read, -⟩ := exists_of_bind_eq_ok made
        exact ⟨name, read⟩
      obtain ⟨name, read⟩ := read
      rw [read] at result
      rw [made]
      exact ⟨result, fun _ => there result⟩

theorem answer_selectTokens_made (ready : database.Ready choice columns True found)
    {splitter : Token.Splitter} (made : made choice = .ok splitter) (input : String) :
    (Engine.answer (.selectTokens (helper choice) input) database).1 =
      ((splitter.tokens input).mapError TokenTable.undecodable).map fun words => words.map .text := by
  have writable : '\x00' ∉ (Statement.selectTokens (helper choice) input).text.toList := by
    have name : Writable (helper choice) := writable_helperName (by unfold Writable; decide) _
    have begins : Writable "SELECT token FROM temp." := by unfold Writable; decide
    have ends : Writable " WHERE input = ? ORDER BY position" := by unfold Writable; decide
    exact writable_append (writable_append begins (writable_identifier name)) ends
  have looksUp : Database.looksUp (.selectTokens (helper choice) input) = true := rfl
  obtain ⟨begun, follows, -, responds⟩ :=
    answer_eq looksUp (by simp [Database.pragmaSchema?]) writable (ready.admits _) ready.readable
  have opening : openTarget (.selectTokens (helper choice) input) begun = (.ok (), begun) := rfl
  have responds : Engine.answer (.selectTokens (helper choice) input) database =
      (begun.selectTokens (helper choice) input, begun) := responds.trans (bind_ok _ opening)
  obtain ⟨held, looked, member, same⟩ := exists_find? (ready.1.provided.known trivial)
  obtain ⟨other, body, known⟩ := ready.1.provided.tokens held member same
  rw [made] at known
  cases known
  have located : begun.locate begun.temp.name (helper choice) = .ok (database.temp, held) := by
    rw [follows.locate, follows.temp, ready.kept.temp]
    exact ready.kept.locate_temp (by rw [find?_private (isPrivate_tokens choice), looked])
  rw [responds]
  unfold Database.selectTokens
  rw [located]
  simp only [bind, Except.bind, body]
  cases splitter.tokens input <;> rfl

end Tokenizer

namespace Validator

theorem answer_createProbe_made (ready : database.Ready choice columns known found) :
    let answered := Engine.answer (.createProbe (helper columns) columns) database
    answered.1 = (made columns).map (fun _ => ()) ∧
      answered.2.Ready choice columns known (found ∨ ∃ index, made columns = .ok index) := by
  intro answered
  have after : answered.2.Ready choice columns known found :=
    (Database.Ready.asks choice columns known found).validator.created columns rfl database ready
  suffices result : answered.1 = (made columns).map (fun _ => ()) ∧
      ((∃ index, made columns = .ok index) → There columns answered.2) by
    refine ⟨result.1, ⟨after.1.toWhole, after.1.provided.toFits, after.1.provided.known, ?_⟩, after.2⟩
    rintro (known | ⟨index, made⟩)
    · exact after.1.provided.found known
    · exact ⟨(made_eq_ok.1 made).writable, result.2 ⟨index, made⟩⟩
  cases made : made columns with
  | ok index =>
    obtain ⟨later, created, there, -⟩ := createProbe_there (made_eq_ok.1 made) ready.kept ready.readable
    have same : answered = (.ok (), later) := created
    rw [same]
    exact ⟨rfl, fun _ => there⟩
  | error fault =>
    refine ⟨?_, by simp⟩
    by_cases nul : '\x00' ∈ (Statement.createProbe (helper columns) columns).text.toList
    · rw [Validator.made, if_pos (by simpa using nul)] at made
      cases made
      exact congrArg Prod.fst (answer_nul nul database)
    -- Nothing is there that could not be made.
    have missing : Table.find? database.temp.tables (helper columns) = none := by
      cases looked : Table.find? database.temp.tables (helper columns) with
      | none => rfl
      | some held =>
        obtain ⟨index, -, known⟩ := ready.1.provided.probe nul held (List.mem_of_find?_eq_some looked)
          (by simpa using List.find?_some looked)
        rw [made] at known
        cases known
    obtain ⟨begun, follows, responds⟩ := answer_createProbe nul (ready.admits _) ready.readable
    have result : answered.1 = (createProbe (helper columns) columns begun).1 := congrArg Prod.fst responds
    rw [createProbe_eq, follows.temp, find?_private (isPrivate_probe columns), missing, Option.isNone_none,
      if_pos rfl] at result
    rw [Validator.made, if_neg (by simpa using nul)] at made
    rw [result]
    split at made
    · rename_i many
      cases made
      rw [if_pos many]
      rfl
    · rename_i few
      have unmade := make_vacant (vacant_of_missing ready.kept missing)
      rw [made, Except.map] at unmade
      have constructed : (construct (.error fault) : Change (List Table)) begun =
          (.error fault, begun.forget) := rfl
      unfold arguments probeSql at unmade
      rw [if_neg few, unmade, bind_error _ constructed]
      rfl

theorem answer_matchProbe_made (ready : database.Ready choice columns known True) (expression : String) :
    ∃ index : FullText, made columns = .ok index ∧
      (Engine.answer (.matchProbe (.helper (helper columns)) expression) database).1 =
        (Expression.check index.scope expression).mapError fun fault => .operational fault.message := by
  obtain ⟨writable, there⟩ := ready.1.provided.found trivial
  obtain ⟨held, looked, member, same⟩ := exists_find? there
  obtain ⟨index, body, known⟩ := ready.1.provided.probe writable held member same
  obtain ⟨other, -, live⟩ := ready.1.toWhole.live looked
  have one : Body.fullText other = .fullText index := live.body.symm.trans body
  cases one
  obtain ⟨after, answered, -⟩ := answer_match live expression (writable_matchHelper columns expression)
    (ready.admits _) ready.readable
  exact ⟨index, known, congrArg Prod.fst answered⟩

end Validator

end

namespace Run

variable {σ α β : Type}

def Gives (pre : σ → Prop) (run : Run σ α) (post : α → σ → Prop) : Prop :=
  ∀ world, pre world.engine → post (run world).1 (run world).2.engine

variable {pre : σ → Prop} {post : β → σ → Prop}

theorem gives_pure {value : β} (holds : ∀ engine, pre engine → post value engine) :
    Gives pre (pure value : Run σ β) post := fun world before => holds world.engine before

theorem gives_bind {middle : α → σ → Prop} {first : Run σ α} {next : α → Run σ β}
    (gives : Gives pre first middle) (givesNext : ∀ value, Gives (middle value) (next value) post) :
    Gives pre (first >>= next) post := fun world before => givesNext _ _ (gives world before)

-- A record concerns the journal only.
theorem gives_record_bind {level : Level} {message : String} {next : Unit → Run σ β}
    (gives : Gives pre (next ()) post) : Gives pre (record level message >>= next) post :=
  fun world before => gives { world with journal := world.journal ++ [⟨level, message⟩] } before

theorem Gives.mono {weaker : β → σ → Prop} {run : Run σ β} (gives : Gives pre run post)
    (weak : ∀ value engine, post value engine → weaker value engine) : Gives pre run weaker :=
  fun world before => weak _ _ (gives world before)

theorem Gives.weaken {weaker : σ → Prop} {run : Run σ β} (gives : Gives weaker run post)
    (weak : ∀ engine, pre engine → weaker engine) : Gives pre run post :=
  fun world before => gives world (weak _ before)

-- What is known whatever the engine is can be told apart from what is known of the engine.
theorem gives_given (fact : Prop) (weaker : σ → Prop) {run : Run σ β}
    (known : ∀ engine, pre engine → fact ∧ weaker engine) (gives : fact → Gives weaker run post) :
    Gives pre run post :=
  fun world before => gives (known _ before).1 world (known _ before).2

end Run

open Run

variable {choice : TokenizerChoice} {columns : List String} {found : Prop}

namespace Tokenizer

structure Settled (choice : TokenizerChoice) (columns : List String) (found : Prop) (tokenizer : Tokenizer)
    (database : Database) : Prop where
  same : tokenizer.choice = choice
  faithful : tokenizer.Faithful
  ready : database.Ready choice columns (tokenizer.table.isSome = true) found

theorem gives_giveUp {P : Database → Prop} (tokenizer : Tokenizer) {fault : Fault}
    (known : fault.kind ≠ .warning) :
    Gives P (tokenizer.giveUp fault) fun result database => result = (.ok [], tokenizer) ∧ P database := by
  intro world holds
  obtain ⟨journal, gave⟩ := giveUp_notWarning tokenizer known world
  rw [gave]
  exact ⟨rfl, holds⟩

theorem made_notWarning {fault : Fault} (failed : made choice = .error fault) : fault.kind ≠ .warning := by
  unfold made at failed
  split at failed
  · cases failed
    exact covers_notWarning.nulInText
  · exact splitterOf_notWarning failed

theorem gives_ensureTable (tokenizer : Tokenizer) :
    Gives (tokenizer.Settled choice columns found) tokenizer.ensureTable fun result database =>
      (∃ fault, made choice = .error fault ∧ result = .error fault ∧
        tokenizer.Settled choice columns found database) ∨
      ∃ splitter ready, made choice = .ok splitter ∧ result = .ok (helper choice, ready) ∧
        ready.table.isSome = true ∧ ready.Settled choice columns found database := by
  unfold ensureTable
  split
  · rename_i table known
    apply gives_pure
    intro database settled
    have there := settled.ready.1.provided.known (by simp [known])
    obtain ⟨held, -, member, same⟩ := exists_find? there
    obtain ⟨splitter, -, made⟩ := settled.ready.1.provided.tokens held member same
    refine .inr ⟨splitter, tokenizer, made, ?_, by simp [known], settled⟩
    rw [settled.faithful table known, settled.same]
  · rename_i unknown
    intro world settled
    obtain ⟨rfl, faithful, ready⟩ := settled
    obtain ⟨result, after⟩ := answer_createTokens ready
    simp only [bind, StateT.bind, Run.ask_eq]
    cases answered : Engine.answer (.createTokens (helper tokenizer.choice) tokenizer.choice)
        world.engine with
    | mk answer engine =>
      rw [answered] at result after
      cases made : made tokenizer.choice with
      | error fault =>
        rw [made] at result
        cases result
        exact .inl ⟨fault, rfl, rfl, rfl, faithful, after.weaken .inl id⟩
      | ok splitter =>
        rw [made] at result
        cases result
        refine .inr ⟨splitter, { tokenizer with table := some (helper tokenizer.choice) }, rfl, rfl, rfl,
          rfl, ?_, after.weaken (fun _ => .inr ⟨splitter, made⟩) id⟩
        exact fun table known => (Option.some.inj known).symm

theorem gives_select {ready : Tokenizer} {splitter : Token.Splitter} (made : made choice = .ok splitter)
    (known : ready.table.isSome = true) (text : String) :
    Gives (ready.Settled choice columns found) (Run.ask (.selectTokens (helper choice) text))
      fun answer database =>
        answer = ((splitter.tokens text).mapError TokenTable.undecodable).map
          (fun words => words.map .text) ∧ ready.Settled choice columns found database := by
  rintro world ⟨rfl, faithful, rested⟩
  have after := (Database.Ready.asks ready.choice columns (ready.table.isSome = true)
    found).tokenizer.selected text world.engine rested
  have told := answer_selectTokens_made (rested.weaken (fun _ => known) id) made text
  rw [Run.ask_eq]
  dsimp only
  exact ⟨told, rfl, faithful, after⟩

theorem gives_tokenize (tokenizer : Tokenizer) (text : String) :
    Gives (tokenizer.Settled choice columns found) (tokenizer.tokenize text) fun result database =>
      result.1 = .ok ((wordsOf choice text).map .text) ∧ result.2.Settled choice columns found database := by
  unfold tokenize
  split
  · rename_i empty
    exact gives_pure fun _ settled => ⟨by rw [wordsOf, if_pos empty]; rfl, settled⟩
  · rename_i some
    rw [wordsOf, if_neg some]
    refine gives_bind (gives_ensureTable tokenizer) ?_
    rintro (fault | ⟨table, ready⟩)
    · refine gives_given (made choice = .error fault) (tokenizer.Settled choice columns found) ?_ ?_
      · rintro database (⟨other, made, failed, settled⟩ | ⟨_, _, _, done, _⟩)
        · cases failed
          exact ⟨made, settled⟩
        · cases done
      · intro unmade
        rw [unmade]
        refine (gives_giveUp tokenizer (made_notWarning unmade)).mono ?_
        rintro result database ⟨rfl, settled⟩
        exact ⟨rfl, settled⟩
    · refine gives_given (∃ splitter, made choice = .ok splitter ∧ table = helper choice ∧
        ready.table.isSome = true) (ready.Settled choice columns found) ?_ ?_
      · rintro database (⟨_, _, failed, _⟩ | ⟨splitter, other, made, done, known, settled⟩)
        · cases failed
        · cases done
          exact ⟨⟨splitter, made, rfl, known⟩, settled⟩
      · rintro ⟨splitter, made, rfl, known⟩
        rw [made]
        refine gives_bind (gives_select made known text) ?_
        intro answer
        refine gives_given _ (ready.Settled choice columns found) (fun _ told => told) ?_
        rintro rfl
        dsimp only
        cases splitter.tokens text with
        | ok words => exact gives_record_bind (gives_pure fun _ settled => ⟨rfl, settled⟩)
        | error bytes =>
          have known : (TokenTable.undecodable bytes).kind ≠ .warning := by simp [TokenTable.undecodable]
          refine (gives_giveUp ready known).mono ?_
          rintro result database ⟨rfl, settled⟩
          exact ⟨rfl, settled⟩

end Tokenizer

namespace Validator

structure Settled (choice : TokenizerChoice) (columns : List String) (known : Prop) (validator : Validator)
    (database : Database) : Prop where
  same : validator.probe = .helper columns
  faithful : validator.Faithful
  ready : database.Ready choice columns known (validator.target.isSome = true)

variable {known : Prop} {validator : Validator} {world found : World Database}

-- Once the probe is there the parser decides, and the validator goes on.
theorem validate_ready (probe : validator.probe = .helper columns) (expression : String)
    (find : validator.findTarget.run world = (.ok (.helper (helper columns)), found))
    (ready : found.engine.Ready choice columns known True) :
    ((validator.validate expression) world).1.1 = reply columns expression ∧
      ((validator.validate expression) world).1.2.Settled choice columns known
        ((validator.validate expression) world).2.engine := by
  obtain ⟨result, engine⟩ := validate_found expression find
  obtain ⟨index, made, told⟩ := answer_matchProbe_made ready expression
  have after := (Database.Ready.asks choice columns known True).validator.matched
    (.helper (helper columns)) expression rfl found.engine ready
  rw [result, engine, told, judge_refused]
  unfold reply
  rw [made]
  refine ⟨rfl, ?_⟩
  have kept (target : Option Target) (own : ∀ other, target = some other → other = .helper (helper columns)) :
      Settled choice columns known { validator with target } _ :=
    ⟨probe, fun other known => by rw [probe]; exact own other known, after.weaken id fun _ => trivial⟩
  unfold judge
  split
  · exact kept _ fun other known => (Option.some.inj known).symm
  · split
    · exact kept none (by simp)
    · exact kept _ fun other known => (Option.some.inj known).symm
    · exact kept _ fun other known => (Option.some.inj known).symm

theorem gives_validate (validator : Validator) (expression : String) :
    Gives (validator.Settled choice columns known) (validator.validate expression) fun result database =>
      result.1 = reply columns expression ∧ result.2.Settled choice columns known database := by
  rintro world ⟨probe, faithful, ready⟩
  cases held : validator.target with
  | some target =>
    cases faithful.target_eq probe held
    exact validate_ready probe expression (findTarget_held world held)
      (ready.weaken id fun _ => by rw [held]; rfl)
  | none =>
    obtain ⟨journal, find⟩ := findTarget_helper world probe held
    obtain ⟨result, after⟩ := answer_createProbe_made ready
    cases answered : Engine.answer (.createProbe (helper columns) columns) world.engine with
    | mk answer engine =>
      rw [answered] at find result after
      cases made : made columns with
      | ok index =>
        rw [made] at result
        cases result
        exact validate_ready probe expression find (after.weaken id fun _ => .inr ⟨index, made⟩)
      | error fault =>
        rw [made] at result
        cases result
        have settled : validator.Settled choice columns known engine :=
          ⟨probe, faithful, after.weaken id .inl⟩
        unfold reply
        rw [made]
        dsimp only at find ⊢
        split at find
        · rename_i operational
          rw [validate_lost expression find, if_pos operational]
          exact ⟨rfl, settled⟩
        · rename_i other
          rw [validate_lost expression find, if_neg other]
          exact ⟨rfl, settled⟩

end Validator

namespace Compiler

structure Settled (choice : TokenizerChoice) (columns : List String) (compiler : Compiler)
    (database : Database) : Prop where
  tokenizer : compiler.tokenizer.Settled choice columns (compiler.validator.target.isSome = true) database
  validator : compiler.validator.Settled choice columns (compiler.tokenizer.table.isSome = true) database

theorem gives_validate (compiler : Compiler) (expression : String) :
    Gives (compiler.Settled choice columns) (compiler.validate expression) fun result database =>
      result.1 = Validator.reply columns expression ∧ result.2.Settled choice columns database := by
  refine gives_given (compiler.tokenizer.choice = choice ∧ compiler.tokenizer.Faithful)
    (compiler.validator.Settled choice columns (compiler.tokenizer.table.isSome = true)) ?_ ?_
  · exact fun _ settled => ⟨⟨settled.tokenizer.same, settled.tokenizer.faithful⟩, settled.validator⟩
  · rintro ⟨same, faithful⟩
    refine gives_bind (Validator.gives_validate compiler.validator expression) ?_
    rintro ⟨answer, validator⟩
    refine gives_pure fun database after => ?_
    obtain ⟨replied, settled⟩ := after
    exact ⟨replied, ⟨same, faithful, settled.ready⟩, settled⟩

theorem gives_compile (compiler : Compiler) (expression : String) :
    Gives (compiler.Settled choice columns) (compiler.compile expression) fun result database =>
      result.1 = Validator.reply columns expression ∧ result.2.Settled choice columns database :=
  gives_record_bind (gives_validate compiler expression)

theorem gives_build (tokenizer : Tokenizer) (mode : Mode) (text : String) :
    Gives (tokenizer.Settled choice columns found) (Candidate.build Tokenizer.tokenize tokenizer mode text)
      fun result database =>
        result.1 = .ok (Candidate.made mode (Tokenizer.wordsOf choice (normalize text)) text) ∧
          result.2.Settled choice columns found database := by
  unfold Candidate.build Candidate.made
  cases Candidate.join? mode with
  | none => exact gives_pure fun _ settled => ⟨rfl, settled⟩
  | some join =>
    dsimp only
    refine gives_bind (Tokenizer.gives_tokenize tokenizer (normalize text)) ?_
    rintro ⟨answer, later⟩
    refine gives_given (answer = .ok ((Tokenizer.wordsOf choice (normalize text)).map .text))
      (later.Settled choice columns found) (fun _ told => told) ?_
    rintro rfl
    cases Tokenizer.wordsOf choice (normalize text) with
    | nil => exact gives_record_bind (gives_pure fun _ settled => ⟨rfl, settled⟩)
    | cons first rest =>
      refine gives_pure fun _ settled => ⟨?_, settled⟩
      have texts := Candidate.texts_words mode (first :: rest)
      rw [texts]
      rfl

theorem gives_compileMode (compiler : Compiler) (mode : Mode) (text : String) :
    Gives (compiler.Settled choice columns) (compiler.compileMode mode text) fun result database =>
      result.1 = reply choice columns mode text ∧ result.2.Settled choice columns database := by
  refine gives_given (compiler.validator.probe = .helper columns ∧ compiler.validator.Faithful)
    (compiler.tokenizer.Settled choice columns (compiler.validator.target.isSome = true)) ?_ ?_
  · exact fun _ settled => ⟨⟨settled.validator.same, settled.validator.faithful⟩, settled.tokenizer⟩
  · rintro ⟨same, faithful⟩
    unfold compileMode reply
    refine gives_bind (gives_build compiler.tokenizer mode text) ?_
    rintro ⟨answer, tokenizer⟩
    refine gives_given _ (tokenizer.Settled choice columns (compiler.validator.target.isSome = true))
      (fun _ told => told) ?_
    rintro rfl
    have whole {database : Database}
        (settled : tokenizer.Settled choice columns (compiler.validator.target.isSome = true) database) :
        Settled choice columns { compiler with tokenizer } database :=
      ⟨settled, same, faithful, settled.ready⟩
    cases Candidate.made mode (Tokenizer.wordsOf choice (normalize text)) text with
    | none => exact gives_pure fun _ settled => ⟨rfl, whole settled⟩
    | some candidate =>
      refine gives_record_bind (gives_bind
        (Gives.weaken (gives_validate { compiler with tokenizer } candidate) fun _ => whole) ?_)
      rintro ⟨answer, later⟩
      refine gives_pure fun _ told => ?_
      obtain ⟨replied, settled⟩ := told
      exact ⟨congrArg (Except.map some) replied, settled⟩

theorem gives_tokenize (compiler : Compiler) (text : String) :
    Gives (compiler.Settled choice columns) (compiler.tokenize text) fun result database =>
      result.1 = .ok ((Tokenizer.wordsOf choice (normalize text)).map .text) ∧
        result.2.Settled choice columns database := by
  refine gives_given (compiler.validator.probe = .helper columns ∧ compiler.validator.Faithful)
    (compiler.tokenizer.Settled choice columns (compiler.validator.target.isSome = true)) ?_ ?_
  · exact fun _ settled => ⟨⟨settled.validator.same, settled.validator.faithful⟩, settled.tokenizer⟩
  · rintro ⟨same, faithful⟩
    refine gives_bind (Tokenizer.gives_tokenize compiler.tokenizer (normalize text)) ?_
    rintro ⟨answer, tokenizer⟩
    refine gives_pure fun _ told => ?_
    obtain ⟨replied, settled⟩ := told
    exact ⟨replied, settled, same, faithful, settled.ready⟩

end Compiler

theorem Request.gives_run (compiler : Compiler) (request : Request) :
    Gives (compiler.Settled choice columns) (request.run compiler) fun result database =>
      result.1 = request.reply choice columns ∧ result.2.Settled choice columns database := by
  have raw {expression : String} : Gives (compiler.Settled choice columns)
      (rawAnswer (compiler.compile expression)) fun result database =>
        result.1 = (Validator.reply columns expression).map (fun made => .pattern (some made)) ∧
          result.2.Settled choice columns database := by
    refine gives_bind (Compiler.gives_compile compiler expression) ?_
    rintro ⟨answer, later⟩
    refine gives_pure fun _ told => ?_
    obtain ⟨replied, settled⟩ := told
    exact ⟨congrArg (Except.map fun made => Answer.pattern (some made)) replied, settled⟩
  have mode (mode : Mode) (text : String) : Gives (compiler.Settled choice columns)
      (patternAnswer (compiler.compileMode mode text)) fun result database =>
        result.1 = (Compiler.reply choice columns mode text).map .pattern ∧
          result.2.Settled choice columns database := by
    refine gives_bind (Compiler.gives_compileMode compiler mode text) ?_
    rintro ⟨answer, later⟩
    refine gives_pure fun _ told => ?_
    obtain ⟨replied, settled⟩ := told
    exact ⟨congrArg (Except.map Answer.pattern) replied, settled⟩
  cases request with
  | compile | deserialize => exact raw
  | compileMode name text =>
    cases found : Mode.ofName? name with
    | some known => simpa only [Request.run, Request.reply, found] using mode known text
    | none =>
      simp only [Request.run, Request.reply, found]
      exact gives_pure fun _ settled => ⟨rfl, settled⟩
  | compileAny text => exact mode .any text
  | compileAll text => exact mode .all text
  | compilePhrase text => exact mode .phrase text
  | tokenize text =>
    refine gives_bind (Compiler.gives_tokenize compiler text) ?_
    rintro ⟨answer, later⟩
    refine gives_pure fun _ told => ?_
    obtain ⟨replied, settled⟩ := told
    exact ⟨congrArg (Except.map Answer.tokens) replied, settled⟩
  | descriptor =>
    refine gives_pure fun _ settled => ⟨?_, settled⟩
    rw [Tokenizer.descriptor, settled.tokenizer.same]
    rfl

end TextQuery
