import TextQuery.Proofs.Engine.Failing
import TextQuery.Proofs.Session.Probes

set_option autoImplicit false

namespace TextQuery

open Engine Engine.Change Text

-- Faults of a database are errors, never mere warnings.
theorem covers_notWarning : Covers fun fault => fault.kind ≠ .warning where
  nulInText := by decide
  busy := by decide
  notADatabase := by decide
  malformedImage := by decide
  logicError := by decide
  unknownDatabase _ := by simp [Fault.unknownDatabase, Fault.operational]
  noSuchTable _ _ := by simp [Fault.noSuchTable, Fault.operational]
  constructorFailed _ := by simp [constructorFailed, Fault.operational]
  damagedIndex _ := by simp [Schema.damagedIndex, Fault.malformedImage]
  badVersion version fault failed := by
    unfold Schema.checkVersion at failed
    split at failed
    · cases failed
    · cases failed
      simp [Fault.operational]

namespace Tokenizer

variable {choice : TokenizerChoice} {database after : Database}

theorem splitterOf_notWarning {table : String} {fault : Fault}
    (failed : splitterOf table choice = .error fault) : fault.kind ≠ .warning := by
  unfold splitterOf at failed
  cases read : TokenTable.readName choice.name with
  | error other =>
    rw [read] at failed
    cases failed
    unfold TokenTable.readName at read
    dsimp only at read
    split at read
    · split at read
      · cases read
        simp [unrecognized, Fault.operational]
      · cases read
    · cases read
  | ok name =>
    rw [read] at failed
    change TokenTable.splitter table name choice.arguments = _ at failed
    unfold TokenTable.splitter at failed
    split at failed
    · cases failed
    · cases failed
      simp [Fault.operational]
    · cases failed
      simp [constructorFailed, Fault.operational]

-- The tokenizer is looked for only if the helper table is not there yet, its name is read before that.
theorem createTokens_result (table : String) :
    (createTokens table choice database).1 =
      if (database.temp.find? table).isNone then (splitterOf table choice).map fun _ => ()
      else (TokenTable.readName choice.name).map fun _ => () := by
  rw [createTokens_eq, splitterOf]
  cases TokenTable.readName choice.name with
  | error fault => exact (ite_self _).symm
  | ok name =>
    dsimp only
    split
    · change _ = (TokenTable.splitter table name choice.arguments).map _
      cases TokenTable.splitter table name choice.arguments with
      | ok splitter =>
        have constructed : construct (.ok splitter) database = (.ok splitter, database) := rfl
        rw [bind_ok _ constructed, addTables, alter_eq]
        rfl
      | error fault =>
        have constructed : (construct (.error fault) : Change Token.Splitter) database =
            (.error fault, database.forget) := rfl
        rw [bind_error _ constructed]
        rfl
    · rfl

theorem failsWith_createTokens (table : String) :
    FailsWith Database.Kept (fun fault => fault.kind ≠ .warning) (createTokens table choice) := by
  intro database fault after _ failed
  suffices unmade : splitterOf table choice = .error fault from splitterOf_notWarning unmade
  have result := (createTokens_result table).symm.trans (congrArg Prod.fst failed)
  split at result
  · cases made : splitterOf table choice with
    | ok splitter =>
      rw [made] at result
      cases result
    | error other =>
      rw [made] at result
      cases result
      rfl
  · rw [splitterOf]
    cases read : TokenTable.readName choice.name with
    | ok name =>
      rw [read] at result
      cases result
    | error other =>
      rw [read] at result
      cases result
      rfl

-- What is asked for words is the helper table, if there is any.
theorem selectTokens_cases (kept : database.Kept) (input : String) :
    (∃ fault, database.selectTokens (helper choice) input = .error fault ∧ fault.kind ≠ .warning) ∨
      ∃ words : List String, database.selectTokens (helper choice) input = .ok (words.map .text) := by
  unfold Database.selectTokens
  cases located : database.locate database.temp.name (helper choice) with
  | error fault =>
    cases Database.locate_eq_error located
    exact .inl ⟨_, rfl, covers_notWarning.noSuchTable _ _⟩
  | ok found =>
    obtain ⟨home, held⟩ := found
    rw [kept.temp] at located
    obtain ⟨-, member, same⟩ := kept.of_locate (isPrivate_tokens choice) located
    obtain ⟨splitter, body⟩ := kept.helpers.tokens choice held member same
    simp only [bind, Except.bind, body]
    cases splitter.tokens input with
    | error bytes => exact .inl ⟨_, rfl, by simp [TokenTable.undecodable]⟩
    | ok words => exact .inr ⟨words, rfl⟩

theorem failsWith_selectTokens (input : String) :
    FailsWith Database.Kept (fun fault => fault.kind ≠ .warning)
      (respond (.selectTokens (helper choice) input)) := by
  apply failsWith_find
  intro database fault kept failed
  rcases selectTokens_cases kept input with ⟨other, found, known⟩ | ⟨words, found⟩
  · rw [found] at failed
    cases failed
    exact known
  · rw [found] at failed
    cases failed

theorem answer_selectTokens (kept : database.Kept) {input : String} {cells : List Cell}
    (found : Engine.answer (.selectTokens (helper choice) input) database = (.ok cells, after)) :
    (∃ words : List String, cells = words.map .text) ∧ after.Readable ∧ database.Follows after := by
  obtain ⟨ready, follows, readable, responds⟩ := answer_ok rfl rfl found
  have opening : openTarget (.selectTokens (helper choice) input) ready = (.ok (), ready) := rfl
  rw [bind_ok _ opening] at responds
  have response : respond (.selectTokens (helper choice) input) ready =
      (ready.selectTokens (helper choice) input, ready) := rfl
  obtain ⟨told, rfl⟩ := Prod.mk.inj (response.symm.trans responds)
  have keptReady := Database.Kept.outlasting.watched (.selectTokens (helper choice) input) trivial _ kept
  rw [found] at keptReady
  refine ⟨?_, readable, follows⟩
  rcases selectTokens_cases keptReady input with ⟨other, failed, -⟩ | ⟨words, same⟩
  · rw [told] at failed
    cases failed
  · rw [told] at same
    exact ⟨words, Except.ok.inj same⟩

theorem giveUp_notWarning (tokenizer : Tokenizer) {fault : Fault} (known : fault.kind ≠ .warning)
    (world : World Database) :
    ∃ journal, tokenizer.giveUp fault world = ((.ok [], tokenizer), ⟨world.engine, journal⟩) := by
  have error : (fault.kind == .warning) = false := by simpa using known
  unfold giveUp
  rw [error]
  exact ⟨_, rfl⟩

-- A helper table that cannot be made leaves an error, no warning.
theorem ensureTable_cases (tokenizer : Tokenizer) {world : World Database} (kept : world.engine.Kept) :
    (∃ fault after, tokenizer.ensureTable world = (.error fault, after) ∧ fault.kind ≠ .warning) ∨
      ∃ table ready after, tokenizer.ensureTable world = (.ok (table, ready), after) := by
  unfold ensureTable
  cases tokenizer.table with
  | some table => exact .inr ⟨table, tokenizer, world, rfl⟩
  | none =>
    have fails : FailsWith Database.Kept (fun fault => fault.kind ≠ .warning)
        (Change.answer (.createTokens (helper tokenizer.choice) tokenizer.choice)) :=
      failsWith_answer covers_notWarning Database.Kept.lasting.toSteady rfl (failsWith_createTokens _)
    simp only [bind, StateT.bind, Run.ask_eq]
    cases answered : Engine.answer (.createTokens (helper tokenizer.choice) tokenizer.choice)
        world.engine with
    | mk answer engine =>
      cases answer with
      | error fault => exact .inl ⟨fault, _, rfl, fails _ _ _ kept answered⟩
      | ok _ => exact .inr ⟨_, _, _, rfl⟩

theorem tokenize_words {tokenizer : Tokenizer} (faithful : tokenizer.Faithful) {world : World Database}
    (kept : world.engine.Kept) (text : String) :
    ∃ words : List String, (tokenizer.tokenize text world).1.1 = .ok (words.map .text) ∧
      (words ≠ [] → (tokenizer.tokenize text world).2.engine.Readable) := by
  have asks := Watched.asks Database.Kept.outlasting.watched tokenizer.choice
  unfold tokenize
  split
  · exact ⟨[], rfl, fun some => absurd rfl some⟩
  · rcases ensureTable_cases tokenizer kept with ⟨fault, middle, made, known⟩ | ⟨table, ready, middle, made⟩
    · obtain ⟨journal, gave⟩ := giveUp_notWarning tokenizer known middle
      simp only [bind, StateT.bind, made, gave]
      exact ⟨[], rfl, fun some => absurd rfl some⟩
    · obtain ⟨keptMiddle, named⟩ := leads_ensureTable faithful asks world kept
      rw [made] at keptMiddle named
      obtain ⟨rfl, -⟩ := named table ready rfl
      have fails : FailsWith Database.Kept (fun fault => fault.kind ≠ .warning)
          (Change.answer (.selectTokens (helper tokenizer.choice) text)) :=
        failsWith_answer covers_notWarning Database.Kept.lasting.toSteady rfl (failsWith_selectTokens text)
      simp only [bind, StateT.bind, made, Run.ask_eq]
      cases answered : Engine.answer (.selectTokens (helper tokenizer.choice) text) middle.engine with
      | mk answer engine =>
        cases answer with
        | error fault =>
          obtain ⟨journal, gave⟩ := giveUp_notWarning ready (fails _ _ _ keptMiddle answered)
            { middle with engine }
          simp only [gave]
          exact ⟨[], rfl, fun some => absurd rfl some⟩
        | ok cells =>
          obtain ⟨⟨words, rfl⟩, readable, -⟩ := answer_selectTokens keptMiddle answered
          exact ⟨words, rfl, fun _ => readable⟩

end Tokenizer

end TextQuery
