import TextQuery.Engine.Script
import TextQuery.Program
import TextQuery.Proofs.Session.Provisions
import TextQuery.Proofs.Settings.Accepting
import TextQuery.Proofs.Settings.Plain

set_option autoImplicit false

namespace TextQuery

open Engine

-- What making a tokenizer and a validator asks of the settings. Nothing else is asked of the texts in them.
structure LoosePattern.Usable (settings : LoosePattern) : Prop where
  splitter : Settings.IsName settings.tokenizer
  schema : settings.probeTable = none → settings.probeSchema = none
  columns : settings.probeTable ≠ none → settings.columns = []

namespace CompilerSettings

theorem probe_of_table {settings : CompilerSettings} {table : String} (is : settings.probeTable = some table) :
    settings.probe = .table table settings.probeSchema := by
  rw [probe, is]

theorem probe_of_columns {settings : CompilerSettings} (none : settings.probeTable = none) :
    settings.probe = .helper (if settings.columns = [] then ["content"] else settings.columns) := by
  rw [probe, none]
  cases settings.columns <;> rfl

end CompilerSettings

theorem Compiler.create_of_usable {settings : CompilerSettings} (usable : settings.loose.Usable) :
    Compiler.create settings = .ok ⟨{ choice := settings.choice }, { probe := settings.probe }⟩ := by
  have tokenizer : Tokenizer.create settings.tokenizer settings.arguments = .ok { choice := settings.choice } :=
    if_pos (Settings.isIdentifier_iff.2 usable.splitter)
  have validator : Validator.create settings.probeTable settings.probeSchema settings.columns =
      .ok { probe := settings.probe } := by
    unfold Validator.create CompilerSettings.probe
    cases is : settings.probeTable with
    | none =>
      have schema := usable.schema (congrArg (Option.map Loose.ofString) is)
      rw [Option.map_eq_none_iff.1 schema]
    | some table =>
      have columns := usable.columns (by simp [CompilerSettings.loose, is])
      have none : settings.columns = [] := List.map_eq_nil_iff.1 columns
      exact if_pos (List.isEmpty_iff.2 none)
  unfold Compiler.create
  rw [tokenizer]
  change (do
    let validator ← Validator.create settings.probeTable settings.probeSchema settings.columns
    return (⟨{ choice := settings.choice }, validator⟩ : Compiler)) = _
  rw [validator]
  rfl

namespace Settings

open Datum

variable {environment : LooseEnvironment} {root : Entries}

theorem pattern_of_read {settings : LooseSettings} (read : readEntries environment root = .ok settings) :
    ReadsPattern root settings.pattern ∧ settings.pattern.Usable := by
  unfold readEntries at read
  obtain ⟨log, -, read⟩ := exists_of_bind_eq_ok read
  obtain ⟨storage, -, read⟩ := exists_of_bind_eq_ok read
  obtain ⟨pattern, loaded, read⟩ := exists_of_bind_eq_ok read
  obtain ⟨_, -, read⟩ := exists_of_bind_eq_ok read
  obtain ⟨_, -, read⟩ := exists_of_bind_eq_ok read
  obtain ⟨_, checked, read⟩ := exists_of_bind_eq_ok read
  cases read
  have reads := @settles_loadPattern environment root
  rw [loaded] at reads
  have settles := @settles_checkPattern environment root pattern reads
  rw [checked] at settles
  obtain ⟨splitter, probe, -⟩ := settles
  refine ⟨reads, splitter, probe.schema, fun some => ?_⟩
  obtain ⟨table, is⟩ := Option.ne_none_iff_exists'.1 some
  exact (probe.table table is).2

/-- Settings that were read meet all that is asked of the settings of a compiler, and they are those of the document,
with what stands for the values that it leaves out. If they can be encoded they make a compiler, whatever the
connection: no statement is sent, and one record is left. Tokenizer and arguments are those of the settings. Table and
schema are those of the settings, and if there is no table the helper table has their columns, or the single column
`content` if they name none. -/
theorem createCompiler_of_read {σ : Type} [Engine σ] (world : World σ) {loose : LooseSettings}
    (read : readEntries environment root = .ok loose) :
    loose.pattern.Usable ∧ ReadsPattern root loose.pattern ∧
    ∀ settings, ofLoose loose = .ok settings →
      ∃ compiler message,
        (Program.createCompiler settings.pattern).run world =
          (.ok compiler, { world with journal := world.journal ++ [⟨Level.debug, message⟩] }) ∧
        compiler.tokenizer = { choice := ⟨settings.pattern.tokenizer, settings.pattern.arguments⟩, table := none } ∧
        (∀ table, settings.pattern.probeTable = some table →
          compiler.validator = { probe := .table table settings.pattern.probeSchema, target := none }) ∧
        (settings.pattern.probeTable = none → compiler.validator =
          { probe := .helper (if settings.pattern.columns = [] then ["content"] else settings.pattern.columns)
            target := none }) := by
  obtain ⟨reads, usable⟩ := pattern_of_read read
  refine ⟨usable, reads, fun settings plain => ?_⟩
  obtain rfl := ofLoose_eq_ok.1 plain
  have created : ∃ message, (Program.createCompiler settings.pattern).run world =
      (.ok ⟨{ choice := settings.pattern.choice }, { probe := settings.pattern.probe }⟩,
        { world with journal := world.journal ++ [⟨Level.debug, message⟩] }) := by
    unfold Program.createCompiler
    rw [Compiler.create_of_usable usable]
    exact ⟨_, rfl⟩
  obtain ⟨message, created⟩ := created
  refine ⟨_, message, created, rfl, fun table is => ?_, fun none => ?_⟩
  · rw [CompilerSettings.probe_of_table is]
  · rw [CompilerSettings.probe_of_columns none]

-- A name that ends with a line break, and a schema beside a table.
theorem createCompiler_of_read_located :
    let root : Entries := [
      ("log", .mapping [("level", .text "info"), ("to_file", .bool false), ("dir", .text "")]),
      ("storage", .mapping [("db_path", .text " "), ("db_path_env", .text "DB")]),
      ("pattern", .mapping [("tokenizer", .text "porter\n"), ("tokenizer_args", .list [.text "x"]),
        ("probe_table", .text "f"), ("probe_schema", .text "main"), ("columns", .list [])])]
    let pattern : CompilerSettings := {
      tokenizer := "porter\n", arguments := ["x"], probeTable := some "f", probeSchema := some "main" }
    let settings : Settings := {
      log := { level := "INFO", toFile := false, directory := "" }
      storage := { path := "a.db", pathVariable := "DB" }
      pattern }
    ofEntries [("DB", " a.db ")] root = .ok settings ∧
    ∃ compiler message,
      (Program.createCompiler pattern).run { engine := ({ replies := [] } : Script) } =
        (.ok compiler, { engine := { replies := [] }, journal := [⟨Level.debug, message⟩] }) ∧
      compiler = {
        tokenizer := { choice := ⟨"porter\n", ["x"]⟩ }, validator := { probe := .table "f" (some "main") } } := by
  intro root pattern settings
  have read : ofEntries [("DB", " a.db ")] root = .ok settings := by rfl
  obtain ⟨compiler, message, created, tokenizer, located, -⟩ :=
    (createCompiler_of_read { engine := ({ replies := [] } : Script) } (ofEntries_eq_ok.1 read)).2.2 settings
      (ofLoose_eq_ok.2 rfl)
  refine ⟨read, compiler, message, created, ?_⟩
  have validator := located "f" rfl
  cases compiler
  cases tokenizer
  cases validator
  rfl

end Settings

end TextQuery
