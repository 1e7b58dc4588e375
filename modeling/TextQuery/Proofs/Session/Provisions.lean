import TextQuery.Proofs.Described
import TextQuery.Proofs.Session.Probes

set_option autoImplicit false

namespace TextQuery

open Engine Engine.Change Text

namespace CompilerSettings

def choice (settings : CompilerSettings) : TokenizerChoice := ⟨settings.tokenizer, settings.arguments⟩

def probe (settings : CompilerSettings) : Probe :=
  match settings.probeTable with
  | some name => .table name settings.probeSchema
  | none => .helper (if settings.columns.isEmpty then Validator.defaultColumns else settings.columns)

theorem probe_some {settings : CompilerSettings} {columns : List String}
    (probe : settings.probe = .helper columns) : columns ≠ [] := by
  unfold CompilerSettings.probe at probe
  split at probe
  · cases probe
  · cases probe
    split
    · simp [Validator.defaultColumns]
    · rename_i some
      simpa using some

-- The text that the digest of the helper table of some columns is taken of.
def joined (columns : List String) : String := String.intercalate "\x00" columns

/-- No two descriptors, and no two lists of columns, that belong to the settings in use have the same
digest. -/
structure Apart (used : CompilerSettings → Prop) : Prop where
  tokens : ∀ {a b}, used a → used b → Tokenizer.helper a.choice = Tokenizer.helper b.choice →
    a.choice.descriptor = b.choice.descriptor
  probe : ∀ {a b}, used a → used b → ∀ {columns others}, a.probe = .helper columns →
    b.probe = .helper others → Validator.helper columns = Validator.helper others →
    joined columns = joined others

end CompilerSettings

theorem Compiler.create_eq_ok {settings : CompilerSettings} {compiler : Compiler}
    (made : Compiler.create settings = .ok compiler) : isIdentifier settings.tokenizer = true ∧
      compiler = ⟨{ choice := settings.choice }, { probe := settings.probe }⟩ := by
  unfold Compiler.create at made
  obtain ⟨tokenizer, tokens, made⟩ := exists_of_bind_eq_ok made
  obtain ⟨validator, probe, made⟩ := exists_of_bind_eq_ok made
  cases made
  unfold Tokenizer.create at tokens
  split at tokens
  · rename_i known
    cases tokens
    refine ⟨known, ?_⟩
    unfold Validator.create at probe
    unfold CompilerSettings.probe
    split at probe
    · cases probe
    · rename_i noTable _
      cases probe
      rw [noTable]
      rfl
    · rename_i named
      split at probe
      · cases probe
        rw [named]
        rfl
      · cases probe
  · cases tokens

def Tokenizer.made (choice : TokenizerChoice) : Except Fault Token.Splitter :=
  if (Statement.createTokens (helper choice) choice).text.toList.contains '\x00' then .error .nulInText
  else splitterOf (helper choice) choice

namespace Validator

def made (columns : List String) : Except Fault FullText :=
  if (Statement.createProbe (helper columns) columns).text.toList.contains '\x00' then .error .nulInText
  else if columns.length > FullText.argumentLimit then .error (.tooManyColumns (helper columns))
  else declared columns

theorem made_eq_ok {columns : List String} {index : FullText} :
    made columns = .ok index ↔ Declares columns index := by
  unfold made
  constructor
  · intro done
    split at done
    · cases done
    · rename_i writable
      split at done
      · cases done
      · rename_i few
        obtain ⟨found, declared, done⟩ := exists_of_bind_eq_ok done
        obtain ⟨_, distinct, done⟩ := exists_of_bind_eq_ok done
        cases done
        exact ⟨by simpa using writable, few, declared, distinct⟩
  · intro declares
    rw [if_neg (by simpa using declares.writable), if_neg declares.few, declares.declared_eq]

theorem createProbe_text (table : String) (columns : List String) :
    (Statement.createProbe table columns).text = "CREATE VIRTUAL TABLE IF NOT EXISTS temp." ++
      identifier table ++ " USING fts5(" ++ String.intercalate ", " (columns.map identifier) ++ ")" := rfl

-- The names of the columns can be written if the statement can.
theorem columns_writable {table : String} {columns : List String}
    (writable : '\x00' ∉ (Statement.createProbe table columns).text.toList) :
    ∀ column ∈ columns, '\x00' ∉ column.toList := by
  rw [createProbe_text, String.toList_append, String.toList_append] at writable
  intro column member nul
  have inside : '\x00' ∈ (identifier column).toList := (mem_identifier (by decide)).2 nul
  exact writable (List.mem_append_left _ (List.mem_append_right _
    (mem_intercalate inside ", " (List.mem_map_of_mem member))))

end Validator

namespace Engine

structure Fits (choice : TokenizerChoice) (columns : List String) (tables : List Table) : Prop where
  tokens : ∀ table ∈ tables, sameName table.name (Tokenizer.helper choice) = true →
    ∃ splitter, table.body = .splitter splitter ∧ Tokenizer.made choice = .ok splitter
  probe : '\x00' ∉ (Statement.createProbe (Validator.helper columns) columns).text.toList →
    ∀ table ∈ tables, sameName table.name (Validator.helper columns) = true →
      ∃ index, table.body = .fullText index ∧ Validator.made columns = .ok index

structure Provided (choice : TokenizerChoice) (columns : List String) (known found : Prop)
    (tables : List Table) : Prop extends Fits choice columns tables where
  known : known → ∃ table ∈ tables, sameName table.name (Tokenizer.helper choice) = true
  found : found → '\x00' ∉ (Statement.createProbe (Validator.helper columns) columns).text.toList ∧
    ∃ table ∈ tables, sameName table.name (Validator.helper columns) = true

variable {choice : TokenizerChoice} {columns : List String} {known found : Prop}
  {tables made : List Table}

namespace Fits

theorem nil : Fits choice columns [] := ⟨by simp, by simp⟩

theorem append (fits : Fits choice columns tables) (new : Fits choice columns made) :
    Fits choice columns (tables ++ made) where
  tokens table member := (List.mem_append.1 member).elim (fits.tokens table) (new.tokens table)
  probe writable table member :=
    (List.mem_append.1 member).elim (fits.probe writable table) (new.probe writable table)

theorem filter (fits : Fits choice columns tables) (keep : Table → Bool) :
    Fits choice columns (tables.filter keep) where
  tokens table member := fits.tokens table (List.mem_filter.1 member).1
  probe writable table member := fits.probe writable table (List.mem_filter.1 member).1

-- No helper table has rows of its own.
theorem written (fits : Fits choice columns tables) (name : String) (rows : List StoredRow) :
    Fits choice columns (tables.map (Table.withRows name rows)) := by
  have same {held : Table} {body : Body} (other : ∀ declaration before, body ≠ .ordinary declaration before)
      (is : held.body = body) : (held.withRows name rows).body = body := by
    rcases held.withRows_cases name rows with unchanged | ⟨declaration, before, ordinary, -⟩
    · rw [unchanged, is]
    · exact absurd (is.symm.trans ordinary) (other declaration before)
  constructor
  · intro table member named
    obtain ⟨held, there, rfl⟩ := List.mem_map.1 member
    rw [Table.withRows_name] at named
    obtain ⟨splitter, body, made⟩ := fits.tokens held there named
    exact ⟨splitter, same (by simp) body, made⟩
  · intro writable table member named
    obtain ⟨held, there, rfl⟩ := List.mem_map.1 member
    rw [Table.withRows_name] at named
    obtain ⟨index, body, made⟩ := fits.probe writable held there named
    exact ⟨index, same (by simp) body, made⟩

theorem foreign {table : String} (other : ¬IsPrivate table) (names : MadeFor table made) :
    Fits choice columns made := by
  constructor
  · intro held member same
    rcases names held member with name | ⟨part, listed, name⟩
    · rw [name] at same
      exact absurd ((IsPrivate.congr same).2 (isPrivate_tokens choice)) other
    · rw [name, indexName_ne_tokens table listed] at same
      cases same
  · intro _ held member same
    rcases names held member with name | ⟨part, listed, name⟩
    · rw [name] at same
      exact absurd ((IsPrivate.congr same).2 (isPrivate_probe columns)) other
    · rw [name, indexName_ne_probe table listed] at same
      cases same

theorem splitter {other : TokenizerChoice} {splitter : Token.Splitter} (sql : String)
    (fits : sameName (Tokenizer.helper other) (Tokenizer.helper choice) = true →
      Tokenizer.made choice = .ok splitter) :
    Fits choice columns [⟨Tokenizer.helper other, sql, .splitter splitter⟩] := by
  constructor
  · intro table member same
    rw [List.mem_singleton.1 member] at same ⊢
    exact ⟨splitter, rfl, fits same⟩
  · intro _ table member same
    rw [List.mem_singleton.1 member, tokens_ne_probe] at same
    cases same

theorem fullText {others : List String} {index : FullText} (sql : String)
    (fits : '\x00' ∉ (Statement.createProbe (Validator.helper columns) columns).text.toList →
      sameName (Validator.helper others) (Validator.helper columns) = true →
      Validator.made columns = .ok index) :
    Fits choice columns (⟨Validator.helper others, sql, .fullText index⟩ ::
      index.indexTables (Validator.helper others)) := by
  constructor
  · intro table member same
    rcases List.mem_cons.1 member with rfl | member
    · have apart := tokens_ne_probe choice others
      rw [sameName_symm same] at apart
      cases apart
    · obtain ⟨part, listed, name⟩ := FullText.indexTables_name member
      rw [name, indexName_ne_tokens _ (FullText.mem_parts listed)] at same
      cases same
  · intro writable table member same
    rcases List.mem_cons.1 member with rfl | member
    · exact ⟨index, rfl, fits writable same⟩
    · obtain ⟨part, listed, name⟩ := FullText.indexTables_name member
      rw [name, indexName_ne_probe _ (FullText.mem_parts listed)] at same
      cases same

end Fits

namespace Provided

theorem nil (unknown : ¬known) (missing : ¬found) : Provided choice columns known found [] :=
  ⟨.nil, fun known => absurd known unknown, fun found => absurd found missing⟩

theorem append (provided : Provided choice columns known found tables) (new : Fits choice columns made) :
    Provided choice columns known found (tables ++ made) where
  toFits := provided.toFits.append new
  known is :=
    let ⟨table, member, same⟩ := provided.known is
    ⟨table, List.mem_append_left _ member, same⟩
  found is :=
    let ⟨writable, table, member, same⟩ := provided.found is
    ⟨writable, table, List.mem_append_left _ member, same⟩

theorem written (provided : Provided choice columns known found tables) (name : String)
    (rows : List StoredRow) :
    Provided choice columns known found (tables.map (Table.withRows name rows)) where
  toFits := provided.toFits.written name rows
  known is :=
    let ⟨_, member, same⟩ := provided.known is
    ⟨_, List.mem_map_of_mem member, by rwa [Table.withRows_name]⟩
  found is :=
    let ⟨writable, _, member, same⟩ := provided.found is
    ⟨writable, _, List.mem_map_of_mem member, by rwa [Table.withRows_name]⟩

theorem removed (provided : Provided choice columns known found tables) {held : Table}
    (other : ¬IsPrivate held.name) : Provided choice columns known found
      (tables.filter fun table => !(dropped held).any (sameName table.name)) := by
  have stays {table : Table} {name : String} (same : sameName table.name name = true)
      (isPrivate : IsPrivate name)
      (apart : ∀ part ∈ FullText.parts, sameName (FullText.indexName held.name part) name = false) :
      (!(dropped held).any (sameName table.name)) = true := by
    rw [Bool.not_eq_true', Bool.eq_false_iff]
    intro gone
    obtain ⟨goes, member, named⟩ := List.any_eq_true.1 gone
    have reached := sameName_trans (sameName_symm named) same
    rcases mem_dropped member with rfl | ⟨part, listed, rfl⟩
    · exact other ((IsPrivate.congr reached).2 isPrivate)
    · rw [apart part listed] at reached
      cases reached
  refine ⟨provided.toFits.filter _, ?_, ?_⟩
  · intro is
    obtain ⟨table, member, same⟩ := provided.known is
    refine ⟨table, List.mem_filter.2 ⟨member, ?_⟩, same⟩
    exact stays same (isPrivate_tokens choice) fun part listed => indexName_ne_tokens _ listed choice
  · intro is
    obtain ⟨writable, table, member, same⟩ := provided.found is
    refine ⟨writable, table, List.mem_filter.2 ⟨member, ?_⟩, same⟩
    exact stays same (isPrivate_probe columns) fun part listed => indexName_ne_probe _ listed columns

end Provided

/-- A database that can be read wherever it matters to helpers, and in which the helper tables of a tokenizer
and of columns fit. -/
structure Database.Provides (choice : TokenizerChoice) (columns : List String) (known found : Prop)
    (database : Database) : Prop extends database.Whole where
  provided : Provided choice columns known found database.temp.tables

namespace Database.Provides

variable {database : Database}

theorem within (provides : database.Provides choice columns known found) {name : String}
    {edit : List Table → List Table} (whole : (database.within name edit).Whole)
    (edited : sameName name "temp" = true →
      Provided choice columns known found (edit database.temp.tables)) :
    (database.within name edit).Provides choice columns known found := by
  refine ⟨whole, ?_⟩
  rcases within_tables database name edit with same | ⟨temporary, same⟩
  · rw [same]
    exact provides.provided
  · rw [same]
    exact edited (by rwa [provides.temp] at temporary)

theorem lasting : Lasting (fun home name => sameName home "temp" = true → ¬IsOwned name) Located
    (Provides choice columns known found) where
  noted used _ segments fewer provides :=
    ⟨Whole.lasting.noted used segments fewer provides.toWhole, provides.provided⟩
  read provides := ⟨Whole.lasting.read provides.toWhole, provides.provided⟩
  checked fewer provides := ⟨Whole.lasting.checked fewer provides.toWhole, provides.provided⟩
  several := Whole.lasting.several
  started may provides := ⟨Whole.lasting.started may provides.toWhole, provides.provided⟩
  reread provides := ⟨Whole.lasting.reread provides.toWhole, provides.provided⟩
  undone fewer before after :=
    ⟨Whole.lasting.undone fewer before.toWhole after.toWhole, before.provided⟩
  written may stored rewritten provides :=
    provides.within (Whole.lasting.written may stored rewritten provides.toWhole) fun _ => provides.provided.written _ _

theorem opened (condition : Condition) (unknown : ¬known) (missing : ¬found) :
    Provides choice columns known found { condition } :=
  ⟨Whole.outlasting.opened condition, .nil unknown missing⟩

theorem reopened (provides : database.Provides choice columns known found) (unknown : ¬known)
    (missing : ¬found) : database.reopened.Provides choice columns known found :=
  ⟨Whole.outlasting.reopened provides.toWhole, .nil unknown missing⟩

theorem asks {compiler : Compiler}
    (tokens : sameName (Tokenizer.helper compiler.tokenizer.choice) (Tokenizer.helper choice) = true →
      compiler.tokenizer.choice = choice)
    (probe : ∀ others, compiler.validator.probe = .helper others →
      '\x00' ∉ (Statement.createProbe (Validator.helper others) others).text.toList →
      '\x00' ∉ (Statement.createProbe (Validator.helper columns) columns).text.toList →
      sameName (Validator.helper others) (Validator.helper columns) = true → others = columns) :
    compiler.Asks (Provides choice columns known found) where
  tokenizer := by
    refine tokenizerAsks_of lasting.toSteadfast ?_ fun _ _ provides _ _ => lasting.reread provides
    intro writable database splitter provides _ done
    refine provides.within (provides.toWhole.madeTokens _ _ splitter) fun _ =>
      provides.provided.append (.splitter _ ?_)
    intro same
    rw [tokens same] at writable done
    rw [Tokenizer.made, if_neg (by simpa using writable), done]
  validator := by
    refine validatorAsks_of lasting.toSteadfast ?_
      (fun _ _ _ _ provides _ _ => lasting.reread provides) ?_
    · intro others own writable database tables provides _ few made
      refine provides.within (provides.toWhole.madeProbe made) ?_
      obtain ⟨index, declared, -, distinct, rfl⟩ := FullText.make_eq_ok made
      refine fun _ => provides.provided.append (.fullText _ ?_)
      intro writable' same
      cases probe others own writable writable' same
      exact Validator.made_eq_ok.2 ⟨writable, few, declared, distinct⟩
    · exact fun target fits expression database home held provides =>
        Kept.mayMatch (fits.usual expression) expression database home held provides.toKept

end Database.Provides

end Engine

/-- A step over an open connection that leaves the names of helper tables to compilers, and makes compilers
of some settings only. It locks nothing. -/
def Step.Leaves (used : CompilerSettings → Prop) : Step → Prop
  | .build (.createTable schema table _) | .build (.createView schema table _)
  | .build (.createFullText schema table _ _ _) | .build (.insert schema table _)
  | .build (.delete schema table) | .build (.drop schema table) =>
    sameName schema "temp" = true → ¬IsPrivate table
  | .build .lock | .close => False
  | .create _ settings => used settings
  | _ => True

theorem Step.Leaves.respects {used : CompilerSettings → Prop} {step : Step} (leaves : step.Leaves used) :
    step.Respects := by
  cases step with
  | build building =>
    cases building with
    | drop => exact fun temporary => not_isOwned (leaves temporary)
    | createTable | createView | createFullText | insert | delete => exact leaves
    | attach | detach | lock | unlock => trivial
  | create | request | lookup | helpers | bind | close => trivial

namespace Engine.Database.Provides

variable {choice : TokenizerChoice} {columns : List String} {known found : Prop}
  {used : CompilerSettings → Prop}

theorem mayBuild {building : Building} (leaves : Step.Leaves used (.build building)) :
    MayBuild (Provides choice columns known found)
      (fun home name => sameName home "temp" = true → ¬IsOwned name) building := by
  have whole := Whole.mayBuild leaves.respects
  have make {schema table : String} (other : sameName schema "temp" = true → ¬IsPrivate table)
      (may : MayMake Whole schema table) : MayMake (Provides choice columns known found) schema table := by
    intro home tables same adds database provides there
    refine provides.within (may home tables same adds database provides.toWhole there) ?_
    intro temporary
    exact provides.provided.append
      (.foreign (other (sameName_trans (sameName_symm same) temporary)) adds.names)
  cases building with
  | attach | detach =>
    exact fun database provides apart => ⟨whole database provides.toWhole apart, provides.provided⟩
  | lock | unlock => exact fun database provides => ⟨whole database provides.toWhole, provides.provided⟩
  | createTable | createView | createFullText => exact make leaves whole
  | insert | delete => exact fun home held database located => whole home held database located
  | drop schema table =>
    intro home held database provides located apart
    refine provides.within (whole home held database provides.toWhole located apart) ?_
    intro temporary
    apply provides.provided.removed
    obtain ⟨inside, same | other⟩ := Whole.name_of_locate located
    · exact mt (IsPrivate.congr same).1 (leaves (sameName_trans (sameName_symm inside) temporary))
    · exact other

theorem upheld (apart : CompilerSettings.Apart used) {settings : CompilerSettings} (may : used settings)
    (identifier : isIdentifier settings.tokenizer = true) (probe : settings.probe = .helper columns) :
    Session.Upheld (Step.Leaves used) (Provides settings.choice columns known found) where
  asked := by
    intro id other compiler leaves made
    obtain ⟨known, rfl⟩ := Compiler.create_eq_ok made
    apply asks
    · intro same
      have digests := helperName_inj Tokenizer.folded_family same
      exact TokenizerChoice.descriptor_inj known identifier (apart.tokens leaves may digests)
    · intro others own writable writable' same
      have digests := helperName_inj Validator.folded_family same
      have texts := apart.probe leaves may own probe digests
      exact intercalate_inj (Validator.columns_writable writable) (Validator.columns_writable writable')
        (CompilerSettings.probe_some own) (CompilerSettings.probe_some probe) texts
  lookedUp := lookedUp_of lasting.toSteady
  built leaves := keeps_build lasting fun _ => mayBuild leaves
  listed := keeps_listHelpers lasting

end Engine.Database.Provides

end TextQuery
