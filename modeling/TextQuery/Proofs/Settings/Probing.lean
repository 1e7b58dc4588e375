import TextQuery.Proofs.Catalog.Picking
import TextQuery.Proofs.Session.Undisturbed
import TextQuery.Proofs.Settings.Making

set_option autoImplicit false

namespace TextQuery

open Engine Engine.Change Text

namespace Engine.FullText

def isReserved (name : String) : Bool := reservedNames.any (sameName name)

def reservedName (name : String) : Fault := .operational ("reserved fts5 column name: " ++ name)

-- By induction on the columns: they are added one after the other, up to the first that has a reserved name.
theorem foldlM_identifiers (columns : List String) (index : FullText) :
    ((columns.map identifier).map String.toList).foldlM addArgument index =
      match columns.find? isReserved with
      | some column => .error (reservedName column)
      | none => .ok { index with columns := index.columns ++ columns } := by
  induction columns generalizing index with
  | nil => simp; rfl
  | cons column columns ih =>
    have added : index.addArgument (identifier column).toList =
        if isReserved column then .error (reservedName column)
        else .ok { index with columns := index.columns ++ [column] } := addArgument_identifier index column
    rw [List.map_cons, List.map_cons, List.foldlM_cons, added]
    by_cases reserved : isReserved column = true
    · rw [if_pos reserved, List.find?_cons_of_pos reserved]
      rfl
    · rw [if_neg reserved, List.find?_cons_of_neg reserved]
      refine (ih { index with columns := index.columns ++ [column] }).trans ?_
      simp

theorem hasRepeated_of_nodup {columns : List String} (once : (columns.map lower).Nodup) :
    hasRepeated columns = false := by
  induction columns with
  | nil => rfl
  | cons column columns ih =>
    rw [List.map_cons, List.nodup_cons] at once
    have apart : columns.any (sameName column) = false := by
      rw [List.any_eq_false]
      intro other member same
      exact once.1 (lower_congr same ▸ List.mem_map_of_mem member)
    rw [hasRepeated, apart, ih once.2]
    rfl

end Engine.FullText

namespace Validator

open FullText

/-- What the engine finds wrong with columns that differ in lower case. -/
def columnFault? (columns : List String) : Option Fault :=
  if columns.length > argumentLimit then some (.tooManyColumns (helper columns))
  else
    match columns.find? isReserved with
    | some column => some (reservedName column)
    | none => if columns.any (sameName (helper columns)) then some (constructorFailed (helper columns)) else none

theorem helper_ne_rank (columns : List String) : sameName (helper columns) rankName = false := by
  rw [Bool.eq_false_iff]
  intro same
  have begins : Session.helperFamily.toList <+: folded rankName := (IsPrivate.congr same).1 (isPrivate_probe columns)
  exact absurd begins (by decide)

theorem writable_createProbe {columns : List String} (writable : ∀ column ∈ columns, '\x00' ∉ column.toList) :
    '\x00' ∉ (Statement.createProbe (helper columns) columns).text.toList := by
  have words : Writable "CREATE VIRTUAL TABLE IF NOT EXISTS temp." ∧ Writable " USING fts5(" ∧ Writable ")" ∧
      Writable family := by
    unfold Writable
    decide
  have listed : Writable (String.intercalate ", " (columns.map identifier)) := by
    rw [Writable, String.toList_intercalate, Candidate.mem_intercalate (by decide)]
    rintro ⟨part, member, nul⟩
    rw [List.map_map] at member
    obtain ⟨column, given, rfl⟩ := List.mem_map.1 member
    exact writable column given ((mem_identifier (by decide)).1 nul)
  rw [createProbe_text]
  exact writable_append (writable_append (writable_append (writable_append words.1
    (writable_identifier (writable_helperName words.2.2.2 _))) words.2.1) listed) words.2.2.1

theorem made_of_columns {columns : List String} (some : columns ≠ []) (once : (columns.map lower).Nodup)
    (writable : ∀ column ∈ columns, '\x00' ∉ column.toList) :
    made columns =
      match columnFault? columns with
      | .some fault => .error fault
      | none => .ok { columns } := by
  rw [made, if_neg (by simpa using writable_createProbe writable), columnFault?]
  by_cases many : columns.length > argumentLimit
  · rw [if_pos many, if_pos many]
  rw [if_neg many, if_neg many, declared, ofArguments, helper_ne_rank, arguments, if_neg (by simp),
    foldlM_identifiers]
  cases columns.find? isReserved with
  | some column => rfl
  | none =>
    have repeats : hasRepeated (helper columns :: columns) = columns.any (sameName (helper columns)) := by
      rw [hasRepeated, hasRepeated_of_nodup once, Bool.or_false]
    have filled : columns.isEmpty = false := by simpa using some
    simp only [bind, Except.bind, checkColumns, List.nil_append, filled, Bool.false_or, repeats]
    by_cases taken : columns.any (sameName (helper columns)) = true
    · rw [if_pos taken, if_pos taken]
    · rw [if_neg taken, if_neg taken]
      rfl

theorem columnFault?_eq_none_iff {columns : List String} : columnFault? columns = none ↔
    columns.length ≤ argumentLimit ∧ ∀ column ∈ columns,
      sameName column "rank" = false ∧ sameName column "rowid" = false ∧
        sameName column (helper columns) = false := by
  have symm (a b : String) : sameName a b = sameName b a := Bool.beq_comm
  have reserved (column : String) :
      isReserved column = false ↔ sameName column "rank" = false ∧ sameName column "rowid" = false := by
    simp [isReserved, reservedNames, rankName, rowidName]
  have found : columns.find? isReserved = none ↔ ∀ column ∈ columns, isReserved column = false := by
    simp
  unfold columnFault?
  by_cases many : columns.length > argumentLimit
  · rw [if_pos many]
    exact ⟨nofun, fun fits => absurd fits.1 (Nat.not_le.2 many)⟩
  · rw [if_neg many]
    cases first : columns.find? isReserved with
    | some column =>
      refine ⟨nofun, fun fits => ?_⟩
      have free : ∀ column ∈ columns, isReserved column = false := fun column member =>
        (reserved column).2 ⟨(fits.2 column member).1, (fits.2 column member).2.1⟩
      rw [found.2 free] at first
      cases first
    | none =>
      have free := found.1 first
      by_cases taken : columns.any (sameName (helper columns)) = true
      · rw [if_pos taken]
        obtain ⟨column, member, same⟩ := List.any_eq_true.1 taken
        refine ⟨nofun, fun fits => ?_⟩
        rw [symm, (fits.2 column member).2.2] at same
        cases same
      · rw [if_neg taken]
        refine ⟨fun _ => ⟨Nat.not_lt.1 many, fun column member => ?_⟩, fun _ => rfl⟩
        obtain ⟨rank, rowid⟩ := (reserved column).1 (free column member)
        refine ⟨rank, rowid, ?_⟩
        rw [symm, Bool.eq_false_iff]
        exact fun same => taken (List.any_eq_true.2 ⟨column, member, same⟩)

theorem kind_of_columnFault {columns : List String} {fault : Fault} (found : columnFault? columns = some fault) :
    fault.kind = .operational := by
  unfold columnFault? at found
  split at found
  · cases found
    rfl
  · split at found
    · cases found
      rfl
    · split at found
      · cases found
        rfl
      · cases found

-- What the parser refuses is about the expression.
theorem subject_of_verdict {scope : Expression.Scope} {expression : String} {diagnostic : Diagnostic}
    (refused : verdict scope expression = .error (.diagnostic diagnostic)) : diagnostic.subject ≠ .schema := by
  unfold verdict at refused
  split at refused
  · cases refused
  · cases refused
  · cases refused
    nofun

theorem creatable_iff {columns : List String} : Creatable columns ↔ ∃ index, made columns = .ok index := by
  constructor
  · intro creatable
    obtain ⟨index, declares⟩ := creatable.declares
    exact ⟨index, made_eq_ok.2 declares⟩
  · rintro ⟨index, made⟩
    have whole : ({} : Database).Whole := Database.Whole.outlasting.opened .usable
    obtain ⟨after, created, -⟩ := createProbe_there (made_eq_ok.1 made) whole.toKept (.inl rfl)
    rw [Creatable, created]

end Validator

variable {choice : TokenizerChoice} {columns : List String}

namespace Compiler

def candidate? (choice : TokenizerChoice) (mode : Mode) (text : String) : Option String :=
  Candidate.made mode (Tokenizer.wordsOf choice (normalize text)) text

theorem reply_of_none {mode : Mode} {text : String} (given : candidate? choice mode text = none) :
    reply choice columns mode text = .ok none := by
  unfold candidate? at given
  rw [reply, given]

theorem reply_of_some {mode : Mode} {text expression : String}
    (given : candidate? choice mode text = some expression) :
    reply choice columns mode text = (Validator.reply columns expression).map some := by
  unfold candidate? at given
  rw [reply, given]

end Compiler

namespace Request

/-- The expression that a request hands over to be validated, if it comes to that. -/
def candidate? (choice : TokenizerChoice) : Request → Option String
  | .compile expression | .deserialize expression => some expression
  | .compileMode name text => (Mode.ofName? name).bind fun mode => Compiler.candidate? choice mode text
  | .compileAny text => Compiler.candidate? choice .any text
  | .compileAll text => Compiler.candidate? choice .all text
  | .compilePhrase text => Compiler.candidate? choice .phrase text
  | .tokenize _ | .descriptor => none

theorem mapped_of_candidate {mode : Mode} {text expression : String}
    (given : Compiler.candidate? choice mode text = some expression) :
    (Compiler.reply choice columns mode text).map Answer.pattern =
      (Validator.reply columns expression).map fun made => Answer.pattern (some made) := by
  rw [Compiler.reply_of_some given]
  cases Validator.reply columns expression with
  | ok made => rfl
  | error failure => rfl

theorem reply_of_candidate {request : Request} {expression : String}
    (given : request.candidate? choice = some expression) :
    request.reply choice columns = (Validator.reply columns expression).map fun made => Answer.pattern (some made) := by
  cases request with
  | compile text | deserialize text =>
    cases given
    rfl
  | compileMode name text =>
    simp only [candidate?] at given
    simp only [reply]
    cases known : Mode.ofName? name with
    | none => rw [known] at given; cases given
    | some mode => rw [known] at given; exact mapped_of_candidate given
  | compileAny text | compileAll text | compilePhrase text =>
    rw [candidate?] at given
    rw [reply]
    exact mapped_of_candidate given
  | tokenize text | descriptor => cases given

theorem reply_of_no_candidate {request : Request} (given : request.candidate? choice = none) (diagnostic : Diagnostic) :
    request.reply choice columns ≠ .error (.diagnostic diagnostic) := by
  have mapped {mode : Mode} {text : String} (given : Compiler.candidate? choice mode text = none) :
      (Compiler.reply choice columns mode text).map Answer.pattern ≠ .error (.diagnostic diagnostic) := by
    rw [Compiler.reply_of_none given]
    intro failed
    cases failed
  cases request with
  | compile text | deserialize text => cases given
  | compileMode name text =>
    simp only [candidate?] at given
    simp only [reply]
    cases known : Mode.ofName? name with
    | none =>
      intro failed
      cases failed
    | some mode => rw [known] at given; exact mapped given
  | compileAny text | compileAll text | compilePhrase text =>
    rw [candidate?] at given
    rw [reply]
    exact mapped given
  | tokenize text | descriptor =>
    intro failed
    cases failed

end Request

namespace Settings

open Datum Session

variable {environment : Environment} {root : Entries} {settings : Settings}

theorem columns_of_read (read : ofEntries environment root = .ok settings) :
    (settings.pattern.columns.map lower).Nodup := by
  have accepts : Accepts (looseEnvironment environment) root := by
    have settles := @settles_readEntries (looseEnvironment environment) root
    rw [ofEntries_eq_ok.1 read] at settles
    exact settles.1
  by_cases none : settings.pattern.columns = []
  · rw [none]
    exact List.nodup_nil
  · have reads : ReadsPattern root settings.pattern.loose := (pattern_of_read (ofEntries_eq_ok.1 read)).1
    obtain ⟨-, once⟩ := accepts.columns _ (reads.value?_columns (mt List.map_eq_nil_iff.1 none))
    have lowered : settings.pattern.loose.columns.map Loose.lower =
        (settings.pattern.columns.map lower).map Loose.ofString := by
      simp [CompilerSettings.loose, Function.comp_def]
    rw [lowered] at once
    exact List.Pairwise.of_map _ (fun _ _ apart => mt (congrArg _) apart) once

theorem answer_of_read (read : ofEntries environment root = .ok settings) (id : String) {steps : List Step}
    (leave : ∀ next ∈ steps, next.Leaves (· = settings.pattern) ∧ ∀ others, next ≠ .create id others)
    {columns : List String} (probe : settings.pattern.probe = .helper columns) (request : Request) :
    ((fresh.after (.create id settings.pattern :: steps)).step (.request id request)).1 =
      request.reply settings.pattern.choice columns := by
  have usable := (pattern_of_read (ofEntries_eq_ok.1 read)).2
  have made := Compiler.create_of_usable usable
  have apart : CompilerSettings.Apart (· = settings.pattern) := by
    constructor
    · rintro _ _ rfl rfl -
      rfl
    · rintro _ _ rfl rfl _ _ own other -
      cases own.symm.trans other
      rfl
  have ready : fresh.database.Ready settings.pattern.choice columns False False :=
    ⟨Database.Provides.opened .usable not_false not_false, rfl⟩
  have identifier := (Compiler.create_eq_ok made).1
  have reachable : Reachable (Step.Leaves (· = settings.pattern)) fresh := .opened memoryPath
  have created := serving_create reachable.madeWith ready rfl rfl probe made id
  have serving := serving_after apart rfl identifier probe created leave
  have leaves : ∀ next ∈ Step.create id settings.pattern :: steps, next.Leaves (· = settings.pattern) :=
    List.forall_mem_cons.2 ⟨rfl, fun next member => (leave next member).1⟩
  have running := isClosed_after reachable.isClosed leaves
  exact serving.answer running request

/-- Settings are checked for no more than that their columns are not blank and differ in lower case. The engine makes
a private probe of them on a new database just if besides there are not too many of them, none has a reserved name, and
none has the name of the helper table. If it does, no request of the compiler is ever answered with a diagnostic about
the schema. If it does not, everything that comes to a validation is answered with what the engine found wrong. -/
theorem probe_of_read (read : ofEntries environment root = .ok settings)
    (alone : settings.pattern.probeTable = none)
    (writable : ∀ column ∈ settings.pattern.columns, '\x00' ∉ column.toList) (id : String) {steps : List Step}
    (leave : ∀ next ∈ steps, next.Leaves (· = settings.pattern) ∧ ∀ others, next ≠ .create id others)
    (request : Request) :
    let columns := if settings.pattern.columns = [] then ["content"] else settings.pattern.columns
    let answer := ((fresh.after (.create id settings.pattern :: steps)).step (.request id request)).1
    (Validator.Creatable columns ↔ columns.length ≤ FullText.argumentLimit ∧ ∀ column ∈ columns,
      sameName column "rank" = false ∧ sameName column "rowid" = false ∧
        sameName column (Validator.helper columns) = false) ∧
    match Validator.columnFault? columns with
    | none => Validator.Creatable columns ∧
        ∀ diagnostic, answer = .error (.diagnostic diagnostic) → diagnostic.subject ≠ .schema
    | some fault => ¬Validator.Creatable columns ∧
        ∀ expression, request.candidate? settings.pattern.choice = some expression →
          answer = .error (.diagnostic (.probeNotCreated fault)) := by
  intro columns answer
  have answered : answer = request.reply settings.pattern.choice columns :=
    answer_of_read read id leave (CompilerSettings.probe_of_columns alone) request
  have made : Validator.made columns =
      match Validator.columnFault? columns with
      | some fault => .error fault
      | none => .ok { columns } := by
    have once := columns_of_read read
    by_cases none : settings.pattern.columns = []
    · have single : columns = ["content"] := if_pos none
      rw [single]
      exact Validator.made_of_columns (by decide) (by decide +kernel) (by decide)
    · have same : columns = settings.pattern.columns := if_neg none
      rw [same]
      exact Validator.made_of_columns none once writable
  have creatable := @Validator.creatable_iff columns
  rw [made] at creatable
  refine ⟨?_, ?_⟩
  · rw [← Validator.columnFault?_eq_none_iff, creatable]
    cases Validator.columnFault? columns with
    | none => simp
    | some fault => simp
  · cases found : Validator.columnFault? columns with
    | none =>
      rw [found] at made creatable
      refine ⟨creatable.2 ⟨_, rfl⟩, fun diagnostic failed => ?_⟩
      rw [answered] at failed
      cases given : request.candidate? settings.pattern.choice with
      | none => exact absurd failed (Request.reply_of_no_candidate given diagnostic)
      | some expression =>
        rw [Request.reply_of_candidate given, Validator.reply, made] at failed
        dsimp only at failed
        cases judged : Validator.verdict (FullText.scope { columns }) expression with
        | ok made =>
          rw [judged] at failed
          cases failed
        | error failure =>
          rw [judged] at failed
          cases failed
          exact Validator.subject_of_verdict judged
    | some fault =>
      rw [found] at made creatable
      refine ⟨fun makes => ?_, fun expression given => ?_⟩
      · obtain ⟨index, is⟩ := creatable.1 makes
        cases is
      · rw [answered, Request.reply_of_candidate given, Validator.reply, made]
        dsimp only
        rw [if_pos (Validator.kind_of_columnFault found)]
        rfl

-- A column that has the name of the hidden column that ranks rows.
theorem probe_of_read_ranked :
    let root : Entries := [
      ("log", .mapping [("level", .text "INFO"), ("to_file", .bool false), ("dir", .text "")]),
      ("storage", .mapping [("db_path", .text ":memory:")]),
      ("pattern", .mapping [("columns", .list [.text "title", .text "Rank"])])]
    let pattern : CompilerSettings := { columns := ["title", "Rank"] }
    let settings : Settings := {
      log := { level := "INFO", toFile := false, directory := "" }
      storage := { path := ":memory:", pathVariable := "" }
      pattern }
    ofEntries [] root = .ok settings ∧
      ((fresh.after [.create "c" pattern, .request "c" (.compile "a")]).step (.request "c" (.compile "a"))).1 =
        .error (.diagnostic (.schema "cannot create FTS5 probe table: reserved fts5 column name: Rank")) := by
  intro root pattern settings
  have read : ofEntries [] root = .ok settings := by rfl
  refine ⟨read, ?_⟩
  have leave : ∀ next ∈ [Step.request "c" (.compile "a")],
      next.Leaves (· = settings.pattern) ∧ ∀ others, next ≠ .create "c" others := by
    simp [Step.Leaves]
  have probe := (probe_of_read read rfl (by decide) "c" leave (.compile "a")).2
  exact probe.2 "a" rfl

end Settings

end TextQuery
