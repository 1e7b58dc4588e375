import TextQuery.Proofs.Names
import TextQuery.Proofs.Settings.Reading

set_option autoImplicit false

namespace TextQuery.Settings

open Datum Text Key

section

variable {environment : LooseEnvironment} {root : Entries} {α β : Type}

structure UsableLog (log : LooseLog) : Prop where
  level : log.level ∈ levels
  directory : log.toFile = true → log.directory.isBlank = false

structure UsableProbe (pattern : LoosePattern) : Prop where
  table : ∀ table, pattern.probeTable = some table → table.isBlank = false ∧ pattern.columns = []
  schema : pattern.probeTable = none → pattern.probeSchema = none

structure UsableColumns (columns : List Loose) : Prop where
  some : ∀ text ∈ columns, text.isBlank = false
  once : (columns.map Loose.lower).Nodup

theorem settles_checkLog {log : LooseLog} (reads : ReadsLog root log) :
    Settles environment root (fun _ => UsableLog log) (checkLog log) := by
  unfold checkLog
  obtain ⟨level, found, is⟩ := reads.level
  by_cases known : log.level ∈ levels
  · rw [List.contains_iff_mem.2 known]
    by_cases unplaced : (log.toFile && log.directory.isBlank) = true
    · rw [if_neg (by simp), if_pos unplaced]
      obtain ⟨toFile, blank⟩ := Bool.and_eq_true_iff.1 unplaced
      exact blames_unfit rfl (Shows.first logDirectory.name " must not be empty when log.to_file is true")
        (.directory (toFile ▸ reads.toFile) reads.directory blank)
    · rw [if_neg (by simp), if_neg unplaced]
      refine ⟨known, fun toFile => ?_⟩
      rw [toFile, Bool.true_and] at unplaced
      exact Bool.eq_false_iff.2 unplaced
  · rw [if_pos (by simp [known])]
    exact blames_unfit rfl
      (Shows.first logLevel.name " must be one of ['CRITICAL', 'DEBUG', 'ERROR', 'INFO', 'WARNING']")
      (.level found (is ▸ known))

theorem settles_checkStorage {storage : LooseStorage} (reads : ReadsStorage environment root storage) :
    Settles environment root (fun _ => storage.path.isBlank = false) (checkStorage storage) := by
  unfold checkStorage
  obtain ⟨path, found, is⟩ := reads.path
  split
  · rename_i blank
    have effective : effectivePath environment root path = path := by
      rw [is, effectivePath] at blank
      rw [effectivePath]
      split at blank
      · exact if_pos ‹_›
      · rename_i given
        exact absurd (givenPath_of_isBlank blank) given
    exact blames_unfit rfl (Shows.first databasePath.name " must not be empty")
      (.path found (by rw [← effective, ← is]; exact blank) effective)
  · rename_i clear
    exact Bool.eq_false_iff.2 clear

variable {pattern : LoosePattern}

theorem ReadsPattern.value?_table (reads : ReadsPattern root pattern) {table : Loose}
    (is : pattern.probeTable = some table) : probeTable.value? root = some (.text table) :=
  given_of_getD (reads.table.trans (by rw [is]; rfl)) nofun

theorem ReadsPattern.value?_columns (reads : ReadsPattern root pattern) (some : pattern.columns ≠ []) :
    Key.columns.value? root = .some (.list (pattern.columns.map .text)) :=
  given_of_getD reads.columns fun none => some (List.map_eq_nil_iff.1 (Datum.list.inj none))

theorem settles_checkProbe (reads : ReadsPattern root pattern) :
    Settles environment root (fun _ => UsableProbe pattern) (checkProbe pattern) := by
  unfold checkProbe
  split
  · rename_i table isTable
    have found := reads.value?_table isTable
    by_cases blank : table.isBlank = true
    · rw [if_pos blank]
      exact blames_unfit rfl (Shows.first probeTable.name " must not be empty") (.table found blank)
    · rw [if_neg blank]
      by_cases none : pattern.columns = []
      · rw [none]
        refine ⟨fun other is => ?_, fun missing => ?_⟩
        · cases isTable.symm.trans is
          exact ⟨Bool.eq_false_iff.2 blank, none⟩
        · cases isTable.symm.trans missing
      · rw [if_neg (by simpa using none)]
        refine blames_unfit rfl
          (Shows.first columns.name " only applies when pattern.probe_table is not set")
          (.beside found (reads.value?_columns none) ?_)
        simpa using none
  · rename_i schema isTable isSchema
    have found : probeSchema.value? root = some (.text schema) :=
      given_of_getD (reads.schema.trans (by rw [isSchema]; rfl)) nofun
    refine blames_unfit rfl (Shows.first probeSchema.name " requires pattern.probe_table")
      (.schema found fun table is => ?_)
    have reads := reads.table
    rw [is, isTable] at reads
    cases reads
  · rename_i isTable isSchema
    refine ⟨fun table is => ?_, fun _ => isSchema⟩
    cases isTable.symm.trans is

theorem settles_checkColumns (reads : ReadsPattern root pattern) :
    Settles environment root (fun _ => UsableColumns pattern.columns) (checkColumns pattern.columns) := by
  unfold checkColumns
  split
  · rename_i index first
    obtain ⟨within, blank, -⟩ := List.findIdx?_eq_some_iff_getElem.1 first
    have some : pattern.columns ≠ [] := List.ne_nil_of_length_pos (Nat.zero_lt_of_lt within)
    have message : (SettingFault.blankColumn index).message =
        itemKey Key.columns.name index ++ " must not be empty" := by
      rw [itemKey]
      exact (@String.append_assoc (Key.columns.name ++ "[" ++ toString index) "]" " must not be empty").symm
    exact blames_unfit rfl (message ▸ Shows.first _ _) (.column (reads.value?_columns some)
      (List.getElem?_eq_getElem within) blank)
  · rename_i clear
    by_cases once : (pattern.columns.map Loose.lower).Nodup
    · rw [if_pos once]
      exact ⟨List.findIdx?_eq_none_iff.1 clear, once⟩
    · rw [if_neg once]
      have some : pattern.columns ≠ [] := by
        intro none
        rw [none] at once
        exact once List.nodup_nil
      exact blames_unfit rfl (Shows.first columns.name " must not contain duplicates")
        (.duplicates (reads.value?_columns some) once)

theorem settles_checkPattern (reads : ReadsPattern root pattern) :
    Settles environment root
      (fun _ => IsName pattern.tokenizer ∧ UsableProbe pattern ∧ UsableColumns pattern.columns)
      (checkPattern pattern) := by
  have simpleIsName : IsName "simple" := isIdentifier_iff.1 (by decide)
  unfold checkPattern
  by_cases known : pattern.tokenizer.isIdentifier = true
  · rw [known]
    exact (settles_checkProbe reads).bind fun _ probe => (settles_checkColumns reads).mono fun _ columns =>
      ⟨looseIsIdentifier_iff.1 known, probe, columns⟩
  · rw [Bool.eq_false_iff.2 known]
    have other := mt looseIsIdentifier_iff.2 known
    refine blames_unfit rfl (Shows.first Key.tokenizer.name " must contain only letters, digits and underscores")
      (.splitter (given_of_getD reads.splitter fun is => ?_) other)
    exact other (Leaf.text.inj (Datum.leaf.inj is) ▸ simpleIsName)

theorem admits_of_getD {found : Option Datum} {default value other : Datum} {kind : Kind}
    (is : found.getD default = value) (admits : kind.Admits value) (given : found = some other) :
    kind.Admits other := by
  subst given is
  exact admits

theorem accepts_of_reads {log : LooseLog} {storage : LooseStorage} (log' : ReadsLog root log)
    (logUsable : UsableLog log)
    (storage' : ReadsStorage environment root storage) (storageUsable : storage.path.isBlank = false)
    (pattern' : ReadsPattern root pattern) (name : IsName pattern.tokenizer)
    (probe : UsableProbe pattern) (columns : UsableColumns pattern.columns) :
    Accepts environment root := by
  obtain ⟨level, foundLevel, isLevel⟩ := log'.level
  obtain ⟨path, foundPath, isPath⟩ := storage'.path
  have ofOption_admits (text : Option Loose) : Kind.optionalString.Admits (ofOption text) := by
    cases text with
    | none => exact .inl rfl
    | some text => exact .inr ⟨text, rfl⟩
  constructor
  case required =>
    simp only [requiredGroups, List.forall_mem_cons]
    exact ⟨log'.within, storage'.within, List.forall_mem_nil _⟩
  case optional => exact pattern'.within
  case types =>
    simp only [keys, List.forall_mem_cons]
    refine ⟨?_, ?_, ?_, ?_, ?_, ?_, ?_, ?_, ?_, ?_, List.forall_mem_nil _⟩ <;> intro value found
    · exact ⟨level, Option.some.inj (found.symm.trans foundLevel)⟩
    · exact ⟨_, Option.some.inj (found.symm.trans log'.toFile)⟩
    · exact ⟨_, Option.some.inj (found.symm.trans log'.directory)⟩
    · exact ⟨path, Option.some.inj (found.symm.trans foundPath)⟩
    · exact admits_of_getD storage'.pathVariable ⟨_, rfl⟩ found
    · exact admits_of_getD pattern'.splitter ⟨_, rfl⟩ found
    · exact admits_of_getD pattern'.arguments ⟨_, rfl⟩ found
    · exact admits_of_getD pattern'.table (ofOption_admits _) found
    · exact admits_of_getD pattern'.schema (ofOption_admits _) found
    · exact admits_of_getD pattern'.columns ⟨_, rfl⟩ found
  case present =>
    simp only [keys, List.forall_mem_cons]
    refine ⟨fun _ => ⟨_, foundLevel⟩, fun _ => ⟨_, log'.toFile⟩, fun _ => ⟨_, log'.directory⟩,
      fun _ => ⟨_, foundPath⟩, ?_, ?_, ?_, ?_, ?_, ?_, List.forall_mem_nil _⟩ <;> exact Bool.noConfusion
  case level =>
    intro other found
    cases foundLevel.symm.trans found
    exact isLevel ▸ logUsable.level
  case directory =>
    intro toFile directory found
    cases log'.directory.symm.trans found
    exact logUsable.directory (Leaf.bool.inj (Datum.leaf.inj (Option.some.inj (log'.toFile.symm.trans toFile))))
  case path =>
    intro other found
    cases foundPath.symm.trans found
    exact isPath ▸ storageUsable
  case splitter =>
    intro other found
    have is := pattern'.splitter
    rw [found] at is
    cases is
    exact name
  case table =>
    intro table found
    have is := pattern'.table
    rw [found] at is
    have isTable : pattern.probeTable = some table := by
      cases given : pattern.probeTable with
      | none =>
        rw [given] at is
        cases is
      | some other =>
        rw [given] at is
        cases is
        rfl
    refine ⟨(probe.table table isTable).1, fun texts listed => ?_⟩
    have are := pattern'.columns
    rw [listed, (probe.table table isTable).2] at are
    exact Datum.list.inj are
  case schema =>
    intro schema found
    have is := pattern'.schema
    cases isTable : pattern.probeTable with
    | none =>
      rw [found, probe.schema isTable] at is
      cases is
    | some table => exact ⟨table, pattern'.value?_table isTable⟩
  case columns =>
    intro texts listed
    have are := pattern'.columns
    rw [listed] at are
    have same : texts = pattern.columns :=
      (List.map_inj_right fun _ _ same => Leaf.text.inj (Datum.leaf.inj same)).1 (Datum.list.inj are)
    exact same ▸ ⟨columns.some, columns.once⟩

theorem ReadsStorage.isEncodable {storage : LooseStorage} (reads : ReadsStorage environment root storage) :
    (variableOf root).isEncodable = true := by
  have is := reads.pathVariable
  unfold variableOf
  cases found : databaseVariable.value? root with
  | none => rfl
  | some value =>
    rw [found] at is
    cases is
    exact reads.encodable

theorem settles_readEntries : Settles environment root
    (fun _ => Accepts environment root ∧ (variableOf root).isEncodable = true) (readEntries environment root) := by
  unfold readEntries
  refine settles_loadLog.bind fun log log' => ?_
  refine settles_loadStorage.bind fun storage storage' => ?_
  refine settles_loadPattern.bind fun pattern pattern' => ?_
  refine (settles_checkLog log').bind fun _ logUsable => ?_
  refine (settles_checkStorage storage').bind fun _ storageUsable => ?_
  refine (settles_checkPattern pattern').bind fun _ patternUsable => ?_
  exact ⟨accepts_of_reads log' logUsable storage' storageUsable pattern' patternUsable.1 patternUsable.2.1
    patternUsable.2.2, storage'.isEncodable⟩

end

end TextQuery.Settings
