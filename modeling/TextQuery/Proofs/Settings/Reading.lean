import TextQuery.Proofs.Settings.Keys

set_option autoImplicit false

namespace TextQuery.Settings

open Datum Text Key

def Shows (message path : String) : Prop := ∃ before after : String, message = before ++ path ++ after

/-- A fault that shows a key of a document, one at fault in the way the fault says. -/
def Blames (environment : LooseEnvironment) (root : Entries) (fault : SettingFault) : Prop :=
  ∃ path, Shows fault.message path ∧ (fault.isTypeFault = true → Mistyped root path) ∧
    (fault.isTypeFault = false → Unfit environment root path)

-- The name of a variable cannot be encoded, so the variable is not looked for.
def Unnamed (root : Entries) (fault : SettingFault) : Prop :=
  ∃ name, fault = .unencodable name ∧ databaseVariable.value? root = some (.text name) ∧ name.isEncodable = false

/-- What comes of a check: a value as described, or a fault that blames a key, unless a name cannot be encoded. -/
def Settles (environment : LooseEnvironment) (root : Entries) {α : Type} (described : α → Prop) : Check α → Prop
  | .ok value => described value
  | .error fault => Blames environment root fault ∨ Unnamed root fault

section

variable {environment : LooseEnvironment} {root entries : Entries} {key : Key} {α β : Type}

theorem Settles.bind {first : Check α} {next : α → Check β} {P : α → Prop} {Q : β → Prop}
    (settles : Settles environment root P first)
    (continues : ∀ value, P value → Settles environment root Q (next value)) :
    Settles environment root Q (first >>= next) := by
  cases first with
  | ok value => exact continues value settles
  | error fault => exact settles

theorem Settles.mono {check : Check α} {P Q : α → Prop} (settles : Settles environment root P check)
    (weaker : ∀ value, P value → Q value) : Settles environment root Q check := by
  cases check with
  | ok value => exact weaker value settles
  | error fault => exact settles

theorem Shows.first (path rest : String) : Shows (path ++ rest) path := ⟨"", rest, by rw [String.empty_append]⟩

theorem Shows.last (rest path : String) : Shows (rest ++ path) path := ⟨rest, "", by rw [String.append_empty]⟩

theorem blames_mistyped {fault : SettingFault} {path : String} (type : fault.isTypeFault = true)
    (shows : Shows fault.message path) (mistyped : Mistyped root path) :
    Blames environment root fault ∨ Unnamed root fault :=
  .inl ⟨path, shows, fun _ => mistyped, fun other => by rw [type] at other; cases other⟩

theorem blames_unfit {fault : SettingFault} {path : String} (type : fault.isTypeFault = false)
    (shows : Shows fault.message path) (unfit : Unfit environment root path) :
    Blames environment root fault ∨ Unnamed root fault :=
  .inl ⟨path, shows, fun other => (by rw [type] at other; cases other), fun _ => unfit⟩

theorem settles_sectionOf {group : String} {isRequired : Bool} (asked : group ∈ "pattern" :: requiredGroups)
    (required : isRequired = true → group ∈ requiredGroups) :
    Settles environment root (fun entries => root.get? group = some (.mapping entries) ∨
        isRequired = false ∧ entries = [] ∧ (root.get? group = none ∨ root.get? group = some .null))
      (sectionOf root group isRequired) := by
  have absent (missing : root.get? group = none ∨ root.get? group = some .null) :
      Settles environment root (fun entries => root.get? group = some (.mapping entries) ∨
          isRequired = false ∧ entries = [] ∧ (root.get? group = none ∨ root.get? group = some .null))
        (if isRequired = true then .error (.missing group) else .ok []) := by
    cases isRequired with
    | true => exact blames_unfit rfl (Shows.last _ _) (.missingGroup (required rfl) missing)
    | false => exact .inr ⟨rfl, rfl, missing⟩
  unfold sectionOf
  split
  · rename_i none
    exact absent (.inl none)
  · rename_i null
    exact absent (.inr null)
  · rename_i found
    exact .inl found
  · rename_i value some other found
    exact blames_mistyped rfl (Shows.first _ _) (.group asked found some other)

theorem value?_of_sectionOf {group : String} {isRequired : Bool}
    (read : root.get? group = some (.mapping entries) ∨
      isRequired = false ∧ entries = [] ∧ (root.get? group = none ∨ root.get? group = some .null))
    (within : key.group = group) : key.value? root = entries.get? key.field := by
  subst within
  obtain found | ⟨-, rfl, none | null⟩ := read
  · exact value?_of_mapping found
  · rw [value?, none]
    rfl
  · rw [value?, null]
    rfl

theorem settles_requiredValue (asked : key ∈ keys) (required : key.isRequired = true)
    (within : root.get? key.group = some (.mapping entries)) :
    Settles environment root (fun value => key.value? root = some value)
      (requiredValue entries key.field key.name) := by
  unfold requiredValue
  split
  · rename_i found
    exact (value?_of_mapping within).trans found
  · rename_i missing
    exact blames_unfit rfl (Shows.last _ _) (.missing asked required within missing)

variable {value : Datum}

theorem settles_asString (asked : key ∈ keys) (kind : key.kind = .string)
    (given : (∀ text, value ≠ .text text) → key.value? root = some value) :
    Settles environment root (fun text => value = .text text) (asString key.name value) := by
  unfold asString
  split
  · exact rfl
  · rename_i other
    refine blames_mistyped rfl (Shows.first _ _) (.value asked (given other) ?_)
    rw [kind]
    rintro ⟨text, is⟩
    exact other text is

theorem settles_asBool (asked : key ∈ keys) (kind : key.kind = .bool)
    (given : key.value? root = some value) :
    Settles environment root (fun flag => value = .bool flag) (asBool key.name value) := by
  unfold asBool
  split
  · exact rfl
  · rename_i other
    refine blames_mistyped rfl (Shows.first _ _) (.value asked given ?_)
    rw [kind]
    rintro ⟨flag, is⟩
    exact other flag is

def ofOption : Option Loose → Datum
  | none => .null
  | some given => .text given

theorem settles_asOptionalString (asked : key ∈ keys) (kind : key.kind = .optionalString)
    (given : value ≠ .null → key.value? root = some value) :
    Settles environment root (fun text => value = ofOption text) (asOptionalString key.name value) := by
  unfold asOptionalString
  split
  · exact rfl
  · rename_i some
    unfold asString
    split
    · exact rfl
    · rename_i other
      refine blames_mistyped rfl (Shows.first _ _) (.value asked (given some) ?_)
      rw [kind]
      rintro (null | ⟨text, is⟩)
      · exact some null
      · exact other text is

-- By induction over the items that are left, which stand at the end of all items.
theorem settles_asStringsFrom {all : List Datum} (asked : key ∈ keys) (kind : key.kind = .strings)
    (found : key.value? root = some (.list all)) (items : List Datum) (index : Nat)
    (left : all.drop index = items) :
    Settles environment root (fun texts => items = texts.map .text) (asStringsFrom key.name index items) := by
  induction items generalizing index with
  | nil => exact rfl
  | cons item rest ih =>
    have at_ : all[index]? = some item := by
      rw [← List.head?_drop, left]
      rfl
    have after : all.drop (index + 1) = rest := by
      rw [← List.tail_drop, left]
      rfl
    unfold asStringsFrom
    refine Settles.bind (P := fun text => item = .text text) ?_ fun text is =>
      (ih (index + 1) after).bind fun texts are => ?_
    · unfold asString
      split
      · exact rfl
      · rename_i other
        exact blames_mistyped rfl (Shows.first _ _) (.item asked kind found at_ other)
    · subst is are
      exact rfl

theorem settles_asStrings (asked : key ∈ keys) (kind : key.kind = .strings)
    (given : value ≠ .list [] → key.value? root = some value) :
    Settles environment root (fun texts => value = .list (texts.map .text)) (asStrings key.name value) := by
  unfold asStrings
  split
  · rename_i items
    by_cases empty : items = []
    · subst empty
      exact rfl
    · have found := given fun is => empty (by cases is; rfl)
      exact (settles_asStringsFrom asked kind found items 0 rfl).mono fun _ are => by rw [are]
  · rename_i other
    have some : value ≠ .list [] := other []
    refine blames_mistyped rfl (Shows.first _ _) (.value asked (given some) ?_)
    rw [kind]
    rintro ⟨texts, is⟩
    exact other _ is

structure ReadsLog (root : Entries) (log : LooseLog) : Prop where
  within : ∃ entries, root.get? "log" = some (.mapping entries)
  level : ∃ level, logLevel.value? root = some (.text level) ∧ log.level = level.upper
  toFile : logToFile.value? root = some (.bool log.toFile)
  directory : logDirectory.value? root = some (.text log.directory)

structure ReadsStorage (environment : LooseEnvironment) (root : Entries) (storage : LooseStorage) : Prop where
  within : ∃ entries, root.get? "storage" = some (.mapping entries)
  path : ∃ path, databasePath.value? root = some (.text path) ∧
    storage.path = effectivePath environment root path
  pathVariable : (databaseVariable.value? root).getD (.text "") = .text storage.pathVariable
  encodable : storage.pathVariable.isEncodable = true

structure ReadsPattern (root : Entries) (pattern : LoosePattern) : Prop where
  within : root.get? "pattern" = none ∨ root.get? "pattern" = some .null ∨
    ∃ entries, root.get? "pattern" = some (.mapping entries)
  splitter : (Key.tokenizer.value? root).getD (.text "simple") = .text pattern.tokenizer
  arguments : (Key.arguments.value? root).getD (.list []) = .list (pattern.arguments.map .text)
  table : (Key.probeTable.value? root).getD .null = ofOption pattern.probeTable
  schema : (Key.probeSchema.value? root).getD .null = ofOption pattern.probeSchema
  columns : (Key.columns.value? root).getD (.list []) = .list (pattern.columns.map .text)

-- A value that may be missing is given, unless it is the one that stands for it.
theorem given_of_getD {found : Option Datum} {default value : Datum} (is : found.getD default = value)
    (other : value ≠ default) : found = some value := by
  cases found with
  | none => exact absurd is.symm other
  | some given => exact congrArg some is

theorem settles_loadLog : Settles environment root (ReadsLog root) (loadLog root) := by
  unfold loadLog
  refine Settles.bind (settles_sectionOf (by decide) fun _ => by decide) fun entries read => ?_
  have within := read.resolve_right fun optional => nomatch optional.1
  refine Settles.bind (@settles_requiredValue _ _ _ logLevel (by simp [keys]) rfl within) fun value level => ?_
  refine Settles.bind (@settles_asString _ _ logLevel _ (by simp [keys]) rfl fun _ => level) fun _ isLevel => ?_
  refine Settles.bind (@settles_requiredValue _ _ _ logToFile (by simp [keys]) rfl within) fun value toFile => ?_
  refine Settles.bind (@settles_asBool _ _ logToFile _ (by simp [keys]) rfl toFile) fun _ isToFile => ?_
  refine Settles.bind (@settles_requiredValue _ _ _ logDirectory (by simp [keys]) rfl within)
    fun value directory => ?_
  refine Settles.bind (@settles_asString _ _ logDirectory _ (by simp [keys]) rfl fun _ => directory)
    fun _ isDirectory => ?_
  subst isLevel isToFile isDirectory
  exact { within := ⟨entries, within⟩, level := ⟨_, level, rfl⟩, toFile, directory }

theorem settles_loadStorage :
    Settles environment root (ReadsStorage environment root) (loadStorage environment root) := by
  unfold loadStorage
  refine Settles.bind (settles_sectionOf (by decide) fun _ => by decide) fun entries read => ?_
  have variableIs : databaseVariable.value? root = entries.get? "db_path_env" := value?_of_sectionOf read rfl
  have within := read.resolve_right fun optional => nomatch optional.1
  refine Settles.bind (@settles_requiredValue _ _ _ databasePath (by simp [keys]) rfl within) fun value path => ?_
  refine Settles.bind (@settles_asString _ _ databasePath _ (by simp [keys]) rfl fun _ => path) fun _ isPath => ?_
  refine Settles.bind (@settles_asString _ _ databaseVariable _ (by simp [keys]) rfl fun other => ?_)
    fun name named => ?_
  · rw [variableIs]
    exact given_of_getD rfl (other "")
  · subst isPath
    have variableOfIs : variableOf root = name := by
      rw [variableOf, variableIs]
      cases given : entries.get? "db_path_env" with
      | none =>
        rw [given] at named
        cases named
        rfl
      | some value =>
        rw [given] at named
        cases named
        rfl
    unfold pathFrom
    by_cases encodable : name.isEncodable = true
    · rw [if_pos encodable]
      refine { within := ⟨entries, within⟩, path := ⟨_, path, ?_⟩, pathVariable := ?_, encodable }
      case refine_2 => rw [variableIs, named]
      rw [effectivePath, variableOfIs]
    · rw [if_neg encodable]
      have found : databaseVariable.value? root = some (.text name) := by
        refine variableIs.trans (given_of_getD named ?_)
        rintro ⟨⟩
        exact encodable rfl
      exact .inr ⟨name, rfl, found, Bool.eq_false_iff.2 encodable⟩

theorem settles_loadPattern : Settles environment root (ReadsPattern root) (loadPattern root) := by
  unfold loadPattern
  refine Settles.bind (settles_sectionOf (by decide) fun other => nomatch other) fun entries read => ?_
  have is {key : Key} (within : key.group = "pattern") : key.value? root = entries.get? key.field :=
    value?_of_sectionOf read within
  refine Settles.bind (@settles_asString _ _ tokenizer _ (by simp [keys]) rfl fun other => ?_)
    fun _ isTokenizer => ?_
  · exact (is rfl).trans (given_of_getD rfl (other _))
  refine Settles.bind (@settles_asStrings _ _ arguments _ (by simp [keys]) rfl fun other => ?_)
    fun _ areArguments => ?_
  · exact (is rfl).trans (given_of_getD rfl other)
  refine Settles.bind (@settles_asOptionalString _ _ probeTable _ (by simp [keys]) rfl fun other => ?_)
    fun _ isTable => ?_
  · exact (is rfl).trans (given_of_getD rfl other)
  refine Settles.bind (@settles_asOptionalString _ _ probeSchema _ (by simp [keys]) rfl fun other => ?_)
    fun _ isSchema => ?_
  · exact (is rfl).trans (given_of_getD rfl other)
  refine Settles.bind (@settles_asStrings _ _ columns _ (by simp [keys]) rfl fun other => ?_)
    fun _ areColumns => ?_
  · exact (is rfl).trans (given_of_getD rfl other)
  refine ⟨?_, ?_, ?_, ?_, ?_, ?_⟩
  · obtain found | ⟨-, -, none | null⟩ := read
    · exact .inr (.inr ⟨entries, found⟩)
    · exact .inl none
    · exact .inr (.inl null)
  · rw [is rfl]
    exact isTokenizer
  · rw [is rfl]
    exact areArguments
  · rw [is rfl]
    exact isTable
  · rw [is rfl]
    exact isSchema
  · rw [is rfl]
    exact areColumns

end

end TextQuery.Settings
