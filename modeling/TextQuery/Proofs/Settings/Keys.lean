import TextQuery.Settings

set_option autoImplicit false

namespace TextQuery.Settings

open Datum Text

inductive Kind where
  | string
  | optionalString
  | bool
  | strings

namespace Kind

def Admits : Kind → Datum → Prop
  | .string, value => ∃ text, value = .text text
  | .optionalString, value => value = .null ∨ ∃ text, value = .text text
  | .bool, value => ∃ flag, value = .bool flag
  | .strings, value => ∃ texts : List Loose, value = .list (texts.map .text)

end Kind

structure Key where
  group : String
  field : String
  kind : Kind
  isRequired : Bool := false

namespace Key

def name (key : Key) : String := key.group ++ "." ++ key.field

def value? (root : Entries) (key : Key) : Option Datum :=
  match root.get? key.group with
  | some (.mapping entries) => Entries.get? entries key.field
  | _ => none

def logLevel : Key := { group := "log", field := "level", kind := .string, isRequired := true }
def logToFile : Key := { group := "log", field := "to_file", kind := .bool, isRequired := true }
def logDirectory : Key := { group := "log", field := "dir", kind := .string, isRequired := true }
def databasePath : Key := { group := "storage", field := "db_path", kind := .string, isRequired := true }
def databaseVariable : Key := { group := "storage", field := "db_path_env", kind := .string }
def tokenizer : Key := { group := "pattern", field := "tokenizer", kind := .string }
def arguments : Key := { group := "pattern", field := "tokenizer_args", kind := .strings }
def probeTable : Key := { group := "pattern", field := "probe_table", kind := .optionalString }
def probeSchema : Key := { group := "pattern", field := "probe_schema", kind := .optionalString }
def columns : Key := { group := "pattern", field := "columns", kind := .strings }

end Key

open Key

def keys : List Key :=
  [logLevel, logToFile, logDirectory, databasePath, databaseVariable, tokenizer, arguments, probeTable,
    probeSchema, columns]

def requiredGroups : List String := ["log", "storage"]

theorem Key.value?_of_mapping {root entries : Entries} {key : Key}
    (found : root.get? key.group = some (.mapping entries)) : key.value? root = entries.get? key.field := by
  rw [value?, found]

/-- Letters, digits and underscores, possibly with a line break at the end. -/
def IsName (text : Loose) : Prop :=
  ∃ word : List Char, word ≠ [] ∧ (∀ c ∈ word, c.isAlphanum = true ∨ c = '_') ∧
    (text = .ofChars word ∨ text = .ofChars (word ++ ['\n']))

theorem isName_ofString {text : String} : IsName text ↔
    ∃ word : List Char, word ≠ [] ∧ (∀ c ∈ word, c.isAlphanum = true ∨ c = '_') ∧
      (text.toList = word ∨ text.toList = word ++ ['\n']) := by
  have same (word : List Char) : (text : Loose) = .ofChars word ↔ text.toList = word := by
    rw [Loose.ofString, Loose.ofChars, Loose.ofChars, Loose.mk.injEq]
    exact List.map_inj_right fun _ _ => Letter.char.inj
  simp only [IsName, same]

theorem isIdentifier_iff {text : String} : Text.isIdentifier text = true ↔ IsName text := by
  have only (word : List Char) : word.all isIdentifierChar = true ↔ ∀ c ∈ word, c.isAlphanum = true ∨ c = '_' := by
    simp [isIdentifierChar]
  simp only [isIdentifier, Bool.and_eq_true, Bool.not_eq_true', List.isEmpty_eq_false_iff, only, isName_ofString]
  constructor
  · rintro ⟨some, all⟩
    refine ⟨dropFinalBreak text.toList, some, all, ?_⟩
    unfold dropFinalBreak
    split
    · rename_i last
      obtain ⟨word, is⟩ := List.getLast?_eq_some_iff.1 last
      rw [is, List.dropLast_concat]
      exact .inr rfl
    · exact .inl rfl
  · rintro ⟨word, some, all, is⟩
    have dropped : dropFinalBreak text.toList = word := by
      obtain is | is := is
      · have noBreak : word.getLast? ≠ Option.some '\n' := by
          intro last
          have other : ('\n').isAlphanum = false := by decide
          obtain letter | underscore := all _ (List.mem_of_getLast? last)
          · rw [other] at letter
            cases letter
          · exact absurd underscore (by decide)
        rw [is, dropFinalBreak, if_neg noBreak]
      · rw [is, dropFinalBreak, if_pos List.getLast?_concat, List.dropLast_concat]
    rw [dropped]
    exact ⟨some, all⟩

theorem looseIsIdentifier_iff {text : Loose} : text.isIdentifier = true ↔ IsName text := by
  rw [Loose.isIdentifier, Option.any_eq_true]
  constructor
  · rintro ⟨plain, is, named⟩
    exact Loose.plain?_eq_some.1 is ▸ isIdentifier_iff.1 named
  · rintro ⟨word, some, all, is⟩
    obtain ⟨plain, rfl⟩ : ∃ plain : String, text = plain := by
      obtain rfl | rfl := is
      · exact ⟨String.ofList word, by rw [Loose.ofString, String.toList_ofList]⟩
      · exact ⟨String.ofList (word ++ ['\n']), by rw [Loose.ofString, String.toList_ofList]⟩
    exact ⟨plain, Loose.plain?_ofString plain, isIdentifier_iff.2 ⟨word, some, all, is⟩⟩

/-- The environment variable that takes precedence over the path of the database; empty if there is none. -/
def variableOf (root : Entries) : Loose :=
  match databaseVariable.value? root with
  | some (.text name) => name
  | _ => ""

def effectivePath (environment : LooseEnvironment) (root : Entries) (path : Loose) : Loose :=
  let given := givenPath environment (variableOf root)
  if given.isEmpty then path else given

-- Where something is left of a text without the white space at its ends, it is not white space only.
theorem trim_of_isBlank {text : Loose} (blank : text.trim.isBlank = true) : text.trim.isEmpty = true := by
  rw [Loose.trim, Loose.isBlank, List.all_reverse] at blank
  rw [Loose.trim, Loose.isEmpty, List.isEmpty_reverse]
  have first := List.head?_dropWhile_not Letter.isBlank (text.letters.dropWhile Letter.isBlank).reverse
  cases left : (text.letters.dropWhile Letter.isBlank).reverse.dropWhile Letter.isBlank with
  | nil => rfl
  | cons letter rest =>
    rw [left] at blank first
    rw [List.all_cons, show letter.isBlank = false from first] at blank
    cases blank

theorem givenPath_of_isBlank {environment : LooseEnvironment} {name : Loose}
    (blank : (givenPath environment name).isBlank = true) : (givenPath environment name).isEmpty = true := by
  unfold givenPath at blank ⊢
  split at blank
  · rw [if_pos ‹_›]
    rfl
  · rw [if_neg ‹_›]
    exact trim_of_isBlank blank

/-- The documents that settings are read from. -/
structure Accepts (environment : LooseEnvironment) (root : Entries) : Prop where
  required : ∀ group ∈ requiredGroups, ∃ entries, root.get? group = some (.mapping entries)
  optional : root.get? "pattern" = none ∨ root.get? "pattern" = some .null ∨
    ∃ entries, root.get? "pattern" = some (.mapping entries)
  types : ∀ key ∈ keys, ∀ value, key.value? root = some value → key.kind.Admits value
  present : ∀ key ∈ keys, key.isRequired = true → ∃ value, key.value? root = some value
  level : ∀ level, logLevel.value? root = some (.text level) → level.upper ∈ levels
  directory : logToFile.value? root = some (.bool true) →
    ∀ directory, logDirectory.value? root = some (.text directory) → directory.isBlank = false
  path : ∀ path, databasePath.value? root = some (.text path) →
    (effectivePath environment root path).isBlank = false
  splitter : ∀ name, Key.tokenizer.value? root = some (.text name) → IsName name
  table : ∀ table, probeTable.value? root = some (.text table) →
    table.isBlank = false ∧ ∀ texts, Key.columns.value? root = some (.list texts) → texts = []
  schema : ∀ schema, probeSchema.value? root = some (.text schema) →
    ∃ table, probeTable.value? root = some (.text table)
  columns : ∀ texts : List Loose, Key.columns.value? root = some (.list (texts.map .text)) →
    (∀ text ∈ texts, text.isBlank = false) ∧ (texts.map Loose.lower).Nodup

/-- The keys whose values have another type than is asked of them. -/
inductive Mistyped (root : Entries) : String → Prop
  | group {group : String} {value : Datum} (asked : group ∈ "pattern" :: requiredGroups)
      (found : root.get? group = some value) (some : value ≠ .null)
      (other : ∀ entries, value ≠ .mapping entries) : Mistyped root group
  | value {key : Key} {value : Datum} (asked : key ∈ keys) (found : key.value? root = some value)
      (other : ¬key.kind.Admits value) : Mistyped root key.name
  | item {key : Key} {items : List Datum} {index : Nat} {item : Datum} (asked : key ∈ keys)
      (kind : key.kind = .strings) (found : key.value? root = some (.list items))
      (at_ : items[index]? = some item) (other : ∀ text, item ≠ .text text) :
      Mistyped root (itemKey key.name index)

/-- The keys that are missing, and those whose values have the type that is asked of them but cannot be used. -/
inductive Unfit (environment : LooseEnvironment) (root : Entries) : String → Prop
  | missingGroup {group : String} (asked : group ∈ requiredGroups)
      (missing : root.get? group = none ∨ root.get? group = some .null) : Unfit environment root group
  | missing {key : Key} {entries : Entries} (asked : key ∈ keys) (required : key.isRequired = true)
      (within : root.get? key.group = some (.mapping entries)) (missing : entries.get? key.field = none) :
      Unfit environment root key.name
  | level {level : Loose} (found : logLevel.value? root = some (.text level)) (unknown : level.upper ∉ levels) :
      Unfit environment root logLevel.name
  | directory {directory : Loose} (toFile : logToFile.value? root = some (.bool true))
      (found : logDirectory.value? root = some (.text directory)) (blank : directory.isBlank = true) :
      Unfit environment root logDirectory.name
  | path {path : Loose} (found : databasePath.value? root = some (.text path)) (blank : path.isBlank = true)
      (effective : effectivePath environment root path = path) : Unfit environment root databasePath.name
  | splitter {name : Loose} (found : Key.tokenizer.value? root = some (.text name)) (other : ¬IsName name) :
      Unfit environment root Key.tokenizer.name
  | table {table : Loose} (found : probeTable.value? root = some (.text table))
      (blank : table.isBlank = true) : Unfit environment root probeTable.name
  | beside {table : Loose} {items : List Datum} (found : probeTable.value? root = some (.text table))
      (listed : Key.columns.value? root = some (.list items)) (some : items ≠ []) :
      Unfit environment root Key.columns.name
  | schema {schema : Loose} (found : probeSchema.value? root = some (.text schema))
      (alone : ∀ table, probeTable.value? root ≠ some (.text table)) : Unfit environment root probeSchema.name
  | column {texts : List Loose} {index : Nat} {text : Loose}
      (found : Key.columns.value? root = some (.list (texts.map .text))) (at_ : texts[index]? = some text)
      (blank : text.isBlank = true) : Unfit environment root (itemKey Key.columns.name index)
  | duplicates {texts : List Loose} (found : Key.columns.value? root = some (.list (texts.map .text)))
      (twice : ¬(texts.map Loose.lower).Nodup) : Unfit environment root Key.columns.name

variable {environment : LooseEnvironment} {root : Entries} {path : String}

end TextQuery.Settings
