import TextQuery.Proofs.Engine.Keeping
import TextQuery.Settings

set_option autoImplicit false

namespace TextQuery

def LogSettings.loose (log : LogSettings) : LooseLog where
  level := log.level
  toFile := log.toFile
  directory := log.directory

def StorageSettings.loose (storage : StorageSettings) : LooseStorage where
  path := storage.path
  pathVariable := storage.pathVariable

def CompilerSettings.loose (settings : CompilerSettings) : LoosePattern where
  tokenizer := settings.tokenizer
  arguments := settings.arguments.map Loose.ofString
  probeTable := settings.probeTable.map Loose.ofString
  probeSchema := settings.probeSchema.map Loose.ofString
  columns := settings.columns.map Loose.ofString

namespace Settings

open Engine

def loose (settings : Settings) : LooseSettings where
  log := settings.log.loose
  storage := settings.storage.loose
  pattern := settings.pattern.loose

theorem plainText_eq_ok {text : Loose} {plain : String} : plainText text = .ok plain ↔ text = plain := by
  rw [← Loose.plain?_eq_some, plainText]
  cases text.plain? <;> simp

theorem plainOption_eq_ok {text : Option Loose} {plain : Option String} :
    plainOption text = .ok plain ↔ text = plain.map Loose.ofString := by
  cases text with
  | none => cases plain <;> simp [plainOption]
  | some text =>
    have mapped : plainOption (some text) = .ok plain ↔ ∃ given, plainText text = .ok given ∧ some given = plain := by
      rw [plainOption]
      cases plainText text <;> simp [Except.map]
    rw [mapped]
    cases plain <;> simp [plainText_eq_ok]

theorem mapM_plainText_eq_ok {texts : List Loose} {plains : List String} :
    texts.mapM plainText = .ok plains ↔ texts = plains.map Loose.ofString := by
  induction texts generalizing plains with
  | nil => cases plains <;> simp [pure, Except.pure]
  | cons text texts ih =>
    have step : (text :: texts).mapM plainText = .ok plains ↔
        ∃ plain rest, plainText text = .ok plain ∧ texts.mapM plainText = .ok rest ∧ plain :: rest = plains := by
      rw [List.mapM_cons]
      cases plainText text <;> cases texts.mapM plainText <;> simp [bind, Except.bind, pure, Except.pure]
    rw [step]
    cases plains <;> simp [plainText_eq_ok, ih]

-- The settings of the program are just those of its settings as they were read that have no halves.
theorem ofLoose_eq_ok {read : LooseSettings} {settings : Settings} :
    ofLoose read = .ok settings ↔ read = settings.loose := by
  constructor
  · intro made
    unfold ofLoose at made
    obtain ⟨level, isLevel, made⟩ := exists_of_bind_eq_ok made
    obtain ⟨directory, isDirectory, made⟩ := exists_of_bind_eq_ok made
    obtain ⟨path, isPath, made⟩ := exists_of_bind_eq_ok made
    obtain ⟨name, isName, made⟩ := exists_of_bind_eq_ok made
    obtain ⟨tokenizer, isTokenizer, made⟩ := exists_of_bind_eq_ok made
    obtain ⟨arguments, areArguments, made⟩ := exists_of_bind_eq_ok made
    obtain ⟨table, isTable, made⟩ := exists_of_bind_eq_ok made
    obtain ⟨schema, isSchema, made⟩ := exists_of_bind_eq_ok made
    obtain ⟨columns, areColumns, made⟩ := exists_of_bind_eq_ok made
    cases made
    rw [plainText_eq_ok] at isLevel isDirectory isPath isName isTokenizer
    rw [plainOption_eq_ok] at isTable isSchema
    rw [mapM_plainText_eq_ok] at areArguments areColumns
    rw [loose, LogSettings.loose, StorageSettings.loose, CompilerSettings.loose, ← isLevel, ← isDirectory, ← isPath,
      ← isName, ← isTokenizer, ← areArguments, ← isTable, ← isSchema, ← areColumns]
  · rintro rfl
    have text (given : String) : plainText given = .ok given := plainText_eq_ok.2 rfl
    have option (given : Option String) : plainOption (given.map Loose.ofString) = .ok given := plainOption_eq_ok.2 rfl
    have texts (given : List String) : (given.map Loose.ofString).mapM plainText = .ok given :=
      mapM_plainText_eq_ok.2 rfl
    simp only [ofLoose, loose, LogSettings.loose, StorageSettings.loose, CompilerSettings.loose, text, option, texts]
    rfl

theorem ofEntries_eq_ok {environment : Environment} {root : Datum.Entries} {settings : Settings} :
    ofEntries environment root = .ok settings ↔
      readEntries (looseEnvironment environment) root = .ok settings.loose := by
  unfold ofEntries
  cases readEntries (looseEnvironment environment) root with
  | ok read => exact ofLoose_eq_ok.trans (by simp)
  | error fault => exact ⟨nofun, nofun⟩

end Settings

end TextQuery
