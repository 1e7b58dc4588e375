import TextQuery.Report
import TextQuery.Proofs.Document.JsonReading

set_option autoImplicit false

namespace TextQuery

open Document

namespace Report

def textOf? : Document → Option String
  | .text value => some value
  | _ => none

def numberOf? : Document → Option Int
  | .int value => some value
  | _ => none

def patternOf? : Document → Option Pattern
  | .text value => some ⟨value⟩
  | _ => none

def optionalOf? {α : Type} (read : Document → Option α) : Document → Option (Option α)
  | .null => some none
  | value => (read value).map some

def listOf? {α : Type} (read : Document → Option α) : Document → Option (List α)
  | .list items => items.mapM read
  | _ => none

def pairOf? : Document → Option ColumnPair
  | .mapping [("origin", origin), ("destination", destination)] => do
    return { origin := ← textOf? origin, destination := ← textOf? destination }
  | _ => none

def keyOf? : Document → Option ForeignKey
  | .mapping [("id", id), ("destination_table", destinationTable), ("mapping", pairs), ("on_update", onUpdate),
      ("on_delete", onDelete), ("match", matching)] => do
    return {
      id := ← numberOf? id
      destinationTable := ← textOf? destinationTable
      mapping := ← listOf? pairOf? pairs
      onUpdate := ← textOf? onUpdate
      onDelete := ← textOf? onDelete
      matching := ← textOf? matching }
  | _ => none

def violationOf? : Document → Option Violation
  | .mapping [("origin_table", originTable), ("origin_rowid", originRowid), ("destination_table", destinationTable),
      ("foreign_key_id", foreignKeyId)] => do
    return {
      originTable := ← textOf? originTable
      originRowid := ← optionalOf? numberOf? originRowid
      destinationTable := ← textOf? destinationTable
      foreignKeyId := ← numberOf? foreignKeyId }
  | _ => none

def ofDocument? : Document → Option Report
  | .mapping [("input", input), ("mode", mode), ("pattern", made)] => do
    return .pattern (← textOf? input) (← Mode.ofName? (← textOf? mode)) (← optionalOf? patternOf? made)
  | .mapping [("input", input), ("tokens", words)] => do
    return .tokens (← textOf? input) (← listOf? textOf? words)
  | .mapping [("table", table), ("foreign_keys", keys)] => do
    return .foreignKeys (← textOf? table) (← listOf? keyOf? keys)
  | .mapping [("violations", rows)] => do
    return .violations (← listOf? violationOf? rows)
  | _ => none

theorem listOf?_map {α : Type} (read : Document → Option α) (write : α → Document)
    (reads : ∀ value, read (write value) = some value) (values : List α) :
    listOf? read (.list (values.map write)) = some values := by
  have each : (values.map write).mapM read = some values := by
    induction values with
    | nil => rfl
    | cons value values ih => rw [List.map_cons, List.mapM_cons, reads, ih]; rfl
  exact each

theorem optionalOf?_optional {α : Type} (read : Document → Option α) (write : α → Document)
    (reads : ∀ value, read (write value) = some value) (some : ∀ value, write value ≠ .null) (value : Option α) :
    optionalOf? read (optional write value) = .some value := by
  cases value with
  | none => rfl
  | some value =>
    rw [optional, optionalOf?, reads]
    · rfl
    · exact some value

theorem keyOf?_keyDocument (key : ForeignKey) : keyOf? (keyDocument key) = some key := by
  have pairs := listOf?_map pairOf? pairDocument (fun _ => rfl) key.mapping
  simp [keyOf?, keyDocument, textOf?, numberOf?, pairs]

theorem violationOf?_violationDocument (violation : Violation) :
    violationOf? (violationDocument violation) = some violation := by
  have rowid := optionalOf?_optional numberOf? Document.int (fun _ => rfl) (fun _ => nofun)
    violation.originRowid
  simp [violationOf?, violationDocument, textOf?, numberOf?, rowid]

theorem ofDocument?_toDocument (report : Report) : ofDocument? report.toDocument = some report := by
  cases report with
  | pattern input mode made =>
    have known : Mode.ofName? mode.name = some mode := by
      cases mode <;> decide
    have found := optionalOf?_optional patternOf? (fun found => .text found.serialize)
      (fun _ => rfl) (fun _ => nofun) made
    simp [ofDocument?, toDocument, textOf?, known, found]
  | tokens input words =>
    have texts := listOf?_map textOf? Document.text (fun _ => rfl) words
    simp [ofDocument?, toDocument, textOf?, texts]
  | foreignKeys table keys => simp [ofDocument?, toDocument, textOf?, listOf?_map _ _ keyOf?_keyDocument]
  | violations rows => simp [ofDocument?, toDocument, listOf?_map _ _ violationOf?_violationDocument]

theorem isJson_optional {α : Type} {write : α → Document} (json : ∀ value, IsJson (write value))
    (value : Option α) : IsJson (optional write value) := by
  cases value with
  | none => exact .null
  | some value => exact json value

theorem isJson_map {α : Type} {write : α → Document} (json : ∀ value, IsJson (write value)) (values : List α) :
    IsJson (.list (values.map write)) := by
  refine .list fun item member => ?_
  obtain ⟨value, -, rfl⟩ := List.mem_map.1 member
  exact json value

theorem isJson_pairDocument (pair : ColumnPair) : IsJson (pairDocument pair) :=
  .mapping (by simp [IsJson.text])

theorem isJson_keyDocument (key : ForeignKey) : IsJson (keyDocument key) :=
  .mapping (by simp [IsJson.text, IsJson.int, isJson_map isJson_pairDocument])

theorem isJson_violationDocument (violation : Violation) : IsJson (violationDocument violation) :=
  .mapping (by simp [IsJson.text, IsJson.int, isJson_optional IsJson.int])

theorem isJson_toDocument (report : Report) : IsJson report.toDocument := by
  cases report with
  | pattern input mode made =>
    exact .mapping (by simp [IsJson.text, isJson_optional fun found : Pattern => IsJson.text found.serialize])
  | tokens input words => exact .mapping (by simp [IsJson.text, isJson_map IsJson.text])
  | foreignKeys table keys => exact .mapping (by simp [IsJson.text, isJson_map isJson_keyDocument])
  | violations rows => exact .mapping (by simp [isJson_map isJson_violationDocument])

-- The brace that closes the mapping.
theorem getLast?_toIndentedJson (report : Report) : report.toDocument.toIndentedJson.toList.getLast? = some '\x7d' := by
  have closed (entry : String × Document) (entries : Entries) :
      (toIndentedJson (.mapping (entry :: entries))).toList.getLast? = some '\x7d' := by
    rw [toIndentedJson, String.toList_ofList, JsonText.write, ← List.cons_append, List.getLast?_concat]
  cases report <;> exact closed _ _

/-- Whatever a report holds, its JSON is a document with one line break behind it. The text is read as the document,
nothing of the report is missing there, and no other report has this text. -/
theorem json_read_back (report : Report) : ∃ body : String,
    report.render .json = body ++ "\n" ∧ body.toList.getLast? = some '\x7d' ∧
      Document.ofJson? (report.render .json) = some report.toDocument ∧
      ofDocument? report.toDocument = some report ∧
      ∀ other : Report, other.render .json = report.render .json ↔ other = report := by
  have read (report : Report) : Document.ofJson? (report.render .json) = some report.toDocument := by
    have text : report.render .json = String.ofList (JsonText.write (some 0) report.toDocument ++ ['\n']) := by
      rw [String.ofList_append]
      rfl
    rw [text]
    exact ofJson?_write report.isJson_toDocument (some 0) (List.forall_mem_singleton.2 rfl)
  refine ⟨_, rfl, getLast?_toIndentedJson report, read report, ofDocument?_toDocument report, fun other => ?_⟩
  constructor
  · intro same
    have documents : some other.toDocument = some report.toDocument := by
      rw [← read other, ← read report, same]
    have reports : some other = some report := by
      rw [← ofDocument?_toDocument other, ← ofDocument?_toDocument report, Option.some.inj documents]
    exact Option.some.inj reports
  · rintro rfl
    rfl

end Report

end TextQuery
