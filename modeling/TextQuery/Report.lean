import TextQuery.Candidate
import TextQuery.Document.JsonText
import TextQuery.Failure
import TextQuery.Pattern

set_option autoImplicit false

namespace TextQuery

inductive Format where
  | text
  | json
deriving DecidableEq, Repr

namespace Format

def name : Format → String
  | .text => "text"
  | .json => "json"

def values : List Format := [.text, .json]

def ofName (name : String) : Except Failure Format :=
  match values.find? fun format => format.name == name with
  | some format => .ok format
  | none => .error (.unknownFormat name)

end Format

inductive Report where
  | pattern (input : String) (mode : Mode) (made : Option Pattern)
  | tokens (input : String) (words : List String)
  | foreignKeys (table : String) (keys : List ForeignKey)
  | violations (rows : List Violation)
deriving DecidableEq, Repr

namespace Report

open Text

def found : Report → Bool
  | .pattern _ _ made => made.isSome
  | .tokens _ words => !words.isEmpty
  | .foreignKeys _ _ => true
  | .violations rows => rows.isEmpty

def lines (texts : List String) : String := String.join (texts.map fun line => line ++ "\n")

def numberedFrom : Nat → List String → List String
  | _, [] => []
  | number, text :: rest => (toString number ++ ". " ++ text) :: numberedFrom (number + 1) rest

def columnList (columns : List String) : String := "(" ++ String.intercalate ", " columns ++ ")"

def keyLines (table : String) (key : ForeignKey) : List String := [
  "#" ++ toString key.id ++ " " ++ table ++ columnList key.originColumns ++ " -> "
    ++ key.destinationTable ++ columnList key.destinationColumns,
  "   ON UPDATE " ++ key.onUpdate ++ "  ON DELETE " ++ key.onDelete]

def violationLine (violation : Violation) : String :=
  let rowid := match violation.originRowid with
    | none => "-"
    | some rowid => toString rowid
  violation.originTable ++ " rowid=" ++ rowid ++ " -> " ++ violation.destinationTable
    ++ " (key #" ++ toString violation.foreignKeyId ++ ")"

def toText : Report → String
  | .pattern input mode none =>
    lines ["No searchable token in " ++ quoted input ++ " (mode=" ++ mode.name ++ ")"]
  | .pattern _ _ (some made) => lines [made.serialize]
  | .tokens input [] => lines ["No token in " ++ quoted input]
  | .tokens _ words => lines (numberedFrom 1 words)
  | .foreignKeys table [] => lines [table ++ ": no foreign key"]
  | .foreignKeys table keys => lines (keys.flatMap (keyLines table))
  | .violations [] => lines ["No foreign key violation"]
  | .violations rows => lines (rows.map violationLine)

def pairDocument (pair : ColumnPair) : Document :=
  .mapping [("origin", .text pair.origin), ("destination", .text pair.destination)]

def keyDocument (key : ForeignKey) : Document := .mapping [
  ("id", .int key.id),
  ("destination_table", .text key.destinationTable),
  ("mapping", .list (key.mapping.map pairDocument)),
  ("on_update", .text key.onUpdate),
  ("on_delete", .text key.onDelete),
  ("match", .text key.matching)]

def optional {α : Type} (write : α → Document) : Option α → Document
  | none => .null
  | some value => write value

def violationDocument (violation : Violation) : Document := .mapping [
  ("origin_table", .text violation.originTable),
  ("origin_rowid", optional Document.int violation.originRowid),
  ("destination_table", .text violation.destinationTable),
  ("foreign_key_id", .int violation.foreignKeyId)]

def toDocument : Report → Document
  | .pattern input mode made => .mapping [
    ("input", .text input),
    ("mode", .text mode.name),
    ("pattern", optional (fun found => .text found.serialize) made)]
  | .tokens input words => .mapping [
    ("input", .text input),
    ("tokens", .list (words.map Document.text))]
  | .foreignKeys table keys => .mapping [
    ("table", .text table),
    ("foreign_keys", .list (keys.map keyDocument))]
  | .violations rows => .mapping [
    ("violations", .list (rows.map violationDocument))]

def render : Format → Report → String
  | .text, report => report.toText
  | .json, report => report.toDocument.toIndentedJson ++ "\n"

end Report

end TextQuery
