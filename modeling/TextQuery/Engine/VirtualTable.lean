import TextQuery.Engine.IndexOptions
import TextQuery.Engine.IndexRecord
import TextQuery.Text.Identifier

set_option autoImplicit false

namespace TextQuery.Engine

open Text

def constructorFailed (table : String) : Fault :=
  .operational ("vtable constructor failed: " ++ table)

namespace TokenTable

def readName (name : String) : Except Fault String :=
  let word := dropFinalBreak name.toList
  match word with
  | c :: _ =>
    if Number.isDigit c && !isReadable word then
      .error (unrecognized word)
    else .ok (String.ofList word)
  | [] => .ok ""

def sql (table : String) (choice : TokenizerChoice) : String :=
  "CREATE VIRTUAL TABLE " ++ identifier table ++ " USING fts3tokenize(" ++ choice.descriptor ++ ")"

def splitter (table name : String) (arguments : List String) : Except Fault Token.Splitter :=
  match Token.Splitter.ofChoice name arguments with
  | .ok splitter => .ok splitter
  | .error .unknownName => .error (.operational ("unknown tokenizer: " ++ name))
  | .error .badArgument => .error (constructorFailed table)

def replaceByte (byte : UInt8) : Char :=
  if byte < 0x80 then Char.ofNat byte.toNat else '\uFFFD'

def shownBytes : Nat := 198

def undecodable (bytes : List UInt8) : Fault :=
  let shown := String.ofList ((bytes.take shownBytes).map replaceByte)
  ⟨.operational, "Could not decode to UTF-8 column 'token' with text '" ++ shown ++ "'", none⟩

end TokenTable

namespace FullText

def argumentLimit : Nat := 1994

def hasRepeated : List String → Bool
  | [] => false
  | name :: rest => rest.any (sameName name) || hasRepeated rest

def checkColumns (table : String) (index : FullText) : Except Fault Unit :=
  if index.columns.isEmpty || hasRepeated (table :: index.columns) then
    .error (constructorFailed table)
  else .ok ()

def sql (table clause : String) (parts : List String) : String :=
  "CREATE VIRTUAL TABLE " ++ identifier table ++ " " ++ clause ++ "("
    ++ String.intercalate ", " parts ++ ")"

def indexName (table part : String) : String := table ++ "_" ++ part

def dataPart : String := "data"
def termsPart : String := "idx"
def contentsPart : String := "content"
def sizesPart : String := "docsize"
def settingsPart : String := "config"

def indexSql (table part columns : String) : String :=
  "CREATE TABLE " ++ enclosed '\'' (indexName table part) ++ "(" ++ columns ++ ")"

def idColumn : Column := ⟨"id", "INTEGER"⟩

def plainColumns (names : List String) : List Column := names.map fun name => ⟨name, ""⟩

def contentNames (index : FullText) : List String :=
  (List.range index.columns.length).map fun position => "c" ++ toString position

def numberedTable (table part : String) (columns : List Column) (rows : List StoredRow) : Table :=
  let texts := columns.map fun column =>
    column.name ++ (if column.declared.isEmpty then "" else " " ++ column.declared)
  ⟨indexName table part,
    indexSql table part (String.intercalate ", " ("id INTEGER PRIMARY KEY" :: texts)),
    .ordinary { columns := idColumn :: columns, primaryKey := ["id"] } rows⟩

def keyedTable (table part : String) (names key : List String) (columns : String)
    (rows : List StoredRow) : Table :=
  ⟨indexName table part, indexSql table part columns ++ " WITHOUT ROWID",
    .ordinary { columns := plainColumns names, primaryKey := key, withoutRowid := true } rows⟩

def indexParts (index : FullText) : List String :=
  [dataPart, termsPart] ++ (if index.contents = .own then [contentsPart] else [])
    ++ (if index.keepsSizes then [sizesPart] else []) ++ [settingsPart]

def indexTables (table : String) (index : FullText) : List Table :=
  index.indexParts.map fun part =>
    match part with
    | "data" => numberedTable table part [⟨"block", "BLOB"⟩] IndexRecord.emptyIndex
    | "idx" =>
      keyedTable table part ["segid", "term", "pgno"] ["segid", "term"]
        "segid, term, pgno, PRIMARY KEY(segid, term)" []
    | "content" => numberedTable table part (plainColumns index.contentNames) []
    | "docsize" => numberedTable table part [⟨"sz", "BLOB"⟩] []
    | _ => keyedTable table part ["k", "v"] ["k"] "k PRIMARY KEY, v" [IndexRecord.version]

end FullText

end TextQuery.Engine
