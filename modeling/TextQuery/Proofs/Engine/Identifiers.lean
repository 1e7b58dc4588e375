import TextQuery.Proofs.Engine.Lexemes

set_option autoImplicit false

namespace TextQuery.Engine

open Text Sql

namespace Statement

variable {α : Type}

def names : Statement α → List String
  | .createTokens table _ | .selectTokens table _ => [table]
  | .createProbe table columns => table :: columns
  | .matchProbe (.helper table) _ => [table, table]
  | .matchProbe (.located schema table) _ => [schema, table, table]
  | .databaseList => []
  | .tableExists schema _ | .tableSql schema _ => [schema]
  | .tableInfo schema table | .foreignKeyList schema table | .selectRow schema table _ => [schema, table]
  | .foreignKeyCheck schema table => schema :: table.toList

def Named : Statement α → Prop
  | .createTokens _ choice => isIdentifier choice.name = true
  | _ => True

def parts : Statement α → List Part
  | .createTokens table choice =>
    [.fixed "CREATE VIRTUAL TABLE IF NOT EXISTS temp.", .name table] ++ .fixed " USING fts3tokenize(" ::
      (Part.listed (.fixed choice.name :: choice.arguments.map (.enclosed .single)) ++ [.close])
  | .selectTokens table _ =>
    [.fixed "SELECT token FROM temp.", .name table, .fixed " WHERE input = ? ORDER BY position"]
  | .createProbe table columns =>
    [.fixed "CREATE VIRTUAL TABLE IF NOT EXISTS temp.", .name table] ++ .fixed " USING fts5(" ::
      (Part.listed (columns.map .name) ++ [.close])
  | .matchProbe (.helper table) _ =>
    [.fixed "SELECT rowid FROM ", .fixed "temp.", .name table, .fixed " WHERE ", .name table, .fixed " MATCH ?"]
  | .matchProbe (.located schema table) _ =>
    [.fixed "SELECT rowid FROM ", .name schema, .fixed ".", .name table, .fixed " WHERE ", .name table,
      .fixed " MATCH ?"]
  | .databaseList => [.fixed "PRAGMA database_list"]
  | .tableExists schema _ => [.fixed "SELECT 1 FROM ", .name schema, .fixed ".sqlite_master",
    .fixed " WHERE type IN ('table', 'view') AND name = ? COLLATE NOCASE"]
  | .tableSql schema _ => [.fixed "SELECT sql FROM ", .name schema, .fixed ".sqlite_master",
    .fixed " WHERE type = 'table' AND name = ? COLLATE NOCASE"]
  | .tableInfo schema table =>
    [.fixed "PRAGMA ", .name schema, .fixed ".", .fixed "table_info(", .name table, .close]
  | .foreignKeyList schema table =>
    [.fixed "PRAGMA ", .name schema, .fixed ".", .fixed "foreign_key_list(", .name table, .close]
  | .foreignKeyCheck schema none => [.fixed "PRAGMA ", .name schema, .fixed ".", .fixed "foreign_key_check"]
  | .foreignKeyCheck schema (some table) =>
    [.fixed "PRAGMA ", .name schema, .fixed ".", .fixed "foreign_key_check(", .name table, .close]
  | .selectRow schema table _ =>
    [.fixed "SELECT * FROM ", .name schema, .fixed ".", .name table, .fixed " WHERE rowid = ?"]

-- The text of each statement is given here as it stands in its definition.
theorem toList_text (statement : Statement α) : statement.text.toList = statement.parts.flatMap Part.characters := by
  have fixed (text : String) : (Part.fixed text).characters = text.toList := rfl
  have quoted (name : String) : (identifier name).toList = (Part.name name).characters := by
    exact String.toList_ofList
  have closing : ")".toList = Part.close.characters := rfl
  cases statement with
  | createTokens table choice =>
    have list := Part.toList_listed (.fixed choice.name :: choice.arguments.map (.enclosed .single))
    have descriptor : choice.descriptor.toList =
        (Part.listed (.fixed choice.name :: choice.arguments.map (.enclosed .single))).flatMap Part.characters := by
      rw [← list, List.map_cons, List.map_map, fixed, String.ofList_toList]
      rfl
    change ("CREATE VIRTUAL TABLE IF NOT EXISTS temp." ++ identifier table ++ " USING fts3tokenize("
      ++ choice.descriptor ++ ")").toList = _
    simp only [String.toList_append, quoted, descriptor, closing]
    simp [parts, fixed]
  | selectTokens table input =>
    change ("SELECT token FROM temp." ++ identifier table ++ " WHERE input = ? ORDER BY position").toList = _
    simp [parts, quoted, fixed]
  | createProbe table columns =>
    have list := Part.toList_listed (columns.map Part.name)
    have columnList : (String.intercalate ", " (columns.map identifier)).toList =
        (Part.listed (columns.map Part.name)).flatMap Part.characters := by
      rw [← list, List.map_map]
      rfl
    change ("CREATE VIRTUAL TABLE IF NOT EXISTS temp." ++ identifier table ++ " USING fts5("
      ++ String.intercalate ", " (columns.map identifier) ++ ")").toList = _
    simp only [String.toList_append, quoted, columnList, closing]
    simp [parts, fixed]
  | matchProbe target =>
    change ("SELECT rowid FROM " ++ source target ++ " WHERE " ++ identifier target.table ++ " MATCH ?").toList = _
    cases target <;> simp [parts, source, Target.table, quoted, fixed]
  | databaseList =>
    change "PRAGMA database_list".toList = _
    simp [parts, fixed]
  | tableExists schema table =>
    change ("SELECT 1 FROM " ++ catalog schema
      ++ " WHERE type IN ('table', 'view') AND name = ? COLLATE NOCASE").toList = _
    simp [parts, catalog, quoted, fixed]
  | tableSql schema table =>
    change ("SELECT sql FROM " ++ catalog schema ++ " WHERE type = 'table' AND name = ? COLLATE NOCASE").toList = _
    simp [parts, catalog, quoted, fixed]
  | tableInfo schema table =>
    change (pragma schema "table_info(" ++ identifier table ++ ")").toList = _
    simp [parts, pragma, quoted, fixed, closing]
  | foreignKeyList schema table =>
    change (pragma schema "foreign_key_list(" ++ identifier table ++ ")").toList = _
    simp [parts, pragma, quoted, fixed, closing]
  | foreignKeyCheck schema table =>
    cases table with
    | none =>
      change (pragma schema "foreign_key_check").toList = _
      simp [parts, pragma, quoted, fixed]
    | some table =>
      change (pragma schema "foreign_key_check(" ++ identifier table ++ ")").toList = _
      simp [parts, pragma, quoted, fixed, closing]
  | selectRow schema table =>
    change ("SELECT * FROM " ++ identifier schema ++ "." ++ identifier table ++ " WHERE rowid = ?").toList = _
    simp [parts, quoted, fixed]

theorem listable_identifier {name : String} (known : isIdentifier name = true) : Part.Listable (.fixed name) := by
  obtain ⟨c, rest, text⟩ := List.exists_cons_of_ne_nil fun none : name.toList = [] =>
    Arguments.dropFinalBreak_ne_nil known (by simp [dropFinalBreak, none])
  refine ⟨fun front complete => ?_, ?_, ?_⟩
  · simp [Part.endsBefore, Part.characters, text, complete, Place.next?]
  · rcases scan_identifier known with scanned | scanned <;>
      simp [Part.endsBefore, Part.comma, Part.characters, scanned, Place.next?, isLetter]
  · rcases scan_identifier known with scanned | scanned <;>
      simp [Part.endsBefore, Part.close, Part.characters, scanned, Place.next?, isLetter]

theorem linked_parts {statement : Statement α} (named : statement.Named) : Part.linked statement.parts = true := by
  cases statement with
  | createTokens table choice =>
    have list : Part.linked (.fixed " USING fts3tokenize(" ::
        (Part.listed (.fixed choice.name :: choice.arguments.map (.enclosed .single)) ++ [.close])) = true := by
      refine Part.linked_listed rfl ?_
      rw [List.forall_mem_cons, List.forall_mem_map]
      exact ⟨listable_identifier named, fun _ _ => Part.listable_enclosed _ _⟩
    exact list
  | createProbe table columns =>
    have list : Part.linked (.fixed " USING fts5(" :: (Part.listed (columns.map Part.name) ++ [.close])) = true := by
      refine Part.linked_listed rfl ?_
      rw [List.forall_mem_map]
      exact fun _ _ => Part.listable_enclosed _ _
    exact list
  | matchProbe target => cases target <;> rfl
  | foreignKeyCheck schema table => cases table <;> rfl
  | selectTokens | databaseList | tableExists | tableSql | tableInfo | foreignKeyList | selectRow => rfl

theorem lexemes_text {statement : Statement α} (named : statement.Named) :
    lexemes statement.text.toList = statement.parts.flatMap Part.lexemes := by
  rw [toList_text, Part.lexemes_linked (linked_parts named)]

theorem names_parts {statement : Statement α} (named : statement.Named) :
    (statement.parts.flatMap Part.lexemes).filterMap Lexeme.name? = statement.names.map String.toList := by
  have quoted (name : String) : (Part.name name).lexemes.filterMap Lexeme.name? = [name.toList] := rfl
  have creation : (Part.fixed "CREATE VIRTUAL TABLE IF NOT EXISTS temp.").lexemes.filterMap Lexeme.name? = [] := by
    decide
  have closing : Part.close.lexemes.filterMap Lexeme.name? = [] := rfl
  cases statement with
  | createTokens table choice =>
    have module : (Part.fixed " USING fts3tokenize(").lexemes.filterMap Lexeme.name? = [] := by decide
    have word : (Part.fixed choice.name).lexemes.filterMap Lexeme.name? = [] := by
      rcases scan_identifier named with scanned | scanned <;>
        simp [Part.lexemes, lexemes, scanned, Place.lexemes, Lexeme.name?]
    have literals : ((choice.arguments.map (Part.enclosed .single)).flatMap Part.lexemes).filterMap Lexeme.name? =
        [] := by
      rw [List.flatMap_map, List.filterMap_flatMap, List.flatMap_eq_nil_iff]
      exact fun _ _ => rfl
    simp [parts, names, Part.names_listed, quoted, creation, module, word, literals, closing]
  | createProbe table columns =>
    have module : (Part.fixed " USING fts5(").lexemes.filterMap Lexeme.name? = [] := by decide
    have list : ((columns.map Part.name).flatMap Part.lexemes).filterMap Lexeme.name? = columns.map String.toList := by
      rw [List.flatMap_map, List.filterMap_flatMap]
      exact List.map_eq_flatMap.symm
    simp [parts, names, Part.names_listed, quoted, creation, module, list, closing]
  | tableExists schema table =>
    have clause : (Part.fixed " WHERE type IN ('table', 'view') AND name = ? COLLATE NOCASE").lexemes.filterMap
        Lexeme.name? = [] := by decide +kernel
    have front : (Part.fixed "SELECT 1 FROM ").lexemes.filterMap Lexeme.name? = [] ∧
      (Part.fixed ".sqlite_master").lexemes.filterMap Lexeme.name? = [] := by decide
    simp [parts, names, quoted, front, clause]
  | tableSql schema table =>
    have clause : (Part.fixed " WHERE type = 'table' AND name = ? COLLATE NOCASE").lexemes.filterMap
        Lexeme.name? = [] := by decide +kernel
    have front : (Part.fixed "SELECT sql FROM ").lexemes.filterMap Lexeme.name? = [] ∧
      (Part.fixed ".sqlite_master").lexemes.filterMap Lexeme.name? = [] := by decide
    simp [parts, names, quoted, front, clause]
  | matchProbe target => cases target <;> rfl
  | foreignKeyCheck schema table => cases table <;> rfl
  | selectTokens | databaseList | tableInfo | foreignKeyList | selectRow => rfl

def readFurther : List Lexeme → Option (List (List Char))
  | [] => some []
  | .sign ',' :: .enclosed '"' name :: rest => (readFurther rest).map (name :: ·)
  | _ => none

def readNames : List Lexeme → Option (List (List Char))
  | [] => some []
  | .enclosed '"' name :: rest => (readFurther rest).map (name :: ·)
  | _ => none

theorem lexemes_listed (column : String) (columns : List String) :
    (Part.listed ((column :: columns).map Part.name)).flatMap Part.lexemes = .enclosed '"' column.toList ::
      columns.flatMap fun column => [.sign ',', .enclosed '"' column.toList] := by
  induction columns generalizing column with
  | nil => rfl
  | cons next columns ih =>
    have between : Part.comma.lexemes = [.sign ','] := by decide
    have quoted : (Part.name column).lexemes = [.enclosed '"' column.toList] := rfl
    simp only [List.map_cons, Part.listed, List.intersperse_cons_cons, List.flatMap_cons] at ih ⊢
    rw [ih, between, quoted]
    rfl

theorem readNames_listed (columns : List String) :
    readNames ((Part.listed (columns.map Part.name)).flatMap Part.lexemes) = some (columns.map String.toList) := by
  have further (columns : List String) :
      readFurther (columns.flatMap fun column => [.sign ',', .enclosed '"' column.toList]) =
        some (columns.map String.toList) := by
    induction columns with
    | nil => rfl
    | cons column columns ih => simp [readFurther, ih]
  cases columns with
  | nil => rfl
  | cons column columns =>
    rw [lexemes_listed, readNames, further]
    rfl

theorem toList_identifier (name : String) :
    (identifier name).toList = '"' :: (doubled '"' name.toList ++ ['"']) := String.toList_ofList

theorem lexemes_identifier (name : String) {rest : List Char} (ends : rest.head? ≠ some '"') :
    lexemes ((identifier name).toList ++ rest) = .enclosed '"' name.toList :: lexemes rest := by
  have scanned : scan (identifier name).toList = (.behind '"' name.toList, []) := by
    rw [toList_identifier]
    exact scan_enclosed .double name.toList
  have apart (c : Char) (first : rest.head? = some c) : (scan (identifier name).toList).1.next? c = none := by
    have other : c ≠ '"' := fun same => ends (same ▸ first)
    simp [scanned, Place.next?, other]
  rw [lexemes_append apart, lexemes, scanned]
  rfl

theorem identifier_inj {name other : String} (same : identifier other = identifier name) : other = name := by
  have read := @lexemes_identifier other [] (by simp)
  rw [same, lexemes_identifier name (by simp)] at read
  exact String.toList_injective (by simpa using read.symm)

/-- A name between double quotes is read as that name, up to whatever follows it, unless that is a double quote. So
in each statement every name is one identifier, and the rest of the statement is read as it would be beside any other
names; the columns of a helper table are read as the list of these columns; and different names are quoted differently.
Statements for tokenizers are those of the names that a tokenizer may have. -/
theorem names_read_back {statement : Statement α} (named : statement.Named) {rest : List Char}
    (ends : rest.head? ≠ some '"') (name table : String) (columns : List String) :
    (∃ behind, (identifier name).toList ++ rest = '"' :: behind ∧
      readEnclosed '"' behind = some (name.toList, rest)) ∧
    lexemes ((identifier name).toList ++ rest) = .enclosed '"' name.toList :: lexemes rest ∧
    lexemes statement.text.toList = statement.parts.flatMap Part.lexemes ∧
    (lexemes statement.text.toList).filterMap Lexeme.name? = statement.names.map String.toList ∧
    (∃ list, lexemes (createProbe table columns).text.toList =
        lexemes "CREATE VIRTUAL TABLE IF NOT EXISTS temp.".toList ++ .enclosed '"' table.toList ::
          lexemes " USING fts5(".toList ++ list ++ [.sign ')'] ∧
      readNames list = some (columns.map String.toList)) ∧
    ∀ other, identifier other = identifier name ↔ other = name := by
  refine ⟨⟨doubled '"' name.toList ++ '"' :: rest, by simp [toList_identifier], readEnclosed_doubled _ ends⟩,
    lexemes_identifier name ends, lexemes_text named, ?_, ⟨_, ?_, readNames_listed columns⟩,
    fun other => ⟨identifier_inj, congrArg identifier⟩⟩
  · rw [lexemes_text named, names_parts named]
  · have closing : Part.close.lexemes = [.sign ')'] := by decide
    have created : (createProbe table columns).Named := trivial
    rw [lexemes_text created]
    simp only [parts, List.flatMap_append, List.flatMap_cons, List.flatMap_nil, List.append_nil, closing]
    simp [Part.name, Part.lexemes, Mark.double]

-- Columns that would close their quotes, the list and the statement; a name that ends with a quote before a dot.
theorem names_read_back_quotes :
    let columns := ["\"", "a\", \"b", "\"\")--", ""]
    let statement := Statement.foreignKeyCheck "m\"" (some "t\"); DROP TABLE \"t")
    statement.text = "PRAGMA \"m\"\"\".foreign_key_check(\"t\"\"); DROP TABLE \"\"t\")" ∧
    (lexemes statement.text.toList).filterMap Lexeme.name? = ["m\"", "t\"); DROP TABLE \"t"].map String.toList ∧
    lexemes ((identifier "m\"").toList ++ ".t".toList) =
      [.enclosed '"' "m\"".toList, .sign '.', .word "t".toList] ∧
    ∃ list, lexemes (createProbe "p" columns).text.toList =
        lexemes "CREATE VIRTUAL TABLE IF NOT EXISTS temp.".toList ++ .enclosed '"' "p".toList ::
          lexemes " USING fts5(".toList ++ list ++ [.sign ')'] ∧
      readNames list = some (columns.map String.toList) := by
  intro columns statement
  have named : statement.Named := trivial
  have ends : ".t".toList.head? ≠ some '"' := by decide
  obtain ⟨-, first, -, names, list, -⟩ := names_read_back named ends "m\"" "p" columns
  exact ⟨by decide, names, first, list⟩

end Statement

end TextQuery.Engine
