import TextQuery.Proofs.Engine.Making
import TextQuery.Proofs.Validator.Mentioning

set_option autoImplicit false

namespace TextQuery

open Engine Text

namespace Declaration

variable {before : Option Char}

theorem says_columnList (front rest : List Char) (names : List String) :
    Says before (front ++ ((TableDeclaration.columnList names).toList ++ rest)) ↔
      Says before front ∨ AnyMentions names ∨ Says none rest := by
  rw [← anyMentions_identifiers, ← mentions_list, ← says_bracketed]
  simp [TableDeclaration.columnList]

end Declaration

namespace Engine

open Declaration

namespace Reference

def options (reference : Reference) : String :=
  TableDeclaration.clause "ON UPDATE" reference.onUpdate
    ++ TableDeclaration.clause "ON DELETE" reference.onDelete
    ++ TableDeclaration.clause "MATCH" reference.matching

def texts (reference : Reference) : List String :=
  reference.columns ++ reference.table :: (reference.destinations.getD [] ++ [reference.options])

theorem mentions_text (reference : Reference) :
    Mentions (TableDeclaration.referenceText reference) ↔ AnyMentions reference.texts := by
  have words : ¬Says none "FOREIGN KEY ".toList ∧ ¬Says none " REFERENCES ".toList ∧ ¬Says none " ".toList :=
    ⟨not_says_of_lacks (by decide), not_says_of_lacks (by decide), not_says_of_lacks (by decide)⟩
  obtain ⟨aims, known⟩ : ∃ aims, aims = reference.destinations.elim "" fun names =>
      " " ++ TableDeclaration.columnList names := ⟨_, rfl⟩
  have behind : Says none (aims.toList ++ reference.options.toList) ↔
      AnyMentions (reference.destinations.getD []) ∨ Mentions reference.options := by
    rw [known]
    cases reference.destinations with
    | none => simp [Mentions]
    | some names =>
      rw [Option.elim_some, String.toList_append, List.append_assoc, says_columnList]
      simp only [words, false_or, Option.getD_some]
      rfl
  have text : (TableDeclaration.referenceText reference).toList = "FOREIGN KEY ".toList ++
      ((TableDeclaration.columnList reference.columns).toList ++ (" REFERENCES ".toList ++
        ((identifier reference.table).toList ++ (aims.toList ++ reference.options.toList)))) := by
    unfold TableDeclaration.referenceText options
    rw [← known]
    simp only [String.toList_append, List.append_assoc]
  unfold Mentions
  rw [text, says_columnList, says_identifier, behind]
  simp only [words, false_or, texts, anyMentions_append, anyMentions_cons, anyMentions_nil, or_false]

end Reference

namespace TableDeclaration

def texts (declaration : TableDeclaration) : List String :=
  declaration.columns.flatMap (fun column => [column.name, column.declared]) ++ declaration.primaryKey
    ++ declaration.unique.flatten ++ declaration.references.flatMap Reference.texts

theorem mentions_columnText (column : Column) :
    Mentions (columnText column) ↔ AnyMentions [column.name, column.declared] := by
  unfold columnText
  split
  · rename_i empty
    simp [String.isEmpty_iff.1 empty, mentions_identifier, mentions_empty]
  · have said := @says_identifier none [] (' ' :: column.declared.toList) column.name
    rw [says_blank blank_space.1 blank_space.2] at said
    simpa [Mentions, not_says_nil] using said

theorem mentions_columnList (word : String) (lacks : '5' ∉ word.toList) (names : List String) :
    Mentions (word ++ columnList names) ↔ AnyMentions names := by
  have said := @says_columnList none word.toList [] names
  simpa [Mentions, not_says_nil, not_says_of_lacks lacks] using said

theorem mentions_sql (declaration : TableDeclaration) (name : String) :
    Mentions (declaration.sql name) ↔ AnyMentions (name :: declaration.texts) := by
  have words : ¬Says none "CREATE TABLE ".toList ∧ ¬Says none " ".toList :=
    ⟨not_says_of_lacks (by decide), not_says_of_lacks (by decide)⟩
  obtain ⟨behind, tail⟩ : ∃ behind, behind = if declaration.withoutRowid then " WITHOUT ROWID" else "" := ⟨_, rfl⟩
  have nothing : ¬Says none behind.toList := by
    rw [tail]
    split
    · exact not_says_of_lacks (by decide)
    · exact not_says_nil
  unfold sql
  extract_lets key parts
  have keyed : AnyMentions key ↔ AnyMentions declaration.primaryKey := by
    dsimp only [key]
    split
    · rename_i empty
      rw [List.isEmpty_iff.1 empty]
    · simp [mentions_columnList "PRIMARY KEY " (by decide)]
  have inside : AnyMentions parts ↔ AnyMentions declaration.texts := by
    dsimp only [parts]
    unfold texts
    simp only [anyMentions_append, keyed, anyMentions_map mentions_columnText,
      anyMentions_map (mentions_columnList "UNIQUE " (by decide)), anyMentions_map Reference.mentions_text,
      List.flatMap_id']
  have text : ("CREATE TABLE " ++ identifier name ++ " (" ++ String.intercalate ", " parts ++ ")" ++
      behind).toList = "CREATE TABLE ".toList ++ ((identifier name).toList ++ (" ".toList ++
        '(' :: ((String.intercalate ", " parts).toList ++ ')' :: behind.toList))) := by
    have marks : " (".toList = " ".toList ++ ['('] ∧ ")".toList = [')'] := ⟨rfl, rfl⟩
    simp only [String.toList_append, List.append_assoc]
    rw [marks.1, marks.2]
    simp only [List.append_assoc, List.cons_append, List.nil_append]
  rw [← tail]
  unfold Mentions
  rw [text, says_identifier, says_bracketed, mentions_list, inside]
  simp only [words, nothing, false_or, or_false, anyMentions_cons]

end TableDeclaration

theorem mentions_virtual (table clause : String)
    (parts : List String) : Mentions (FullText.sql table clause parts) ↔
      AnyMentions [table, clause] ∨ AnyMentions parts := by
  have words : ¬Says none "CREATE VIRTUAL TABLE ".toList := not_says_of_lacks (by decide)
  have text : (FullText.sql table clause parts).toList = "CREATE VIRTUAL TABLE ".toList ++
      ((identifier table).toList ++ ' ' :: (clause.toList ++
        '(' :: ((String.intercalate ", " parts).toList ++ ')' :: []))) := by
    have marks : " ".toList = [' '] ∧ "(".toList = ['('] ∧ ")".toList = [')'] := ⟨rfl, rfl, rfl⟩
    unfold FullText.sql
    simp only [String.toList_append, List.append_assoc]
    rw [marks.1, marks.2.1, marks.2.2]
    simp only [List.cons_append, List.nil_append]
  unfold Mentions
  rw [text, says_identifier, says_blank blank_space.1 blank_space.2, says_bracketed, mentions_list]
  simp only [words, not_says_nil, false_or, or_false, anyMentions_cons, anyMentions_nil, or_assoc]
  rfl

namespace FullText

theorem mentions_sql (table clause : String) (columns options : List String) :
    Mentions (sql table (clause ++ " ") (columns.map identifier ++ options)) ↔
      AnyMentions (table :: clause :: (columns ++ options)) := by
  have spaced : Mentions (clause ++ " ") ↔ Mentions clause := by
    unfold Mentions
    rw [String.toList_append]
    exact says_append_blank blank_space.1 blank_space.2
  rw [mentions_virtual]
  simp only [anyMentions_cons, anyMentions_append, anyMentions_identifiers, anyMentions_nil, spaced, or_false,
    or_assoc]

theorem mentions_probe (table : String) (columns : List String) :
    Mentions (sql table fullTextClause (columns.map identifier)) := by
  rw [mentions_virtual]
  have clause : Mentions fullTextClause := by decide
  simp [clause]

-- The columns of the contents are numbered, so there is no white space in their names.
theorem silent_contents (index : FullText) : ¬Mentions (String.intercalate ", " ("id INTEGER PRIMARY KEY" ::
    (plainColumns index.contentNames).map fun column =>
      column.name ++ (if column.declared.isEmpty then "" else " " ++ column.declared))) := by
  have key : ¬Mentions "id INTEGER PRIMARY KEY" := not_says_of_lacks (by decide)
  rw [mentions_list, anyMentions_cons, not_or]
  refine ⟨key, ?_⟩
  rintro ⟨text, member, mentions⟩
  simp only [plainColumns, contentNames, List.map_map, List.mem_map] at member
  obtain ⟨position, -, rfl⟩ := member
  refine not_says_of_visible ?_ mentions
  intro c inside
  have digits : c = 'c' ∨ c ∈ Nat.toDigits 10 position := by simpa [toString] using inside
  rcases digits with rfl | digit
  · decide
  · have plain : ∀ value < 10, isBlank (Char.ofNat (48 + value)) = false := by decide
    have decimal := Nat.isDigit_of_mem_toDigits (by omega) (by omega) digit
    simp only [Char.isDigit, Bool.and_eq_true, decide_eq_true_eq] at decimal
    have low : 48 ≤ c.toNat := UInt32.le_iff_toNat_le.1 decimal.1
    have high : c.toNat ≤ 57 := UInt32.le_iff_toNat_le.1 decimal.2
    have known := plain (c.toNat - 48) (by omega)
    rwa [Nat.add_sub_cancel' low, Char.ofNat_toNat] at known

-- The columns of the tables of an index are named by the engine.
theorem mentions_tableOf (index : FullText) (table part : String) :
    Mentions (index.tableOf table part).sql ↔ Mentions (indexName table part) := by
  have words : ¬Says none "CREATE TABLE ".toList ∧ ¬Says none " WITHOUT ROWID".toList :=
    ⟨not_says_of_lacks (by decide), not_says_of_lacks (by decide)⟩
  have mentions (columns : String) (silent : ¬Mentions columns) (tail : List Char) (last : ¬Says none tail) :
      Says none ((indexSql table part columns).toList ++ tail) ↔ Mentions (indexName table part) := by
    have text : (indexSql table part columns).toList ++ tail = "CREATE TABLE ".toList ++
        ((enclosed '\'' (indexName table part)).toList ++ [] ++ '(' :: (columns.toList ++ ')' :: tail)) := by
      have marks : "(".toList = ['('] ∧ ")".toList = [')'] := ⟨rfl, rfl⟩
      unfold indexSql
      simp only [String.toList_append, List.append_assoc]
      rw [marks.1, marks.2]
      simp only [List.cons_append, List.nil_append]
    rw [text, ← List.append_assoc, says_bracketed, says_enclosed (isMark_of_mem _ (by simp))]
    simp only [words, silent, last, not_says_nil, false_or, or_false]
  have plain (columns : String) (silent : ¬Mentions columns) :
      Mentions (indexSql table part columns) ↔ Mentions (indexName table part) := by
    have said := mentions columns silent [] not_says_nil
    rwa [List.append_nil] at said
  have keyed (columns : String) (silent : ¬Mentions columns) :
      Mentions (indexSql table part columns ++ " WITHOUT ROWID") ↔ Mentions (indexName table part) := by
    have said := mentions columns silent " WITHOUT ROWID".toList words.2
    rwa [← String.toList_append] at said
  unfold tableOf
  split
  · exact plain _ (not_says_of_lacks (by decide))
  · exact keyed _ (not_says_of_lacks (by decide))
  · exact plain _ index.silent_contents
  · exact plain _ (not_says_of_lacks (by decide))
  · exact keyed _ (not_says_of_lacks (by decide))

end FullText

theorem TokenTable.mentions_sql (table : String) (choice : TokenizerChoice) :
    Mentions (TokenTable.sql table choice) ↔ AnyMentions [table, choice.descriptor] := by
  have words : ¬Says none "CREATE VIRTUAL TABLE ".toList ∧ ¬Says none " USING fts3tokenize".toList :=
    ⟨not_says_of_lacks (by decide), not_says_of_lacks (by decide)⟩
  have text : (TokenTable.sql table choice).toList = "CREATE VIRTUAL TABLE ".toList ++
      ((identifier table).toList ++ (" USING fts3tokenize".toList ++
        '(' :: (choice.descriptor.toList ++ ')' :: []))) := by
    have marks : " USING fts3tokenize(".toList = " USING fts3tokenize".toList ++ ['('] ∧ ")".toList = [')'] :=
      ⟨rfl, rfl⟩
    unfold TokenTable.sql
    simp only [String.toList_append, List.append_assoc]
    rw [marks.1, marks.2]
    simp only [List.append_assoc, List.cons_append, List.nil_append]
  unfold Mentions
  rw [text, says_identifier, says_bracketed]
  simp only [words, not_says_nil, false_or, or_false, anyMentions_cons, anyMentions_nil]

/-- What a stored table is, and the texts that its declaration consists of. -/
inductive Table.Consists : Table → List String → Prop
  | ordinary (name : String) (declaration : TableDeclaration) (rows : List StoredRow) :
    Consists ⟨name, declaration.sql name, .ordinary declaration rows⟩ (name :: declaration.texts)
  | part (index : FullText) (table part : String) (declaration : TableDeclaration) (rows : List StoredRow) :
    Consists ⟨FullText.indexName table part, (index.tableOf table part).sql, .ordinary declaration rows⟩
      [FullText.indexName table part]
  | view (name sql source : String) : Consists ⟨name, sql, .view source⟩ [name, source]
  | fullText (name clause : String) (columns options : List String) (index : FullText)
      (named : asciiFold (Change.moduleOf clause) = "fts5") :
    Consists ⟨name, FullText.sql name (clause ++ " ") (columns.map identifier ++ options), .fullText index⟩
      (name :: clause :: (columns ++ options))
  | probe (name : String) (columns : List String) (index : FullText) :
    Consists ⟨name, FullText.sql name fullTextClause (columns.map identifier), .fullText index⟩
      (name :: fullTextClause :: columns)
  | splitter (name clause : String) (columns options : List String) (splitter : Token.Splitter)
      (named : asciiFold (Change.moduleOf clause) = "fts3tokenize") :
    Consists ⟨name, FullText.sql name (clause ++ " ") (columns.map identifier ++ options), .splitter splitter⟩
      (name :: clause :: (columns ++ options))
  | tokens (name : String) (choice : TokenizerChoice) (splitter : Token.Splitter) :
    Consists ⟨name, TokenTable.sql name choice, .splitter splitter⟩ [name, choice.descriptor]

def Table.Written (table : Table) : Prop := ∃ texts, table.Consists texts

namespace Table.Consists

variable {table : Table} {texts : List String}

theorem mentions (consists : table.Consists texts) (stored : table.isView = false) :
    Mentions table.sql ↔ AnyMentions texts := by
  cases consists with
  | ordinary name declaration => exact declaration.mentions_sql name
  | part index name part => simpa using index.mentions_tableOf name part
  | view => cases stored
  | fullText name clause columns options | splitter name clause columns options =>
    exact FullText.mentions_sql name clause columns options
  | probe name columns =>
    have clause : Mentions fullTextClause := by decide
    exact iff_of_true (FullText.mentions_probe name columns) (by simp [clause])
  | tokens name choice => exact TokenTable.mentions_sql name choice

-- Of a full-text table, one of the texts is the clause that says so to the engine.
theorem clause (consists : table.Consists texts) (kind : table.isFullText = true) :
    ∃ clause ∈ texts, asciiFold (Change.moduleOf clause) = "fts5" := by
  cases consists with
  | fullText name clause columns options index named => exact ⟨clause, by simp, named⟩
  | probe name columns => exact ⟨fullTextClause, by simp, by decide⟩
  | ordinary | part | view | splitter | tokens => cases kind

theorem withRows (consists : table.Consists texts) (name : String) (rows : List StoredRow) :
    (table.withRows name rows).Consists texts := by
  rcases table.withRows_cases name rows with same | ⟨declaration, before, body, same⟩ <;> rw [same]
  · exact consists
  · cases consists with
    | ordinary name declaration before =>
      cases body
      exact .ordinary name declaration rows
    | part index table part declaration before =>
      cases body
      exact .part index table part declaration rows
    | view | fullText | probe | splitter | tokens => cases body

end Table.Consists

end Engine

end TextQuery
