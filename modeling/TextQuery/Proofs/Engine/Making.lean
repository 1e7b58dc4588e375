import TextQuery.Proofs.Engine.Keeping

set_option autoImplicit false

namespace TextQuery.Engine

def MadeFor (table : String) (tables : List Table) : Prop :=
  ∀ made ∈ tables, made.name = table ∨
    ∃ part ∈ FullText.parts, made.name = FullText.indexName table part

namespace FullText

variable {index : FullText} {table : String}

theorem mem_parts {part : String} (member : part ∈ index.indexParts) : part ∈ parts := by
  simp only [indexParts, List.mem_append, List.mem_cons, List.not_mem_nil, or_false] at member
  rcases member with ((((rfl | rfl) | member) | member) | rfl)
  · decide
  · decide
  · split at member
    · rw [List.mem_singleton.1 member]
      decide
    · simp at member
  · split at member
    · rw [List.mem_singleton.1 member]
      decide
    · simp at member
  · decide

-- The table of one part of an index, without rows of its own.
def tableOf (index : FullText) (table part : String) : Table :=
  match part with
  | "data" => numberedTable table part [⟨"block", "BLOB"⟩] IndexRecord.emptyIndex
  | "idx" =>
    keyedTable table part ["segid", "term", "pgno"] ["segid", "term"]
      "segid, term, pgno, PRIMARY KEY(segid, term)" []
  | "content" => numberedTable table part (plainColumns index.contentNames) []
  | "docsize" => numberedTable table part [⟨"sz", "BLOB"⟩] []
  | _ => keyedTable table part ["k", "v"] ["k"] "k PRIMARY KEY, v" [IndexRecord.version]

theorem indexTables_eq (index : FullText) (table : String) :
    index.indexTables table = index.indexParts.map (index.tableOf table) := rfl

theorem tableOf_name (index : FullText) (table part : String) :
    (index.tableOf table part).name = indexName table part := by
  unfold tableOf
  split <;> rfl

theorem indexTables_name {made : Table} (member : made ∈ index.indexTables table) :
    ∃ part ∈ index.indexParts, made.name = indexName table part := by
  rw [indexTables_eq] at member
  obtain ⟨part, found, rfl⟩ := List.mem_map.1 member
  exact ⟨part, found, tableOf_name index table part⟩

theorem make_eq_ok {home : Schema} {sql : String} {arguments : List (List Char)} {tables : List Table}
    (made : make home table sql arguments = .ok tables) :
    ∃ index, ofArguments table arguments = .ok index ∧
      index.indexParts.forM (checkVacant home table) = .ok () ∧ checkColumns table index = .ok () ∧
      tables = ⟨table, sql, .fullText index⟩ :: index.indexTables table := by
  unfold make at made
  obtain ⟨index, declared, made⟩ := exists_of_bind_eq_ok made
  obtain ⟨_, vacant, made⟩ := exists_of_bind_eq_ok made
  obtain ⟨_, distinct, made⟩ := exists_of_bind_eq_ok made
  cases made
  exact ⟨index, declared, vacant, distinct, rfl⟩

theorem forM_checkVacant {home : Schema} {parts : List String} :
    parts.forM (checkVacant home table) = .ok () ↔
      ∀ part ∈ parts, home.find? (indexName table part) = none := by
  have one (part : String) : checkVacant home table part = .ok () ↔
      home.find? (indexName table part) = none := by
    unfold checkVacant
    dsimp only
    split <;> simp_all
  induction parts with
  | nil => simp [pure, Except.pure]
  | cons part parts ih =>
    change (checkVacant home table part >>= fun _ => parts.forM (checkVacant home table)) = _ ↔ _
    rw [List.forall_mem_cons, ← one part]
    refine Iff.trans ?_ (and_congr_right fun _ => ih)
    cases checkVacant home table part <;> simp [bind, Except.bind]

structure IsPlain (index : FullText) : Prop where
  detail : index.detail = .full
  contents : index.contents = .own
  sizes : index.keepsSizes = true

theorem IsPlain.indexParts (plain : index.IsPlain) : index.indexParts = parts := by
  simp [FullText.indexParts, plain.contents, plain.sizes, parts]

theorem addArgument_identifier (index : FullText) (name : String) :
    index.addArgument (Text.identifier name).toList = index.addColumn name none := by
  have quoted : (Text.identifier name).toList = '"' :: (Text.doubled '"' name.toList ++ ['"']) := by
    simp [Text.identifier, Text.enclosed]
  have read : Text.readEnclosed '"' (Text.doubled '"' name.toList ++ ['"']) = some (name.toList, []) :=
    Text.readEnclosed_doubled name.toList (by simp)
  have word : Arguments.readWord (Text.identifier name).toList = some (⟨name.toList, true⟩, []) := by
    rw [quoted]
    simp [Arguments.readWord, Arguments.closing?, read]
  simp [addArgument, word, Arguments.dropSpaces, Arguments.lastWord?]

theorem isPlain_addColumn {name : String} {option : Option String} {after : FullText}
    (plain : index.IsPlain) (added : index.addColumn name option = .ok after) : after.IsPlain := by
  unfold addColumn at added
  dsimp only at added
  split at added
  · cases added
  · split at added
    · cases added
      exact ⟨plain.detail, plain.contents, plain.sizes⟩
    · split at added
      · cases added
        exact ⟨plain.detail, plain.contents, plain.sizes⟩
      · cases added

theorem isPlain_addColumns {columns : List String} {start : FullText} (plain : start.IsPlain)
    (declared : ((columns.map Text.identifier).map String.toList).foldlM addArgument start = .ok index) :
    index.IsPlain := by
  induction columns generalizing start with
  | nil =>
    cases declared
    exact plain
  | cons column columns ih =>
    obtain ⟨middle, added, declared⟩ := exists_of_bind_eq_ok declared
    rw [addArgument_identifier] at added
    exact ih (isPlain_addColumn plain added) declared

theorem isPlain_identifiers {columns : List String}
    (declared : ofArguments table ((columns.map Text.identifier).map String.toList) = .ok index) :
    index.IsPlain := by
  unfold ofArguments at declared
  split at declared
  · cases declared
  · exact isPlain_addColumns ⟨rfl, rfl, rfl⟩ declared

end FullText

theorem madeFor_make {home : Schema} {table sql : String} {arguments : List (List Char)}
    {tables : List Table} (made : FullText.make home table sql arguments = .ok tables) :
    MadeFor table tables := by
  obtain ⟨index, -, -, -, rfl⟩ := FullText.make_eq_ok made
  intro made member
  rcases List.mem_cons.1 member with rfl | member
  · exact .inl rfl
  · obtain ⟨part, found, name⟩ := FullText.indexTables_name member
    exact .inr ⟨part, FullText.mem_parts found, name⟩

end TextQuery.Engine
