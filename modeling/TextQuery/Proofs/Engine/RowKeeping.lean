import TextQuery.Proofs.Engine.Storing

set_option autoImplicit false

namespace TextQuery.Engine.Change

variable {P : Database → Prop} {mayWrite : String → String → Prop} {mayNote : Wording → Prop}

theorem writable_found {home table part name : String} {columns : Nat} {database after : Database}
    {declaration : TableDeclaration} {rows : List StoredRow}
    (found : writable home table part columns database = (.ok (name, declaration, rows), after)) :
    after = database ∧ name = FullText.indexName table part ∧ columns = declaration.columns.length ∧
      database.Stores home (FullText.indexName table part) declaration rows := by
  unfold writable at found
  change (find _ >>= _) database = _ at found
  rw [bind_find] at found
  split at found
  · rename_i schema known
    obtain ⟨held, rfl⟩ : schema.indexTable table part columns = .ok (name, declaration, rows) ∧
        database = after := Prod.mk.inj found
    unfold Schema.indexTable at held
    dsimp only at held
    split at held
    · rename_i looked
      obtain ⟨table, there, body⟩ := Option.map_eq_some_iff.1 looked
      split at held
      · rename_i width
        cases held
        exact ⟨rfl, rfl, width.symm, schema, table, Database.schemaOr_eq_ok.1 known, there, body⟩
      · cases held
    · cases held
  · cases found

theorem keeps_totals (home table : String) (columns : Nat) (change : List Nat → Option (List Nat)) :
    Keeps P (totals home table columns change) := by
  unfold totals
  refine keeps_bind (keeps_schemaNow home) ?_
  intro schema
  refine keeps_bind (keeps_lift _) ?_
  intro rows
  split
  · exact keeps_pure _
  · exact keeps_throw _

theorem keeps_writable (home table part : String) (columns : Nat) :
    Keeps P (writable home table part columns) :=
  keeps_bind (keeps_schemaNow home) fun _ => keeps_lift _

-- What is done about a table of an index once that has been found.
theorem keeps_rewrite {α : Type} {home table part : String} (columns : Nat)
    {next : String × TableDeclaration × List StoredRow → Change α}
    (kept : ∀ declaration rows database,
      database.Stores home (FullText.indexName table part) declaration rows →
      columns = declaration.columns.length → P database →
        P (next (FullText.indexName table part, declaration, rows) database).2) :
    Keeps P (writable home table part columns >>= next) := by
  refine keeps_bind_of (keeps_writable home table part columns) ?_
  rintro ⟨name, declaration, rows⟩ before after - found holds
  obtain ⟨rfl, rfl, width, stores⟩ := writable_found found
  exact kept declaration rows after stores width holds

section

variable (writing : Writing mayWrite mayNote P) {home table : String}
  (may : ∀ part ∈ FullText.parts, mayWrite home (FullText.indexName table part))
include writing may

theorem keeps_replaceEntry {part : String} (member : part ∈ FullText.parts) {cells : List Cell}
    (fits : ∀ cell ∈ cells, fitsCell cell = true) : Keeps P (replaceEntry home table part cells) := by
  refine keeps_rewrite cells.length ?_
  intro declaration rows database stores width holds
  dsimp only
  rw [bind_lift]
  split
  · rename_i replaced
    exact setRows_holds writing (may part member) stores (.replaced width fits replaced) holds
  · exact holds

theorem keeps_writeIndex (totals : List Nat) (hasWords : Bool) :
    Keeps P (writeIndex home table totals hasWords) := by
  have fits {rowid : Int} (inside : Affinity.fits rowid = true) (block : List UInt8) :
      ∀ cell ∈ IndexRecord.dataCells rowid block, fitsCell cell = true := by
    simp [IndexRecord.dataCells, fitsCell, inside]
  unfold writeIndex
  refine keeps_bind (keeps_replaceEntry writing may (by decide) (fits (by decide) _)) ?_
  intro _
  split
  · refine keeps_bind (keeps_segments writing.toSteady home table) ?_
    intro count
    refine keeps_bind (keeps_schemaNow home) ?_
    intro schema
    refine keeps_bind (keeps_lift _) ?_
    intro _
    refine keeps_bind (keeps_replaceEntry writing may (by decide) (fits (by decide) _)) ?_
    intro _
    exact keeps_forgetSegments writing.toIndifferent _
  · exact keeps_pure _

theorem keeps_addEntry (index : FullText) {cells : List Cell} (fits : ∀ cell ∈ cells, fitsCell cell = true) :
    Keeps P (addEntry home table index cells) := by
  unfold addEntry
  extract_lets sizes rest
  -- All three branches go on in one way once the number of the row is known.
  have kept : ∀ rowid, Affinity.fits rowid = true → Keeps P (rest rowid) := by
    intro rowid inside
    refine keeps_bind (keeps_totals home table _ _) ?_
    intro totals
    dsimp only
    split
    · refine keeps_bind (keeps_replaceEntry writing may (by decide) ?_) ?_
      · simp [IndexRecord.sizesCells, fitsCell, inside]
      · exact fun _ => keeps_writeIndex writing may _ _
    · exact keeps_writeIndex writing may _ _
  split
  · have all : ∀ cell ∈ Cell.null :: cells, fitsCell cell = true := List.forall_mem_cons.2 ⟨rfl, fits⟩
    refine keeps_rewrite (cells.length + 1) ?_
    intro declaration rows database stores width holds
    dsimp only
    rw [bind_lift]
    split
    · rename_i added done
      have wide : (Cell.null :: cells).length = declaration.columns.length := width
      have written := setRows_holds writing (may _ (by decide)) stores (.added wide all done) holds
      have known := kept added.1.rowid (TableDeclaration.addRow_fits all done)
      have ran : setRows home (FullText.indexName table FullText.contentsPart) added.2 database =
          (.ok (), (setRows home (FullText.indexName table FullText.contentsPart) added.2 database).2) := rfl
      rw [bind_ok _ ran, pure_bind]
      exact known _ written
    · exact holds
  · refine keeps_rewrite 2 ?_
    intro declaration rows database stores width holds
    dsimp only
    rw [bind_lift]
    split
    · rename_i rowid next
      exact kept rowid (TableDeclaration.nextRowid_fits next) database holds
    · exact holds
  · exact keeps_throw_bind _ _

theorem keeps_removeNumbered {part : String} (member : part ∈ FullText.parts) (rowids : List Int) :
    Keeps P (removeNumbered home table part rowids) := by
  unfold removeNumbered
  refine keeps_bind_find ?_
  intro schema database found holds
  cases there : schema.find? (FullText.indexName table part) with
  | none => exact holds
  | some held =>
    cases body : held.body with
    | ordinary declaration rows =>
      have stores : database.Stores home (FullText.indexName table part) declaration rows :=
        ⟨schema, held, Database.schemaOr_eq_ok.1 found, there, body⟩
      simp only [Option.map_some, body]
      cases declaration.column? FullText.idColumn.name with
      | none => exact holds
      | some column => exact setRows_holds writing (may part member) stores (.kept _) holds
    | fullText | splitter | view | catalog =>
      simp only [Option.map_some, body]
      exact holds

end

theorem keeps_removeEntries (writing : Writing mayWrite mayNote P) {home : Schema} {held : Table}
    (may : ∀ part ∈ FullText.parts, mayWrite home.name (FullText.indexName held.name part))
    (index : FullText) : Keeps P (removeEntries home held index) := by
  unfold removeEntries
  extract_lets table without
  have counted (sizes : List (List Nat)) : Keeps P (without sizes) := keeps_totals _ _ _ _
  refine keeps_bind (keeps_beginReading writing.toSteady _ _) ?_
  intro _
  refine keeps_bind (keeps_find _) ?_
  intro rows
  split
  · exact keeps_pure _
  · extract_lets sizes rowids last middle first
    have keptLast : ∀ done, Keeps P (last done) := by
      intro _
      refine keeps_bind (counted _) ?_
      exact fun totals => keeps_writeIndex writing may _ _
    have keptMiddle : ∀ done, Keeps P (middle done) := by
      intro _
      dsimp only [middle]
      split
      · exact keeps_bind (keeps_removeNumbered writing may (by decide) _) keptLast
      · exact keptLast ()
    have keptFirst : ∀ done, Keeps P (first done) := by
      intro _
      refine keeps_bind (counted _) ?_
      intro _
      split
      · exact keeps_bind (keeps_removeNumbered writing may (by decide) _) keptMiddle
      · exact keptMiddle ()
    split
    · exact keeps_throw_bind _ _
    · exact keptFirst ()

def MayChange (mayWrite : String → String → Prop) (home : Schema) (held : Table) : Prop :=
  mayWrite home.name held.name ∧
    ∀ part ∈ FullText.parts, mayWrite home.name (FullText.indexName held.name part)

theorem keeps_modifiable (steady : Steady P) (schema table : String) :
    Keeps P (modifiable schema table) := by
  unfold modifiable
  refine keeps_bind (keeps_readCatalog steady) ?_
  intro _
  refine keeps_bind (keeps_find _) ?_
  rintro ⟨home, held⟩
  refine keeps_bind (keeps_openTable steady home held) ?_
  intro _
  extract_lets rest
  have kept : ∀ done, Keeps P (rest done) := by
    intro _
    dsimp only [rest]
    split
    · exact keeps_throw _
    · exact keeps_pure _
  split
  · exact keeps_bind (keeps_find _) fun _ => kept ()
  · exact kept ()

-- What can be changed has been found, and is there still.
theorem modifiable_located {schema table : String} {home : Schema} {held : Table}
    {before after : Database} (found : modifiable schema table before = (.ok (home, held), after)) :
    after.locate schema table = .ok (home, held) := by
  unfold modifiable at found
  obtain ⟨_, start, -, found⟩ := bind_eq_ok found
  obtain ⟨⟨other, there⟩, same, looked, found⟩ := bind_eq_ok found
  obtain ⟨located, rfl⟩ : start.locate schema table = .ok (other, there) ∧ start = same :=
    Prod.mk.inj looked
  obtain ⟨_, opened, opening, found⟩ := bind_eq_ok found
  have schemas : opened.schemas = start.schemas := by
    have kept := keeps_openTable (indifferent_schemas start.schemas).steady other there start rfl
    rwa [opening] at kept
  rw [← Database.locate_of_schemas schemas] at located
  cases refused : there.readOnly? with
  | some fault =>
    simp only [refused] at found
    split at found
    · obtain ⟨_, _, -, found⟩ := bind_eq_ok found
      cases found
    · cases found
  | none =>
    simp only [refused] at found
    split at found
    · obtain ⟨_, last, read, found⟩ := bind_eq_ok found
      have state : opened = last := (Prod.mk.inj read).2
      cases found
      rwa [← state]
    · cases found
      exact located

theorem relationOf_columns {database : Database} {home : Schema} {held : Table}
    {declaration : TableDeclaration} {rows : List StoredRow} (body : held.body = .ordinary declaration rows)
    {relation : Relation} (read : database.relationOf home held = .ok relation) :
    relation.columns = declaration.columns := by
  unfold Database.relationOf Database.tableFuel at read
  simp only [Database.relation, body] at read
  cases read
  rfl

theorem bound_fits {cells : List Cell} (fits : cells.all fitsCell = true) :
    ∀ cell ∈ cells.map bound, fitsCell cell = true := by
  rw [List.forall_mem_map]
  intro cell member
  have inside := List.all_eq_true.1 fits cell member
  unfold bound
  split
  · rfl
  · exact inside

section

variable (writing : Writing mayWrite mayNote P) {schema table : String}
  (may : ∀ (database : Database) (home : Schema) (held : Table),
    database.locate schema table = .ok (home, held) → MayChange mayWrite home held)
include writing may

omit may in
theorem started {wording : Wording} (several : wording.length ≠ 1) (home : String) (schemas : List Schema) :
    Keeps (fun database => P database ∧ database.schemas = schemas) (start wording home) :=
  keeps_start (fun _ => (writing.fixed schemas).started (writing.several several)) home

theorem keeps_insertRow (cells : List Cell) : Keeps P (insertRow schema table cells) := by
  unfold insertRow
  extract_lets wording bounds rest guarded
  have kept : ∀ done, Keeps P (rest done) := by
    intro _
    refine keeps_bind_of (keeps_modifiable writing.toSteady schema table) ?_
    rintro ⟨home, held⟩ before middle - found holds
    have located := modifiable_located found
    obtain ⟨mayRows, mayIndex⟩ := may middle home held located
    refine holds_bind_find holds fun columns listed => ?_
    obtain ⟨relation, read, listed⟩ := exists_of_bind_eq_ok listed
    cases listed
    by_cases width : cells.length = relation.columns.length
    · rw [checkWidth, if_pos width, pure_bind]
      split
      · exact holds
      · rename_i fits
        have fits : cells.all fitsCell = true := by simpa using fits
        refine holds_bind And.left (started writing (by simp [wording]) home.name middle.schemas) ?_ ⟨holds, rfl⟩
        rintro _ later ⟨holds, schemas⟩
        cases body : held.body with
        | ordinary declaration rows =>
          rw [← Database.locate_of_schemas schemas] at located
          have stores := Database.stores_of_locate located body
          dsimp only
          rw [bind_lift]
          split
          · rename_i added done
            have inside : bounds.length = declaration.columns.length := by
              rw [← relationOf_columns body read, ← width]
              exact List.length_map _
            exact setRows_holds writing mayRows stores (.added inside (bound_fits fits) done) holds
          · exact holds
        | fullText index =>
          exact keeps_changeIndex writing.toIndifferent
            (keeps_addEntry writing mayIndex index (bound_fits fits)) later holds
        | splitter | view | catalog => exact holds
    · rw [checkWidth, if_neg width]
      exact holds
  have keptGuarded : ∀ done, Keeps P (guarded done) := by
    intro _
    dsimp only [guarded]
    split
    · exact keeps_throw_bind _ _
    · exact kept ()
  split
  · exact keeps_bind (keeps_resume writing.toSteady wording) keptGuarded
  · exact keptGuarded ()

theorem keeps_deleteRows : Keeps P (deleteRows schema table) := by
  unfold deleteRows
  extract_lets wording
  refine keeps_bind (keeps_resume writing.toSteady wording) ?_
  intro _
  refine keeps_bind_of (keeps_modifiable writing.toSteady schema table) ?_
  rintro ⟨home, held⟩ before middle - found holds
  have located := modifiable_located found
  obtain ⟨mayRows, mayIndex⟩ := may middle home held located
  refine holds_bind And.left (started writing (by simp [wording]) home.name middle.schemas) ?_ ⟨holds, rfl⟩
  rintro _ after ⟨holds, schemas⟩
  cases body : held.body with
  | ordinary declaration rows =>
    rw [← Database.locate_of_schemas schemas] at located
    have stores := Database.stores_of_locate located body
    have none : rows.filter (fun _ => false) = [] := by simp
    exact setRows_holds writing mayRows stores (none ▸ .kept _) holds
  | fullText index =>
    exact keeps_changeIndex writing.toIndifferent (keeps_removeEntries writing mayIndex index) after holds
  | splitter | view | catalog => exact holds

end

-- Whatever comes of them, changes of rows only open tables.
theorem insertRow_opens (schema table : String) (cells : List Cell) (database : Database) :
    (insertRow schema table cells database).2.unopened ⊆ database.unopened :=
  keeps_insertRow (writing_unopened database.unopened) (fun _ _ _ _ => ⟨trivial, fun _ _ => trivial⟩)
    cells database (List.Subset.refl _)

theorem deleteRows_opens (schema table : String) (database : Database) :
    (deleteRows schema table database).2.unopened ⊆ database.unopened :=
  keeps_deleteRows (writing_unopened database.unopened) (fun _ _ _ _ => ⟨trivial, fun _ _ => trivial⟩)
    database (List.Subset.refl _)

section

variable (lasting : Lasting mayWrite mayNote P) {schema table : String}
  (may : ∀ (database : Database) (home : Schema) (held : Table),
    database.locate schema table = .ok (home, held) → MayChange mayWrite home held)
include lasting may

theorem keeps_insert (rows : List (List Cell)) : Keeps P (insert schema table rows) := by
  apply keeps_forM
  intro cells _
  exact keeps_wholly lasting (insertRow_opens schema table cells)
    (keeps_insertRow lasting.toWriting may cells)

theorem keeps_delete : Keeps P (delete schema table) :=
  keeps_wholly lasting (deleteRows_opens schema table) (keeps_deleteRows lasting.toWriting may)

end

end TextQuery.Engine.Change
