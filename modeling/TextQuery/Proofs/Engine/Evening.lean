import TextQuery.Proofs.Engine.Pairing

set_option autoImplicit false

namespace TextQuery.Engine

structure Lacks (one other : List Wording) : Prop where
  fewer : ∀ wording ∈ other, wording ∈ one
  several : ∀ wording ∈ one, wording.length ≠ 1 → wording ∈ other

namespace Lacks

variable {one other further : List Wording}

theorem refl (notes : List Wording) : Lacks notes notes := ⟨fun _ member => member, fun _ member _ => member⟩

theorem trans (first : Lacks one other) (second : Lacks other further) : Lacks one further where
  fewer wording member := first.fewer wording (second.fewer wording member)
  several wording member single := second.several wording (first.several wording member single) single

theorem tolerant : Tolerant Lacks where
  forgotten := refl []
  noted lacks := {
    fewer := fun wording member => by
      rcases List.mem_cons.1 member with rfl | member
      · exact List.mem_cons_self
      · exact List.mem_cons_of_mem _ (lacks.fewer wording member)
    several := fun wording member several => by
      rcases List.mem_cons.1 member with rfl | member
      · exact List.mem_cons_self
      · exact List.mem_cons_of_mem _ (lacks.several wording member several) }
  resumed lacks := {
    fewer := fun wording member => by
      obtain ⟨member, kept⟩ := List.mem_filter.1 member
      exact List.mem_filter.2 ⟨lacks.fewer wording member, kept⟩
    several := fun wording member several => by
      obtain ⟨member, kept⟩ := List.mem_filter.1 member
      exact List.mem_filter.2 ⟨lacks.several wording member several, kept⟩ }

theorem mem_iff (lacks : Lacks one other) {wording : Wording} (several : wording.length ≠ 1) :
    wording ∈ one ↔ wording ∈ other :=
  ⟨fun member => lacks.several wording member several, lacks.fewer wording⟩

end Lacks

namespace Change

variable {α β : Type} {tells : List Wording → List Wording → Prop} {one other : Database}

theorem even_recheck (tolerant : Tolerant tells) : Even tells recheck recheck := by
  rintro one other ⟨sound, isTempUsed, rfl, -⟩
  exact ⟨rfl, [], isTempUsed, rfl, tolerant.forgotten⟩

theorem even_forget (tolerant : Tolerant tells) :
    Even tells (modify Database.forget : Change PUnit) (modify Database.forget) := by
  rintro one other ⟨sound, isTempUsed, rfl, -⟩
  exact ⟨rfl, [], isTempUsed, rfl, tolerant.forgotten⟩

theorem even_construct (tolerant : Tolerant tells) (made : Except Fault α) :
    Even tells (construct made) (construct made) := by
  cases made with
  | ok result => exact even_pure result
  | error fault => exact even_bind (even_forget tolerant) fun _ => even_throw fault

theorem within_noted (database : Database) (sound : List Wording) (isTempUsed : Bool) (name : String)
    (edit : List Table → List Table) : ({ database with sound, isTempUsed } : Database).within name edit =
      { database.within name edit with sound, isTempUsed } := by
  unfold Database.within
  dsimp only
  split
  · rfl
  · split <;> rfl

theorem even_within (schema : String) (edit : List Table → List Table) :
    Even tells (within schema edit) (within schema edit) :=
  even_modify fun database sound isTempUsed => within_noted database sound isTempUsed schema edit

theorem even_alter (tolerant : Tolerant tells) (schema : String) (edit : List Table → List Table) :
    Even tells (alter schema edit) (alter schema edit) := by
  unfold alter
  refine even_bind (even_within schema edit) fun _ => even_bind_get fun one other beside => ?_
  rw [beside.follows.temp]
  split
  · exact even_recheck tolerant
  · exact even_pure _

theorem even_addTables (tolerant : Tolerant tells) (schema : String) (tables : List Table) :
    Even tells (addTables schema tables) (addTables schema tables) := even_alter tolerant schema _

theorem even_wholly {change : Change α} (even : Even tells change change) : Even tells (wholly change) (wholly change) := by
  intro one other beside
  have evened := even one other beside
  unfold wholly
  obtain ⟨same, middle⟩ := evened
  obtain ⟨_, _, rfl, -⟩ := beside
  cases ran : change one with
  | mk answer after =>
    cases also : change { one with sound := _, isTempUsed := _ } with
    | mk answered later =>
      rw [ran, also] at same middle
      obtain rfl : answer = answered := same
      cases answer with
      | ok value => exact ⟨rfl, middle⟩
      | error fault =>
        obtain ⟨sound, isTempUsed, rfl, told⟩ := middle
        exact ⟨rfl, sound, isTempUsed, rfl, told⟩

theorem even_forM {entries : List α} {body : α → Change PUnit} (even : ∀ value, Even tells (body value) (body value)) :
    Even tells (entries.forM body) (entries.forM body) := by
  induction entries with
  | nil => exact even_pure _
  | cons entry rest ih => exact even_bind (even entry) fun _ => ih

theorem even_resume (tolerant : Tolerant tells) {wording : Wording}
    (noted : ∀ {sound also}, tells sound also → (wording ∈ sound ↔ wording ∈ also)) :
    Even tells (resume wording) (resume wording) := by
  rintro one other ⟨sound, isTempUsed, rfl, told⟩
  unfold resume
  rw [bind_get, bind_get]
  by_cases known : wording ∈ one.sound
  · rw [if_pos (by simpa using known), if_pos (by simpa using (noted told).1 known)]
    refine evened_bind (even_touch one.main.name _ _ ⟨sound, isTempUsed, rfl, told⟩) ?_
    rintro _ after later - ⟨_, _, rfl, -⟩
    exact ⟨rfl, _, isTempUsed, rfl, tolerant.resumed told⟩
  · rw [if_neg (by simpa using known), if_neg (by simpa using fun also => known ((noted told).2 also))]
    exact ⟨rfl, sound, isTempUsed, rfl, told⟩

theorem even_resume_several {wording : Wording} (several : wording.length ≠ 1) :
    Even Lacks (resume wording) (resume wording) :=
  even_resume Lacks.tolerant fun lacks => lacks.mem_iff several

theorem even_start_same (tolerant : Tolerant tells) (wording : Wording) (schema : String) :
    Even tells (start wording schema) (start wording schema) := by
  have noted {sound also : List Wording} (told : tells sound also) : tells (wording :: sound) (wording :: also) :=
    tolerant.noted told
  exact @even_start tells wording wording noted schema

theorem even_vacant (schema name : String) : Even tells (vacant schema name) (vacant schema name) := by
  unfold vacant
  refine even_bind (even_find fun follows => follows.schemaOr _ _) fun found => ?_
  dsimp only
  split
  · exact even_throw_bind _ _ _
  · refine even_bind even_readCatalog fun _ => ?_
    split
    · exact even_throw _
    · exact even_bind (even_use _) fun _ => even_pure _

theorem even_createTable (schema table : String) (declaration : TableDeclaration) :
    Even Lacks (createTable schema table declaration) (createTable schema table declaration) := by
  unfold createTable
  refine even_bind (even_resume_several (by simp)) fun _ => even_bind (even_vacant _ _) fun home => ?_
  split
  · exact even_throw _
  · refine even_bind (even_start_same Lacks.tolerant _ _) fun _ => ?_
    exact even_addTables Lacks.tolerant _ _

theorem even_createView (schema view source : String) :
    Even Lacks (createView schema view source) (createView schema view source) := by
  unfold createView
  refine even_bind (even_resume_several (by simp)) fun _ => even_bind (even_vacant _ _) fun home => ?_
  refine even_bind (even_start_same Lacks.tolerant _ _) fun _ => ?_
  exact even_addTables Lacks.tolerant _ _

theorem even_createVirtual (schema table : String) (columns options : List String) (clause : String) :
    Even Lacks (createVirtual schema table columns options clause)
      (createVirtual schema table columns options clause) := by
  unfold createVirtual
  refine even_bind (even_resume_several (by simp)) fun _ => even_bind (even_vacant _ _) fun home => ?_
  refine even_bind (even_lift _) fun split_ => ?_
  dsimp only
  split
  · exact even_throw_bind _ _ _
  · refine even_bind (even_start_same Lacks.tolerant _ _) fun _ => ?_
    refine even_bind (even_recheck Lacks.tolerant) fun _ => ?_
    refine even_bind (even_construct Lacks.tolerant _) fun _ => even_addTables Lacks.tolerant _ _

theorem even_createTokens (tolerant : Tolerant tells) (table : String) (choice : TokenizerChoice) :
    Even tells (createTokens table choice) (createTokens table choice) := by
  unfold createTokens temporary
  refine even_bind (even_lift _) fun name => even_bind_get fun one other beside => ?_
  rw [beside.follows.temp]
  split
  · exact even_bind (even_construct tolerant _) fun _ => even_addTables tolerant _ _
  · exact even_pure _

theorem even_createProbe (tolerant : Tolerant tells) (table : String) (columns : List String) :
    Even tells (createProbe table columns) (createProbe table columns) := by
  unfold createProbe temporary
  refine even_bind_get fun one other beside => ?_
  rw [beside.follows.temp]
  split
  · split
    · exact even_throw_bind _ _ _
    · exact even_bind (even_construct tolerant _) fun _ => even_addTables tolerant _ _
  · exact even_pure _

theorem even_setRows (home name : String) (rows : List StoredRow) :
    Even tells (setRows home name rows) (setRows home name rows) := even_within _ _

theorem even_forgetSegments (of : String × String → Bool) :
    Even tells (forgetSegments of) (forgetSegments of) := even_modify fun _ _ _ => rfl

theorem even_forgetIndexes (of : String × String → Bool) :
    Even tells (forgetIndexes of) (forgetIndexes of) := even_modify fun _ _ _ => rfl

theorem even_writable (home table part : String) (columns : Nat) :
    Even tells (writable home table part columns) (writable home table part columns) :=
  even_bind (even_schemaNow home) fun _ => even_lift _

theorem even_totals (home table : String) (columns : Nat) (change : List Nat → Option (List Nat)) :
    Even tells (totals home table columns change) (totals home table columns change) := by
  unfold totals
  refine even_bind (even_schemaNow home) fun schema => even_bind (even_lift _) fun rows => ?_
  split
  · exact even_pure _
  · exact even_throw _

theorem even_replaceEntry (home table part : String) (cells : List Cell) :
    Even tells (replaceEntry home table part cells) (replaceEntry home table part cells) :=
  even_bind (even_writable _ _ _ _) fun _ => even_bind (even_lift _) fun _ => even_setRows _ _ _

theorem even_writeIndex (home table : String) (totals : List Nat) (hasWords : Bool) :
    Even tells (writeIndex home table totals hasWords) (writeIndex home table totals hasWords) := by
  unfold writeIndex
  refine even_bind (even_replaceEntry _ _ _ _) fun _ => ?_
  split
  · refine even_bind (even_segments _ _) fun count => even_bind (even_schemaNow _) fun schema => ?_
    refine even_bind (even_lift _) fun _ => even_bind (even_replaceEntry _ _ _ _) fun _ => ?_
    exact even_forgetSegments _
  · exact even_pure _

theorem even_addEntry (home table : String) (index : FullText) (cells : List Cell) :
    Even tells (addEntry home table index cells) (addEntry home table index cells) := by
  unfold addEntry
  extract_lets sizes rest
  have even (rowid : Int) : Even tells (rest rowid) (rest rowid) := by
    refine even_bind (even_totals _ _ _ _) fun totals => ?_
    dsimp only
    split
    · exact even_bind (even_replaceEntry _ _ _ _) fun _ => even_writeIndex _ _ _ _
    · exact even_writeIndex _ _ _ _
  split
  · refine even_bind (even_writable _ _ _ _) fun found => even_bind (even_lift _) fun added => ?_
    refine even_bind (even_setRows _ _ _) fun _ => ?_
    rw [pure_bind]
    exact even _
  · refine even_bind (even_writable _ _ _ _) fun found => even_bind (even_lift _) fun rowid => even rowid
  · exact even_throw_bind _ _ _

theorem even_removeNumbered (home table part : String) (rowids : List Int) :
    Even tells (removeNumbered home table part rowids) (removeNumbered home table part rowids) := by
  unfold removeNumbered
  refine even_bind (even_schemaNow home) fun schema => ?_
  split
  · split
    · exact even_throw _
    · exact even_setRows _ _ _
  · exact even_throw _

theorem even_removeEntries (home : Schema) (held : Table) (index : FullText) :
    Even tells (removeEntries home held index) (removeEntries home held index) := by
  unfold removeEntries
  extract_lets table without
  have counted (sizes : List (List Nat)) : Even tells (without sizes) (without sizes) := even_totals _ _ _ _
  refine even_bind (even_beginReading _ _) fun _ => ?_
  refine even_bind (even_find fun follows => by rw [follows.relationOf]) fun rows => ?_
  split
  · exact even_pure _
  · extract_lets sizes rowids last middle first
    have evenLast (done : PUnit) : Even tells (last done) (last done) :=
      even_bind (counted _) fun totals => even_writeIndex _ _ _ _
    have evenMiddle (done : PUnit) : Even tells (middle done) (middle done) := by
      dsimp only [middle]
      split
      · exact even_bind (even_removeNumbered _ _ _ _) evenLast
      · exact evenLast ⟨⟩
    have evenFirst (done : PUnit) : Even tells (first done) (first done) := by
      refine even_bind (counted _) fun _ => ?_
      split
      · exact even_bind (even_removeNumbered _ _ _ _) evenMiddle
      · exact evenMiddle ⟨⟩
    split
    · exact even_throw_bind _ _ _
    · exact evenFirst ⟨⟩

theorem even_changeIndex (home table : String) {change : Change α} (even : Even tells change change) :
    Even tells (changeIndex home table change) (changeIndex home table change) :=
  even_tryCatch even fun _ => even_bind (even_forgetSegments _) fun _ => even_throw _

theorem even_modifiable (schema table : String) :
    Even tells (modifiable schema table) (modifiable schema table) := by
  unfold modifiable
  refine even_bind even_readCatalog fun _ => even_bind (even_find fun follows => follows.locate _ _) ?_
  rintro ⟨home, held⟩
  refine even_bind (even_openTable home held) fun _ => ?_
  extract_lets rest
  have even (done : PUnit) : Even tells (rest done) (rest done) := by
    dsimp only [rest]
    split
    · exact even_throw _
    · exact even_pure _
  split
  · exact even_bind (even_find fun follows => follows.relationOf _ _) fun _ => even ⟨⟩
  · exact even ⟨⟩

theorem even_checkWidth (schema table : String) (columns : Nat) (cells : List Cell) :
    Even tells (checkWidth schema table columns cells) (checkWidth schema table columns cells) := by
  unfold checkWidth
  split
  · exact even_pure _
  · exact even_throw _

theorem even_insertRow (schema table : String) (cells : List Cell) :
    Even Lacks (insertRow schema table cells) (insertRow schema table cells) := by
  unfold insertRow
  extract_lets wording bounds rest guarded
  have even (done : PUnit) : Even Lacks (rest done) (rest done) := by
    refine even_bind (even_modifiable _ _) ?_
    rintro ⟨home, held⟩
    refine even_bind (even_find fun follows => by rw [follows.relationOf]) fun columns => ?_
    refine even_bind (even_checkWidth _ _ _ _) fun _ => ?_
    dsimp only
    by_cases outside : (!cells.all fitsCell) = true
    · rw [if_pos outside]
      exact even_throw_bind _ _ _
    · rw [if_neg outside]
      refine even_bind (even_start_same Lacks.tolerant _ _) fun _ => ?_
      split
      · exact even_bind (even_lift _) fun _ => even_setRows _ _ _
      · exact even_changeIndex _ _ (even_addEntry _ _ _ _)
      · exact even_pure _
  have evenGuarded (done : PUnit) : Even Lacks (guarded done) (guarded done) := by
    dsimp only [guarded]
    split
    · exact even_throw_bind _ _ _
    · exact even ⟨⟩
  split
  · exact even_bind (even_resume_several (by simp [wording])) evenGuarded
  · exact evenGuarded ⟨⟩

theorem even_deleteRows (schema table : String) :
    Even Lacks (deleteRows schema table) (deleteRows schema table) := by
  unfold deleteRows
  refine even_bind (even_resume_several (by simp)) fun _ => even_bind (even_modifiable _ _) ?_
  rintro ⟨home, held⟩
  refine even_bind (even_start_same Lacks.tolerant _ _) fun _ => ?_
  split
  · exact even_setRows _ _ _
  · exact even_changeIndex _ _ (even_removeEntries _ _ _)
  · exact even_pure _

theorem even_drop (schema table : String) : Even Lacks (drop schema table) (drop schema table) := by
  unfold drop
  refine even_bind (even_resume_several (by simp)) fun _ => even_bind even_readCatalog fun _ => ?_
  refine even_bind (even_find fun follows => follows.locate _ _) ?_
  rintro ⟨home, held⟩
  have finish : Even Lacks
      (forgetIndexes (fun entry => entry.1 == home.name && (dropped held).any (Text.sameName entry.2)) >>= fun _ =>
        alter home.name fun tables =>
          tables.filter fun other => !(dropped held).any (Text.sameName other.name))
      (forgetIndexes (fun entry => entry.1 == home.name && (dropped held).any (Text.sameName entry.2)) >>= fun _ =>
        alter home.name fun tables =>
          tables.filter fun other => !(dropped held).any (Text.sameName other.name)) :=
    even_bind (even_forgetIndexes _) fun _ => even_alter Lacks.tolerant _ _
  dsimp only
  split
  · exact even_throw _
  · exact even_throw _
  · refine even_bind (even_openTable _ _) fun _ => even_bind (even_start_same Lacks.tolerant _ _) fun _ => ?_
    split
    · exact finish
    · exact even_throw_bind _ _ _
    · exact even_bind (even_construct Lacks.tolerant _) fun _ => finish

theorem even_attach (name : String) : Even tells (attach name) (attach name) := by
  unfold attach
  refine even_bind even_readCatalog fun _ => even_bind_get fun one other beside => ?_
  rw [beside.follows.attached, beside.follows.schema?]
  dsimp only
  split
  · exact even_throw_bind _ _ _
  · split
    · exact even_throw_bind _ _ _
    · obtain ⟨sound, isTempUsed, rfl, told⟩ := beside
      exact fun _ _ _ => ⟨rfl, sound, isTempUsed, rfl, told⟩

/-- What is the same but for the words of a refusal. -/
structure Reworded (tells : List Wording → List Wording → Prop) (one other : Except Fault α × Database) : Prop where
  refused : ∃ fault, one.1 = .error fault
  also : ∃ fault, other.1 = .error fault
  beside : one.2.Beside tells other.2

theorem evened_detach (name : String) (beside : one.Beside Lacks other) :
    Evened Lacks (detach name one) (detach name other) ∨
      Text.sameName name one.temp.name = true ∧ Reworded Lacks (detach name one) (detach name other) := by
  unfold detach
  obtain ⟨same, middle⟩ := even_readCatalog one other beside
  have kept := keeps_readCatalog one.steady_follows one (.refl one)
  cases ran : readCatalog one with
  | mk answer after =>
    cases also : readCatalog other with
    | mk answered later =>
      rw [ran, also] at same middle
      rw [ran] at kept
      obtain rfl : answer = answered := same
      cases answer with
      | error fault =>
        rw [bind_error _ ran, bind_error _ also]
        exact .inl ⟨rfl, middle⟩
      | ok _ =>
        rw [bind_ok _ ran, bind_ok _ also, bind_get, bind_get, middle.follows.main, middle.follows.temp,
          middle.follows.schema?, kept.temp]
        dsimp only
        by_cases main : Text.sameName name after.main.name = true
        · rw [if_pos main, if_pos main]
          exact .inl (even_throw_bind _ _ _ _ _ middle)
        · by_cases temp : Text.sameName name one.temp.name = true
          · rw [if_neg main, if_neg main, if_pos temp, if_pos temp]
            exact .inr ⟨temp, ⟨_, rfl⟩, ⟨_, rfl⟩, middle⟩
          · rw [if_neg main, if_neg main, if_neg temp, if_neg temp]
            left
            by_cases missing : (after.schema? name).isNone = true
            · rw [if_pos missing]
              exact even_throw_bind _ _ _ _ _ middle
            · rw [if_neg missing]
              refine even_bind (even_forgetIndexes _) (fun _ => ?_) _ _ middle
              exact even_bind (even_modify fun _ _ _ => rfl) fun _ => even_recheck Lacks.tolerant

theorem evened_build (building : Building) (beside : one.Beside Lacks other) :
    Evened Lacks (build building one) (build building other) ∨ ∃ name, building = .detach name ∧
      Text.sameName name one.temp.name = true ∧ Reworded Lacks (build building one) (build building other) := by
  unfold build
  by_cases nul : (building.texts.any (·.toList.contains '\x00')) = true
  · rw [if_pos nul]
    exact .inl (even_throw_bind _ _ _ _ _ beside)
  · rw [if_neg nul]
    dsimp only
    cases building with
    | attach schema => exact .inl (even_attach schema _ _ beside)
    | detach schema =>
      exact (evened_detach schema beside).imp_right fun ⟨temp, reworded⟩ => ⟨schema, rfl, temp, reworded⟩
    | createTable schema table declaration => exact .inl (even_createTable schema table declaration _ _ beside)
    | createFullText schema table columns options clause =>
      exact .inl (even_createVirtual schema table columns options clause _ _ beside)
    | createView schema view source => exact .inl (even_createView schema view source _ _ beside)
    | insert schema table rows =>
      exact .inl (even_forM (fun cells => even_wholly (even_insertRow schema table cells)) _ _ beside)
    | delete schema table => exact .inl (even_wholly (even_deleteRows schema table) _ _ beside)
    | drop schema table => exact .inl (even_drop schema table _ _ beside)
    | lock | unlock => exact .inl (even_modify (fun _ _ _ => rfl) _ _ beside)

end Change

end TextQuery.Engine
