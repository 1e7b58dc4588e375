import TextQuery.Proofs.Frame.Opening

set_option autoImplicit false

namespace TextQuery.Engine

/-- What notes of two databases may have to do with each other: it survives what statements do to both of
them. -/
structure Tolerant (tells : List Wording → List Wording → Prop) : Prop where
  forgotten : tells [] []
  noted : ∀ {wording one other}, tells one other → tells (wording :: one) (wording :: other)
  resumed : ∀ {wording one other}, tells one other →
    tells (one.filter (· != wording)) (other.filter (· != wording))

/-- Two databases that have the same tables and know the same of them. -/
def Database.Beside (tells : List Wording → List Wording → Prop) (one other : Database) : Prop :=
  ∃ sound isTempUsed, other = { one with sound, isTempUsed } ∧ tells one.sound sound

namespace Database

variable {tells : List Wording → List Wording → Prop} {one other : Database}

theorem Beside.follows (beside : one.Beside tells other) : one.Follows other := by
  obtain ⟨sound, isTempUsed, rfl, -⟩ := beside
  exact ⟨rfl, rfl, rfl, rfl, id, List.Subset.refl _⟩

theorem Beside.told (beside : one.Beside tells other) : tells one.sound other.sound := by
  obtain ⟨sound, isTempUsed, rfl, told⟩ := beside
  exact told

end Database

namespace Change

variable {α β : Type} {tells : List Wording → List Wording → Prop} {one other : Database}

/-- Two changes have come to the same, and left databases side by side. -/
def Evened (tells : List Wording → List Wording → Prop) (one other : Except Fault α × Database) : Prop :=
  one.1 = other.1 ∧ one.2.Beside tells other.2

/-- Side by side, two changes come to the same. -/
def Even (tells : List Wording → List Wording → Prop) (first second : Change α) : Prop :=
  ∀ one other : Database, one.Beside tells other → Evened tells (first one) (second other)

theorem even_pure (value : α) : Even tells (pure value) (pure value) := fun _ _ beside => ⟨rfl, beside⟩

theorem even_throw (fault : Fault) : Even tells (throw fault : Change α) (throw fault) :=
  fun _ _ beside => ⟨rfl, beside⟩

theorem even_lift (result : Except Fault α) : Even tells (lift result) (lift result) :=
  fun _ _ beside => ⟨rfl, beside⟩

theorem even_find {look : Database → Except Fault α}
    (same : ∀ {before after : Database}, before.Follows after → look after = look before) :
    Even tells (find look) (find look) :=
  fun _ _ beside => ⟨(same beside.follows).symm, beside⟩

-- What the first of two steps comes to may have to be known to go on.
theorem evened_bind {first second : Change α} {next further : α → Change β}
    (start : Evened tells (first one) (second other))
    (rest : ∀ value after later, first one = (.ok value, after) → after.Beside tells later →
      Evened tells (next value after) (further value later)) :
    Evened tells ((first >>= next) one) ((second >>= further) other) := by
  obtain ⟨same, middle⟩ := start
  cases ran : first one with
  | mk answer after =>
    cases also : second other with
    | mk answered later =>
      rw [ran, also] at same middle
      obtain rfl : answer = answered := same
      cases answer with
      | ok value =>
        rw [bind_ok next ran, bind_ok further also]
        exact rest value after later ran middle
      | error fault =>
        rw [bind_error next ran, bind_error further also]
        exact ⟨rfl, middle⟩

theorem even_bind {first second : Change α} {next further : α → Change β} (even : Even tells first second)
    (rest : ∀ value, Even tells (next value) (further value)) :
    Even tells (first >>= next) (second >>= further) :=
  fun _ _ beside => evened_bind (even _ _ beside) fun value _ _ _ => rest value _ _

theorem even_throw_bind (fault : Fault) (next further : α → Change β) :
    Even tells (throw fault >>= next) (throw fault >>= further) := fun _ _ beside => ⟨rfl, beside⟩

-- What is done with databases that are only looked at.
theorem even_bind_get {next further : Database → Change β}
    (even : ∀ one other, one.Beside tells other → Even tells (next one) (further other)) :
    Even tells (get >>= next) (get >>= further) :=
  fun one other beside => even one other beside one other beside

theorem even_modify {edit : Database → Database}
    (same : ∀ (database : Database) sound isTempUsed, edit { database with sound, isTempUsed } =
      { edit database with sound, isTempUsed }) :
    Even tells (modify edit : Change PUnit) (modify edit) := by
  rintro one other ⟨sound, isTempUsed, rfl, told⟩
  refine ⟨rfl, sound, isTempUsed, same one sound isTempUsed, ?_⟩
  have own : (edit one).sound = one.sound := by simpa using congrArg Database.sound (same one one.sound one.isTempUsed)
  rwa [show (modify edit : Change PUnit) one = (.ok ⟨⟩, edit one) from rfl, own]

theorem even_tryCatch {first second : Change α} {handle further : Fault → Change α}
    (even : Even tells first second) (rest : ∀ fault, Even tells (handle fault) (further fault)) :
    Even tells (tryCatch first handle) (tryCatch second further) := by
  intro one other beside
  obtain ⟨same, middle⟩ := even one other beside
  cases ran : first one with
  | mk answer after =>
    cases also : second other with
    | mk answered later =>
      rw [ran, also] at same middle
      obtain rfl : answer = answered := same
      cases answer with
      | ok value =>
        rw [tryCatch_ok handle ran, tryCatch_ok further also]
        exact ⟨rfl, middle⟩
      | error fault =>
        rw [tryCatch_error handle ran, tryCatch_error further also]
        exact rest fault after later middle

theorem even_option_forM {entry : Option α} {body further : α → Change PUnit}
    (even : ∀ value, Even tells (body value) (further value)) :
    Even tells (entry.forM body) (entry.forM further) := by
  cases entry with
  | none => exact even_pure _
  | some value => exact even value

theorem even_touch (schema : String) : Even tells (touch schema) (touch schema) :=
  even_find fun follows => follows.touch schema

theorem even_schemaNow (name : String) : Even tells (schemaNow name) (schemaNow name) :=
  even_find fun follows => follows.schemaOr _ _

theorem even_readCatalog : Even tells readCatalog readCatalog := by
  rintro one other ⟨sound, isTempUsed, rfl, told⟩
  simp only [readCatalog_eq]
  split
  · exact ⟨rfl, sound, isTempUsed, rfl, told⟩
  · split
    · exact ⟨rfl, sound, isTempUsed, rfl, told⟩
    · exact ⟨rfl, sound, isTempUsed, rfl, told⟩
  · exact ⟨rfl, sound, isTempUsed, rfl, told⟩

theorem even_use (schema : String) : Even tells (use schema) (use schema) := by
  rintro one other ⟨sound, isTempUsed, rfl, told⟩
  exact ⟨rfl, sound, _, rfl, told⟩

theorem even_start {wording text : Wording}
    (noted : ∀ {sound also}, tells sound also → tells (wording :: sound) (text :: also)) (schema : String) :
    Even tells (start wording schema) (start text schema) := by
  rintro one other ⟨sound, isTempUsed, rfl, told⟩
  rw [start_eq, start_eq]
  apply even_touch
  dsimp only
  split
  · exact ⟨_, isTempUsed, rfl, noted told⟩
  · exact ⟨sound, isTempUsed, rfl, told⟩

theorem even_segments (home table : String) : Even tells (segments home table) (segments home table) := by
  intro one other beside
  have counted := beside.follows.counted (home, table)
  obtain ⟨sound, isTempUsed, rfl, told⟩ := beside
  rw [segments_eq, segments_eq, counted]
  dsimp only
  split
  · exact ⟨rfl, sound, isTempUsed, rfl, told⟩
  · split
    · exact ⟨rfl, sound, isTempUsed, rfl, told⟩
    · exact ⟨rfl, sound, isTempUsed, rfl, told⟩

theorem even_openIndex (home : Schema) (table : String) :
    Even tells (openIndex home table) (openIndex home table) := by
  unfold openIndex
  apply even_bind_get
  intro one other beside
  have follows := beside.follows
  simp only [follows.main, follows.condition, follows.read]
  split
  · exact even_throw_bind _ _ _
  · refine even_bind ?_ fun _ => ?_
    · refine even_tryCatch ?_ fun _ => even_throw _
      exact even_bind (even_segments _ _) fun _ => even_pure _
    · split
      · refine even_bind (even_lift _) fun _ => ?_
        exact even_modify fun _ _ _ => rfl
      · exact even_throw_bind _ _ _

theorem even_openTable (home : Schema) (held : Table) :
    Even tells (openTable home held) (openTable home held) := by
  unfold openTable
  apply even_bind_get
  rintro one other ⟨sound, isTempUsed, rfl, -⟩
  have follows : one.Follows { one with sound, isTempUsed } := ⟨rfl, rfl, rfl, rfl, id, List.Subset.refl _⟩
  rw [follows.underlying, Database.tableFuel, Database.tableFuel, follows.schemas]
  dsimp only
  split
  · exact even_openIndex _ _
  · exact even_pure _

theorem even_openTarget (statement : Statement α) :
    Even tells (openTarget statement) (openTarget statement) := by
  apply even_option_forM
  rintro ⟨schema, table⟩
  apply even_bind_get
  intro one other beside
  rw [beside.follows.locate]
  split
  · exact even_openTable _ _
  · exact even_pure _

theorem even_beginReading (home : String) (held : Table) :
    Even tells (beginReading home held) (beginReading home held) := by
  unfold beginReading
  split
  · exact even_bind (even_segments _ _) fun _ => even_pure _
  · exact even_pure _

theorem even_search (home table : String) (index : FullText) (query : Expression.Query) :
    Even tells (search home table index query) (search home table index query) := by
  unfold search
  refine even_bind (even_segments home table) fun count => ?_
  split
  · refine even_bind (even_schemaNow home) fun schema => ?_
    refine even_bind (even_lift _) fun _ => ?_
    refine even_bind (even_lift _) fun rows => ?_
    split
    · exact even_throw _
    · exact even_pure _
  · exact even_pure _

theorem evened_matchProbe (beside : one.Beside tells other) {target meant : Target} {expression : String}
    (same : one.locate meant.schema meant.table = one.locate target.schema target.table)
    (noted : ∀ {sound also}, tells sound also →
      tells ([(Statement.matchProbe target expression).text] :: sound)
        ([(Statement.matchProbe meant expression).text] :: also)) :
    Evened tells (matchProbe target expression one) (matchProbe meant expression other) := by
  unfold matchProbe
  refine evened_bind ⟨?_, beside⟩ ?_
  · exact ((beside.follows.locate _ _).trans same).symm
  rintro ⟨home, held⟩ after later - beside
  revert after later
  change Even tells _ _
  dsimp only
  split
  · refine even_bind (even_start noted _) fun _ => ?_
    refine even_bind (even_lift _) fun query => ?_
    exact even_option_forM fun found => even_search _ _ _ found
  · refine even_bind (even_find fun follows => follows.relationOf _ _) fun relation => ?_
    refine even_bind (even_lift _) fun _ => ?_
    refine even_bind (even_start noted _) fun _ => ?_
    refine even_bind (even_lift _) fun rows => ?_
    split
    · exact even_throw _
    · exact even_pure _

theorem even_selectRow (schema table : String) (rowid : Int) :
    Even tells (selectRow schema table rowid) (selectRow schema table rowid) := by
  unfold selectRow
  refine even_bind (even_find fun follows => follows.locate _ _) ?_
  rintro ⟨home, held⟩
  refine even_bind (even_find fun follows => follows.relationOf _ _) fun relation => ?_
  refine even_bind (even_lift _) fun _ => ?_
  dsimp only
  split
  · exact even_throw_bind _ _ _
  · refine even_bind (even_touch _) fun _ => ?_
    refine even_bind (even_beginReading _ _) fun _ => ?_
    exact even_bind (even_lift _) fun _ => even_pure _

theorem evened_answer {statement further : Statement α}
    (nul : statement.text.toList.contains '\x00' = further.text.toList.contains '\x00')
    (pragma : Database.pragmaSchema? statement = Database.pragmaSchema? further)
    (looksUp : Database.looksUp statement = Database.looksUp further)
    (used : Database.usedSchema? statement = Database.usedSchema? further)
    (beside : one.Beside tells other)
    (resumed : Evened tells (resume [statement.text] one) (resume [further.text] other))
    (rest : ∀ after later, one.Follows after → after.Beside tells later →
      Evened tells ((openTarget statement >>= fun _ => respond statement) after)
        ((openTarget further >>= fun _ => respond further) later)) :
    Evened tells (answer statement one) (answer further other) := by
  have steady := one.steady_follows
  unfold answer
  rw [nul, pragma, looksUp, used]
  split
  · exact ⟨rfl, beside⟩
  refine evened_bind resumed fun _ after later ran middle => ?_
  have first : one.Follows after := by
    simpa [ran] using keeps_resume steady [statement.text] one (.refl one)
  refine evened_bind (even_option_forM (fun schema => ?_) _ _ middle) fun _ described later ran middle => ?_
  · refine even_bind (even_find fun follows => follows.schemaOr _ _) fun _ => even_use schema
  have second : one.Follows described := by
    have kept : Keeps one.Follows ((Database.pragmaSchema? further).forM fun schema => do
        let _ ← find fun database => database.described schema
        use schema : Change Unit) :=
      keeps_option_forM fun schema _ => keeps_bind (keeps_find _) fun _ => keeps_use steady schema
    simpa [ran] using kept after first
  have going : ∀ after later, one.Follows after → after.Beside tells later →
      Evened tells (((Database.usedSchema? further).forM use >>= fun _ =>
        openTarget statement >>= fun _ => respond statement) after)
        (((Database.usedSchema? further).forM use >>= fun _ =>
          openTarget further >>= fun _ => respond further) later) := by
    intro after later follows middle
    refine evened_bind (even_option_forM even_use _ _ middle) fun _ ready later ran middle => ?_
    have kept : Keeps one.Follows ((Database.usedSchema? further).forM use) :=
      keeps_option_forM fun schema _ => keeps_use steady schema
    exact rest ready later (by simpa [ran] using kept after follows) middle
  split
  · refine evened_bind (even_readCatalog _ _ middle) fun _ read later ran middle => ?_
    exact going read later (by simpa [ran] using keeps_readCatalog steady described second) middle
  · exact going described later second middle

end Change

end TextQuery.Engine
