import TextQuery.Proofs.Session.SchemaNames

set_option autoImplicit false

namespace TextQuery

open Engine Text

namespace Text

namespace Case

def standingLetters : List Char := ['t', 'e', 'm', 'a', 'i', 'n', 'p']

-- No run but that of the ASCII letters moves anything onto one of these letters.
theorem moved?_plain {code : Nat} {d : Char} (plain : d ∈ standingLetters)
    (moved : moved? lowerRuns code = some d.toNat) : code + 32 = d.toNat ∧ 65 ≤ code ∧ code ≤ 90 := by
  have only : ∀ run ∈ lowerRuns, ∀ d ∈ standingLetters,
      (run.1 : Int) ≤ d.toNat - run.2.2.2 → (d.toNat : Int) - run.2.2.2 ≤ run.2.1 → run.2.2.2 = 32 := by
    simp only [← List.forall_iff_forall_mem]
    decide +kernel
  obtain ⟨run, found, shifted⟩ := Option.map_eq_some_iff.1 moved
  have held := List.find?_some found
  simp only [Run.member, Bool.and_eq_true, decide_eq_true_eq] at held
  have small : ∀ d ∈ standingLetters, 97 ≤ d.toNat ∧ d.toNat ≤ 122 := List.forall_iff_forall_mem.1 (by decide)
  have bounds := small d plain
  unfold Run.shift at shifted
  have amount := only run (List.mem_of_find?_eq_some found) d plain (by omega) (by omega)
  omega

-- Only capital ASCII letters are moved onto these letters, so that the case of ASCII letters is all that is lost.
theorem mapChar_plain {c : Char} (plain : ∀ d ∈ mapChar lowerRuns lowerExpansions c, d ∈ standingLetters) :
    mapChar lowerRuns lowerExpansions c = [c.toLower] := by
  have small : ∀ place < 26, (Char.ofNat (65 + place)).toLower = Char.ofNat (97 + place) := by decide
  have fixed : ∀ d ∈ standingLetters, d.toLower = d := List.forall_iff_forall_mem.1 (by decide)
  unfold mapChar mapCode at plain ⊢
  cases expanded : lowerExpansions.lookup c.toNat with
  | some form =>
    rw [expanded] at plain
    obtain ⟨before, after, split, -⟩ := List.lookup_eq_some_iff.1 expanded
    have member : (c.toNat, form) ∈ lowerExpansions := by simp [split]
    obtain ⟨-, rfl⟩ := Prod.mk.inj (List.mem_singleton.1 member)
    have accent : Char.ofNat 0x307 ∉ standingLetters := by decide
    exact absurd (plain _ (by simp)) accent
  | none =>
    rw [expanded] at plain
    have inside := plain _ (List.mem_map_of_mem List.mem_cons_self)
    dsimp only
    rw [List.map_singleton]
    cases moved : moved? lowerRuns c.toNat with
    | none =>
      rw [moved, Option.getD_none, Char.ofNat_toNat] at inside
      rw [Option.getD_none, Char.ofNat_toNat, fixed c inside]
    | some code =>
      rw [moved, Option.getD_some] at inside
      have valid : code.isValidChar := by
        by_contra invalid
        rw [Char.ofNat, dif_neg invalid] at inside
        revert inside
        decide
      have same : (Char.ofNat code).toNat = code := by
        rw [Char.ofNat, dif_pos valid]
        rfl
      obtain ⟨amount, low, high⟩ := moved?_plain inside (by rw [same, moved])
      rw [same] at amount
      have known : c = Char.ofNat (65 + (c.toNat - 65)) := by
        rw [Nat.add_sub_cancel' low, Char.ofNat_toNat]
      rw [Option.getD_some, known, small _ (by omega)]
      congr 1
      congr 1
      omega

theorem lowerChars_plain {text : List Char} (before : List Char)
    (plain : ∀ d ∈ lowerChars before text, d ∈ standingLetters) :
    lowerChars before text = text.map Char.toLower := by
  induction text generalizing before with
  | nil => rfl
  | cons c text ih =>
    rw [lowerChars] at plain ⊢
    obtain ⟨first, rest⟩ := List.forall_mem_append.1 plain
    rw [ih (c :: before) rest, List.map_cons]
    have other : (c == capitalSigma) = false := by
      rw [Bool.eq_false_iff]
      intro sigma
      rw [if_pos sigma] at first
      have missing : 'ς' ∉ standingLetters ∧ 'σ' ∉ standingLetters := by decide
      have inside := first _ List.mem_cons_self
      split at inside
      · exact missing.1 inside
      · exact missing.2 inside
    rw [other] at first ⊢
    rw [if_neg (by simp)] at first ⊢
    rw [mapChar_plain first]
    rfl

end Case

-- Names that become the one of a standing schema in lower case are also the same to the engine.
theorem sameName_of_lower {name standing : String} (plain : ∀ d ∈ standing.toList, d ∈ Case.standingLetters)
    (lowered : lower name = standing) : sameName name standing = true := by
  have fixed : ∀ d ∈ Case.standingLetters, d.toLower = d := List.forall_iff_forall_mem.1 (by decide)
  have known : Case.lowerChars [] name.toList = standing.toList := by rw [← lowered, lower, String.toList_ofList]
  rw [sameName_iff_folded, folded, folded, ← Case.lowerChars_plain [] (by rwa [known]), known]
  exact ((List.map_congr_left fun d member => fixed d (plain d member)).trans (List.map_id _)).symm

end Text

namespace Catalog

variable {world : World Database} {table : String}

/-- The schemas in the order in which a table is looked for in them. -/
def searched (database : Database) : List Schema := database.temp :: database.main :: database.attached

/-- The first of some schemas that has a table or a view of a name. -/
def firstWith? (schemas : List Schema) (table : String) : Option Schema :=
  schemas.find? fun schema => (Table.find? schema.tables table).isSome

theorem firstWith?_split {before later : List Schema} {home : Schema}
    (there : (Table.find? home.tables table).isSome = true)
    (missing : ∀ other ∈ before, Table.find? other.tables table = none) :
    firstWith? (before ++ home :: later) table = some home := by
  have none : before.find? (fun schema => (Table.find? schema.tables table).isSome) = none := by
    simpa [List.find?_eq_none] using missing
  rw [firstWith?, List.find?_append, none, List.find?_cons_of_pos (by exact there)]
  rfl

theorem firstWith?_eq_none {schemas : List Schema} :
    firstWith? schemas table = none ↔ ∀ home ∈ schemas, Table.find? home.tables table = none := by
  simp [firstWith?, List.find?_eq_none]

theorem mem_searched {database : Database} {schema : Schema} :
    schema ∈ searched database ↔ schema ∈ database.schemas := by
  simp only [searched, Database.schemas, List.mem_cons]
  tauto

theorem namesOf_eq {database : Database} (regular : database.Regular) :
    namesOf database = (searched database).map Schema.name := by
  have plain : ∀ name ∈ standing, ∀ d ∈ name.toList, d ∈ Text.Case.standingLetters := by
    simp only [← List.forall_iff_forall_mem]
    decide
  have fixed : ∀ name ∈ standing, lower name = name := by decide
  have attached : (database.attached.map Schema.name).filter
      (fun name => !standing.contains (lower name)) = database.attached.map Schema.name := by
    rw [List.filter_eq_self, List.forall_mem_map]
    intro schema member
    obtain ⟨main, rest⟩ := List.pairwise_cons.1 regular.apart
    obtain ⟨temp, -⟩ := List.pairwise_cons.1 rest
    rw [Bool.not_eq_true', Bool.eq_false_iff]
    intro listed
    rw [List.contains_iff_mem] at listed
    have same := Text.sameName_of_lower (plain _ listed) rfl
    simp only [standing, List.mem_cons, List.not_mem_nil, or_false] at listed
    rcases listed with named | named <;> rw [named] at same
    · have apart := temp schema member
      rw [regular.temp, sameName_symm same] at apart
      cases apart
    · have apart := main schema (List.mem_cons_of_mem _ member)
      rw [regular.main, sameName_symm same] at apart
      cases apart
  have always : lower "main" = "main" ∧ lower "temp" = "temp" := ⟨fixed _ (by simp [standing]), fixed _ (by simp [standing])⟩
  unfold namesOf lookupOrder
  simp only [searched, Database.schemas, List.map_cons, regular.main, regular.temp]
  rw [List.filter_cons_of_neg (by rw [always.1]; decide), List.filter_cons_of_neg (by rw [always.2]; decide),
    attached]
  rfl

-- Where there is no lock, every schema can be looked at as soon as the catalog can be read.
theorem access_unlocked {database : Database} (unlocked : database.condition ≠ .locked) (name : String) :
    database.access name = database.reading := by
  have untouched : database.touch name = .ok () := by simp [Database.touch, unlocked]
  unfold Database.access
  rw [untouched]
  cases database.reading <;> rfl

theorem firstHolding_run (regular : world.engine.Regular) (unlocked : world.engine.condition ≠ .locked)
    (readable : world.engine.reading = .ok ()) {schemas : List Schema}
    (known : ∀ schema ∈ schemas, schema ∈ world.engine.schemas) (table : String) :
    ∃ after, (firstHolding table (schemas.map Schema.name) : Attempt Database (Option String)).run world =
      (.ok ((firstWith? schemas table).map Schema.name), after) := by
  induction schemas generalizing world with
  | nil => exact ⟨world, rfl⟩
  | cons home schemas ih =>
    obtain ⟨first, rest⟩ := List.forall_mem_cons.1 known
    obtain ⟨middle, exist, sees⟩ := tableExists_run regular (regular.schema?_eq first) table
    rw [access_unlocked unlocked, readable] at exist
    rw [List.map_cons, firstHolding, Attempt.run_bind_ok _ exist, firstWith?, List.find?_cons]
    cases there : (Table.find? home.tables table).isSome with
    | true => exact ⟨middle, rfl⟩
    | false =>
      have same : middle.engine.condition = world.engine.condition := sees.condition
      apply ih sees.regular
      · rwa [same]
      · rw [← access_unlocked (by rwa [same]) home.name]
        exact sees.access ((access_unlocked unlocked home.name).trans readable)
      · rwa [sees.schemas]

theorem picked_split {database : Database} (regular : database.Regular) {schema : String}
    {before later : List Schema} {home : Schema} (split : searched database = before ++ home :: later)
    (same : sameName home.name schema = true) :
    ∃ picked ∈ searched database,
      ((searched database).find? fun home => lower home.name == lower schema) = some picked ∧
      (picked = home ↔ ∀ other ∈ before, lower other.name ≠ lower schema) := by
  have own : (lower home.name == lower schema) = true := by simpa using lower_congr same
  have distinct : (searched database).Nodup := by
    have names := namesOf_nodup regular
    rw [namesOf_eq regular] at names
    exact names.of_map
  rw [split] at distinct ⊢
  rw [List.find?_append, List.find?_cons_of_pos (by exact own)]
  cases earlier : before.find? fun home => lower home.name == lower schema with
  | none =>
    refine ⟨home, by simp, rfl, iff_of_true rfl fun other member => ?_⟩
    simpa using List.find?_eq_none.1 earlier other member
  | some picked =>
    have member := List.mem_of_find?_eq_some earlier
    have other : picked ≠ home := (List.nodup_append.1 distinct).2.2 picked member home List.mem_cons_self
    refine ⟨picked, by simp [member], rfl, iff_of_false other fun apart => ?_⟩
    exact apart picked member (by simpa using List.find?_some earlier)

theorem resolve_bare (regular : world.engine.Regular) (unlocked : world.engine.condition ≠ .locked)
    (table : String) :
    ((resolve table none : Attempt Database String).run world).1 =
      match world.engine.reading with
      | .error fault => .error (.engine fault)
      | .ok _ =>
        match firstWith? (searched world.engine) table with
        | some home => .ok home.name
        | none => .error (.diagnostic (.noSuchTable table)) := by
  unfold resolve
  rw [Attempt.run_bind_ok _ (schemaNames_run regular), namesOf_eq regular]
  cases readable : world.engine.reading with
  | error fault =>
    obtain ⟨after, exist, -⟩ := tableExists_run regular regular.schema?_temp table
    rw [access_unlocked unlocked, readable] at exist
    have first : (firstHolding table ((searched world.engine).map Schema.name) :
        Attempt Database _).run world = (.error (.engine fault), after) := by
      rw [searched, List.map_cons, firstHolding, Attempt.run_bind_error _ exist]
    exact congrArg Prod.fst (Attempt.run_bind_error _ first)
  | ok _ =>
    obtain ⟨after, first⟩ := firstHolding_run regular unlocked readable
      (fun schema (member : schema ∈ searched world.engine) => mem_searched.1 member) table
    rw [Attempt.run_bind_ok _ first]
    dsimp only
    cases firstWith? (searched world.engine) table <;> rfl

theorem resolve_named (regular : world.engine.Regular) (table schema : String) :
    match (searched world.engine).find? fun home => lower home.name == lower schema with
    | none => ((resolve table (some schema) : Attempt Database String).run world).1 =
        .error (.diagnostic (.noSuchSchema schema))
    | some picked => canonical? (namesOf world.engine) schema = some picked.name ∧
        picked ∈ world.engine.schemas ∧
        TellsOf world.engine schema picked table (fun _ answer => answer = .ok picked.name)
          ((resolve table (some schema) : Attempt Database String).run world).1 := by
  have ensured := ensureSchema_run regular schema
  have same : canonical? (namesOf world.engine) schema =
      ((searched world.engine).find? fun home => lower home.name == lower schema).map Schema.name := by
    rw [namesOf_eq regular, canonical?, List.find?_map]
    rfl
  cases found : (searched world.engine).find? fun home => lower home.name == lower schema with
  | none =>
    rw [same, found] at ensured
    unfold resolve
    exact congrArg Prod.fst (Attempt.run_bind_error _ ensured)
  | some picked =>
    rw [found] at same
    have member := mem_searched.1 (List.mem_of_find?_eq_some found)
    refine ⟨same, member, ?_⟩
    rw [← bind_pure (resolve table (some schema) : Attempt Database String)]
    exact tellsOf_resolve regular same (regular.schema?_eq member) fun _ _ _ _ _ => rfl

end Catalog

end TextQuery
