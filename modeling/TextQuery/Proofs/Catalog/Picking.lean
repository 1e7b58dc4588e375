import TextQuery.Proofs.Catalog.Looking

set_option autoImplicit false

namespace TextQuery

open Engine Text

namespace Text

-- Whatever is the same for the small and the capital form of all ASCII letters.
theorem eq_toLower {α : Type} {f : Char → α}
    (same : ∀ place < 26, f (Char.ofNat (97 + place)) = f (Char.ofNat (65 + place))) (c : Char) :
    f c.toLower = f c := by
  have small : ∀ place < 26, (Char.ofNat (65 + place)).toLower = Char.ofNat (97 + place) := by decide
  by_cases capital : 65 ≤ c.toNat ∧ c.toNat ≤ 90
  · have known : c = Char.ofNat (65 + (c.toNat - 65)) := by
      rw [Nat.add_sub_cancel' capital.1, Char.ofNat_toNat]
    rw [known, small _ (by omega)]
    exact same _ (by omega)
  · unfold Char.toLower
    rw [dif_neg]
    rintro ⟨low, high⟩
    exact capital ⟨UInt32.le_iff_toNat_le.1 low, UInt32.le_iff_toNat_le.1 high⟩

namespace Case

theorem mapChar_toLower (c : Char) :
    mapChar lowerRuns lowerExpansions c.toLower = mapChar lowerRuns lowerExpansions c :=
  eq_toLower (by decide) c

theorem nextToCased_toLower (text : List Char) : nextToCased (text.map Char.toLower) = nextToCased text := by
  have ignored (c : Char) : caseIgnorable.contains c.toLower = caseIgnorable.contains c :=
    eq_toLower (by decide +kernel) c
  have letter (c : Char) : cased.contains c.toLower = cased.contains c :=
    eq_toLower (by decide) c
  induction text with
  | nil => rfl
  | cons c text ih =>
    unfold nextToCased at ih ⊢
    rw [List.map_cons, List.dropWhile_cons, List.dropWhile_cons, ignored]
    cases caseIgnorable.contains c with
    | true => exact ih
    | false => exact letter c

theorem lowerChars_toLower (before text : List Char) :
    lowerChars (before.map Char.toLower) (text.map Char.toLower) = lowerChars before text := by
  have sigma (c : Char) : (c.toLower == capitalSigma) = (c == capitalSigma) :=
    eq_toLower (f := fun c => c == capitalSigma) (by decide) c
  induction text generalizing before with
  | nil => rfl
  | cons c text ih =>
    have rest := ih (c :: before)
    rw [List.map_cons] at rest
    rw [List.map_cons, lowerChars, lowerChars, rest, sigma, mapChar_toLower, endsWord, endsWord,
      nextToCased_toLower, nextToCased_toLower]

end Case

theorem lower_congr {a b : String} (same : sameName a b = true) : lower a = lower b := by
  have folded := sameName_iff_folded.1 same
  unfold Text.folded at folded
  unfold lower
  rw [← Case.lowerChars_toLower [] a.toList, folded]
  exact congrArg String.ofList (Case.lowerChars_toLower [] b.toList)

end Text

namespace Catalog

variable {world : World Database} {schema table : String} {home : Schema}

def namesOf (database : Database) : List String :=
  lookupOrder (database.schemas.map Schema.name)

theorem namesOf_follows {database after : Database} (follows : database.Follows after) :
    namesOf after = namesOf database := by
  unfold namesOf
  rw [follows.schemas]

theorem mem_namesOf {database : Database} (regular : database.Regular) {name : String}
    (listed : name ∈ namesOf database) : ∃ home ∈ database.schemas, home.name = name := by
  unfold namesOf lookupOrder standing at listed
  rcases List.mem_append.1 listed with always | other
  · simp only [List.mem_cons, List.not_mem_nil, or_false] at always
    rcases always with rfl | rfl
    · exact ⟨database.temp, by simp [Database.schemas], regular.temp⟩
    · exact ⟨database.main, by simp [Database.schemas], regular.main⟩
  · exact List.mem_map.1 (List.mem_filter.1 other).1

theorem schema?_of_namesOf {database : Database} (regular : database.Regular) {name : String}
    (listed : name ∈ namesOf database) :
    ∃ home, home.name = name ∧ database.schema? name = some home := by
  obtain ⟨home, member, rfl⟩ := mem_namesOf regular listed
  exact ⟨home, rfl, regular.schema?_eq member⟩

theorem exists_picked {database : Database} (regular : database.Regular)
    (found : database.schema? schema = some home) :
    ∃ picked ∈ database.schemas, canonical? (namesOf database) schema = some picked.name ∧
      lower picked.name = lower schema := by
  have named : lower home.name = lower schema := lower_congr (Database.sameName_of_schema? found)
  have listed : ∃ name ∈ namesOf database, lower name = lower schema := by
    unfold namesOf lookupOrder
    by_cases isStanding : lower home.name ∈ standing
    · have fixed : ∀ name ∈ standing, lower name = name := by decide
      exact ⟨_, List.mem_append_left _ isStanding, (fixed _ isStanding).trans named⟩
    · refine ⟨home.name, List.mem_append_right _ (List.mem_filter.2 ⟨?_, by simpa using isStanding⟩), named⟩
      exact List.mem_map_of_mem (List.mem_of_find?_eq_some found)
  cases picked : canonical? (namesOf database) schema with
  | none =>
    obtain ⟨name, member, same⟩ := listed
    exact absurd (by simpa using same) (List.find?_eq_none.1 picked name member)
  | some name =>
    obtain ⟨held, member, rfl⟩ := mem_namesOf regular (List.mem_of_find?_eq_some picked)
    exact ⟨held, member, rfl, by simpa using List.find?_some picked⟩

theorem schemaNames_run (regular : world.engine.Regular) :
    (schemaNames : Attempt Database (List String)).run world = (.ok (namesOf world.engine), world) := by
  have answered : Engine.answer .databaseList world.engine =
      (.ok (world.engine.schemas.map Schema.name), world.engine) := Change.answer_databaseList regular
  exact Attempt.run_bind_ok _ (Attempt.run_ask_of answered)

theorem ensureSchema_run (regular : world.engine.Regular) (schema : String) :
    (ensureSchema schema : Attempt Database String).run world =
      (match canonical? (namesOf world.engine) schema with
        | some name => .ok name
        | none => .error (.diagnostic (.noSuchSchema schema)), world) := by
  unfold ensureSchema
  rw [Attempt.run_bind_ok _ (schemaNames_run regular)]
  cases canonical? (namesOf world.engine) schema <;> rfl

theorem tableExists_run (regular : world.engine.Regular)
    (found : world.engine.schema? schema = some home) (table : String) :
    ∃ after, (tableExists table schema : Attempt Database Bool).run world =
        ((world.engine.access home.name >>= fun _ => .ok (Table.find? home.tables table).isSome).mapError
          .engine, after) ∧ world.engine.Sees after.engine := by
  obtain ⟨after, answered, follows⟩ := Change.answer_tableExists regular found table
  exact ⟨_, Attempt.run_ask_of answered, follows, Change.regular_of_answer rfl regular answered⟩

theorem resolve_run (regular : world.engine.Regular) {name : String}
    (picked : canonical? (namesOf world.engine) schema = some name)
    (found : world.engine.schema? name = some home) (table : String) :
    ∃ after, (resolve table (some schema) : Attempt Database String).run world =
        (match world.engine.access home.name with
          | .error fault => .error (.engine fault)
          | .ok _ => if (Table.find? home.tables table).isSome then .ok name
            else .error (.diagnostic (.noSuchTableIn schema table)), after) ∧
      world.engine.Sees after.engine := by
  have ensured := ensureSchema_run regular schema
  rw [picked] at ensured
  obtain ⟨after, exist, sees⟩ := tableExists_run regular found table
  unfold resolve
  rw [Attempt.run_bind_ok _ ensured]
  cases ready : world.engine.access home.name with
  | error fault =>
    rw [ready] at exist
    exact ⟨after, Attempt.run_bind_error _ exist, sees⟩
  | ok _ =>
    rw [ready] at exist
    refine ⟨after, ?_, sees⟩
    rw [Attempt.run_bind_ok _ exist]
    dsimp only
    split <;> rfl

/-- An answer about a table of a schema: that the schema cannot be looked at, that there is no such table, or
what is told of the table. -/
def TellsOf {α : Type} (database : Database) (schema : String) (home : Schema) (table : String)
    (told : Table → Except Failure α → Prop) (answer : Except Failure α) : Prop :=
  match database.access home.name, Table.find? home.tables table with
  | .error fault, _ => answer = .error (.engine fault)
  | .ok _, none => answer = .error (.diagnostic (.noSuchTableIn schema table))
  | .ok _, some held => told held answer

section

variable {α β : Type} {database : Database} {told : Table → Except Failure α → Prop}
  {answer : Except Failure α} (tells : TellsOf database schema home table told answer)
include tells

theorem TellsOf.fault {fault : Fault} (unready : database.access home.name = .error fault) :
    answer = .error (.engine fault) := by
  rwa [TellsOf, unready] at tells

theorem TellsOf.missing (ready : database.access home.name = .ok ())
    (missing : Table.find? home.tables table = none) :
    answer = .error (.diagnostic (.noSuchTableIn schema table)) := by
  rwa [TellsOf, ready, missing] at tells

theorem TellsOf.there {held : Table} (ready : database.access home.name = .ok ())
    (there : Table.find? home.tables table = some held) : told held answer := by
  rwa [TellsOf, ready, there] at tells

theorem TellsOf.map {after : Table → Except Failure β → Prop} {f : α → β}
    (mapped : ∀ held answer, told held answer → after held (answer.map f)) :
    TellsOf database schema home table after (answer.map f) := by
  unfold TellsOf at tells ⊢
  cases ready : database.access home.name with
  | error fault =>
    rw [ready] at tells
    exact congrArg (Except.map f) tells
  | ok _ =>
    rw [ready] at tells
    cases there : Table.find? home.tables table with
    | none =>
      rw [there] at tells
      exact congrArg (Except.map f) tells
    | some held =>
      rw [there] at tells
      exact mapped held answer tells

end

theorem tellsOf_resolve {α : Type} (regular : world.engine.Regular)
    (picked : canonical? (namesOf world.engine) schema = some home.name)
    (found : world.engine.schema? home.name = some home) {rest : String → Attempt Database α}
    {told : Table → Except Failure α → Prop}
    (goesOn : ∀ held after, Table.find? home.tables table = some held →
      world.engine.access home.name = .ok () → world.engine.Sees after.engine →
      told held ((rest home.name).run after).1) :
    TellsOf world.engine schema home table told ((resolve table (some schema) >>= rest).run world).1 := by
  obtain ⟨after, resolved, sees⟩ := resolve_run regular picked found table
  unfold TellsOf
  cases ready : world.engine.access home.name with
  | error fault =>
    rw [ready] at resolved
    exact congrArg Prod.fst (Attempt.run_bind_error _ resolved)
  | ok _ =>
    rw [ready] at resolved
    cases there : Table.find? home.tables table with
    | none =>
      rw [there] at resolved
      exact congrArg Prod.fst (Attempt.run_bind_error _ resolved)
    | some held =>
      rw [there] at resolved
      have goesOn := goesOn held after there ready sees
      rwa [← Attempt.run_bind_ok rest resolved] at goesOn

structure Holds (world : World Database) (table : String) (home : Schema) (after : World Database) :
    Prop extends world.engine.Sees after.engine where
  found : world.engine.schema? home.name = some home
  there : (Table.find? home.tables table).isSome = true
  ready : after.engine.access home.name = .ok ()

theorem tableExists_true (regular : world.engine.Regular) {after : World Database}
    (found : world.engine.schema? home.name = some home)
    (done : (tableExists table home.name : Attempt Database Bool).run world = (.ok true, after)) :
    Holds world table home after := by
  obtain ⟨later, exist, sees⟩ := tableExists_run regular found table
  rw [done] at exist
  obtain ⟨answer, rfl⟩ := Prod.mk.inj exist
  cases ready : world.engine.access home.name with
  | error fault =>
    rw [ready] at answer
    cases answer
  | ok _ =>
    rw [ready] at answer
    exact ⟨sees, found, (Except.ok.inj answer).symm, sees.access ready⟩

-- A schema that has been looked at in vain.
def Lacks (database : Database) (table name : String) : Prop :=
  ∃ home, database.schema? name = some home ∧ database.access home.name = .ok () ∧
    Table.find? home.tables table = none

theorem firstHolding_some (regular : world.engine.Regular) {names : List String} {name : String}
    {after : World Database} (known : ∀ name ∈ names, name ∈ namesOf world.engine)
    (done : (firstHolding table names : Attempt Database (Option String)).run world =
      (.ok (some name), after)) :
    (∃ home : Schema, home.name = name ∧ Holds world table home after) ∧
    ∃ before later, names = before ++ name :: later ∧
      ∀ other ∈ before, Lacks world.engine table other := by
  induction names generalizing world with
  | nil => cases done
  | cons first names ih =>
    obtain ⟨home, rfl, found⟩ := schema?_of_namesOf regular (known _ List.mem_cons_self)
    obtain ⟨middle, exist, sees⟩ := tableExists_run regular found table
    unfold firstHolding at done
    cases ready : world.engine.access home.name with
    | error fault =>
      rw [ready] at exist
      rw [Attempt.run_bind_error _ exist] at done
      cases done
    | ok _ =>
      rw [ready] at exist
      rw [Attempt.run_bind_ok _ exist] at done
      cases there : Table.find? home.tables table with
      | some held =>
        rw [there] at exist done
        cases done
        exact ⟨⟨home, rfl, tableExists_true regular found exist⟩, [], names, rfl, by simp⟩
      | none =>
        rw [there] at done
        have same := namesOf_follows sees.toFollows
        obtain ⟨⟨held, named, holds⟩, before, later, split, lacking⟩ := ih sees.regular
          (fun name member => by rw [same]; exact known name (List.mem_cons_of_mem _ member)) done
        refine ⟨⟨held, named, ⟨sees.toFollows.trans holds.toFollows, holds.regular⟩,
          (sees.schema? _).symm.trans holds.found, holds.there, holds.ready⟩,
          home.name :: before, later, by rw [split]; rfl, ?_⟩
        refine List.forall_mem_cons.2 ⟨⟨home, found, ready, there⟩, ?_⟩
        intro other member
        obtain ⟨inside, known, readable, missing⟩ := lacking other member
        rw [Database.access_eq_ok, sees.touch] at readable
        have reading := (Database.access_eq_ok.1 ready).1
        exact ⟨inside, (sees.schema? _).symm.trans known, Database.access_eq_ok.2 ⟨reading, readable.2⟩, missing⟩

-- Where no schema is named, all of them are looked at.
theorem firstHolding_of_resolve (regular : world.engine.Regular) {name : String} {after : World Database}
    (done : (resolve table none : Attempt Database String).run world = (.ok name, after)) :
    (firstHolding table (namesOf world.engine) : Attempt Database _).run world = (.ok (some name), after) := by
  unfold resolve at done
  rw [Attempt.run_bind_ok _ (schemaNames_run regular)] at done
  cases first : (firstHolding table (namesOf world.engine) : Attempt Database _).run world with
  | mk answer later =>
    cases answer with
    | error failure =>
      rw [Attempt.run_bind_error _ first] at done
      cases done
    | ok found =>
      rw [Attempt.run_bind_ok _ first] at done
      cases found with
      | none => cases done
      | some found =>
        cases done
        rfl

-- Where a schema is named, the one that is picked has the table.
theorem picked_of_resolve (regular : world.engine.Regular) {name : String} {after : World Database}
    (done : (resolve table (some schema) : Attempt Database String).run world = (.ok name, after)) :
    canonical? (namesOf world.engine) schema = some name ∧
      ∃ home : Schema, home.name = name ∧ Holds world table home after := by
  have ensured := ensureSchema_run regular schema
  cases picked : canonical? (namesOf world.engine) schema with
  | none =>
    rw [picked] at ensured
    unfold resolve at done
    rw [Attempt.run_bind_error _ ensured] at done
    cases done
  | some found =>
    obtain ⟨home, rfl, known⟩ := schema?_of_namesOf regular (List.mem_of_find?_eq_some picked)
    obtain ⟨later, resolved, sees⟩ := resolve_run regular picked known table
    rw [done] at resolved
    obtain ⟨answer, rfl⟩ := Prod.mk.inj resolved
    cases ready : world.engine.access home.name with
    | error fault =>
      rw [ready] at answer
      cases answer
    | ok _ =>
      rw [ready] at answer
      dsimp only at answer
      split at answer
      · rename_i there
        cases answer
        exact ⟨rfl, home, rfl, sees, known, there, sees.access ready⟩
      · cases answer

theorem resolve_ok (regular : world.engine.Regular) {schema : Option String} {name : String}
    {after : World Database}
    (done : (resolve table schema : Attempt Database String).run world = (.ok name, after)) :
    ∃ home : Schema, home.name = name ∧ Holds world table home after := by
  cases schema with
  | some schema => exact (picked_of_resolve regular done).2
  | none => exact (firstHolding_some regular (fun _ => id) (firstHolding_of_resolve regular done)).1

end Catalog

end TextQuery
