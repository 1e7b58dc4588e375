import TextQuery.Proofs.Engine.StatementKeeping

set_option autoImplicit false

namespace TextQuery.Engine

structure Covers (Q : Fault → Prop) : Prop where
  nulInText : Q .nulInText
  busy : Q .busy
  notADatabase : Q .notADatabase
  malformedImage : Q .malformedImage
  logicError : Q .logicError
  unknownDatabase : ∀ name, Q (.unknownDatabase name)
  noSuchTable : ∀ schema table, Q (.noSuchTable schema table)
  constructorFailed : ∀ table, Q (constructorFailed table)
  damagedIndex : ∀ table, Q (Schema.damagedIndex table)
  badVersion : ∀ version fault, Schema.checkVersion version = .error fault → Q fault

theorem Database.locate_eq_error {database : Database} {schema table : String} {fault : Fault}
    (failed : database.locate schema table = .error fault) : fault = .noSuchTable schema table := by
  unfold Database.locate Database.schemaOr at failed
  split at failed
  · rename_i home _
    cases entry : home.find? table with
    | some held =>
      simp only [bind, Except.bind, entry] at failed
      cases failed
    | none =>
      simp only [bind, Except.bind, entry] at failed
      cases failed
      rfl
  · cases failed
    rfl

namespace Change

variable {α β : Type} {P : Database → Prop} {Q : Fault → Prop}

def FailsWith (P : Database → Prop) (Q : Fault → Prop) (change : Change α) : Prop :=
  ∀ database fault after, P database → change database = (.error fault, after) → Q fault

theorem FailsWith.answered {change : Change α} (fails : FailsWith P Q change) {database : Database}
    {fault : Fault} (holds : P database) (failed : (change database).1 = .error fault) : Q fault :=
  fails database fault _ holds (Prod.ext failed rfl)

theorem failsWith_pure (value : α) : FailsWith P Q (pure value : Change α) := by
  intro database fault after _ failed
  cases failed

theorem failsWith_throw {fault : Fault} (known : Q fault) : FailsWith P Q (throw fault : Change α) := by
  intro database other after _ failed
  cases failed
  exact known

theorem failsWith_throw_bind {fault : Fault} (known : Q fault) (next : α → Change β) :
    FailsWith P Q (throw fault >>= next) := by
  intro database other after _ failed
  cases failed
  exact known

theorem failsWith_lift {result : Except Fault α} (known : ∀ fault, result = .error fault → Q fault) :
    FailsWith P Q (lift result) := by
  intro database fault after _ failed
  exact known fault (congrArg Prod.fst failed)

theorem failsWith_find {look : Database → Except Fault α}
    (known : ∀ database fault, P database → look database = .error fault → Q fault) :
    FailsWith P Q (find look) := by
  intro database fault after holds failed
  exact known database fault holds (congrArg Prod.fst failed)

theorem failsWith_get : FailsWith P Q (get : Change Database) := by
  intro database fault after _ failed
  cases failed

theorem failsWith_modify (edit : Database → Database) :
    FailsWith P Q (modify edit : Change PUnit) := by
  intro database fault after _ failed
  cases failed

theorem failsWith_bind {first : Change α} {next : α → Change β} (kept : Keeps P first)
    (fails : FailsWith P Q first) (failsNext : ∀ value, FailsWith P Q (next value)) :
    FailsWith P Q (first >>= next) := by
  intro before fault after holds failed
  have middle := kept before holds
  cases result : first before with
  | mk answer between =>
    rw [result] at middle
    cases answer with
    | ok value =>
      rw [bind_ok next result] at failed
      exact failsNext value between fault after middle failed
    | error other =>
      rw [bind_error next result] at failed
      cases failed
      exact fails before fault after holds result

theorem failsWith_tryCatch {change : Change α} {handle : Fault → Change α} (kept : Keeps P change)
    (fails : ∀ fault, FailsWith P Q (handle fault)) : FailsWith P Q (tryCatch change handle) := by
  intro before fault after holds failed
  have middle := kept before holds
  cases result : change before with
  | mk answer between =>
    rw [result] at middle
    cases answer with
    | ok value =>
      rw [tryCatch_ok handle result] at failed
      cases failed
    | error other =>
      rw [tryCatch_error handle result] at failed
      exact fails other between fault after middle failed

theorem failsWith_option_forM {entry : Option α} {body : α → Change PUnit}
    (fails : ∀ value, entry = some value → FailsWith P Q (body value)) :
    FailsWith P Q (entry.forM body) := by
  cases entry with
  | none => exact failsWith_pure _
  | some value => exact fails value rfl

section

variable (covers : Covers Q) (steady : Steady P)
include covers

theorem failsWith_touch (schema : String) : FailsWith P Q (touch schema) := by
  apply failsWith_find
  intro database fault _ failed
  unfold Database.touch at failed
  split at failed
  · cases failed
    exact covers.busy
  · cases failed

theorem failsWith_schemaNow (name : String) : FailsWith P Q (schemaNow name) := by
  apply failsWith_find
  intro database fault _ failed
  unfold Database.schemaOr at failed
  split at failed
  · cases failed
  · cases failed
    exact covers.unknownDatabase name

theorem failsWith_indexRows (home : Schema) (table : String) :
    FailsWith P Q (lift (home.indexRows table)) := by
  apply failsWith_lift
  intro fault failed
  unfold Schema.indexRows at failed
  split at failed
  · cases failed
  · cases failed
    exact covers.malformedImage

theorem failsWith_checkTerms (home : Schema) (table : String) :
    FailsWith P Q (lift (home.checkTerms table)) := by
  apply failsWith_lift
  intro fault failed
  unfold Schema.checkTerms at failed
  split at failed
  · split at failed
    · cases failed
    · cases failed
      exact covers.logicError
  · cases failed
    exact covers.logicError

theorem failsWith_readCatalog : FailsWith P Q readCatalog := by
  intro database fault after _ failed
  rw [readCatalog_eq] at failed
  split at failed
  · cases failed
    exact covers.notADatabase
  · split at failed
    · cases failed
    · cases failed
      exact covers.busy
  · cases failed

theorem failsWith_start (wording : Wording) (schema : String) : FailsWith P Q (start wording schema) := by
  intro database fault after _ failed
  rw [start_eq] at failed
  exact failsWith_touch (P := fun _ => True) covers schema _ fault after trivial failed

theorem failsWith_resume (wording : Wording) : FailsWith P Q (resume wording) := by
  unfold resume
  refine failsWith_bind keeps_get failsWith_get ?_
  intro database
  split
  · exact failsWith_bind (keeps_touch _) (failsWith_touch covers _) fun _ => failsWith_modify _
  · exact failsWith_pure _

theorem failsWith_segments (home table : String) : FailsWith P Q (segments home table) := by
  unfold segments
  refine failsWith_bind keeps_get failsWith_get ?_
  intro database
  split
  · exact failsWith_pure _
  · refine failsWith_bind (keeps_schemaNow home) (failsWith_schemaNow covers home) ?_
    intro schema
    refine failsWith_bind (keeps_lift _) (failsWith_indexRows covers schema table) ?_
    intro rows
    split
    · intro database fault after _ failed
      cases failed
    · exact failsWith_throw covers.malformedImage

include steady

theorem failsWith_search (home table : String) (index : FullText) (query : Expression.Query) :
    FailsWith P Q (search home table index query) := by
  unfold search
  refine failsWith_bind (keeps_segments steady home table) (failsWith_segments covers home table) ?_
  intro count
  split
  · refine failsWith_bind (keeps_schemaNow home) (failsWith_schemaNow covers home) ?_
    intro schema
    refine failsWith_bind (keeps_lift _) (failsWith_checkTerms covers schema table) ?_
    intro _
    refine failsWith_bind (keeps_lift _) (failsWith_indexRows covers schema table) ?_
    intro rows
    split
    · exact failsWith_throw covers.malformedImage
    · exact failsWith_pure _
  · exact failsWith_pure _

theorem failsWith_openIndex (home : Schema) (table : String) : FailsWith P Q (openIndex home table) := by
  have counted : Keeps P (do let _ ← segments home.name table : Change Unit) :=
    keeps_bind (keeps_segments steady home.name table) fun _ => keeps_pure _
  have opened : Keeps P (tryCatch (do let _ ← segments home.name table) fun _ =>
      throw (Schema.damagedIndex table) : Change Unit) :=
    keeps_tryCatch counted fun _ => keeps_throw _
  unfold openIndex
  refine failsWith_bind keeps_get failsWith_get ?_
  intro database
  split
  · exact failsWith_throw_bind (covers.constructorFailed table) _
  · refine failsWith_bind opened ?_ ?_
    · exact failsWith_tryCatch counted fun _ => failsWith_throw (covers.damagedIndex table)
    · intro _
      dsimp only
      split
      · refine failsWith_bind (keeps_lift _) (failsWith_lift ?_) fun _ => failsWith_modify _
        exact covers.badVersion _
      · exact failsWith_throw_bind (covers.constructorFailed table) _

theorem failsWith_openTable (home : Schema) (held : Table) : FailsWith P Q (openTable home held) := by
  unfold openTable
  refine failsWith_bind keeps_get failsWith_get ?_
  intro database
  split
  split
  · exact failsWith_openIndex covers steady _ _
  · exact failsWith_pure _

theorem failsWith_openTarget (statement : Statement α) : FailsWith P Q (openTarget statement) := by
  apply failsWith_option_forM
  rintro ⟨schema, table⟩ -
  refine failsWith_bind keeps_get failsWith_get ?_
  intro database
  split
  · exact failsWith_openTable covers steady _ _
  · exact failsWith_pure _

-- A statement that names no schema outside of a query fails before its response with nothing special.
theorem failsWith_answer {statement : Statement α} (noPragma : Database.pragmaSchema? statement = none)
    (responds : FailsWith P Q (respond statement)) : FailsWith P Q (answer statement) := by
  unfold answer
  extract_lets last rest
  have failsLast : ∀ done, FailsWith P Q (last done) := by
    intro _
    refine failsWith_bind (keeps_option_forM fun schema _ => keeps_use steady schema)
      (failsWith_option_forM fun schema _ => failsWith_modify _) ?_
    intro _
    exact failsWith_bind (keeps_openTarget steady statement) (failsWith_openTarget covers steady statement)
      fun _ => responds
  have failsRest : ∀ done, FailsWith P Q (rest done) := by
    intro _
    refine failsWith_bind (keeps_resume steady _) (failsWith_resume covers _) ?_
    intro _
    rw [noPragma]
    refine failsWith_bind (keeps_pure _) (failsWith_pure _) ?_
    intro _
    split
    · exact failsWith_bind (keeps_readCatalog steady) (failsWith_readCatalog covers) failsLast
    · exact failsLast ()
  split
  · exact failsWith_throw_bind covers.nulInText _
  · exact failsRest ()

end

end Change

end TextQuery.Engine
