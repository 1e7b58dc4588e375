import TextQuery.Proofs.Engine.RunKeeping

set_option autoImplicit false

namespace TextQuery

open Engine

def Agreed {σ α : Type} [Engine σ] (S : σ → σ → Prop) (statement : Statement α)
    (Q : α → Prop := fun _ => True) : Prop :=
  ∀ one other, S one other → (Engine.answer statement one).1 = (Engine.answer statement other).1 ∧
    (∀ value, (Engine.answer statement one).1 = .ok value → Q value) ∧
    S (Engine.answer statement one).2 (Engine.answer statement other).2

-- An engine agrees with itself.
theorem agreed_eq {σ α : Type} [Engine σ] (statement : Statement α) : Agreed (σ := σ) Eq statement := by
  rintro engine _ rfl
  exact ⟨rfl, fun _ _ => trivial, rfl⟩

namespace Run

variable {σ α β : Type} {S : σ → σ → Prop} {R : α → α → Prop} {T : β → β → Prop}

def Agree (S : σ → σ → Prop) (R : α → α → Prop) (first second : Run σ α) : Prop :=
  ∀ one other, S one.engine other.engine →
    R (first one).1 (second other).1 ∧ S (first one).2.engine (second other).2.engine

theorem agree_pure {one other : α} (related : R one other) : Agree S R (pure one) (pure other) :=
  fun _ _ engines => ⟨related, engines⟩

theorem agree_bind {first second : Run σ α} {next further : α → Run σ β} (agree : Agree S R first second)
    (agreeNext : ∀ one other, R one other → Agree S T (next one) (further other)) :
    Agree S T (first >>= next) (second >>= further) := by
  intro one other engines
  obtain ⟨related, middle⟩ := agree one other engines
  exact agreeNext _ _ related _ _ middle

-- The records may say different things.
theorem agree_record_bind {level : Level} {message text : String} {next further : Unit → Run σ α}
    (agree : Agree S R (next ()) (further ())) :
    Agree S R (record level message >>= next) (record level text >>= further) :=
  fun _ _ engines => agree _ _ engines

theorem agree_ask [Engine σ] {statement : Statement α} {Q : α → Prop} (agreed : Agreed S statement Q) :
    Agree S Eq (ask statement) (ask statement) :=
  fun _ _ engines => ⟨(agreed _ _ engines).1, (agreed _ _ engines).2.2⟩

end Run

namespace Attempt

variable {σ α β : Type} {S : σ → σ → Prop} {Q : α → Prop} {T : β → Prop}

def Agrees (S : σ → σ → Prop) (attempt : Attempt σ α) (Q : α → Prop := fun _ => True) : Prop :=
  Run.Agree S (fun one other => one = other ∧ ∀ value, one = .ok value → Q value) attempt.run attempt.run

theorem agrees_pure {value : α} (holds : Q value) : Agrees S (pure value) Q :=
  Run.agree_pure ⟨rfl, fun _ same => Except.ok.inj same ▸ holds⟩

theorem agrees_throw (failure : Failure) : Agrees S (throw failure) Q :=
  Run.agree_pure ⟨rfl, fun _ same => by cases same⟩

theorem agrees_fail (diagnostic : Diagnostic) : Agrees S (fail diagnostic) Q := agrees_throw _

theorem agrees_debug (message : String) : Agrees S (debug message) := fun _ _ engines =>
  ⟨⟨rfl, fun _ _ => trivial⟩, engines⟩

theorem agrees_bind {first : Attempt σ α} {next : α → Attempt σ β} (agrees : Agrees S first Q)
    (agreesNext : ∀ value, Q value → Agrees S (next value) T) : Agrees S (first >>= next) T := by
  intro one other engines
  obtain ⟨⟨same, holds⟩, middle⟩ := agrees one other engines
  cases ran : first.run one with
  | mk answer after =>
    cases also : first.run other with
    | mk answered later =>
      rw [ran, also] at same middle
      rw [ran] at holds
      obtain rfl : answer = answered := same
      cases answer with
      | ok value =>
        rw [run_bind_ok next ran, run_bind_ok next also]
        exact agreesNext value (holds value rfl) after later middle
      | error failure =>
        rw [run_bind_error next ran, run_bind_error next also]
        exact ⟨⟨rfl, fun _ same => by cases same⟩, middle⟩

variable [Engine σ] {statement : Statement α}

theorem agrees_ask (agreed : Agreed S statement Q) : Agrees S (ask statement) Q := by
  intro one other engines
  obtain ⟨same, holds, after⟩ := agreed _ _ engines
  rw [run_ask, run_ask, same]
  refine ⟨⟨rfl, fun value told => holds value ?_⟩, after⟩
  rw [same]
  cases answer : (Engine.answer statement other.engine).1 with
  | ok found =>
    rw [answer] at told
    cases told
    rfl
  | error fault =>
    rw [answer] at told
    cases told

theorem agrees_observe (agreed : Agreed S statement Q) : Agrees S (observe statement) := by
  intro one other engines
  obtain ⟨same, -, after⟩ := agreed _ _ engines
  rw [run_observe, run_observe, same]
  exact ⟨⟨rfl, fun _ _ => trivial⟩, after⟩

end Attempt

open Attempt

namespace Catalog

variable {σ : Type} [Engine σ] {S : σ → σ → Prop} (listed : Agreed S .databaseList)
include listed

theorem agrees_schemaNames : Agrees S (schemaNames : Attempt σ (List String)) :=
  agrees_bind (agrees_ask listed) fun _ _ => agrees_pure trivial

theorem agrees_ensureSchema (schema : String) : Agrees S (ensureSchema schema : Attempt σ String) := by
  refine agrees_bind (agrees_schemaNames listed) ?_
  intro names _
  split
  · exact agrees_pure trivial
  · exact agrees_fail _

variable {table : String} (held : ∀ schema, Agreed S (.tableExists schema table))

omit listed in
theorem agrees_tableSql {schema : String} (told : Agreed S (.tableSql schema table)) :
    Agrees S (tableSql table schema : Attempt σ String) :=
  agrees_bind (agrees_ask told) fun _ _ => agrees_pure trivial

omit listed in
include held in
theorem agrees_firstHolding (names : List String) :
    Agrees S (firstHolding table names : Attempt σ (Option String)) := by
  induction names with
  | nil => exact agrees_pure trivial
  | cons name names ih =>
    refine agrees_bind (agrees_ask (held name)) ?_
    intro found _
    split
    · exact agrees_pure trivial
    · exact ih

include held in
theorem agrees_resolve (schema : Option String) : Agrees S (resolve table schema : Attempt σ String) := by
  cases schema with
  | some schema =>
    refine agrees_bind (agrees_ensureSchema listed schema) ?_
    intro name _
    refine agrees_bind (agrees_ask (held name)) ?_
    intro found _
    split
    · exact agrees_pure trivial
    · exact agrees_fail _
  | none =>
    refine agrees_bind (agrees_schemaNames listed) ?_
    intro names _
    refine agrees_bind (agrees_firstHolding held names) ?_
    intro found _
    split
    · exact agrees_pure trivial
    · exact agrees_fail _

end Catalog

namespace Validator

variable {σ : Type} [Engine σ] {S : σ → σ → Prop}

theorem agrees_findTarget (validator : Validator)
    (asks : ∀ {α : Type} {statement : Statement α}, statement.purpose = .lookup →
      Database.target? statement = none → Agreed S statement)
    (creates : ∀ columns, Agreed S (.createProbe (helper columns) columns)) :
    Agrees S (validator.findTarget : Attempt σ Target) := by
  unfold findTarget
  split
  · exact agrees_pure trivial
  · unfold createHelper
    refine agrees_bind (agrees_observe (creates _)) ?_
    intro answer _
    split
    · exact agrees_bind (agrees_debug _) fun _ _ => agrees_pure trivial
    · split
      · exact agrees_fail _
      · exact agrees_throw _
  · unfold locate
    refine agrees_bind (Catalog.agrees_resolve (asks rfl rfl) (fun _ => asks rfl rfl) _) ?_
    intro resolved _
    refine agrees_bind (Catalog.agrees_tableSql (asks rfl rfl)) ?_
    intro sql _
    split
    · exact agrees_pure trivial
    · exact agrees_fail _

end Validator

namespace Tokenizer

open Run

variable {σ : Type} {S : σ → σ → Prop}

theorem agree_giveUp (tokenizer : Tokenizer) (fault : Fault) :
    Agree S Eq (tokenizer.giveUp fault : Run σ _) (tokenizer.giveUp fault) := by
  unfold giveUp
  split
  · exact agree_pure rfl
  · exact agree_record_bind (agree_pure rfl)

theorem agree_tokenize [Engine σ] (tokenizer : Tokenizer) (text : String)
    (creates : Agreed S (.createTokens (helper tokenizer.choice) tokenizer.choice))
    (selects : ∀ table input, Agreed S (.selectTokens table input)) :
    Agree S Eq (tokenizer.tokenize text : Run σ _) (tokenizer.tokenize text) := by
  unfold tokenize
  split
  · exact agree_pure rfl
  · have ensured : Agree S Eq (tokenizer.ensureTable : Run σ _) tokenizer.ensureTable := by
      unfold ensureTable
      split
      · exact agree_pure rfl
      · refine agree_bind (agree_ask creates) ?_
        rintro answer _ rfl
        cases answer <;> exact agree_pure rfl
    refine agree_bind ensured ?_
    rintro answer _ rfl
    cases answer with
    | error fault => exact agree_giveUp tokenizer fault
    | ok found =>
      refine agree_bind (agree_ask (selects _ _)) ?_
      rintro tokens _ rfl
      cases tokens with
      | error fault => exact agree_giveUp found.2 fault
      | ok tokens => exact agree_record_bind (agree_pure rfl)

end Tokenizer

section

variable {σ : Type} [Engine σ] {S : σ → σ → Prop}
  (asks : ∀ {α : Type} {statement : Statement α}, statement.purpose = .lookup → Agreed S statement)
include asks

namespace ForeignKey

theorem agrees_ofColumns (schema : String) (id : Int) (columns : List KeyColumn) :
    Agrees S (ofColumns schema id columns) := by
  cases columns with
  | nil => exact agrees_pure trivial
  | cons first rest =>
    have destinations : Agrees S (destinationsOf (first :: rest) first.table schema) := by
      unfold destinationsOf
      split
      · exact agrees_pure trivial
      · exact agrees_bind (agrees_ask (asks rfl)) fun _ _ => agrees_pure trivial
    exact agrees_bind destinations fun _ _ => agrees_pure trivial

theorem agrees_ofListing (schema : String) (columns : List KeyColumn) (ids : List Int) :
    Agrees S (ofListing schema columns ids) := by
  induction ids with
  | nil => exact agrees_pure trivial
  | cons id ids ih =>
    refine agrees_bind (agrees_ofColumns asks schema id _) fun _ _ => ?_
    exact agrees_bind ih fun _ _ => agrees_pure trivial

theorem agrees_declared (table : String) (schema : Option String) : Agrees S (declared table schema) := by
  refine agrees_bind (Catalog.agrees_resolve (asks rfl) (fun _ => asks rfl) schema) fun resolved _ => ?_
  refine agrees_bind (agrees_ask (asks rfl)) fun columns _ => ?_
  refine agrees_bind (agrees_ofListing asks _ _ _) fun keys _ => ?_
  exact agrees_bind (agrees_debug _) fun _ _ => agrees_pure trivial

theorem agrees_describe (violation : Violation) (schema : String) : Agrees S (describe violation schema) := by
  refine agrees_bind (agrees_declared asks _ _) fun keys _ => ?_
  cases violation.originRowid with
  | none =>
    have nothing : Agrees S (pure none : Attempt σ (Option Row)) := agrees_pure trivial
    exact agrees_bind nothing fun _ _ => agrees_pure trivial
  | some rowid => exact agrees_bind (agrees_ask (asks rfl)) fun _ _ => agrees_pure trivial

theorem agrees_check (table schema : Option String) : Agrees S (check table schema) := by
  unfold check
  extract_lets rest
  have agrees (resolved : String) : Agrees S (rest resolved) :=
    agrees_bind (agrees_ask (asks rfl)) fun _ _ => agrees_pure trivial
  cases table with
  | some table =>
    exact agrees_bind (Catalog.agrees_resolve (asks rfl) (fun _ => asks rfl) schema) fun resolved _ => agrees resolved
  | none =>
    cases schema with
    | some schema => exact agrees_bind (Catalog.agrees_ensureSchema (asks rfl) schema) fun resolved _ => agrees resolved
    | none =>
      have main : Agrees S (pure "main" : Attempt σ String) := agrees_pure trivial
      exact agrees_bind main fun resolved _ => agrees resolved

theorem agrees_ensureNone (table schema : Option String) : Agrees S (ensureNone table schema) := by
  unfold ensureNone
  refine agrees_bind (agrees_check asks table schema) fun found _ => ?_
  split
  · exact agrees_pure trivial
  · refine agrees_bind (agrees_describe asks _ _) fun message _ => ?_
    exact agrees_bind (agrees_debug _) fun _ _ => agrees_fail _

end ForeignKey

theorem Lookup.agrees_run (question : Lookup) : Agrees S (question.run : Attempt σ Answer) := by
  have map {α : Type} {attempt : Attempt σ α} (agrees : Agrees S attempt) (f : α → Answer) :
      Agrees S (attempt >>= fun value => pure (f value)) := agrees_bind agrees fun _ _ => agrees_pure trivial
  cases question with
  | schemaNames => exact map (Catalog.agrees_schemaNames (asks rfl)) _
  | ensureSchema schema => exact map (Catalog.agrees_ensureSchema (asks rfl) schema) _
  | tableExists table schema => exact map (agrees_ask (asks rfl)) _
  | tableSql table schema => exact map (Catalog.agrees_tableSql (asks rfl)) _
  | primaryKeyColumns table schema =>
    exact map (agrees_bind (agrees_ask (asks rfl)) fun _ _ => agrees_pure trivial) _
  | resolve table schema => exact map (Catalog.agrees_resolve (asks rfl) (fun _ => asks rfl) schema) _
  | foreignKeys table schema => exact map (ForeignKey.agrees_declared asks table schema) _
  | violations table schema =>
    exact map (agrees_bind (ForeignKey.agrees_check asks table schema) fun _ _ => agrees_pure trivial) _
  | ensureNone table schema => exact map (ForeignKey.agrees_ensureNone asks table schema) _
  | describe violation schema => exact map (ForeignKey.agrees_describe asks violation schema) _

end

end TextQuery
