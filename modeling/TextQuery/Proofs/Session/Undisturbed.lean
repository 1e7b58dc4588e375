import TextQuery.Proofs.Session.Replies

set_option autoImplicit false

namespace TextQuery

open Engine Engine.Change Text

namespace Session

variable {allowed : Step → Prop} {P Q : Database → Prop} {used : CompilerSettings → Prop} {session : Session}

theorem Upheld.and (first : Upheld allowed P) (second : Upheld allowed Q) :
    Upheld allowed fun database => P database ∧ Q database where
  asked may made := (first.asked may made).and (second.asked may made)
  lookedUp statement lookup database holds :=
    ⟨first.lookedUp statement lookup database holds.1, second.lookedUp statement lookup database holds.2⟩
  built may database holds := ⟨first.built may database holds.1, second.built may database holds.2⟩
  listed database holds := ⟨first.listed database holds.1, second.listed database holds.2⟩

theorem upheld_usable : Upheld (Step.Leaves used) fun database => database.condition = .usable := by
  have lasting : Lasting (fun _ _ => True) (fun _ => True)
      fun database : Database => database.condition = .usable := {
    noted := fun _ _ _ _ same => same
    read := fun same => same
    checked := fun _ same => same
    several := fun _ => trivial
    started := fun _ same => same
    reread := fun same => same
    undone := fun _ _ same => same
    written := fun _ _ _ same => (Database.within_condition _ _ _).trans same }
  refine ⟨fun _ _ => Watched.compilerAsks (Database.watched_condition .usable) _,
    lookedUp_of lasting.toSteady, ?_, keeps_listHelpers lasting⟩
  intro building leaves
  refine keeps_build lasting fun _ => ?_
  cases building with
  | lock => exact leaves.elim
  | attach | detach => exact fun _ same _ => same
  | unlock => exact fun _ _ => rfl
  | createTable | createView | createFullText =>
    exact fun _ _ _ _ database same _ => (Database.within_condition database _ _).trans same
  | insert | delete => exact fun _ _ _ _ => ⟨trivial, fun _ _ => trivial⟩
  | drop => exact fun _ _ database same _ _ => (Database.within_condition database _ _).trans same

def MadeWith (used : CompilerSettings → Prop) (session : Session) : Prop :=
  ∀ entry ∈ session.compilers, ∃ settings start, used settings ∧ Compiler.create settings = .ok start ∧
    start.Continues entry.2

theorem MadeWith.upholds (madeWith : MadeWith used session) (upheld : Upheld (Step.Leaves used) P)
    (holds : P session.database) : Upholds P session := by
  refine ⟨⟨holds, ?_⟩, ?_⟩
  · intro entry member
    obtain ⟨settings, start, -, -, continues⟩ := madeWith entry member
    exact continues.faithful
  · intro entry member
    obtain ⟨settings, start, may, made, continues⟩ := madeWith entry member
    exact (@Upheld.asked _ _ upheld "" _ _ may made).later continues

theorem madeWith_setCompiler (madeWith : MadeWith used session) (id : String) {compiler start : Compiler}
    {settings : CompilerSettings} (may : used settings) (made : Compiler.create settings = .ok start)
    (continues : start.Continues compiler) : MadeWith used (session.setCompiler id compiler) := by
  intro entry member
  rcases List.mem_cons.1 member with rfl | member
  · exact ⟨settings, start, may, made, continues⟩
  · exact madeWith entry (List.mem_filter.1 member).1

theorem madeWith_step (madeWith : MadeWith used session) {next : Step} (leaves : next.Leaves used) :
    MadeWith used (session.step next).2.2 := by
  unfold Session.step
  split
  · exact madeWith
  cases next with
  | create id settings =>
    simp only [perform, create]
    cases made : Compiler.create settings with
    | ok compiler =>
      exact madeWith_setCompiler madeWith id leaves made (.refl (Compiler.create_faithful made))
    | error failure => exact madeWith
  | request id request =>
    simp only [perform, Session.request]
    cases found : session.compiler? id with
    | none => exact madeWith
    | some compiler =>
      obtain ⟨settings, start, may, made, continues⟩ := madeWith _ (mem_of_compiler? found)
      have anything : compiler.Asks fun _ : Database => True :=
        ⟨⟨fun _ _ => trivial, fun _ _ _ => trivial⟩, fun _ _ _ _ => trivial, fun _ _ _ _ _ => trivial,
          fun _ _ _ _ => trivial⟩
      obtain ⟨-, goesOn⟩ := Request.leads_run continues.faithful anything request
        { engine := session.database } trivial
      have same : MadeWith used (session.onDatabase (request.run compiler)).2.2 := madeWith
      exact madeWith_setCompiler same id may made (continues.trans goesOn)
  | build | lookup | helpers | bind | close => exact madeWith

theorem Reachable.madeWith (reachable : Reachable (Step.Leaves used) session) : MadeWith used session := by
  induction reachable with
  | opened | notADatabase | reopened => simp [MadeWith]
  | step _ next leaves ih => exact madeWith_step ih leaves

theorem lookup_filter_ne {β : Type} {id other : String} (apart : other ≠ id)
    (entries : List (String × β)) :
    (entries.filter fun entry => entry.1 != other).lookup id = entries.lookup id := by
  induction entries with
  | nil => rfl
  | cons entry entries ih =>
    obtain ⟨name, value⟩ := entry
    by_cases named : name = other
    · have differs : (id == name) = false := by simpa [named] using Ne.symm apart
      rw [List.filter_cons_of_neg (by simp [named]), ih, List.lookup_cons, differs]
    · rw [List.filter_cons_of_pos (by simp [named]), List.lookup_cons, List.lookup_cons, ih]

theorem compiler?_setCompiler (session : Session) (id : String) (compiler : Compiler) :
    (session.setCompiler id compiler).compiler? id = some compiler := by
  simp [setCompiler, compiler?]

theorem compiler?_setCompiler_ne (session : Session) {id other : String} (apart : other ≠ id)
    (compiler : Compiler) : (session.setCompiler other compiler).compiler? id = session.compiler? id := by
  have differs : (id == other) = false := by simpa using Ne.symm apart
  simp only [setCompiler, compiler?, List.lookup_cons, differs]
  exact lookup_filter_ne apart _

theorem step_request {id : String} {compiler : Compiler} (running : session.isClosed = false)
    (found : session.compiler? id = some compiler) (request : Request) :
    let ran := request.run compiler { engine := session.database }
    (session.step (.request id request)).1 = ran.1.1 ∧
      (session.step (.request id request)).2.2 =
        { session with database := ran.2.engine }.setCompiler id ran.1.2 := by
  have isOpen : ¬(session.isClosed && !(Step.request id request).isClose) = true := by simp [running]
  unfold Session.step
  rw [if_neg isOpen]
  simp only [perform, Session.request, found]
  exact ⟨rfl, rfl⟩

structure Serving (used : CompilerSettings → Prop) (choice : TokenizerChoice) (columns : List String)
    (id : String) (session : Session) : Prop where
  madeWith : MadeWith used session
  settled : ∃ compiler, session.compiler? id = some compiler ∧
    compiler.Settled choice columns session.database

variable {choice : TokenizerChoice} {columns : List String} {id : String}

theorem Serving.answer (serving : Serving used choice columns id session) (running : session.isClosed = false)
    (request : Request) : (session.step (.request id request)).1 = request.reply choice columns := by
  obtain ⟨compiler, found, settled⟩ := serving.settled
  have replied := (Request.gives_run compiler request { engine := session.database } settled).1
  unfold Session.step
  rw [running, Bool.false_and, if_neg (by simp), perform, Session.request, found]
  exact replied

theorem serving_create {settings : CompilerSettings} (madeWith : MadeWith used session)
    (ready : session.database.Ready settings.choice columns False False) (running : session.isClosed = false)
    (may : used settings) (probe : settings.probe = .helper columns) {compiler : Compiler}
    (made : Compiler.create settings = .ok compiler) (id : String) :
    Serving used settings.choice columns id (session.step (.create id settings)).2.2 := by
  refine ⟨madeWith_step madeWith may, ?_⟩
  obtain ⟨-, rfl⟩ := Compiler.create_eq_ok made
  have faithful := Compiler.create_faithful made
  unfold Session.step
  rw [running, Bool.false_and, if_neg (by simp), perform, create, made]
  refine ⟨_, compiler?_setCompiler session id _, ?_⟩
  have holds : session.database.Ready settings.choice columns (false = true) (false = true) :=
    ready.weaken (by simp) (by simp)
  exact ⟨⟨rfl, faithful.tokenizer, holds⟩, ⟨probe, faithful.validator, holds⟩⟩

theorem isClosed_step (running : session.isClosed = false) {next : Step} (leaves : next.Leaves used) :
    (session.step next).2.2.isClosed = false := by
  unfold Session.step
  rw [running, Bool.false_and, if_neg (by simp)]
  cases next with
  | close => exact leaves.elim
  | create id settings =>
    simp only [perform, create]
    cases Compiler.create settings <;> exact running
  | request id request =>
    simp only [perform, Session.request]
    cases session.compiler? id <;> exact running
  | build | lookup | helpers | bind => exact running

theorem isClosed_after (running : session.isClosed = false) {steps : List Step}
    (leave : ∀ next ∈ steps, next.Leaves used) : (session.after steps).isClosed = false := by
  induction steps generalizing session with
  | nil => exact running
  | cons next steps ih =>
    obtain ⟨leaves, rest⟩ := List.forall_mem_cons.1 leave
    exact ih (isClosed_step running leaves) rest

-- Steps over an open connection do not close it.
theorem Reachable.isClosed (reachable : Reachable (Step.Leaves used) session) : session.isClosed = false := by
  induction reachable with
  | opened | notADatabase | reopened => rfl
  | step _ next leaves ih => exact isClosed_step ih leaves

-- Steps that have nothing to do with the compiler of a name leave it as it is.
theorem compiler?_perform {next : Step} (notMade : ∀ settings, next ≠ .create id settings)
    (notAsked : ∀ request, next ≠ .request id request) :
    (session.perform next).2.2.compiler? id = session.compiler? id := by
  cases next with
  | create other settings =>
    have apart : other ≠ id := by
      rintro rfl
      exact notMade settings rfl
    simp only [perform, create]
    cases Compiler.create settings with
    | ok compiler => exact compiler?_setCompiler_ne session apart compiler
    | error failure => rfl
  | request other request =>
    have apart : other ≠ id := by
      rintro rfl
      exact notAsked request rfl
    simp only [perform, Session.request]
    cases session.compiler? other with
    | none => rfl
    | some compiler => exact compiler?_setCompiler_ne _ apart _
  | build | lookup | helpers | bind | close => rfl

section

variable (apart : CompilerSettings.Apart used) {settings : CompilerSettings} (may : used settings)
  (identifier : isIdentifier settings.tokenizer = true) (probe : settings.probe = .helper columns)
include apart may identifier probe

theorem serving_step (serving : Serving used settings.choice columns id session) {next : Step}
    (leaves : next.Leaves used) (notMade : ∀ settings, next ≠ .create id settings) :
    Serving used settings.choice columns id (session.step next).2.2 := by
  refine ⟨madeWith_step serving.madeWith leaves, ?_⟩
  obtain ⟨compiler, found, settled⟩ := serving.settled
  unfold Session.step
  split
  · exact ⟨compiler, found, settled⟩
  by_cases asked : ∃ request, next = .request id request
  · obtain ⟨request, rfl⟩ := asked
    have after := (Request.gives_run compiler request { engine := session.database } settled).2
    simp only [perform, Session.request, found]
    exact ⟨_, compiler?_setCompiler _ id _, after⟩
  · have upheld : Upheld (Step.Leaves used) (Database.Ready settings.choice columns
        (compiler.tokenizer.table.isSome = true) (compiler.validator.target.isSome = true)) :=
      (Database.Provides.upheld apart may identifier probe).and upheld_usable
    have upholds := serving.madeWith.upholds upheld settled.tokenizer.ready
    have ready := (upholds_perform upheld upholds leaves).database
    have same : (session.perform next).2.2.compiler? id = session.compiler? id :=
      compiler?_perform notMade fun request is => asked ⟨request, is⟩
    exact ⟨compiler, same.trans found, ⟨settled.tokenizer.same, settled.tokenizer.faithful, ready⟩,
      ⟨settled.validator.same, settled.validator.faithful, ready⟩⟩

theorem serving_after (serving : Serving used settings.choice columns id session) {steps : List Step}
    (leave : ∀ next ∈ steps, next.Leaves used ∧ ∀ settings, next ≠ .create id settings) :
    Serving used settings.choice columns id (session.after steps) := by
  induction steps generalizing session with
  | nil => exact serving
  | cons next steps ih =>
    obtain ⟨⟨leaves, notMade⟩, rest⟩ := List.forall_mem_cons.1 leave
    exact ih (serving_step apart may identifier probe serving leaves notMade) rest

end

/-- Whatever has been done over a connection, and whatever is done after a compiler with a private probe has
been made, its answer to a request is the one that a compiler with the same settings gives on a new
database. -/
theorem answer_undisturbed (apart : CompilerSettings.Apart used)
    (reachable : Reachable (Step.Leaves used) session) (usable : session.database.condition = .usable)
    {settings : CompilerSettings} (may : used settings) (noTable : settings.probeTable = none)
    {compiler : Compiler} (made : Compiler.create settings = .ok compiler) (id : String) {steps : List Step}
    (leave : ∀ next ∈ steps, next.Leaves used ∧ ∀ others, next ≠ .create id others)
    (request : Request) :
    ((session.after (.create id settings :: steps)).step (.request id request)).1 =
      ((fresh.after [.create id settings]).step (.request id request)).1 := by
  obtain ⟨identifier, -⟩ := Compiler.create_eq_ok made
  obtain ⟨columns, probe⟩ : ∃ columns, settings.probe = .helper columns := by
    unfold CompilerSettings.probe
    rw [noTable]
    exact ⟨_, rfl⟩
  have upheld : Upheld (Step.Leaves used) (Database.Provides settings.choice columns False False) :=
    Database.Provides.upheld apart may identifier probe
  have served {start : Session} (reachable : Reachable (Step.Leaves used) start)
      (usable : start.database.condition = .usable) :
      Serving used settings.choice columns id (start.step (.create id settings)).2.2 := by
    have upholds := reachable.upholds upheld (fun condition => Database.Provides.opened condition not_false not_false)
      fun provides => provides.reopened not_false not_false
    exact serving_create reachable.madeWith ⟨upholds.database, usable⟩ reachable.isClosed may probe made id
  have here := serving_after apart may identifier probe (served reachable usable) leave
  have there := served (.opened memoryPath) rfl
  have running : (session.after (.create id settings :: steps)).isClosed = false :=
    isClosed_after reachable.isClosed (List.forall_mem_cons.2 ⟨may, fun next member => (leave next member).1⟩)
  have fresh : (fresh.after [.create id settings]).isClosed = false :=
    isClosed_after rfl (List.forall_mem_cons.2 ⟨may, by simp⟩)
  exact (here.answer running request).trans (there.answer fresh request).symm

-- Another compiler has been made and used, and a table of the main schema has the name of a helper table.
theorem answer_undisturbed_among_others :
    let first : CompilerSettings := {}
    let second : CompilerSettings := { tokenizer := "porter", columns := ["title", "body"] }
    let used := fun settings => settings = first ∨ settings = second
    let name := Validator.helper ["content"]
    let steps : List Step := [.create "second" second, .request "second" (.compileAny "running"),
      .build (.createTable "main" name { columns := [⟨"a", ""⟩] })]
    let final := fresh.after (.create "first" first :: steps)
    CompilerSettings.Apart used ∧ (∀ next ∈ steps, next.Leaves used) ∧
    (final.step (.request "first" (.compile "ready AND steady"))).1 =
      .ok (.pattern (some ⟨"ready AND steady"⟩)) := by
  intro first second used name steps final
  have apart : CompilerSettings.Apart used := by
    have helpers : Tokenizer.helper first.choice ≠ Tokenizer.helper second.choice ∧
        Validator.helper ["content"] ≠ Validator.helper ["title", "body"] := by decide +kernel
    constructor
    · rintro a b (rfl | rfl) (rfl | rfl) same
      · rfl
      · exact absurd same helpers.1
      · exact absurd same.symm helpers.1
      · rfl
    · rintro a b (rfl | rfl) (rfl | rfl) columns others own other same <;> cases own <;> cases other
      · rfl
      · exact absurd same helpers.2
      · exact absurd same.symm helpers.2
      · rfl
  have leave : ∀ next ∈ steps, next.Leaves used ∧ ∀ others, next ≠ .create "first" others := by
    simp only [steps, List.forall_mem_cons, List.not_mem_nil, false_imp_iff, implies_true, and_true]
    refine ⟨⟨.inr rfl, by simp⟩, ⟨trivial, by simp⟩, ?_, by simp⟩
    exact fun temporary => absurd temporary (by decide)
  refine ⟨apart, fun next member => (leave next member).1, ?_⟩
  have made : Compiler.create first =
      .ok ⟨{ choice := ⟨"simple", []⟩ }, { probe := .helper ["content"] }⟩ := by decide
  refine (answer_undisturbed apart (.opened memoryPath) rfl (.inl rfl) rfl made "first" leave
    (.compile "ready AND steady")).trans ?_
  decide +kernel

end Session

end TextQuery
