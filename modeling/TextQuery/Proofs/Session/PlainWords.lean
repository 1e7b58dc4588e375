import TextQuery.Proofs.Canonical.Normalizing
import TextQuery.Proofs.Session.LostTokens
import TextQuery.Proofs.Token.Plain

set_option autoImplicit false

namespace TextQuery

open Engine Engine.Change Run Text Token.Simple

namespace Tokenizer

def plain : TokenizerChoice := ⟨"simple", []⟩

theorem made_plain : made plain = .ok (.simple none) := by
  have writable : '\x00' ∉ (Statement.createTokens (helper plain) plain).text.toList := by
    have name : Writable (helper plain) := writable_helper plain
    have begins : Writable "CREATE VIRTUAL TABLE IF NOT EXISTS temp." := by unfold Writable; decide
    have uses : Writable " USING fts3tokenize(" := by unfold Writable; decide
    have described : Writable plain.descriptor := by unfold Writable; decide
    have ends : Writable ")" := by unfold Writable; decide
    exact writable_append (writable_append (writable_append (writable_append begins
      (writable_identifier name)) uses) described) ends
  rw [made, if_neg (by simpa using writable)]
  rfl

theorem wordsOf_plain (text : String) : wordsOf plain text = Token.Simple.tokens none text := by
  unfold wordsOf
  split
  · next empty =>
    rw [String.isEmpty_iff] at empty
    rw [empty]
    rfl
  · rw [made_plain]
    rfl

end Tokenizer

namespace Engine.Database

def unwritable : List String := ["\x00"]

theorem unwritable_nul :
    '\x00' ∈ (Statement.createProbe (Validator.helper unwritable) unwritable).text.toList := by
  have shape : (Statement.createProbe (Validator.helper unwritable) unwritable).text.toList =
      ("CREATE VIRTUAL TABLE IF NOT EXISTS temp." ++ identifier (Validator.helper unwritable) ++
        " USING fts5(").toList ++ ['"', '\x00', '"', ')'] := by
    rw [Validator.createProbe_text, String.toList_append, String.toList_append, String.append_assoc]
    simp [unwritable, identifier, enclosed, doubled]
  rw [shape]
  simp

variable {choice : TokenizerChoice} {known : Prop} {used : CompilerSettings → Prop}

theorem Provides.upheld_tokens (apart : CompilerSettings.Apart used) {settings : CompilerSettings}
    (may : used settings) (identifier : isIdentifier settings.tokenizer = true) :
    Session.Upheld (Step.Leaves used) (Provides settings.choice unwritable known False) where
  asked := by
    intro id other compiler leaves made
    obtain ⟨named, rfl⟩ := Compiler.create_eq_ok made
    refine asks ?_ fun _ _ _ writable => absurd unwritable_nul writable
    intro same
    have digests := helperName_inj Tokenizer.folded_family same
    exact TokenizerChoice.descriptor_inj named identifier (apart.tokens leaves may digests)
  lookedUp := lookedUp_of lasting.toSteady
  built leaves := keeps_build lasting fun _ => mayBuild leaves
  listed := keeps_listHelpers lasting

end Engine.Database

namespace Session

variable {used : CompilerSettings → Prop} {session : Session} {id : String}
  {compiler : Compiler}

-- The tokenizer of a compiler finds the words that its description tells, if it has not lost its table.
theorem settled_of_kept (apart : CompilerSettings.Apart used) (reachable : Reachable (Step.Leaves used) session)
    (usable : session.database.condition = .usable) (found : session.compiler? id = some compiler)
    (kept : ¬compiler.tokenizer.Lost session.database) :
    compiler.tokenizer.Settled compiler.tokenizer.choice Database.unwritable False session.database := by
  obtain ⟨settings, start, may, made, continues⟩ := reachable.madeWith _ (mem_of_compiler? found)
  obtain ⟨identifier, rfl⟩ := Compiler.create_eq_ok made
  have same : compiler.tokenizer.choice = settings.choice := continues.tokenizer.choice
  have upheld : Upheld (Step.Leaves used) (Database.Provides settings.choice Database.unwritable False False) :=
    Database.Provides.upheld_tokens apart may identifier
  have provides := (reachable.upholds upheld
    (fun condition => Database.Provides.opened condition not_false not_false)
    fun provides => provides.reopened not_false not_false).database
  refine ⟨rfl, continues.tokenizer.faithful, ?_, usable⟩
  rw [same]
  refine ⟨provides.toWhole, provides.provided.toFits, ?_, fun found => found.elim⟩
  intro known
  have there : session.database.temp.find? (Tokenizer.helper settings.choice) ≠ none := by
    rw [← same]
    exact fun missing => kept ⟨known, missing⟩
  obtain ⟨held, looked⟩ := Option.ne_none_iff_exists'.1 there
  rw [find?_private (isPrivate_tokens settings.choice)] at looked
  exact ⟨held, List.mem_of_find?_eq_some looked, by simpa using List.find?_some looked⟩

theorem finds_plain (apart : CompilerSettings.Apart used) (reachable : Reachable (Step.Leaves used) session)
    (usable : session.database.condition = .usable) (found : session.compiler? id = some compiler)
    (default : compiler.tokenizer.choice = Tokenizer.plain) {text : String} (clean : '\x00' ∉ text.toList) :
    ∃ words later after, (∀ word ∈ words, Plain word) ∧
      compiler.tokenizer.tokenize text { engine := session.database } =
        ((.ok (words.map .text), later), after) ∧
      (later.tokenize (Candidate.joinPhrase words) { engine := after.engine }).1.1 = .ok (words.map .text) := by
  have anything : Reachable (fun _ => True) session := reachable.mono fun _ _ => trivial
  have sound := anything.sound found
  have regular := (anything.has Database.Regular.outlasting).database
  by_cases lost : compiler.tokenizer.Lost session.database
  · have nothing := @Tokenizer.tokenize_lost compiler.tokenizer { engine := session.database } regular sound
      lost text
    have faithful : compiler.tokenizer.Faithful := fun table known => (sound table known).1
    have stays := (Tokenizer.leads_tokenize faithful (Watched.asks Database.Regular.outlasting.watched _) text
      { engine := session.database } regular).1
    generalize compiler.tokenizer.tokenize text { engine := session.database } = called at nothing stays
    obtain ⟨⟨answer, later⟩, after⟩ := called
    obtain ⟨result, follows⟩ := nothing
    cases result
    have still : compiler.tokenizer.Lost after.engine := ⟨lost.1, by rw [follows.temp]; exact lost.2⟩
    have again := @Tokenizer.tokenize_lost compiler.tokenizer { engine := after.engine } stays sound still
      (Candidate.joinPhrase [])
    exact ⟨[], compiler.tokenizer, after, by simp, rfl, congrArg Prod.fst again.1⟩
  · have settled := settled_of_kept apart reachable usable found lost
    rw [default] at settled
    have gives := Tokenizer.gives_tokenize compiler.tokenizer text { engine := session.database } settled
    generalize compiler.tokenizer.tokenize text { engine := session.database } = called at gives
    obtain ⟨⟨answer, later⟩, after⟩ := called
    obtain ⟨first, settled⟩ := gives
    cases first
    rw [Tokenizer.wordsOf_plain]
    have plain : ∀ word ∈ Token.Simple.tokens none text, Plain word :=
      fun word member => plain_of_mem_tokens clean member
    have again := (Tokenizer.gives_tokenize later (Candidate.joinPhrase (Token.Simple.tokens none text))
      { engine := after.engine } settled).1
    rw [Tokenizer.wordsOf_plain, tokens_joinPhrase plain] at again
    exact ⟨_, later, after, plain, rfl, again⟩

theorem validate_text {σ : Type} [Engine σ] (validator : Validator) (expression : String) (world : World σ)
    {pattern : Pattern} (made : ((validator.validate expression) world).1.1 = .ok pattern) :
    pattern.text = expression := by
  cases find : validator.findTarget.run world with
  | mk target found =>
    cases target with
    | error failure =>
      rw [Validator.validate_lost expression find] at made
      cases made
    | ok target =>
      rw [(Validator.validate_found expression find).1] at made
      unfold Validator.judge at made
      split at made
      · cases made
        rfl
      · split at made <;> cases made

theorem pattern_of_mode {mode : Mode} {join : List String → String} (joins : Candidate.join? mode = some join)
    {text : String} {words : List String} {world : World Database}
    (found : (compiler.tokenizer.tokenize (normalize text) world).1.1 = .ok (words.map .text)) :
    let answer := (Request.patternAnswer (compiler.compileMode mode text) world).1.1
    (answer = .ok (.pattern none) ↔ words = []) ∧
      ∀ made, answer = .ok (.pattern (some made)) → made.text = join words := by
  obtain ⟨middle, -, compiled⟩ := Compiler.compileMode_eq joins found
  intro answer
  have told : answer = ((compiler.compileMode mode text) world).1.1.map .pattern := rfl
  rw [told, compiled]
  by_cases empty : words = []
  · simp [empty, Except.map]
  · rw [if_neg empty]
    cases validated : ((compiler.validator.validate (join words)) middle).1.1 with
    | error failure => simp [Except.map, empty]
    | ok pattern =>
      have same := validate_text _ _ _ validated
      simp only [Except.map, empty]
      refine ⟨by simp, ?_⟩
      rintro made is
      cases is
      exact same

/-- The words of the plain tokenizer are bare and no operators, so the modes join them as they are, and the
phrase of all of them has just these words again. -/
theorem plain_words_joined (apart : CompilerSettings.Apart used)
    (reachable : Reachable (Step.Leaves used) session) (usable : session.database.condition = .usable)
    (found : session.compiler? id = some compiler) (default : compiler.tokenizer.choice = Tokenizer.plain)
    {text : String} (clean : '\x00' ∉ text.toList) :
    let asked := session.step (.request id (.tokenize text))
    let joins (request : Request) (candidate : String) (words : List String) : Prop :=
      ((session.step (.request id request)).1 = .ok (.pattern none) ↔ words = []) ∧
        ∀ made, (session.step (.request id request)).1 = .ok (.pattern (some made)) → made.text = candidate
    ∃ words, asked.1 = .ok (.tokens (words.map .text)) ∧
      (∀ word ∈ words, word ≠ "" ∧ word ∉ Candidate.keywords ∧
        ∀ c ∈ word.toList, Candidate.isBare c = true) ∧
      Candidate.joinAny words = String.intercalate " OR " words ∧
      Candidate.joinAll words = String.intercalate " AND " words ∧
      joins (.compileAny text) (String.intercalate " OR " words) words ∧
      joins (.compileAll text) (String.intercalate " AND " words) words ∧
      joins (.compilePhrase text) (Candidate.joinPhrase words) words ∧
      ∃ later, asked.2.2.compiler? id = some later ∧
        (later.tokenizer.tokenize (Candidate.joinPhrase words) { engine := asked.2.2.database }).1.1 =
          .ok (words.map .text) := by
  intro asked joins
  have running := reachable.isClosed
  obtain ⟨words, later, after, plain, called, again⟩ :=
    finds_plain apart reachable usable found default (nul_notMem_normalize clean)
  have any := joinAny_plain plain
  have all := joinAll_plain plain
  have result : (compiler.tokenizer.tokenize (normalize text) { engine := session.database }).1.1 =
      .ok (words.map .text) := by rw [called]
  have joined {request : Request} {mode : Mode} {join : List String → String}
      (known : Candidate.join? mode = some join)
      (runs : (request.run compiler : Run Database _) = Request.patternAnswer (compiler.compileMode mode text)) :
      joins request (join words) words := by
    have answers := (step_request running found request).1
    rw [runs] at answers
    simp only [joins, answers]
    exact pattern_of_mode known result
  have ran := run_tokenize compiler text { engine := session.database }
  rw [called] at ran
  refine ⟨words, ?_, ?_, any, all, ?_, ?_, ?_, ?_⟩
  · rw [step_tokenize running found, result]
    rfl
  · intro word member
    exact ⟨(plain word member).filled, (plain word member).notKeyword,
      fun c inside => ((plain word member).plain c inside).isBare⟩
  · rw [← any]
    exact joined rfl rfl
  · rw [← all]
    exact joined rfl rfl
  · exact joined rfl rfl
  · have stepped : asked.2.2 = { session with database := after.engine }.setCompiler id
        { compiler with tokenizer := later } := by
      rw [(step_request running found _).2, ran.1, ran.2]
    rw [stepped]
    exact ⟨_, compiler?_setCompiler _ id _, again⟩

-- An operator of the query language is a word of the text like any other one.
theorem plain_words_of_keywords :
    let used : CompilerSettings → Prop := (· = {})
    let session := fresh.after [.create "c" {}]
    let text := "Rise AND (shine) NOT \"dusk\""
    CompilerSettings.Apart used ∧ Reachable (Step.Leaves used) session ∧ '\x00' ∉ text.toList ∧
      ∃ words, (session.step (.request "c" (.tokenize text))).1 = .ok (.tokens (words.map .text)) ∧
        Candidate.joinAny words = String.intercalate " OR " words := by
  intro used session text
  have apart : CompilerSettings.Apart used := by
    constructor
    · rintro a b rfl rfl _
      rfl
    · rintro a b rfl rfl columns others own other _
      rw [own] at other
      cases other
      rfl
  have reachable : Reachable (Step.Leaves used) session :=
    (Reachable.opened memoryPath).after fun next member => by
      rw [List.mem_singleton.1 member]
      rfl
  have found : session.compiler? "c" =
      some ⟨{ choice := Tokenizer.plain }, { probe := .helper ["content"] }⟩ := by decide
  have clean : '\x00' ∉ text.toList := by decide
  obtain ⟨words, answer, -, any, -⟩ := plain_words_joined apart reachable rfl found rfl clean
  exact ⟨apart, reachable, clean, words, answer, any⟩

end Session

end TextQuery
