import TextQuery.Proofs.Canonical.Composing
import TextQuery.Proofs.Engine.Attempt
import TextQuery.Session

set_option autoImplicit false

namespace TextQuery

open Text Text.Canonical

namespace Text

def decomposedCodes (text : String) : List Nat := decompose (text.toList.map Char.toNat)

def decomposition (text : String) : String := String.ofList ((decomposedCodes text).map Char.ofNat)

theorem isValidChar_of_isCode {code : Nat} (isCode : IsCode code) : code.isValidChar := by
  obtain ⟨-, low | high⟩ := isCode
  · exact .inl low
  · exact .inr high

theorem map_toNat_ofNat {codes : List Nat} (valid : ∀ code ∈ codes, code.isValidChar) :
    (codes.map Char.ofNat).map Char.toNat = codes := by
  rw [List.map_map]
  refine (List.map_congr_left fun code member => ?_).trans (List.map_id codes)
  rw [Function.comp_apply, Char.ofNat, dif_pos (valid code member)]
  rfl

theorem isValidChar_decomposedCodes {text : String} {code : Nat} (member : code ∈ decomposedCodes text) :
    code.isValidChar := by
  obtain there | isCode := mem_decompose member
  · obtain ⟨c, -, rfl⟩ := List.mem_map.1 there
    exact c.valid
  · exact isValidChar_of_isCode isCode

theorem normalize_eq (text : String) :
    normalize text = String.ofList ((compose (decomposedCodes text)).map Char.ofNat) := rfl

theorem codes_normalize (text : String) :
    (normalize text).toList.map Char.toNat = compose (decomposedCodes text) := by
  rw [normalize_eq, String.toList_ofList]
  refine map_toNat_ofNat fun code member => ?_
  obtain there | isCode := mem_compose member
  · exact isValidChar_decomposedCodes there
  · exact isValidChar_of_isCode isCode

theorem decomposedCodes_normalize (text : String) : decomposedCodes (normalize text) = decomposedCodes text := by
  rw [decomposedCodes, codes_normalize]
  exact decompose_compose (fun _ member => parts?_of_mem_decompose member) (ordered_reorder _)

theorem decomposedCodes_decomposition (text : String) :
    decomposedCodes (decomposition text) = decomposedCodes text := by
  rw [decomposedCodes, decomposition, String.toList_ofList,
    map_toNat_ofNat fun code member => isValidChar_decomposedCodes member]
  exact decompose_decompose _

theorem normalize_congr {text other : String} (same : decomposedCodes text = decomposedCodes other) :
    normalize text = normalize other := by
  rw [normalize_eq, normalize_eq, same]

theorem normalize_normalize (text : String) : normalize (normalize text) = normalize text :=
  normalize_congr (decomposedCodes_normalize text)

theorem normalize_decomposition (text : String) : normalize (decomposition text) = normalize text :=
  normalize_congr (decomposedCodes_decomposition text)

theorem normalize_eq_iff {text other : String} :
    normalize text = normalize other ↔ decomposedCodes text = decomposedCodes other := by
  constructor
  · intro same
    rw [← decomposedCodes_normalize text, same, decomposedCodes_normalize other]
  · exact normalize_congr

-- The character zero is in a normalized text only if it was in the text before.
theorem nul_notMem_normalize {text : String} (clean : '\x00' ∉ text.toList) :
    '\x00' ∉ (normalize text).toList := by
  intro member
  have inside : 0 ∈ compose (decomposedCodes text) := by
    rw [← codes_normalize]
    exact List.mem_map.2 ⟨'\x00', member, rfl⟩
  have notCode : ¬IsCode 0 := fun isCode => isCode.1 rfl
  obtain there | isCode := mem_compose inside
  · obtain there | isCode := mem_decompose there
    · obtain ⟨c, within, zero⟩ := List.mem_map.1 there
      have same : c = '\x00' := by
        apply Char.toNat_inj.1
        rw [zero]
        rfl
      subst same
      exact clean within
    · exact notCode isCode
  · exact notCode isCode

end Text

/-- The requests that take a text as words: for the words themselves, and for patterns made of them. -/
def Request.ofWords : List (String → Request) :=
  [.tokenize, .compileAny, .compileAll, .compilePhrase, .compileMode "any", .compileMode "all",
    .compileMode "phrase"]

section

variable {σ : Type} {compiler : Compiler} {text other : String}

theorem Compiler.tokenize_congr [Engine σ] (same : normalize text = normalize other) :
    (compiler.tokenize text : Run σ _) = compiler.tokenize other := by
  unfold tokenize
  rw [same]

-- Only the record of a text without words shows it as it was given.
theorem Candidate.build_congr {τ : Type} {split : τ → String → Run σ (Except Failure (List Cell) × τ)}
    {mode : Mode} {join : List String → String} (joins : Candidate.join? mode = some join)
    (same : normalize text = normalize other) (splitter : τ) (world : World σ) :
    (Candidate.build split splitter mode text world).1 = (Candidate.build split splitter mode other world).1 ∧
      (Candidate.build split splitter mode text world).2.engine =
        (Candidate.build split splitter mode other world).2.engine ∧
      ((Candidate.build split splitter mode text world).1.1 ≠ .ok none →
        Candidate.build split splitter mode text world = Candidate.build split splitter mode other world) := by
  have quiet (message : String) (world : World σ) : (Run.debug message world).2.engine = world.engine := rfl
  unfold Candidate.build
  rw [joins]
  dsimp only
  rw [Run.bind_eq, Run.bind_eq, same]
  rcases split splitter (normalize other) world with ⟨⟨answer, splitter⟩, after⟩
  cases answer with
  | error failure => exact ⟨rfl, rfl, fun _ => rfl⟩
  | ok words =>
    cases words with
    | nil =>
      have nothing (message : String) :
          (do Run.debug message; return (.ok none, splitter) : Run σ (Except Failure (Option String) × τ)) after =
            ((.ok none, splitter), (Run.debug message after).2) := rfl
      dsimp only
      rw [nothing, nothing]
      dsimp only
      exact ⟨rfl, (quiet _ _).trans (quiet _ _).symm, fun some => absurd rfl some⟩
    | cons first rest => exact ⟨rfl, rfl, fun _ => rfl⟩

theorem Compiler.compileMode_congr [Engine σ] (compiler : Compiler) {mode : Mode} {join : List String → String}
    (joins : Candidate.join? mode = some join) (same : normalize text = normalize other) (world : World σ) :
    ((compiler.compileMode mode text) world).1 = ((compiler.compileMode mode other) world).1 ∧
      ((compiler.compileMode mode text) world).2.engine =
        ((compiler.compileMode mode other) world).2.engine := by
  have congr := @Candidate.build_congr σ text other Tokenizer Tokenizer.tokenize mode join joins same
    compiler.tokenizer world
  unfold compileMode
  rw [Run.bind_eq, Run.bind_eq]
  revert congr
  rcases Candidate.build Tokenizer.tokenize compiler.tokenizer mode text world with ⟨⟨answer, splitter⟩, after⟩
  rcases Candidate.build Tokenizer.tokenize compiler.tokenizer mode other world with ⟨result, afterOther⟩
  rintro ⟨rfl, engine, whole⟩
  by_cases none : answer = .ok none
  · subst none
    exact ⟨rfl, engine⟩
  · cases whole none
    exact ⟨rfl, rfl⟩

variable [Engine σ]

-- A request for words that is not for the words alone is for the pattern of a mode that joins them.
theorem Request.run_cases (σ : Type) [Engine σ] {request : String → Request} (ofWords : request ∈ ofWords)
    (compiler : Compiler) :
    request = .tokenize ∨ ∃ mode join, Candidate.join? mode = some join ∧
      ∀ text, (run compiler (request text) : Run σ _) = patternAnswer (compiler.compileMode mode text) := by
  have named : Mode.ofName? "any" = some .any ∧ Mode.ofName? "all" = some .all ∧
      Mode.ofName? "phrase" = some .phrase := by decide
  obtain ⟨any, all, phrase⟩ := named
  simp only [Request.ofWords, List.mem_cons, List.not_mem_nil, or_false] at ofWords
  obtain rfl | rfl | rfl | rfl | rfl | rfl | rfl := ofWords
  · exact .inl rfl
  · exact .inr ⟨.any, _, rfl, fun _ => rfl⟩
  · exact .inr ⟨.all, _, rfl, fun _ => rfl⟩
  · exact .inr ⟨.phrase, _, rfl, fun _ => rfl⟩
  · exact .inr ⟨.any, _, rfl, fun _ => by rw [run, any]⟩
  · exact .inr ⟨.all, _, rfl, fun _ => by rw [run, all]⟩
  · exact .inr ⟨.phrase, _, rfl, fun _ => by rw [run, phrase]⟩

theorem Request.run_congr {request : String → Request} (ofWords : request ∈ ofWords)
    (same : normalize text = normalize other) (world : World σ) :
    ((request text).run compiler world).1 = ((request other).run compiler world).1 ∧
      ((request text).run compiler world).2.engine = ((request other).run compiler world).2.engine := by
  obtain rfl | ⟨mode, join, joins, is⟩ := run_cases σ ofWords compiler
  · have words : (run compiler (.tokenize text) : Run σ _) = run compiler (.tokenize other) := by
      simp only [run, Compiler.tokenize_congr same]
    rw [words]
    exact ⟨rfl, rfl⟩
  · obtain ⟨result, engine⟩ := Compiler.compileMode_congr compiler joins same world
    rw [is, is]
    unfold patternAnswer
    rw [Run.bind_eq, Run.bind_eq, result]
    exact ⟨rfl, engine⟩

/-- Normalization is a canonical form: a normalized text stays as it is, and texts are normalized alike just
if they come apart alike. So whatever finds the words, a compiler answers alike for a text, for its normalized
and for its decomposed spelling, and leaves the engine alike. -/
theorem Request.run_of_any_spelling (compiler : Compiler) (world : World σ) (text : String) :
    normalize (normalize text) = normalize text ∧
    (∀ other, decomposedCodes text = decomposedCodes other ↔ normalize text = normalize other) ∧
    ∀ request ∈ ofWords, ∀ spelling ∈ [normalize text, decomposition text],
      ((request spelling).run compiler world).1 = ((request text).run compiler world).1 ∧
      ((request spelling).run compiler world).2.engine = ((request text).run compiler world).2.engine := by
  refine ⟨normalize_normalize text, fun other => normalize_eq_iff.symm, ?_⟩
  intro request asks spelling among
  refine run_congr asks ?_ world
  simp only [List.mem_cons, List.not_mem_nil, or_false] at among
  obtain rfl | rfl := among
  · exact normalize_normalize text
  · exact normalize_decomposition text

end

end TextQuery
