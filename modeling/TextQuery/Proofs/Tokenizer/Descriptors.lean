import TextQuery.Proofs.Described

set_option autoImplicit false

namespace TextQuery

open Text Engine

namespace Text

/-- Whether a place is between apostrophes, by what the place before it is. A doubled apostrophe leaves the
text and enters it again, which comes to the same. -/
def isInside (inside : Bool) (c : Char) : Bool := if c = '\'' then !inside else inside

/-- The parts of a text between the commas outside of apostrophes. The present part is given backwards. -/
def commaParts : (inside : Bool) → (part : List Char) → List Char → List (List Char)
  | _, part, [] => [part.reverse]
  | inside, part, c :: rest =>
    if c = ',' && !inside then part.reverse :: commaParts false [] rest
    else commaParts (isInside inside c) (c :: part) rest

/-- Reads on behind an opening parenthesis: what stands before the parenthesis that closes it, outside of
apostrophes, and what follows that one. -/
def readCall : (inside : Bool) → List Char → Option (List Char × List Char)
  | _, [] => none
  | inside, c :: rest =>
    if c = ')' && !inside then some ([], rest)
    else (readCall (isInside inside c) rest).map fun (call, rest) => (c :: call, rest)

/-- What a part stands for: the text between its apostrophes if it begins with one, and the part itself
otherwise. A blank in front of it does not count. -/
def unquote (part : List Char) : Option (List Char) :=
  match if part.head? = some ' ' then part.tail else part with
  | '\'' :: rest => (readEnclosed '\'' rest).bind fun (text, rest) => if rest.isEmpty then some text else none
  | word => some word

attribute [local simp] isInside commaParts readCall

theorem commaParts_doubled (text : List Char) (part rest : List Char) :
    commaParts true part (doubled '\'' text ++ rest) = commaParts true ((doubled '\'' text).reverse ++ part) rest := by
  induction text generalizing part with
  | nil => rfl
  | cons c text ih =>
    by_cases mark : c = '\''
    · subst mark
      simp [doubled, ih]
    · simp [doubled, mark, ih]

theorem toList_literal (text : String) :
    (literal text).toList = '\'' :: (doubled '\'' text.toList ++ ['\'']) := by
  simp [literal, enclosed]

theorem commaParts_literal (argument : String) (part rest : List Char) :
    commaParts false part ((literal argument).toList ++ rest) =
      commaParts false ((literal argument).toList.reverse ++ part) rest := by
  rw [toList_literal, List.cons_append, List.append_assoc, commaParts]
  simp [commaParts_doubled]

theorem commaParts_plain {name : List Char} (noComma : ',' ∉ name) (noMark : '\'' ∉ name) (part rest : List Char) :
    commaParts false part (name ++ rest) = commaParts false (name.reverse ++ part) rest := by
  induction name generalizing part with
  | nil => rfl
  | cons c name ih =>
    rw [List.mem_cons, not_or] at noComma noMark
    have comma : c ≠ ',' := Ne.symm noComma.1
    have mark : c ≠ '\'' := Ne.symm noMark.1
    simp [comma, mark, ih noComma.2 noMark.2]

theorem readCall_doubled (text rest : List Char) :
    readCall true (doubled '\'' text ++ rest) =
      (readCall true rest).map fun (call, rest) => (doubled '\'' text ++ call, rest) := by
  induction text with
  | nil => simp [doubled]
  | cons c text ih =>
    by_cases mark : c = '\''
    · subst mark
      simp [doubled, ih, Function.comp_def]
    · simp [doubled, mark, ih, Function.comp_def]

theorem readCall_literal (argument : String) (rest : List Char) :
    readCall false ((literal argument).toList ++ rest) =
      (readCall false rest).map fun (call, rest) => ((literal argument).toList ++ call, rest) := by
  rw [toList_literal, List.cons_append, List.append_assoc, readCall]
  simp [readCall_doubled, Function.comp_def]

theorem readCall_plain {name : List Char} (noEnd : ')' ∉ name) (noMark : '\'' ∉ name) (rest : List Char) :
    readCall false (name ++ rest) = (readCall false rest).map fun (call, rest) => (name ++ call, rest) := by
  induction name with
  | nil => simp
  | cons c name ih =>
    rw [List.mem_cons, not_or] at noEnd noMark
    have closes : c ≠ ')' := Ne.symm noEnd.1
    have mark : c ≠ '\'' := Ne.symm noMark.1
    simp [closes, mark, ih noEnd.2 noMark.2, Function.comp_def]

theorem unquote_literal (argument : String) : unquote (' ' :: (literal argument).toList) = some argument.toList := by
  have read := @readEnclosed_doubled '\'' argument.toList [] (by simp)
  simp [unquote, toList_literal, read]

end Text

namespace Engine.Arguments

attribute [local simp] parts

theorem parts_doubled (text opened part rest : List Char) :
    parts { quotation := some ('\'', opened) } part (doubled '\'' text ++ '\'' :: rest) =
      parts {} ('\'' :: ((doubled '\'' text).reverse ++ part)) rest := by
  induction text generalizing opened part with
  | nil => simp [doubled]
  | cons c text ih =>
    by_cases mark : c = '\''
    · subst mark
      simp [doubled, closing?, ih]
    · simp [doubled, mark, ih]

theorem parts_literal (argument : String) (part rest : List Char) :
    parts {} part ((literal argument).toList ++ rest) = parts {} ((literal argument).toList.reverse ++ part) rest := by
  rw [toList_literal, List.cons_append, List.append_assoc, parts]
  simp [closing?, parts_doubled]

def IsPlain (c : Char) : Prop := closing? c = none ∧ c ≠ ',' ∧ c ≠ '(' ∧ c ≠ ')'

theorem parts_plain {name : List Char} (plain : ∀ c ∈ name, IsPlain c) (part rest : List Char) :
    parts {} part (name ++ rest) = parts {} (name.reverse ++ part) rest := by
  induction name generalizing part with
  | nil => rfl
  | cons c name ih =>
    obtain ⟨⟨noMark, noComma, opens, closes⟩, later⟩ := List.forall_mem_cons.1 plain
    simp [noMark, noComma, opens, closes, ih later]

theorem trim_of_dark {text : List Char} (first : ∀ c, text.head? = some c → isBlank c = false)
    (last : ∀ c, text.getLast? = some c → isBlank c = false) : trim text = text := by
  have keeps {text : List Char} (first : ∀ c, text.head? = some c → isBlank c = false) :
      text.dropWhile isBlank = text := by
    cases text with
    | nil => rfl
    | cons c text => simp [first c rfl]
  rw [trim, keeps first, keeps (by simpa using last), List.reverse_reverse]

theorem trim_literal (argument : String) : trim (' ' :: (literal argument).toList) = (literal argument).toList := by
  have dark : trim (literal argument).toList = (literal argument).toList := by
    apply trim_of_dark
    · intro c first
      obtain rfl : '\'' = c := by simpa [toList_literal] using first
      rfl
    · intro c last
      obtain rfl : '\'' = c := by simpa [toList_literal, List.getLast?_cons] using last
      rfl
  refine Eq.trans ?_ dark
  rw [trim, List.dropWhile_cons_of_pos (by decide), ← trim]

theorem isBlank_of_isIdentifierChar {c : Char} (named : isIdentifierChar c = true) : isBlank c = false := by
  have low : ∀ code < 33, isIdentifierChar (Char.ofNat code) = false := by decide
  have high : 33 ≤ c.toNat := by
    refine Nat.not_lt.1 fun below => ?_
    have other := low c.toNat below
    rw [Char.ofNat_toNat, named] at other
    cases other
  have apart : c ≠ ' ' := by
    rintro rfl
    exact absurd high (by decide)
  have beyond : ¬c ≤ '\r' := by
    intro control
    have code : c.toNat ≤ '\r'.toNat := control
    exact absurd (Nat.le_trans high code) (by decide)
  simp [isBlank, apart, beyond]

theorem dropFinalBreak_ne_nil {name : String} (known : isIdentifier name = true) :
    dropFinalBreak name.toList ≠ [] := by
  intro none
  simp [isIdentifier, none] at known

theorem trim_identifier {name : String} (known : isIdentifier name = true) :
    trim name.toList = dropFinalBreak name.toList := by
  have some := dropFinalBreak_ne_nil known
  have dark (c : Char) (member : c ∈ dropFinalBreak name.toList) : isBlank c = false :=
    isBlank_of_isIdentifierChar (isIdentifierChar_of_mem known c member)
  have kept : trim (dropFinalBreak name.toList) = dropFinalBreak name.toList :=
    trim_of_dark (fun c first => dark c (List.mem_of_head? first)) fun c last => dark c (List.mem_of_getLast? last)
  by_cases final : name.toList.getLast? = .some '\n'
  · obtain ⟨before, text⟩ := List.getLast?_eq_some_iff.1 final
    have front : dropFinalBreak name.toList = before := by
      rw [dropFinalBreak, if_pos final, text, List.dropLast_concat]
    rw [front] at some dark kept ⊢
    obtain ⟨c, rest, rfl⟩ := List.exists_cons_of_ne_nil some
    have first : isBlank c = false := dark c List.mem_cons_self
    have dropped : ((c :: rest) ++ ['\n']).dropWhile isBlank = (c :: rest) ++ ['\n'] := by simp [first]
    refine Eq.trans ?_ kept
    rw [text, trim, trim, dropped, List.reverse_append, List.dropWhile_cons_of_neg (by simp [first])]
    rfl
  · have front : dropFinalBreak name.toList = name.toList := by rw [dropFinalBreak, if_neg final]
    rw [front] at kept ⊢
    exact kept

theorem readWord_literal (argument : String) :
    readWord (literal argument).toList = some (⟨argument.toList, true⟩, []) := by
  have read := @readEnclosed_doubled '\'' argument.toList [] (by simp)
  simp [readWord, closing?, toList_literal, read]

end Engine.Arguments

namespace Engine.TokenizerChoice

-- By induction along the arguments, each behind a comma and a blank.
theorem commaParts_argumentText (part : List Char) (arguments : List String) :
    commaParts false part (argumentText arguments) =
      part.reverse :: arguments.map fun argument => ' ' :: (literal argument).toList := by
  induction arguments generalizing part with
  | nil => rfl
  | cons argument arguments ih =>
    rw [argumentText_cons, commaParts]
    simp [commaParts, isInside, commaParts_literal, ih]

theorem parts_argumentText (part : List Char) (arguments : List String) :
    Arguments.parts {} part (argumentText arguments) =
      .ok (part.reverse :: arguments.map fun argument => ' ' :: (literal argument).toList) := by
  induction arguments generalizing part with
  | nil => simp [argumentText, Arguments.parts]
  | cons argument arguments ih =>
    have later : Arguments.parts {} [] (' ' :: ((literal argument).toList ++ argumentText arguments)) =
        .ok ((argument :: arguments).map fun argument => ' ' :: (literal argument).toList) := by
      simp [Arguments.parts, Arguments.closing?, Arguments.parts_literal, ih]
    rw [argumentText_cons, Arguments.parts]
    simp [Arguments.closing?, later, Except.map]

theorem readCall_argumentText (arguments : List String) (rest : List Char) :
    readCall false (argumentText arguments ++ ')' :: rest) = some (argumentText arguments, rest) := by
  induction arguments with
  | nil => rfl
  | cons argument arguments ih =>
    simp [argumentText_cons, readCall, isInside, readCall_literal, ih]

variable {choice : TokenizerChoice}

theorem commaParts_descriptor (known : isIdentifier choice.name = true) :
    commaParts false [] choice.descriptor.toList =
      choice.name.toList :: choice.arguments.map fun argument => ' ' :: (literal argument).toList := by
  rw [toList_descriptor, commaParts_plain (isIdentifier_not_mem known rfl (by decide))
    (isIdentifier_not_mem known rfl (by decide)), commaParts_argumentText, List.append_nil, List.reverse_reverse]

theorem unquote_identifier {name : String} (known : isIdentifier name = true) :
    unquote name.toList = some name.toList := by
  have noBlank : name.toList.head? ≠ some ' ' :=
    fun first => isIdentifier_not_mem (c := ' ') known rfl (by decide) (List.mem_of_head? first)
  have noMark : '\'' ∉ name.toList := isIdentifier_not_mem known rfl (by decide)
  rw [unquote, if_neg noBlank]
  split
  · rename_i begins
    exact absurd (begins ▸ List.mem_cons_self) noMark
  · rfl

theorem readCall_descriptor (known : isIdentifier choice.name = true) (rest : List Char) :
    readCall false (choice.descriptor.toList ++ ')' :: rest) = some (choice.descriptor.toList, rest) := by
  rw [toList_descriptor, List.append_assoc, readCall_plain (isIdentifier_not_mem known rfl (by decide))
    (isIdentifier_not_mem known rfl (by decide)), readCall_argumentText]
  rfl

theorem isPlain_of_isIdentifier {name : String} (known : isIdentifier name = true) :
    ∀ c ∈ name.toList, Arguments.IsPlain c := by
  intro c member
  have apart (other : Char) (unnamed : isIdentifierChar other = false) (noBreak : other ≠ '\n') : c ≠ other := by
    rintro rfl
    exact isIdentifier_not_mem known unnamed noBreak member
  refine ⟨?_, apart ',' rfl (by decide), apart '(' rfl (by decide), apart ')' rfl (by decide)⟩
  simp [Arguments.closing?, apart '[' rfl (by decide), apart '\'' rfl (by decide), apart '"' rfl (by decide),
    apart '\x60' rfl (by decide)]

theorem split_descriptor (known : isIdentifier choice.name = true) :
    Arguments.split choice.descriptor =
      .ok (dropFinalBreak choice.name.toList :: choice.arguments.map fun argument => (literal argument).toList) := by
  have parted := parts_argumentText choice.name.toList.reverse choice.arguments
  have literals : (choice.arguments.map fun argument => ' ' :: (literal argument).toList).map Arguments.trim =
      choice.arguments.map fun argument => (literal argument).toList := by
    simp [Arguments.trim_literal]
  have full : ∀ part ∈ dropFinalBreak choice.name.toList :: choice.arguments.map fun argument =>
      (literal argument).toList, (!part.isEmpty) = true := by
    simp [Arguments.dropFinalBreak_ne_nil known, toList_literal]
  rw [Arguments.split, toList_descriptor, Arguments.parts_plain (isPlain_of_isIdentifier known), List.append_nil,
    parted, List.reverse_reverse]
  refine congrArg Except.ok ?_
  rw [List.map_cons, Arguments.trim_identifier known, literals, List.filter_eq_self.2 full]

end Engine.TokenizerChoice

namespace Tokenizer

open TokenizerChoice Arguments

variable {name : String} {arguments : List String} {tokenizer : Tokenizer}

theorem create_eq_ok (created : create name arguments = .ok tokenizer) :
    isIdentifier name = true ∧ tokenizer.choice = ⟨name, arguments⟩ := by
  unfold create at created
  split at created
  · rename_i known
    cases created
    exact ⟨known, rfl⟩
  · cases created

/-- A tokenizer that can be made is read back from its descriptor: the parts between the commas outside of apostrophes
stand for its name and its arguments, which are any texts. Where the descriptor stands in a statement, the call ends
right behind it. To the engine each argument is one text between apostrophes too. No other tokenizer has the same
descriptor. -/
theorem descriptor_read_back (created : create name arguments = .ok tokenizer) :
    (commaParts false [] tokenizer.descriptor.toList).map unquote =
        (name :: arguments).map (fun part => some part.toList) ∧
      (∀ table, ∃ front call : String,
        (Statement.createTokens table tokenizer.choice).text = front ++ " USING fts3tokenize(" ++ call ∧
          readCall false call.toList = some (tokenizer.descriptor.toList, [])) ∧
      Arguments.split tokenizer.descriptor =
        .ok (dropFinalBreak name.toList :: arguments.map fun argument => (literal argument).toList) ∧
      (∀ argument ∈ arguments, readWord (literal argument).toList = some (⟨argument.toList, true⟩, [])) ∧
      ∀ name' arguments' other, create name' arguments' = .ok other →
        (other.descriptor = tokenizer.descriptor ↔ name' = name ∧ arguments' = arguments) := by
  obtain ⟨known, choice⟩ := create_eq_ok created
  have named : isIdentifier tokenizer.choice.name = true := by
    rw [choice]
    exact known
  refine ⟨?_, fun table => ?_, ?_, fun argument _ => readWord_literal argument,
    fun name' arguments' other created' => ?_⟩
  · rw [descriptor, commaParts_descriptor named, choice]
    simp [unquote_identifier known, unquote_literal, Function.comp_def]
  · refine ⟨_, tokenizer.descriptor ++ ")", String.append_assoc, ?_⟩
    rw [String.toList_append]
    exact readCall_descriptor named []
  · rw [descriptor, split_descriptor named, choice]
  · obtain ⟨known', choice'⟩ := create_eq_ok created'
    constructor
    · intro same
      have choices : other.choice = tokenizer.choice :=
        descriptor_inj (by rw [choice']; exact known') named same
      rw [choice, choice'] at choices
      cases choices
      exact ⟨rfl, rfl⟩
    · rintro ⟨rfl, rfl⟩
      rw [descriptor, descriptor, choice, choice']

-- Arguments that would end their literal, add an argument, and close the call.
theorem descriptor_read_back_marks :
    let arguments := ["a', 'b", "')--", ""]
    let tokenizer : Tokenizer := { choice := ⟨"unicode61\n", arguments⟩ }
    create "unicode61\n" arguments = .ok tokenizer ∧
      tokenizer.descriptor = "unicode61\n, 'a'', ''b', ''')--', ''" ∧
      (commaParts false [] tokenizer.descriptor.toList).map unquote =
        ("unicode61\n" :: arguments).map (fun part => some part.toList) := by
  intro arguments tokenizer
  have created : create "unicode61\n" arguments = .ok tokenizer := by rfl
  have described : tokenizer.descriptor = "unicode61\n, 'a'', ''b', ''')--', ''" := by decide
  exact ⟨created, described, (descriptor_read_back created).1⟩

end Tokenizer

end TextQuery
