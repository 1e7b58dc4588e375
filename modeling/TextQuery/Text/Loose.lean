import TextQuery.Text.Blank
import TextQuery.Text.Case
import TextQuery.Text.Identifier
import TextQuery.Text.Quoted

set_option autoImplicit false

namespace TextQuery

-- By escapes a text can have halves of surrogate pairs, which are no characters. They count from U+D800 on,
-- and two of them in a row stay two.
inductive Letter where
  | char (c : Char)
  | half (offset : Fin 0x800)
deriving DecidableEq, Repr

namespace Letter

def firstHalf : Nat := 0xD800

def ofCode (code : Nat) : Letter :=
  if inside : firstHalf ≤ code ∧ code < firstHalf + 0x800 then
    .half ⟨code - firstHalf, by unfold firstHalf at inside ⊢; omega⟩
  else .char (Char.ofNat code)

def char? : Letter → Option Char
  | .char c => some c
  | .half _ => none

def isHalf : Letter → Bool
  | .char _ => false
  | .half _ => true

-- A half is neither a digit nor white space nor a sign of any notation, and neither is this character.
def standIn : Letter → Char
  | .char c => c
  | .half _ => '\uFFFD'

def isBlank (letter : Letter) : Bool := letter.char?.any Text.isBlank

-- Bytes that were no text are halves from U+DC80 on. No other half has bytes.
def bytes? : Letter → Option (List UInt8)
  | .char c => some (String.utf8EncodeChar c)
  | .half offset =>
    if 0x480 ≤ offset.val ∧ offset.val < 0x500 then some [UInt8.ofNat (offset.val - 0x400)] else none

def escaped (mark : Char) : Letter → List Char
  | .char c => Text.escaped mark c
  | .half offset => Text.numbered (firstHalf + offset.val)

end Letter

structure Loose where
  letters : List Letter
deriving DecidableEq, Repr, Inhabited

namespace Loose

def ofChars (text : List Char) : Loose := ⟨text.map .char⟩

def ofString (text : String) : Loose := ofChars text.toList

instance : Coe String Loose := ⟨ofString⟩

def plain? (text : Loose) : Option String := (text.letters.mapM Letter.char?).map String.ofList

def standIns (text : Loose) : List Char := text.letters.map Letter.standIn

def isEmpty (text : Loose) : Bool := text.letters.isEmpty

def isBlank (text : Loose) : Bool := text.letters.all Letter.isBlank

def trim (text : Loose) : Loose :=
  ⟨((text.letters.dropWhile Letter.isBlank).reverse.dropWhile Letter.isBlank).reverse⟩

-- Halves have no case, and what stands behind one is not next to what stands before it.
def mapRuns (map : List Char → List Char) : (run : List Char) → List Letter → List Letter
  | run, [] => (map run.reverse).map .char
  | run, .char c :: rest => mapRuns map (c :: run) rest
  | run, .half offset :: rest => (map run.reverse).map .char ++ .half offset :: mapRuns map [] rest

def lower (text : Loose) : Loose := ⟨mapRuns (Text.Case.lowerChars []) [] text.letters⟩

def upper (text : Loose) : Loose :=
  ⟨text.letters.flatMap fun
    | .char c => (Text.Case.mapChar Text.Case.upperRuns Text.Case.upperExpansions c).map .char
    | .half offset => [.half offset]⟩

def isIdentifier (text : Loose) : Bool := text.plain?.any Text.isIdentifier

def quoted (text : Loose) : String :=
  let mark := Text.quoteMark (String.ofList (text.letters.filterMap Letter.char?))
  String.ofList (mark :: text.letters.flatMap (Letter.escaped mark) ++ [mark])

def bytes? (text : Loose) : Option (List UInt8) := (text.letters.mapM Letter.bytes?).map List.flatten

def isEncodable (text : Loose) : Bool := text.letters.all fun letter => letter.bytes?.isSome

-- The fault covers the run of halves from the first one without bytes on.
def encodingFault (text : Loose) : String :=
  let first := text.letters.takeWhile fun letter => letter.bytes?.isSome
  let run := (text.letters.drop first.length).takeWhile Letter.isHalf
  let place := match run with
    | [half] => "character '" ++ String.ofList (half.escaped '\'') ++ "' in position " ++ toString first.length
    | _ => "characters in position " ++ toString first.length ++ "-" ++ toString (first.length + run.length - 1)
  "'utf-8' codec can't encode " ++ place ++ ": surrogates not allowed"

theorem mapM_char? {letters : List Letter} {word : List Char} :
    letters.mapM Letter.char? = some word ↔ letters = word.map .char := by
  induction letters generalizing word with
  | nil => cases word <;> simp
  | cons letter letters ih =>
    cases letter with
    | half => cases word <;> simp [List.mapM_cons, Letter.char?]
    | char c =>
      have step : (Letter.char c :: letters).mapM Letter.char? = (letters.mapM Letter.char?).map (c :: ·) := by
        rw [List.mapM_cons]
        cases letters.mapM Letter.char? <;> rfl
      rw [step]
      cases word with
      | nil => simp
      | cons d word =>
        simp only [Option.map_eq_some_iff, ih, List.map_cons, List.cons.injEq, Letter.char.injEq]
        exact ⟨fun ⟨_, is, here, same⟩ => ⟨here, same ▸ is⟩, fun ⟨here, is⟩ => ⟨word, is, here, rfl⟩⟩

theorem plain?_eq_some {text : Loose} {plain : String} : text.plain? = some plain ↔ text = plain := by
  obtain ⟨letters⟩ := text
  simp only [plain?, Option.map_eq_some_iff, mapM_char?, ofString, ofChars, mk.injEq]
  constructor
  · rintro ⟨word, rfl, rfl⟩
    rw [String.toList_ofList]
  · rintro rfl
    exact ⟨_, rfl, String.ofList_toList⟩

@[simp]
theorem plain?_ofString (text : String) : (ofString text).plain? = some text := plain?_eq_some.2 rfl

theorem ofString_inj {a b : String} : ofString a = ofString b ↔ a = b := by
  rw [← plain?_eq_some, plain?_ofString, Option.some.injEq]

theorem mapRuns_ofChars (map : List Char → List Char) (run text : List Char) :
    mapRuns map run (text.map .char) = (map (run.reverse ++ text)).map .char := by
  induction text generalizing run with
  | nil => rw [List.map_nil, mapRuns, List.append_nil]
  | cons c text ih => rw [List.map_cons, mapRuns, ih, List.reverse_cons, List.append_assoc]; rfl

@[simp]
theorem lower_ofString (text : String) : (ofString text).lower = Text.lower text := by
  rw [lower, ofString, ofChars, mapRuns_ofChars, Text.lower, ofString, String.toList_ofList]
  rfl

end Loose

end TextQuery
