import TextQuery.Text.Ascii

set_option autoImplicit false

namespace TextQuery.Digest.Sha1

abbrev Word := UInt32

def rotate (word : Word) (count : UInt32) : Word := word <<< count ||| word >>> (32 - count)

structure State where
  a : Word
  b : Word
  c : Word
  d : Word
  e : Word

def initial : State := ⟨0x67452301, 0xEFCDAB89, 0x98BADCFE, 0x10325476, 0xC3D2E1F0⟩

def lengthBytes (bits : Nat) : List UInt8 :=
  (List.range 8).map fun index => UInt8.ofNat (bits >>> (8 * (7 - index)))

def padded (message : List UInt8) : List UInt8 :=
  let zeros := (64 - (message.length + 9) % 64) % 64
  message ++ 0x80 :: List.replicate zeros 0 ++ lengthBytes (8 * message.length)

def wordsOf : List UInt8 → List Word
  | a :: b :: c :: d :: rest =>
    (a.toUInt32 <<< 24 ||| b.toUInt32 <<< 16 ||| c.toUInt32 <<< 8 ||| d.toUInt32) :: wordsOf rest
  | _ => []

def extend : Nat → List Word → List Word
  | 0, schedule => schedule
  | count + 1, schedule =>
    let word := schedule.getD 2 0 ^^^ schedule.getD 7 0 ^^^ schedule.getD 13 0 ^^^
      schedule.getD 15 0
    extend count (rotate word 1 :: schedule)

def schedule (block : List Word) : List Word := (extend 64 block.reverse).reverse

def mix (round : Nat) (b c d : Word) : Word × Word :=
  if round < 20 then ((b &&& c) ||| (~~~b &&& d), 0x5A827999)
  else if round < 40 then (b ^^^ c ^^^ d, 0x6ED9EBA1)
  else if round < 60 then ((b &&& c) ||| (b &&& d) ||| (c &&& d), 0x8F1BBCDC)
  else (b ^^^ c ^^^ d, 0xCA62C1D6)

def step (round : Nat) (word : Word) (s : State) : State :=
  let (mixed, constant) := mix round s.b s.c s.d
  ⟨rotate s.a 5 + mixed + s.e + constant + word, s.a, rotate s.b 30, s.c, s.d⟩

def rounds : Nat → List Word → State → State
  | _, [], s => s
  | round, word :: rest, s => rounds (round + 1) rest (step round word s)

def absorb (s : State) (block : List Word) : State :=
  let t := rounds 0 (schedule block) s
  ⟨s.a + t.a, s.b + t.b, s.c + t.c, s.d + t.d, s.e + t.e⟩

-- Takes in the blocks of sixteen words that the words make up. The fuel bounds their count.
def absorbAll : Nat → List Word → State → State
  | 0, _, s => s
  | fuel + 1, words, s =>
    if words.isEmpty then s else absorbAll fuel (words.drop 16) (absorb s (words.take 16))

def words (message : List UInt8) : List Word :=
  let words := wordsOf (padded message)
  let s := absorbAll (words.length / 16 + 1) words initial
  [s.a, s.b, s.c, s.d, s.e]

def hexText (message : List UInt8) : String :=
  String.ofList ((words message).flatMap fun word => Text.hexDigits 8 word.toNat)

end TextQuery.Digest.Sha1
