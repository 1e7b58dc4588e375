import TextQuery.Token.Porter.Stem
import TextQuery.Token.Words

-- The stemming tokenizer. It cuts texts between bytes: an English word becomes its stem, and a long token of
-- another kind loses its middle, possibly in the middle of a character.

set_option autoImplicit false

namespace TextQuery.Token.Porter

def isUpper (byte : UInt8) : Bool := 0x41 ≤ byte && byte ≤ 0x5A
def isLower (byte : UInt8) : Bool := 0x61 ≤ byte && byte ≤ 0x7A
def isDigitByte (byte : UInt8) : Bool := 0x30 ≤ byte && byte ≤ 0x39
def isLetter (byte : UInt8) : Bool := isUpper byte || isLower byte

def lowerByte (byte : UInt8) : UInt8 := if isUpper byte then byte + 32 else byte

def isWord (byte : UInt8) : Bool :=
  isLetter byte || isDigitByte byte || byte == 0x5F || byte ≥ 0x80

def shorten (token : List UInt8) : List UInt8 :=
  let kept := if token.any isDigitByte then 3 else 10
  -- The cut counts bytes and may fall within a character.
  if token.length > 2 * kept then token.take kept ++ token.drop (token.length - kept) else token

def fold (token : List UInt8) : List UInt8 :=
  let small := token.map lowerByte
  if 3 ≤ token.length && token.length ≤ 20 && token.all isLetter then
    (stem (small.map fun byte => Char.ofNat byte.toNat)).map fun c => UInt8.ofNat c.toNat
  else shorten small

def tokens (text : List UInt8) : List (List UInt8) := (runs isWord text).map fold

end TextQuery.Token.Porter
