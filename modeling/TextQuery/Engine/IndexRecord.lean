import TextQuery.Engine.Table

set_option autoImplicit false

namespace TextQuery.Engine.IndexRecord

def leadingBytes : (fuel : Nat) → Nat → List UInt8
  | 0, _ => []
  | fuel + 1, number =>
    if number = 0 then [] else leadingBytes fuel (number / 128) ++ [UInt8.ofNat (number % 128 + 128)]

def numberBytes (number : Nat) : List UInt8 :=
  leadingBytes 8 (number / 128) ++ [UInt8.ofNat (number % 128)]

def readNumbers : (number : Nat) → List UInt8 → List Nat
  | _, [] => []
  | number, byte :: rest =>
    let number := 128 * number + byte.toNat % 128
    if byte.toNat < 128 then number :: readNumbers 0 rest else readNumbers number rest

def leadingBits (byte : Nat) : Nat :=
  if byte < 0xe0 then byte - 0xc0
  else if byte < 0xf0 then byte - 0xe0
  else if byte < 0xf8 then byte - 0xf0
  else if byte < 0xfc then byte - 0xf8
  else if byte < 0xfe then byte - 0xfc
  else 0

def composed (code : Nat) : Char :=
  if 0x80 ≤ code && code.isValidChar then Char.ofNat code else '\uFFFD'

def characters : Option Nat → List UInt8 → List Char
  | begun, [] => (begun.map composed).toList
  | begun, byte :: rest =>
    let byte := byte.toNat
    let start :=
      if byte < 0xc0 then Char.ofNat byte :: characters none rest
      else characters (some (leadingBits byte)) rest
    match begun with
    | none => start
    | some code =>
      if 0x80 ≤ byte && byte < 0xc0 then characters (some (64 * code + byte % 64)) rest
      else composed code :: start

def indexedText : Cell → String
  | .null => ""
  | .int value => Number.integerText value
  | .real value => value.storedText
  | .text value => value
  | .blob bytes => String.ofList (characters none bytes)

def sizes (index : FullText) (cells : List Cell) : List Nat :=
  (index.columns.zip cells).map fun (column, cell) =>
    if index.unindexed.contains column then 0 else index.countWords (indexedText cell)

def sizesCells (rowid : Int) (sizes : List Nat) : List Cell :=
  [.int rowid, .blob (sizes.flatMap numberBytes)]

def totalsRowid : Int := 1

def segmentsRowid : Int := 10

def dataCells (rowid : Int) (block : List UInt8) : List Cell := [.int rowid, .blob block]

def dataRow (rowid : Int) (block : List UInt8) : StoredRow := ⟨rowid, dataCells rowid block⟩

def segmentsBlock (segments : Nat) : List UInt8 :=
  let numbers :=
    if segments = 0 then [0, 0, 0]
    else [1, segments, segments, 0, segments]
      ++ (List.range segments).flatMap fun position => [position + 1, 1, 1]
  [0, 0, 0, 0] ++ numbers.flatMap numberBytes

def emptyIndex : List StoredRow :=
  [dataRow totalsRowid [], dataRow segmentsRowid (segmentsBlock 0)]

def block? (index : List StoredRow) (rowid : Int) : Option (List UInt8) :=
  match (index.find? fun row => row.rowid == rowid).map StoredRow.cells with
  | some [_, .blob block] => some block
  | some [_, .text block] => some block.toUTF8.toList
  | _ => none

def totals? (index : List StoredRow) (columns : Nat) : Option (List Nat) :=
  (block? index totalsRowid).map fun block =>
    (readNumbers 0 block ++ List.replicate (columns + 1) 0).take (columns + 1)

def segments? (index : List StoredRow) : Option Nat :=
  (block? index segmentsRowid).map fun block => ((readNumbers 0 (block.drop 4))[1]?).getD 0

def totalsCells (totals : List Nat) : List Cell :=
  dataCells totalsRowid (totals.flatMap numberBytes)

def segmentsCells (segments : Nat) : List Cell := dataCells segmentsRowid (segmentsBlock segments)

def hasWords (sizes : List Nat) : Bool := sizes.any (· != 0)

def count (totals sizes : List Nat) : List Nat := totals.zipWith (· + ·) (1 :: sizes)

def uncount? (totals sizes : List Nat) : Option (List Nat) :=
  if (totals.zip (1 :: sizes)).all fun (total, part) => part ≤ total then
    some (totals.zipWith (· - ·) (1 :: sizes))
  else none

def version : StoredRow := ⟨0, [.text "version", .int 4]⟩

end TextQuery.Engine.IndexRecord
