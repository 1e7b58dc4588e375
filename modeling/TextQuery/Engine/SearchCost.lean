import TextQuery.Engine.Table

-- What it costs to look rows up by the first column of a key. Rows are read in the order of the key that is
-- cheapest. Figures are logarithms of base two, in tenths.

set_option autoImplicit false

namespace TextQuery.Engine

open Text

namespace Magnitude

def tenths : List Nat := [0, 2, 3, 5, 6, 7, 8, 9]

-- The figure of a number. The fuel bounds how often it is halved or doubled.
def figure : (fuel : Nat) → Nat → Nat
  | 0, _ => 0
  | fuel + 1, number =>
    if number ≥ 16 then figure fuel (number / 2) + 10
    else if number ≥ 8 then 30 + (tenths[number - 8]?).getD 0
    else if number ≥ 2 then figure fuel (2 * number) - 10
    else 0

def ofNat (number : Nat) : Nat := figure (number + 4) number

def gains : List (Nat × Nat) := [
  (1, 10), (3, 9), (5, 8), (8, 7), (11, 6), (14, 5), (18, 4), (24, 3), (31, 2), (49, 1)]

def add (a b : Nat) : Nat :=
  let gap := max a b - min a b
  max a b + (gains.find? fun (most, _) => gap ≤ most).elim 0 Prod.snd

end Magnitude

namespace TableDeclaration

def columnWidth (column : Column) : Nat :=
  match column.type with
  | .text | .blob => 5
  | _ => 1

def widthOf (columns : List Column) : Nat := (columns.map columnWidth).foldr (· + ·) 0

def readColumns (declaration : TableDeclaration) (key : List String) : List Column :=
  if declaration.withoutRowid && sameKey key declaration.primaryKey then declaration.columns
  else key.filterMap declaration.column?

def indexedColumns (declaration : TableDeclaration) (key : List String) : List Column :=
  let read := declaration.readColumns key
  if declaration.withoutRowid then
    read ++ (declaration.primaryKey.filterMap declaration.column?).filter (!read.contains ·)
  else read

def seekCost : Nat := 43

def foundRows : Nat := 33

/-- The figure of what it costs to find rows by a key. Rows that the index does not hold as a whole are
read from the table. -/
def searchCost (declaration : TableDeclaration) (key : List String) : Nat :=
  let rowNumber := if declaration.withoutRowid then 0 else 1
  let inIndex := Magnitude.ofNat (4 * (widthOf (declaration.indexedColumns key) + rowNumber))
  let inTable := Magnitude.ofNat
    (4 * (widthOf declaration.columns + (if declaration.rowidColumn?.isSome then 0 else 1)))
  let cost := Magnitude.add seekCost (foundRows + 1 + 15 * inIndex / inTable)
  let isRead (column : Column) : Bool :=
    (declaration.readColumns key).contains column || declaration.rowidColumn? == some column
  if declaration.columns.all isRead then cost else Magnitude.add cost (foundRows + 16)

def searchKeys (declaration : TableDeclaration) : List (List String) :=
  declaration.uniqueKeys.mergeSort fun a b => declaration.searchCost a ≤ declaration.searchCost b

end TableDeclaration

end TextQuery.Engine
