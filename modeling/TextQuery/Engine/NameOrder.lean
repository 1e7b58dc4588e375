import TextQuery.Text.Ascii

-- The order in which the tables of a schema are gone through. A new name comes first; once there are many,
-- names are kept together in slots, and a new one comes first in its slot.

set_option autoImplicit false

namespace TextQuery.Engine

open Text

structure NameOrder where
  slots : Nat := 0
  names : List String := []
deriving DecidableEq, Repr

namespace NameOrder

def wordSize : Nat := Nat.pow 2 32

def spread : Nat := 0x9e3779b1

def hash (name : String) : Nat :=
  (asciiFold name).toUTF8.toList.foldl
    (fun sum byte => (sum + byte.toNat) * spread % wordSize) 0

def place (slots : Nat) (names : List String) (name : String) : List String :=
  if slots = 0 then name :: names
  else
    let isApart (other : String) : Bool := hash other % slots != hash name % slots
    if names.all isApart then name :: names
    else names.takeWhile isApart ++ name :: names.dropWhile isApart

def slotStart : Nat := 10

def slotLimit : Nat := 64

def slotsFor (slots count : Nat) : Nat :=
  if count ≥ slotStart && count > 2 * slots then Nat.min (2 * count) slotLimit else slots

def insert (order : NameOrder) (name : String) : NameOrder :=
  let slots := slotsFor order.slots (order.names.length + 1)
  let names :=
    if slots = order.slots then order.names else order.names.foldl (place slots) []
  ⟨slots, place slots names name⟩

def ofNames (names : List String) : NameOrder := names.foldl insert {}

def follow (order : NameOrder) (names : List String) : NameOrder :=
  let kept := { order with names := order.names.filter names.contains }
  (names.filter fun name => !order.names.contains name).foldl insert kept

end NameOrder

end TextQuery.Engine
