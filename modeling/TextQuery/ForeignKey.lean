
set_option autoImplicit false

namespace TextQuery

structure ColumnPair where
  origin : String
  destination : String
deriving DecidableEq, Repr

structure ForeignKey where
  id : Int
  destinationTable : String
  mapping : List ColumnPair
  onUpdate : String := "NO ACTION"
  onDelete : String := "NO ACTION"
  matching : String := "NONE"
deriving DecidableEq, Repr

namespace ForeignKey

def originColumns (key : ForeignKey) : List String := key.mapping.map ColumnPair.origin

def destinationColumns (key : ForeignKey) : List String := key.mapping.map ColumnPair.destination

end ForeignKey

structure Violation where
  originTable : String
  originRowid : Option Int
  destinationTable : String
  foreignKeyId : Int
deriving DecidableEq, Repr

end TextQuery
