import TextQuery.Number.Binary64

set_option autoImplicit false

namespace TextQuery

-- What reports and their notations hold. A mapping keeps its entries in the order in which their keys came.
inductive Document where
  | null
  | bool (value : Bool)
  | int (value : Int)
  | real (value : Number.Binary64)
  | text (value : String)
  | list (items : List Document)
  | mapping (entries : List (String × Document))
deriving Inhabited, Repr

namespace Document

abbrev Entries := List (String × Document)

end Document

end TextQuery
