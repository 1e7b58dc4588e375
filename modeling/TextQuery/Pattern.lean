
set_option autoImplicit false

namespace TextQuery

structure Pattern where
  text : String
deriving DecidableEq, Repr

namespace Pattern

def serialize (pattern : Pattern) : String := pattern.text

inductive Protocol where
  | binding
  | other
deriving DecidableEq

/-- A pattern gives its text where a statement binds it, and nothing to anyone else. -/
def conform (pattern : Pattern) : Protocol → Option String
  | .binding => some pattern.text
  | .other => none

end Pattern

end TextQuery
