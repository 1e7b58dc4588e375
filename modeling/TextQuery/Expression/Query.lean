import TextQuery.Expression.Lexeme

set_option autoImplicit false

namespace TextQuery.Expression

structure Atom where
  content : List Char
  isOpen : Bool
deriving DecidableEq, Repr

abbrev Phrase := List Atom

inductive Cluster where
  | single (phrase : Phrase)
  | initial (phrase : Phrase)
  | near (phrases : List Phrase) (distance : Option Nat)
deriving DecidableEq, Repr

def Cluster.phrases : Cluster → List Phrase
  | .single phrase | .initial phrase => [phrase]
  | .near phrases _ => phrases

inductive Columns where
  | only (names : List String)
  | except (names : List String)
deriving DecidableEq, Repr

inductive Operator where
  | or
  | and
  | not
deriving DecidableEq, Repr

inductive Query where
  | cluster (cluster : Cluster)
  | within (columns : Columns) (query : Query)
  | joined (operator : Operator) (left right : Query)
  | listed (left right : Query)
deriving DecidableEq, Repr

namespace Query

def phrases : Query → List Phrase
  | .cluster found => found.phrases
  | .within _ query => query.phrases
  | .joined _ left right | .listed left right => left.phrases ++ right.phrases

end Query

namespace Operator

def strength : Operator → Nat
  | .or => 0
  | .and => 1
  | .not => 2

def ofTerminal? : Terminal → Option Operator
  | .or => some .or
  | .and => some .and
  | .not => some .not
  | _ => none

end Operator

end TextQuery.Expression
