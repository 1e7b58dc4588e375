import TextQuery.Expression.Query
import TextQuery.Text.Ascii

set_option autoImplicit false

namespace TextQuery.Expression

inductive Detail where
  | full
  | column
  | none
deriving DecidableEq, Repr

structure Scope where
  columns : List String
  detail : Detail := .full
  countWords : String → Nat := fun _ => 0

namespace Scope

def checkColumn (scope : Scope) (lexeme : Lexeme) : Except Fault String :=
  let name := String.ofList lexeme.content
  if scope.columns.any fun column => Text.sameName column name then .ok name
  else .error (.noSuchColumn name)

def wordsOf (scope : Scope) (phrase : Phrase) : Nat :=
  (phrase.map fun atom => scope.countWords (String.ofList atom.content)).foldr (· + ·) 0

def countPhrases (scope : Scope) (cluster : Cluster) : Nat :=
  max 1 (cluster.phrases.filter fun phrase => scope.wordsOf phrase != 0).length

def leadingWords (scope : Scope) (cluster : Cluster) : Nat :=
  (cluster.phrases.map scope.wordsOf).foldl (fun first words => if first == 0 then words else first) 0

def checkCluster (scope : Scope) (cluster : Cluster) : Except Fault Unit :=
  if scope.detail == .full then .ok ()
  else if scope.countPhrases cluster != 1 then .error .nearNotStored
  else
    -- One phrase is left, and only its words decide.
    let words := scope.leadingWords cluster
    let isInitial := match cluster with
      | .initial _ => true
      | _ => false
    if words > 1 || (words > 0 && isInitial) then .error .phraseNotStored else .ok ()

def checkFilter (scope : Scope) : Except Fault Unit :=
  if scope.detail == .none then .error .columnsNotStored else .ok ()

end Scope

end TextQuery.Expression
