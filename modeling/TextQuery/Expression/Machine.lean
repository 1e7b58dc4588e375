import TextQuery.Expression.Scope

-- The shift-reduce machine of the query language. The stack holds what has been read so far, and has room for a
-- fixed number of symbols. What is on top of it and the next lexeme tell what to do: a symbol that is complete
-- without looking further is reduced before the next lexeme is refused.

set_option autoImplicit false

namespace TextQuery.Expression

/-- A symbol on the stack. A parenthesis behind a word opens a group of near phrases. -/
inductive Item where
  | word (lexeme : Lexeme)
  | mark (terminal : Terminal)
  | nearOpen
  | suffix (isOpen : Bool)
  | phrase (phrase : Phrase)
  | cluster (cluster : Cluster)
  | unit (query : Query)
  | sequence (query : Query)
  | expression (query : Query)
  | names (names : List String)
  | columns (columns : Columns)
  | phrases (phrases : List Phrase)
  | distance (distance : Option Lexeme)
deriving DecidableEq, Repr

abbrev Stack := List Item

/-- What the machine does: take in the lexeme as a symbol, put another stack in place of the present
one, or stop. -/
inductive Move where
  | shift (item : Item)
  | reduce (stack : Stack)
  | accept (query : Query)
  | refuse (fault : Fault)
deriving DecidableEq, Repr

namespace Machine

def capacity : Nat := 99

def unexpected (look : Option Lexeme) : Move :=
  .refuse (.unexpected (String.ofList ((look.map Lexeme.written).getD [])))

def ofExcept : Except Fault Stack → Move
  | .ok stack => .reduce stack
  | .error fault => .refuse fault

def push (item : Item) (stack : Stack) : Move :=
  if stack.length < capacity then .reduce (item :: stack) else .refuse .overflow

def terminal? (look : Option Lexeme) : Option Terminal := look.map Lexeme.terminal

def expect (terminals : List Terminal) (look : Option Lexeme) : Move :=
  match look with
  | none => unexpected none
  | some lexeme =>
    if terminals.contains lexeme.terminal then
      .shift (if lexeme.terminal = .word then .word lexeme else .mark lexeme.terminal)
    else unexpected look

def starters : List Terminal := [.leftParen, .word, .leftBrace, .minus, .caret]

def followers : List Terminal := [.word, .leftBrace, .minus, .caret]

def operators : List Terminal := [.and, .or, .not]

def atStart : Stack → Bool
  | [] => true
  | .mark .leftParen :: _ => true
  | .mark .and :: _ => true
  | .mark .or :: _ => true
  | .mark .not :: _ => true
  | _ => false

def atPart : Stack → Bool
  | .sequence _ :: _ => true
  | stack => atStart stack

def afterColon : Stack → Bool
  | .mark .colon :: _ => true
  | _ => false

def onWord (scope : Scope) (lexeme : Lexeme) (below : Stack) (look : Option Lexeme) : Move :=
  match terminal? look with
  | some .star => .shift (.mark .star)
  | some .leftParen =>
    -- Inside a phrase or a list of names a parenthesis cannot follow, so the word is a string
    -- there.
    if atPart below || afterColon below then .shift .nearOpen
    else push (.suffix false) (.word lexeme :: below)
  | some .colon =>
    if atPart below then
      ofExcept do return .columns (.only [← scope.checkColumn lexeme]) :: below
    else push (.suffix false) (.word lexeme :: below)
  | _ => push (.suffix false) (.word lexeme :: below)

def onCluster (scope : Scope) (cluster : Cluster) (below : Stack) : Except Fault Stack := do
  scope.checkCluster cluster
  match below with
  | .mark .colon :: .columns columns :: rest =>
    scope.checkFilter
    return .unit (.within columns (.cluster cluster)) :: rest
  | _ => return .unit (.cluster cluster) :: below

def onPhrase (phrase : Phrase) : Stack → Stack
  | .mark .caret :: rest => .cluster (.initial phrase) :: rest
  | .nearOpen :: rest => .phrases [phrase] :: .nearOpen :: rest
  | .phrases phrases :: rest => .phrases (phrases ++ [phrase]) :: rest
  | below => .cluster (.single phrase) :: below

def onOperand (query : Query) (operator : Operator) (left : Query) (rest : Stack)
    (look : Option Lexeme) : Move :=
  match (terminal? look).bind Operator.ofTerminal? with
  | some next =>
    -- Operators of one strength group to the left.
    if operator.strength < next.strength then expect operators look
    else .reduce (.expression (.joined operator left query) :: rest)
  | none => .reduce (.expression (.joined operator left query) :: rest)

def onExpression (query : Query) (below : Stack) (look : Option Lexeme) : Move :=
  match below with
  | [] => if look.isNone then .accept query else expect operators look
  | .mark .and :: .expression left :: rest => onOperand query .and left rest look
  | .mark .or :: .expression left :: rest => onOperand query .or left rest look
  | .mark .not :: .expression left :: rest => onOperand query .not left rest look
  | _ => expect (.rightParen :: operators) look

def onGroup (scope : Scope) (query : Query) : Stack → Except Fault Stack
  | .mark .colon :: .columns columns :: rest => do
    scope.checkFilter
    return .expression (.within columns query) :: rest
  | below => .ok (.expression query :: below)

def isDigit (c : Char) : Bool := '0' ≤ c && c ≤ '9'

def onNear (name : Lexeme) (phrases : List Phrase) (distance : Option Lexeme) (rest : Stack) :
    Except Fault Stack :=
  if name.written ≠ "NEAR".toList then .error (.unexpected (String.ofList name.written))
  else match distance with
    | none => .ok (.cluster (.near phrases none) :: rest)
    | some lexeme =>
      if lexeme.written.all isDigit then
        let value := (String.ofList lexeme.written).toNat?
        .ok (.cluster (.near phrases (some (value.getD 0))) :: rest)
      else .error (.badDistance (String.ofList lexeme.written))

def move (scope : Scope) (stack : Stack) (look : Option Lexeme) : Move :=
  match stack with
  | .word lexeme :: .mark .minus :: rest =>
    ofExcept do return .columns (.except [← scope.checkColumn lexeme]) :: rest
  | .word lexeme :: .mark .leftBrace :: rest =>
    ofExcept do return .names [← scope.checkColumn lexeme] :: .mark .leftBrace :: rest
  | .word lexeme :: .names names :: rest =>
    ofExcept do return .names (names ++ [← scope.checkColumn lexeme]) :: rest
  | .word lexeme :: .mark .comma :: rest => .reduce (.distance (some lexeme) :: rest)
  | .word lexeme :: below => onWord scope lexeme below look
  | .mark .star :: below => .reduce (.suffix true :: below)
  | .suffix isOpen :: .word lexeme :: .mark .plus :: .phrase phrase :: rest =>
    .reduce (.phrase (phrase ++ [⟨lexeme.content, isOpen⟩]) :: rest)
  | .suffix isOpen :: .word lexeme :: rest => .reduce (.phrase [⟨lexeme.content, isOpen⟩] :: rest)
  | .phrase phrase :: below =>
    -- A phrase ends only once the lexeme behind it is known to be no plus.
    if terminal? look = some .plus then .shift (.mark .plus) else .reduce (onPhrase phrase below)
  | .cluster cluster :: below => ofExcept (onCluster scope cluster below)
  | .unit query :: .sequence before :: rest => .reduce (.sequence (.listed before query) :: rest)
  | .unit query :: rest => .reduce (.sequence query :: rest)
  | .sequence query :: rest =>
    match terminal? look with
    | some next =>
      if followers.contains next then expect followers look
      else .reduce (.expression query :: rest)
    | none => .reduce (.expression query :: rest)
  | .expression query :: below => onExpression query below look
  | .mark .rightParen :: .expression query :: .mark .leftParen :: rest =>
    ofExcept (onGroup scope query rest)
  | .mark .rightParen :: .distance distance :: .phrases phrases :: .nearOpen :: .word name :: rest =>
    ofExcept (onNear name phrases distance rest)
  | .mark .rightBrace :: .names names :: .mark .leftBrace :: .mark .minus :: rest =>
    .reduce (.columns (.except names) :: rest)
  | .mark .rightBrace :: .names names :: .mark .leftBrace :: rest =>
    .reduce (.columns (.only names) :: rest)
  | .columns _ :: _ => expect [.colon] look
  | .mark .colon :: .columns _ :: below =>
    -- A group with columns stands alone: within a sequence only phrases may follow the colon.
    expect (if atStart below then [.leftParen, .word, .caret] else [.word, .caret]) look
  | .mark .minus :: _ => expect [.leftBrace, .word] look
  | .mark .leftBrace :: _ => expect [.word] look
  | .names _ :: _ => expect [.word, .rightBrace] look
  | .mark .caret :: _ => expect [.word] look
  | .mark .plus :: _ => expect [.word] look
  | .nearOpen :: _ => expect [.word] look
  | .phrases _ :: _ =>
    match terminal? look with
    | some .word => expect [.word] look
    | some .comma => expect [.comma] look
    -- The missing distance takes a place on the stack like any other symbol.
    | _ => push (.distance none) stack
  | .distance _ :: _ => expect [.rightParen] look
  | .mark .comma :: _ => expect [.word] look
  | stack => if atStart stack then expect starters look else unexpected look

-- Reduces until the lexeme is taken in or the expression ends. The fuel bounds the reductions.
def feed (scope : Scope) : Nat → Stack → Option Lexeme → Except Fault (Stack ⊕ Query)
  | 0, _, _ => .error .overflow
  | fuel + 1, stack, look =>
    match move scope stack look with
    | .shift item =>
      if stack.length < capacity then .ok (.inl (item :: stack)) else .error .overflow
    | .reduce stack => feed scope fuel stack look
    | .accept query => .ok (.inr query)
    | .refuse fault => .error fault

/-- Every symbol is reduced a bounded number of times before it is merged into another one. -/
def reductions : Nat := 16 * (capacity + 1)

-- Reads on from a stack. The fuel bounds the lexemes.
def run (scope : Scope) : Nat → Stack → List Char → Except Fault Query
  | 0, _, _ => .error .overflow
  | fuel + 1, stack, text =>
    match Lexeme.next text with
    | .error fault => .error fault
    | .ok found => do
      -- The lexeme is there before anything is reduced, so a fault in it comes first.
      match ← feed scope reductions stack (found.map Prod.fst) with
      | .inr query => return query
      | .inl stack => run scope fuel stack ((found.map Prod.snd).getD [])

end Machine

def read (scope : Scope) (text : List Char) : Except Fault Query :=
  Machine.run scope (text.length + 1) [] text

def directives : List String := ["reads", "id"]

def readDirective (text : List Char) : Except Fault Unit :=
  let word := String.ofList ((text.dropWhile (· == ' ')).takeWhile (· != ' '))
  if directives.any fun known => Text.sameName known word then .ok ()
  else .error (.unknownDirective word)

/-- What a table is asked for by an expression: a query, or nothing if it is a directive. An expression
ends at the first character zero, and one that begins with a star is a directive. -/
def query? (scope : Scope) (expression : String) : Except Fault (Option Query) :=
  match expression.toList.takeWhile (· != '\x00') with
  | '*' :: rest => do
    readDirective rest
    return none
  | text => return some (← read scope text)

def check (scope : Scope) (expression : String) : Except Fault Unit := do
  let _ ← query? scope expression

end TextQuery.Expression
