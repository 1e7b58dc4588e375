import TextQuery.Compiler
import TextQuery.Engine.Building
import TextQuery.ForeignKey.Lookup

set_option autoImplicit false

namespace TextQuery

open Engine

inductive Answer where
  | nothing
  | text (value : String)
  | names (values : List String)
  | tokens (found : List Cell)
  | flag (value : Bool)
  | pattern (made : Option Pattern)
  | keys (found : List ForeignKey)
  | violations (found : List Violation)
deriving DecidableEq, Repr

inductive Lookup where
  | schemaNames
  | ensureSchema (schema : String)
  | tableExists (table schema : String)
  | tableSql (table schema : String)
  | primaryKeyColumns (table schema : String)
  | resolve (table : String) (schema : Option String)
  | foreignKeys (table : String) (schema : Option String)
  | violations (table schema : Option String)
  | ensureNone (table schema : Option String)
  | describe (violation : Violation) (schema : String)
deriving DecidableEq, Repr

def Lookup.run {σ : Type} [Engine σ] : Lookup → Attempt σ Answer
  | .schemaNames => return .names (← Catalog.schemaNames)
  | .ensureSchema schema => return .text (← Catalog.ensureSchema schema)
  | .tableExists table schema => return .flag (← Catalog.tableExists table schema)
  | .tableSql table schema => return .text (← Catalog.tableSql table schema)
  | .primaryKeyColumns table schema => return .names (← Catalog.primaryKeyColumns table schema)
  | .resolve table schema => return .text (← Catalog.resolve table schema)
  | .foreignKeys table schema => return .keys (← ForeignKey.declared table schema)
  | .violations table schema => return .violations (← ForeignKey.violations table schema)
  | .ensureNone table schema => do
    ForeignKey.ensureNone table schema
    return .nothing
  | .describe violation schema => return .text (← ForeignKey.describe violation schema)

inductive Request where
  | compile (expression : String)
  | compileMode (mode text : String)
  | compileAny (text : String)
  | compileAll (text : String)
  | compilePhrase (text : String)
  | tokenize (text : String)
  | deserialize (text : String)
  | descriptor
deriving DecidableEq, Repr

namespace Request

variable {σ : Type} [Engine σ]

def patternAnswer (run : Run σ (Except Failure (Option Pattern) × Compiler)) :
    Run σ (Except Failure Answer × Compiler) := do
  let (result, compiler) ← run
  return (result.map .pattern, compiler)

def rawAnswer (run : Run σ (Except Failure Pattern × Compiler)) :
    Run σ (Except Failure Answer × Compiler) := do
  let (result, compiler) ← run
  return (result.map fun made => .pattern (some made), compiler)

def run (compiler : Compiler) : Request → Run σ (Except Failure Answer × Compiler)
  | .compile expression => rawAnswer (compiler.compile expression)
  | .compileMode name text =>
    match Mode.ofName? name with
    | some mode => patternAnswer (compiler.compileMode mode text)
    | none => return (.error (.notAMode name), compiler)
  | .compileAny text => patternAnswer (compiler.compileAny text)
  | .compileAll text => patternAnswer (compiler.compileAll text)
  | .compilePhrase text => patternAnswer (compiler.compilePhrase text)
  | .tokenize text => do
    let (tokens, compiler) ← compiler.tokenize text
    return (tokens.map .tokens, compiler)
  | .deserialize text => rawAnswer (compiler.deserialize text)
  | .descriptor => return (.ok (.text compiler.tokenizer.descriptor), compiler)

end Request

inductive Step where
  | build (building : Building)
  | create (id : String) (settings : CompilerSettings)
  | request (id : String) (request : Request)
  | lookup (question : Lookup)
  | helpers
  | bind (pattern : Pattern)
  | close
deriving Repr

def Step.isClose : Step → Bool
  | .close => true
  | _ => false

/-- A database of the path that was opened, and the compilers made on it by their names. A closed
session answers nothing any more. -/
structure Session where
  path : String
  database : Database := {}
  compilers : List (String × Compiler) := []
  isClosed : Bool := false
deriving Repr

namespace Session

def memoryPath : String := ":memory:"

def fresh : Session := { path := memoryPath }

def compiler? (session : Session) (id : String) : Option Compiler := session.compilers.lookup id

def setCompiler (session : Session) (id : String) (compiler : Compiler) : Session :=
  { session with
    compilers := (id, compiler) :: session.compilers.filter fun entry => entry.1 != id }

def helperFamily : String := "safematch_"

def isVirtual (table : Table) : Bool :=
  match table.body with
  | .fullText _ | .splitter _ => true
  | _ => false

/-- The helper tables that there are now. Nothing else that has such a name is one. -/
def helperNames (database : Database) : List String :=
  let tables := database.temp.tables.filter fun table =>
    isVirtual table && Text.startsWith table.name helperFamily
  (tables.map Table.name).mergeSort fun a b => a ≤ b

def listHelpers : Change (List String) := do
  Change.readCatalog
  let database ← get
  Change.use database.temp.name
  return helperNames database

def onDatabase {α : Type} (session : Session) (run : Run Database α) :
    α × List Record × Session :=
  let (answer, world) := run.run { engine := session.database }
  (answer, world.journal, { session with database := world.engine })

def request (session : Session) (id : String) (request : Request) :
    Except Failure Answer × List Record × Session :=
  match session.compiler? id with
  | none => (.ok .nothing, [], session)
  | some compiler =>
    -- The compiler is kept as the request left it, also when it failed.
    let ((answer, compiler), records, session) := session.onDatabase (request.run compiler)
    (answer, records, session.setCompiler id compiler)

def onTables {α : Type} (session : Session) (answer : α → Answer) (change : Change α) :
    Except Failure Answer × List Record × Session :=
  let (result, database) := change session.database
  ((result.map answer).mapError .engine, [], { session with database })

def create (session : Session) (id : String) (settings : CompilerSettings) :
    Except Failure Session :=
  (Compiler.create settings).map (session.setCompiler id)

def change (session : Session) : Except Failure Session →
    Except Failure Answer × List Record × Session
  | .ok changed => (.ok .nothing, [], changed)
  | .error failure => (.error failure, [], session)

def perform (session : Session) : Step → Except Failure Answer × List Record × Session
  | .build building => session.onTables (fun _ => .nothing) (Change.build building)
  | .create id settings => session.change (session.create id settings)
  | .request id request => session.request id request
  | .lookup question => session.onDatabase question.run.run
  | .helpers => session.onTables .names listHelpers
  | .bind pattern => (.ok (.text ((pattern.conform .binding).getD "")), [], session)
  | .close => (.ok .nothing, [], { session with isClosed := true })

def step (session : Session) (next : Step) : Except Failure Answer × List Record × Session :=
  -- Closing twice is harmless.
  if session.isClosed && !next.isClose then (.error (.closed session.path), [], session)
  else session.perform next

def after (session : Session) (steps : List Step) : Session :=
  steps.foldl (fun session next => (session.step next).2.2) session

end Session

end TextQuery
