import DocSchema.Bootstrap.Report
import DocSchema.Bootstrap.Task

/-!
# DocSchema.Bootstrap.Run

Applying a schema to a store, and planning to. Both look at the schema first and at the store next;
then come the collections and then the indexes, each in the order of the schema. An index that
differs from its declaration is never changed: applying ends there, and planning reports it.
-/

namespace DocSchema.Bootstrap

/-- The time a declaration may take unless it is set otherwise. -/
def defaultLimit : Duration := .ofSeconds 30

/-- Ends the task unless the schema is consistent. -/
def checkSchema (s : Schema) : Task Unit :=
  .done (s.validate.mapError .invalidSchema)

/-- Ends the task unless the store can be reached; any failure counts as that. -/
def checkConnection : Task Unit :=
  .ask (some "connection check") .ping fun result =>
    .done (result.mapError fun e => .connection e.message)

/-- Ends the task unless the schema is consistent and the store can be reached. -/
def check (s : Schema) : Task Unit := do
  checkSchema s
  checkConnection

/-- How an existing index differs from a declared one. -/
def difference (existing declared : IndexDefinition) : String :=
  "existing [" ++ existing.text ++ "] differs from declared [" ++ declared.text ++ "]"

/-- Looks at how a declared index stands to the indexes of its collection. -/
def indexState (s : IndexSpec) : Task IndexState := do
  let existing : List IndexDefinition ←
    Task.request (some (Declaration.index s).text) (.listIndexes s.collection)
  pure (s.definition.stateIn existing)

/-! ## Applying -/

/-- Creates a collection unless it exists. -/
def ensureCollection (name : CollectionName) : Task Outcome := do
  let declaration := Declaration.collection name
  let creation : Creation ← Task.request (some declaration.text) (.createCollection name)
  pure ⟨declaration, match creation with | .created => .created | .alreadyExists => .unchanged⟩

/-- Creates an index unless it exists. -/
def ensureIndex (s : IndexSpec) : Task Outcome := do
  match ← indexState s with
  | .identical => pure ⟨.index s, .unchanged⟩
  | .conflicting existing =>
    Task.fail (.conflictingDefinition s.collection.text existing.name
      (difference existing s.definition))
  | .missing =>
    let _ ← Task.request none (.createIndex s)
    pure ⟨.index s, .created⟩

/-- Creates what is declared unless it exists. -/
def ensureAll (s : Schema) : Task (List Outcome) := do
  let collections ← Task.each ensureCollection s.collections
  let indexes ← Task.each ensureIndex s.indexes
  pure (collections ++ indexes)

/-- Applies a schema: the outcome of every declaration. -/
def apply (s : Schema) : Task (List Outcome) := do
  check s
  ensureAll s

/-! ## Planning -/

/-- What applying would do with a collection, given the names of those that exist. -/
def planCollection (existing : List String) (name : CollectionName) : Outcome :=
  ⟨.collection name, if existing.contains name.text then .unchanged else .wouldCreate⟩

/-- What applying would do with an index. -/
def planIndex (s : IndexSpec) : Task Outcome := do
  let action : Action := match ← indexState s with
    | .missing => .wouldCreate
    | .identical => .unchanged
    | .conflicting existing => .conflict (difference existing s.definition)
  pure ⟨.index s, action⟩

/-- What applying would do with all that is declared. -/
def planAll (s : Schema) : Task (List Outcome) := do
  let existing : List String ← Task.request (some "list collections") .listCollections
  let indexes ← Task.each planIndex s.indexes
  pure (s.collections.map (planCollection existing) ++ indexes)

/-- Compares a schema with the store and changes nothing: the outcome of every declaration. -/
def plan (s : Schema) : Task (List Outcome) := do
  check s
  planAll s

/-! ## Runs -/

/-- The two commands. -/
inductive Command where
  | apply
  | plan
deriving DecidableEq, Repr

/-- The task of a command. -/
def Command.task : Command → Schema → Task (List Outcome)
  | .apply => Bootstrap.apply
  | .plan => Bootstrap.plan

/-- What a command does once the checks have passed. -/
def Command.work : Command → Schema → Task (List Outcome)
  | .apply => ensureAll
  | .plan => planAll

/-- Runs a command on a host and reports it under the name of its database. The report starts when
the checks have passed: the clock is read then, and again at the end. -/
def report {σ : Type} (host : Host σ) (clock : σ → Int) (database : String) (limit : Duration)
    (command : Command) (s : Schema) (state : σ) : Except BootstrapError Report × σ :=
  match (check s).run host limit ⟨"", 0⟩ state with
  | (.error e, checked) => (.error e, checked)
  | (.ok _, checked) =>
    let (result, after) := (command.work s).run host limit ⟨"", 0⟩ checked
    (result.map fun outcomes =>
      { database
        dryRun := command == .plan
        startedAt := clock checked
        finishedAt := clock after
        outcomes }, after)

/-- Runs a command on a catalog in memory. -/
def reportOn (limit : Duration) (command : Command) (s : Schema) (state : ClockedCatalog) :
    Except BootstrapError Report × ClockedCatalog :=
  report ClockedCatalog.host (fun c => c.clock) state.catalog.database limit command s state

/-- The text that shows a bootstrapper: its database and its time limit. -/
def describe (database : String) (limit : Duration) : String :=
  "Bootstrapper \x7b database: " ++ Text.quote database ++ ", declaration_timeout: " ++
    limit.text ++ " \x7d"

end DocSchema.Bootstrap
