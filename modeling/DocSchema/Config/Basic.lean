import DocSchema.Bootstrap.Run
import DocSchema.Config.Files
import DocSchema.Schema.Builtin

/-!
# DocSchema.Config.Basic

The configuration of the program, from the variables of its environment and from the first secrets
file that can be read; and the schema that a configuration leads to.
-/

namespace DocSchema

/-- What the program finds around it: variables by name, and files by path. -/
structure Surroundings where
  environment : String → Option Text.SystemText
  read : Text.SystemText → Except ReadFault String

/-- The configuration of the program. -/
structure Config where
  /-- The connection string of the store. -/
  uri : String
  /-- Takes the place of the schema's own database. -/
  database : Option String
  /-- The file with the schema; the built-in schema without one. -/
  schemaFile : Option Text.SystemText
  /-- The convention of the built-in schema. -/
  convention : SoftDelete
  /-- The time a declaration may take, in seconds. -/
  declarationSeconds : Nat
  /-- The time to find a server, in milliseconds. -/
  connectMillis : Nat
deriving DecidableEq, Repr

/-- How to reach the store, as a secrets file says it. -/
structure Secrets where
  uri : String
  database : Option String
deriving DecidableEq, Repr

namespace Secrets

/-- Secrets of which some fields have been read. -/
structure Draft where
  uri : Option String
  database : Option String

/-- How secrets are read. -/
def shape : Json.Shape Draft Secrets where
  title := "struct MongoSecrets"
  fields := [
    .of "uri" true .text fun d uri => { d with uri := some uri },
    .of "database" false (.option .text) fun d database => { d with database }]
  blank := ⟨none, none⟩
  finish := fun d => do
    let uri ← Json.requireField "uri" d.uri
    .ok { uri, database := d.database }

/-- Where secrets may be, in the order of preference. -/
def paths : List String := [".secrets/mongo.json", "../.secrets/mongo.json"]

/-- The secrets in a file, if it can be read and holds secrets. -/
def inFile? (read : Text.SystemText → Except ReadFault String) (path : String) : Option Secrets :=
  match read (.text path) with
  | .error _ => none
  | .ok text => (Json.readWhole shape.read text).toOption

/-- The secrets in the first file that holds some. -/
def find? (read : Text.SystemText → Except ReadFault String) : Option Secrets :=
  paths.findSome? (inFile? read)

end Secrets

namespace Config

/-- The connection string when nothing gives another one. -/
def defaultUri : String := "mongodb://localhost:27017"

/-- The configuration when nothing is configured. -/
def default : Config where
  uri := defaultUri
  database := none
  schemaFile := none
  convention := .null
  declarationSeconds := 30
  connectMillis := 3000

/-- The value of a variable that is set to text. -/
def textVariable? (around : Surroundings) (name : String) : Option String :=
  (around.environment name).bind Text.SystemText.text?

/-- The value of a variable that is set to a number below `2 ^ 64`. -/
def numberVariable? (around : Surroundings) (name : String) : Option Nat :=
  (textVariable? around name).bind fun s => Text.unsigned? (Nat.pow 2 64) s.toList

/-- The convention that a variable names; a word that names none is an error. -/
def conventionOf : Option String → Except BootstrapError SoftDelete
  | none => .ok .null
  | some word =>
    (SoftDelete.ofText word).mapError fun e =>
      .invalidConfig ("SOFT_DELETE_FILTER: " ++ e.message)

/-- The configuration that the surroundings give. Secrets go before the variable with the connection
string, and the variable with the database before the database of the secrets. -/
def ofSurroundings (around : Surroundings) : Except BootstrapError Config := do
  let secrets := Secrets.find? around.read
  let convention ← conventionOf (textVariable? around "SOFT_DELETE_FILTER")
  .ok {
    uri := match secrets with
      | some s => s.uri
      | none => (textVariable? around "MONGO_URI").getD defaultUri
    database := (textVariable? around "MONGO_DB_NAME").or (secrets.bind (·.database))
    schemaFile := around.environment "SCHEMA_FILE"
    convention
    declarationSeconds := (numberVariable? around "DECLARATION_TIMEOUT_SECONDS").getD 30
    connectMillis := (numberVariable? around "CONNECT_TIMEOUT_MS").getD 3000 }

/-- The consistent schema in a file. -/
def schemaInFile (read : Text.SystemText → Except ReadFault String) (path : Text.SystemText) :
    Except SchemaError Schema :=
  match read path with
  | .error fault => .error (.unreadable path.shown fault.message)
  | .ok text => Schema.load text

/-- The schema to declare: from the configured file or built in, aimed at the configured database. A
schema from a file must be consistent before and after that. -/
def loadSchema (c : Config) (read : Text.SystemText → Except ReadFault String) :
    Except SchemaError Schema := do
  let source ← match c.schemaFile with
    | some path => schemaInFile read path
    | none => .ok (Schema.builtin c.convention)
  let s := match c.database with
    | some database => source.withDatabase database
    | none => source
  s.validate
  .ok s

end Config

end DocSchema
