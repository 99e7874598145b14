import DocSchema.CommandLine

/-!
# DocSchema.Main

The program: reads the arguments, the environment and the files that a run may need, and prints
what the run ends with. No transport to a server is part of this library, so to this program every
server is out of reach; all that comes before the connection takes place.
-/

namespace DocSchema.Main

/-- The variables that a configuration may read. -/
def settingNames : List String :=
  ["MONGO_URI", "MONGO_DB_NAME", "SCHEMA_FILE", "SOFT_DELETE_FILTER",
   "DECLARATION_TIMEOUT_SECONDS", "CONNECT_TIMEOUT_MS"]

/-- The fault of a file that could not be read. -/
def readFault : IO.Error → ReadFault
  | .noFileOrDirectory _ _ _ => .notFound
  | .invalidArgument path code details =>
    if code = 36 then .nameTooLong
    else .other (toString (IO.Error.invalidArgument path code details))
  | .inappropriateType _ code _ => if code = 20 then .notDirectory else .isDirectory
  | e => .other (toString e)

/-- Reads a file as text. -/
def readText (path : String) : IO (Except ReadFault String) := do
  try
    let bytes ← IO.FS.readBinFile ⟨path⟩
    match Text.SystemText.ofBytes bytes.toList with
    | .text s => pure (.ok s)
    | .undecodable _ => pure (.error .notText)
  catch e => pure (.error (readFault e))

/-- The surroundings of the program, with the files at these paths. -/
def surroundings (paths : List String) : IO Surroundings := do
  let mut values : List (String × Text.SystemText) := []
  for name in settingNames do
    if let some value ← IO.getEnv name then
      values := (name, .text value) :: values
  let mut files : List (Text.SystemText × Except ReadFault String) := []
  for path in paths do
    files := (.text path, ← readText path) :: files
  let found := values
  let contents := files
  pure {
    environment := fun name => found.lookup name
    read := fun path => (contents.lookup path).getD (.error .notFound) }

/-- The paths that a run may read: the secrets, and the schema of the options or the
environment. -/
def pathsOf (arguments : List String) : IO (List String) := do
  let fromOptions := match CommandLine.parse arguments with
    | .run _ o => o.schema.toList
    | _ => []
  pure (Secrets.paths ++ fromOptions ++ (← IO.getEnv "SCHEMA_FILE").toList)

end DocSchema.Main

/-- Runs the program. -/
def main (arguments : List String) : IO UInt32 := do
  let around ← DocSchema.Main.surroundings (← DocSchema.Main.pathsOf arguments)
  let (ending, _) := DocSchema.CommandLine.run around .unreachable 0 arguments
  IO.print ending.output.out
  IO.eprint ending.output.err
  pure (UInt32.ofNat ending.exitCode)
