import DocSchema.Text.Split
import DocSchema.Text.Utf8

/-!
# DocSchema.Config.Files

Reading files by path. Why a file cannot be read is a fault with the system's own text; a small
tree of files around a working directory answers as a file system would.
-/

namespace DocSchema

/-- Why a file cannot be read as text. -/
inductive ReadFault where
  | notFound
  | nameTooLong
  | notDirectory
  | isDirectory
  | notText
  /-- Any other reason, in the system's words. -/
  | other (reason : String)
deriving DecidableEq, Repr

/-- The system's text for a file that cannot be read. -/
def ReadFault.message : ReadFault → String
  | .notFound => "No such file or directory (os error 2)"
  | .nameTooLong => "File name too long (os error 36)"
  | .notDirectory => "Not a directory (os error 20)"
  | .isDirectory => "Is a directory (os error 21)"
  | .notText => "stream did not contain valid UTF-8"
  | .other reason => reason

/-- What a path leads to. -/
inductive FileEntry where
  | file (content : Text.SystemText)
  | directory
deriving DecidableEq, Repr

open Text (SystemText)

/-- Files under their paths from the root, as lists of names. -/
structure FileTree where
  working : List SystemText
  entries : List (List SystemText × FileEntry)
deriving DecidableEq, Repr

namespace FileTree

/-- The most bytes that a path may have. -/
def pathLimit : Nat := 4095

/-- The most bytes that one name on a path may have. -/
def nameLimit : Nat := 255

/-- The names of a path between its slashes. -/
def pathNames : SystemText → List SystemText
  | .text path => (Text.splitAll '/' path.toList).map fun name => .text (.ofList name)
  | .undecodable bytes => (Text.splitAll 0x2F bytes).map .ofBytes

/-- One step from a directory. -/
def descend (place : List SystemText) (name : SystemText) : List SystemText :=
  if name = .text "" ∨ name = .text "." then place
  else if name = .text ".." then place.dropLast
  else place ++ [name]

/-- Where a path starts from: the root for a path that begins with a slash. -/
def startOf (working : List SystemText) (path : SystemText) : List SystemText :=
  if (pathNames path).head? == some (.text "") then [] else working

/-- What there is at a place: a listed entry, or a directory on the way to one. -/
def entryAt? (t : FileTree) (place : List SystemText) : Option FileEntry :=
  match t.entries.lookup place with
  | some e => some e
  | none =>
    if place.isPrefixOf t.working || t.entries.any (place.isPrefixOf ·.1) then some .directory
    else none

/-- Follows names from a directory: every place on the way must be a directory. -/
def walk (t : FileTree) (place : List SystemText) :
    List SystemText → Except ReadFault (List SystemText)
  | [] => .ok place
  | name :: names =>
    match t.entryAt? place with
    | none => .error .notFound
    | some (.file _) => .error .notDirectory
    | some .directory =>
      if nameLimit < name.size then .error .nameTooLong else walk t (descend place name) names

/-- Reads the file at a path. -/
def read (t : FileTree) (path : SystemText) : Except ReadFault String :=
  if path = .text "" then .error .notFound
  else if pathLimit < path.size then .error .nameTooLong
  else do
    match t.entryAt? (← t.walk (startOf t.working path) (pathNames path)) with
    | none => .error .notFound
    | some .directory => .error .isDirectory
    | some (.file content) =>
      match content.text? with
      | some s => .ok s
      | none => .error .notText

/-- A tree with files at paths relative to its working directory. -/
def ofEntries (working : List SystemText) (entries : List (String × FileEntry)) : FileTree :=
  { working
    entries := entries.map fun (path, e) =>
      ((pathNames (.text path)).foldl descend (startOf working (.text path)), e) }

end FileTree

end DocSchema
