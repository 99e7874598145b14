import DocSchema.Store.Request
import DocSchema.Text.Split

/-!
# DocSchema.Server.Wire

Requests as the commands that a database server is sent, and the server's replies as results.

Every request is one command. A reply whose `ok` is zero is a failure with a code; writing also
fails with the first of the reply's `writeErrors`. Some codes have a meaning of their own: a
collection that exists already, one that does not exist, an index with other options, a key that is
taken, and a lack of privileges.
-/

namespace DocSchema.Server

/-! ## Commands -/

/-- The filter of a soft deletion: the value at its field, on a document that is not deleted. -/
def selection (field : FieldName) (value : Value) : Document :=
  Document.ofFields [(field.text, value), (deletedAt, .null)]

/-- A declared index as it is sent. -/
def indexModel (s : IndexSpec) : Document :=
  let x := s.definition
  [("key", .document x.keys), ("name", .string x.name), ("unique", .bool x.unique)] ++
    match x.filter with
    | none => []
    | some f => [("partialFilterExpression", .document f)]

/-- The command for a request on a database. A soft deletion carries the time of the clock. -/
def command (database : String) (now : Int64) : Request → Document
  | .ping => [("ping", .int32 1), ("$db", .string database)]
  | .listCollections =>
    [("listCollections", .int32 1), ("nameOnly", .bool true), ("$db", .string database)]
  | .createCollection name => [("create", .string name.text), ("$db", .string database)]
  | .listIndexes name => [("listIndexes", .string name.text), ("$db", .string database)]
  | .createIndex s =>
    [("createIndexes", .string s.collection.text), ("indexes", .array [.document (indexModel s)]),
     ("$db", .string database)]
  | .insert name d =>
    [("insert", .string name.text), ("ordered", .bool true), ("$db", .string database),
     ("documents", .array [.document d])]
  | .softDelete name field value =>
    [("update", .string name.text),
     ("updates", .array [.document
      [("q", .document (selection field value)),
       ("u", .document [("$set", .document [(deletedAt, .dateTime now)])]),
       ("multi", .bool true)]]),
     ("ordered", .bool true), ("$db", .string database)]

/-! ## Failures -/

/-- A server's reply to a command. -/
inductive Reply where
  | document (d : Document)
  /-- The connection is closed without a reply. -/
  | closed

/-- Why a command failed. -/
inductive Failure where
  | command (code : Int) (codeName text : String)
  | write (code : Int) (text : String)
  | connection (text : String)
  | malformedReply (text : String)
deriving DecidableEq, Repr

namespace Failure

/-- The code of a failure that the server reported. -/
def code? : Failure → Option Int
  | .command code _ _ | .write code _ => some code
  | _ => none

/-- What kind of failure it is. -/
def kindText : Failure → String
  | .command code codeName text =>
    "Command failed: Error code " ++ Value.intText code ++ " (" ++ codeName ++ "): " ++ text
  | .write code text =>
    "An error occurred when trying to execute a write operation: " ++
      "WriteError(WriteError \x7b code: " ++ Value.intText code ++
      ", code_name: None, message: " ++ Text.quote text ++ ", details: None \x7d)"
  | .connection text => text
  | .malformedReply text => text

/-- A failure as its kind and the rest of what is known about it. -/
def describe (kind : String) : String :=
  "Kind: " ++ kind ++ ", labels: \x7b\x7d, source: None, server response: None"

/-- The text of a failure. -/
def text (f : Failure) : String := describe f.kindText

/-- What a failure without a meaning of its own is answered with. -/
def toError (f : Failure) : StoreError :=
  match f with
  | .connection _ => .connection f.text
  | _ => if f.code? = some 13 then .unauthorized f.text else .database f.text

end Failure

/-- The field named in the text of a duplicate key: the name before the first colon of the key, or
else the name of the index without its direction. -/
def duplicateField (text : String) : Option String :=
  let fromKey := match Text.splitOnce "dup key: \x7b".toList text.toList with
    | none => none
    | some (_, rest) =>
      let field := Text.trim (.ofList
        ((rest.dropWhile Text.isBlank).takeWhile (· != ':')))
      if field = "" then none else some field
  match fromKey with
  | some field => some field
  | none =>
    match Text.splitOnce "index: ".toList text.toList with
    | none => none
    | some (_, rest) =>
      let word := (rest.dropWhile Text.isBlank).takeWhile fun c => !Text.isBlank c
      if word.isEmpty then none
      else if ['1', '_'].isPrefixOf word.reverse then
        some (.ofList (word.take (word.length - 2)))
      else some (.ofList word)

example : duplicateField "E11000 index: email_1 dup key: \x7b email: 1 \x7d" = some "email" := rfl
example : duplicateField "E11000 index: user_id_1" = some "user_id" := rfl

/-! ## Replies -/

/-- A number in a reply. -/
def number? : Value → Option Int
  | .int32 n => some n.toInt
  | .int64 n => some n.toInt
  | .double d => some d.truncate
  | _ => none

/-- A text in a reply. -/
def text? : Value → Option String
  | .string s => some s
  | _ => none

/-- A list in a reply. -/
def items? : Value → Option (List Value)
  | .array items => some items
  | _ => none

/-- A document in a reply. -/
def document? : Value → Option Document
  | .document d => some d
  | _ => none

/-- The text under a name, or nothing. -/
def textAt (d : Document) (key : String) : String := ((d.get? key).bind text?).getD ""

/-- The number under a name, or zero. -/
def numberAt (d : Document) (key : String) : Int := ((d.get? key).bind number?).getD 0

/-- Whether the server reports success. -/
def isOk (d : Document) : Bool := (d.get? "ok").any Filter.isTruthy

/-- The failure of the first write, if there is one. -/
def writeFailure? (d : Document) : Option Failure :=
  match (d.get? "writeErrors").bind items? with
  | some (.document e :: _) => some (.write (numberAt e "code") (textAt e "errmsg"))
  | _ => none

/-- A reply that reports success. Writes of documents also look at the single write. -/
def accept (isDocumentWrite : Bool) : Reply → Except Failure Document
  | .closed => .error (.connection "I/O error: unexpected end of file")
  | .document d =>
    if !isOk d then .error (.command (numberAt d "code") (textAt d "codeName") (textAt d "errmsg"))
    else match if isDocumentWrite then writeFailure? d else none with
      | some f => .error f
      | none => .ok d

/-- The entries of a reply's cursor: those of its first batch. A listing that takes more than one
batch is not read to its end, as no further command is sent for the rest. -/
def cursorEntries (d : Document) : Except Failure (List Document) :=
  match (((d.get? "cursor").bind document?).bind (·.lookup "firstBatch")).bind items? with
  | none => .error (.malformedReply "The server returned an invalid reply to a database operation")
  | some items => .ok (items.filterMap document?)

/-- An index as the server lists it. It is not unique unless it says so. -/
def definitionOf (d : Document) : IndexDefinition where
  name := textAt d "name"
  keys := ((d.get? "key").bind document?).getD []
  unique := match d.get? "unique" with
    | some (.bool b) => b
    | _ => false
  filter := (d.get? "partialFilterExpression").bind document?

/-- What a failure of an index's creation means. -/
def createIndexError (s : IndexSpec) (f : Failure) : StoreError :=
  if f.code? = some 85 ∨ f.code? = some 86 then
    .conflict s.collection.text s.name f.text
  else if f.code? = some 11000 then .duplicateKey s.collection.text s.field.text f.text
  else f.toError

/-- What a failure of an insertion means. -/
def insertError (name : CollectionName) (f : Failure) : StoreError :=
  if f.code? = some 11000 then
    .duplicateKey name.text ((duplicateField f.text).getD "") f.text
  else f.toError

/-- What a failure to reach the server means: whatever it is, the server cannot be used. -/
def pingError (f : Failure) : StoreError :=
  match f.toError with
  | .database text => .connection text
  | e => e

/-- The result of a request, given the server's reply. -/
def result (reply : Reply) : (r : Request) → r.Result
  | .ping => ((accept false reply).mapError pingError).map fun _ => ()
  | .listCollections =>
    (do
      let entries ← cursorEntries (← accept false reply)
      .ok (entries.map fun e => textAt e "name")).mapError Failure.toError
  | .createCollection _ =>
    match accept false reply with
    | .ok _ => .ok Creation.created
    | .error f => if f.code? = some 48 then .ok Creation.alreadyExists else .error f.toError
  | .listIndexes _ =>
    match accept false reply with
    | .ok d => ((cursorEntries d).mapError Failure.toError).map fun entries =>
      entries.map definitionOf
    | .error f => if f.code? = some 26 then .ok ([] : List IndexDefinition) else .error f.toError
  | .createIndex s => ((accept false reply).mapError (createIndexError s)).map fun _ => ()
  | .insert name _ => ((accept true reply).mapError (insertError name)).map fun _ => ()
  | .softDelete _ _ _ =>
    ((accept true reply).mapError Failure.toError).map fun d => (numberAt d "nModified").toNat

end DocSchema.Server
