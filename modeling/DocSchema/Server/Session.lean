import DocSchema.Bootstrap.Run
import DocSchema.Server.ConnectionString
import DocSchema.Server.Wire

/-!
# DocSchema.Server.Session

Sessions with a database server. The network is a parameter: no server can be reached, or one is
reached whose replies are given in order. A server without a reply left answers as an empty
database does.
-/

namespace DocSchema.Server

/-- What there is at the other end of a connection. -/
inductive Network where
  | unreachable
  /-- A server that gives these replies to the next commands. -/
  | answering (replies : List Reply)

/-- A connection to a database. -/
structure Session where
  database : String
  /-- The replies to the next commands. -/
  replies : List Reply
  /-- The commands so far. -/
  sent : List Document
  /-- The time of the clock, in milliseconds since 1970. -/
  clock : Nat

/-- A reply of success with some fields. -/
def success (fields : Document) : Reply := .document (("ok", .int32 1) :: fields)

/-- What a server with an empty database replies. -/
def emptyReply : Request → Reply
  | .listCollections =>
    success [("cursor", .document [("firstBatch", .array [])])]
  | .listIndexes _ =>
    .document [("ok", .int32 0), ("errmsg", .string "ns does not exist"), ("code", .int32 26),
      ("codeName", .string "NamespaceNotFound")]
  | .softDelete _ _ _ => success [("n", .int32 0), ("nModified", .int32 0)]
  | _ => success []

namespace Session

/-- Sends the command of a request and reads the result from the reply. -/
def ask (s : Session) (r : Request) : r.Result × Session :=
  let sent := s.sent ++ [command s.database (Int64.ofNat s.clock) r]
  match s.replies with
  | [] => (result (emptyReply r) r, { s with sent })
  | reply :: replies => (result reply r, { s with sent, replies })

/-- A session as a host, whose answers take no time that is measured. -/
def host : Host Session where
  delay _ _ := ⟨0⟩
  answer s r := s.ask r

/-- The session that is given these replies next, and has sent nothing. -/
def withReplies (s : Session) (replies : List Reply) : Session := { s with replies, sent := [] }

/-- Runs a command of the program on a session. -/
def report (limit : Duration) (c : Bootstrap.Command) (schema : Schema) (s : Session) :
    Except BootstrapError Report × Session :=
  Bootstrap.report host (fun s => s.clock) s.database limit c schema s

end Session

/-! ## Connecting -/

/-- The answer when no server can be reached. -/
def unreachable : StoreError :=
  .connection (Failure.describe "Server selection timeout: No available servers")

/-- The answer to a connection string that is wrong. -/
def refused (fault : UriFault) : StoreError :=
  .connection ("invalid MongoDB URI: " ++
    Failure.describe ("An invalid argument was provided: " ++ fault.message))

/-- Connects to a database: the connection string must be in order, and the server must answer. The
commands that were sent are returned in any case. The servers of a service are asked for over the
network, before it is known whether they go together with the options. -/
def connect (network : Network) (uri database : String) (clock : Nat) :
    Except StoreError Session × List Document :=
  match ConnectionString.ofText uri with
  | .error fault => (.error (refused fault), [])
  | .ok c =>
    match network, c.isService, c.clash? with
    | .unreachable, true, _ => (.error unreachable, [])
    | _, _, some fault => (.error (refused fault), [])
    | .unreachable, _, none => (.error unreachable, [])
    | .answering replies, _, none =>
      let (pinged, s) := Session.ask { database, replies, sent := [], clock } .ping
      match pinged with
      | .ok () => (.ok s, s.sent)
      | .error e => (.error e, s.sent)

end DocSchema.Server
