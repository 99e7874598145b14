import DocSchema.Server.Address
import DocSchema.Server.Settings

/-!
# DocSchema.Server.ConnectionString

Connection strings: the scheme, the user, the servers, the database and the options of a deployment.
The servers are listed, or a service names them: then there is one host and no port.

A connection string is wrong in itself, or its servers and options do not go together. The second is
looked at only when the servers are known.
-/

namespace DocSchema.Server

/-- What is wrong with a connection string. -/
inductive UriFault where
  | noScheme
  | unknownScheme (scheme : String)
  | badAddress (address : String) (fault : AddressFault)
  | badSocket
  /-- A service is not named by one host. -/
  | severalServices
  | servicePort
  | serviceSocket
  | directService
  /-- An option that speaks of a service stands where there is none. -/
  | noService (option : String)
  /-- The number of servers of a service is limited, and something else is set. -/
  | limitedService (clash : String)
  | badDatabase
  | databaseCharacter (c : Char)
  | badOption (fault : OptionFault)
  | badCredential (fault : CredentialFault)
  /-- Several servers are named where the setting wants one. -/
  | severalServers (setting : String)
  /-- A setting that cannot stand beside balancing of load. -/
  | balanced (setting : String)
  /-- Writes must reach the journal and are not acknowledged. -/
  | unacknowledgedJournal
  /-- Something of which there must be one at least is limited to none. -/
  | limitZero (option : String)
  | shortStaleness (least : Nat)
deriving DecidableEq, Repr

/-- What a refused connection string is answered with. -/
def UriFault.message : UriFault → String
  | .noScheme => "connection string contains no scheme"
  | .unknownScheme scheme => "unsupported connection string scheme: " ++ scheme
  | .badAddress address fault => "invalid server address " ++ address ++ ": " ++ fault.message
  | .badSocket => "unix domain sockets must be URL-encoded"
  | .severalServices => "exactly one host must be specified with 'mongodb+srv'"
  | .servicePort => "a port cannot be specified with 'mongodb+srv'"
  | .serviceSocket => "unix sockets cannot be used with 'mongodb+srv'"
  | .directService => "cannot use SRV-style URI with directConnection=true"
  | .noService option => option ++ " cannot be specified with a non-SRV URI"
  | .limitedService clash => "srvMaxHosts and " ++ clash ++ " cannot both be present"
  | .badDatabase => "database name must be URL encoded"
  | .databaseCharacter c => "illegal character in database name: " ++ .ofList [c]
  | .badOption fault => fault.message
  | .badCredential fault => fault.message
  | .severalServers setting => "cannot specify multiple seeds with " ++ setting
  | .balanced setting => "cannot specify " ++ setting ++ " with loadBalanced=true"
  | .unacknowledgedJournal => "write concern cannot have w=0 and j=true"
  | .limitZero option => "cannot specify " ++ option ++ "=0"
  | .shortStaleness least =>
    "invalid max_staleness value: must be at least " ++ .ofList (Nat.toDigits 10 least) ++
      " seconds"

/-- A connection string. -/
structure ConnectionString where
  /-- Whether the one host is that of a service that names the servers. -/
  isService : Bool
  addresses : List Address
  database : Option String
  settings : Settings
deriving DecidableEq, Repr

/-! ## Parts -/

/-- What stands before and after the last occurrence of a character. -/
def splitLast (mark : Char) (cs : List Char) : Option (List Char × List Char) :=
  (Text.splitOnce [mark] cs.reverse).map fun parts => (parts.2.reverse, parts.1.reverse)

/-- The address in one of the parts between commas. -/
def readAddress (cs : List Char) : Except UriFault Address :=
  if isSocket cs then
    match Text.percentDecode cs with
    | .text path => .ok (.socket path)
    | .undecodable _ => .error .badSocket
  else (Address.ofHost cs).mapError (.badAddress (.ofList cs))

/-- Looks at the host of a service. -/
def checkService : List Address → Except UriFault Unit
  | [.host _ none] => .ok ()
  | [.host _ (some _)] => .error .servicePort
  | [.socket _] => .error .serviceSocket
  | _ => .error .severalServices

/-- The database in the part after the servers; none if the part is empty. -/
def readDatabase (cs : List Char) : Except UriFault (Option String) :=
  if cs.isEmpty then .ok none
  else match Text.percentDecode cs with
    | .undecodable _ => .error .badDatabase
    | .text name =>
      match name.toList.find? fun c => "/\\ \"$".toList.contains c with
      | some c => .error (.databaseCharacter c)
      | none => .ok (some name)

/-- Looks at the options that speak of a service. -/
def checkServiceSettings (isService : Bool) (s : Settings) : Except UriFault Unit :=
  if isService && s.isDirect then .error .directService
  else if !isService && s.hasServiceName then .error (.noService "srvServiceName")
  else match s.serviceHosts with
    | none => .ok ()
    | some n =>
      if !isService then .error (.noService "srvMaxHosts")
      else if 0 < n && s.hasReplicaSet then .error (.limitedService "replicaSet")
      else if 0 < n && s.isLoadBalanced then .error (.limitedService "loadBalanced=true")
      else .ok ()

/-! ## Connection strings -/

namespace ConnectionString

/-- The connection string after its scheme. -/
def ofRest (isService : Bool) (cs : List Char) : Except UriFault ConnectionString := do
  let (place, options) := (Text.splitOnce ['?'] cs).getD (cs, [])
  let (user, place) := match splitLast '@' place with
    | some (user, place) => (some user, place)
    | none => (none, place)
  let someone ← (User.ofChars? (user.getD [])).mapError .badCredential
  let (hosts, database) := (Text.splitOnce ['/'] place).getD (place, [])
  let addresses ← (Text.splitAll ',' hosts).mapM readAddress
  if isService then checkService addresses
  let database ← readDatabase database
  let settings ← (Settings.ofChars options).mapError .badOption
  checkServiceSettings isService settings
  (checkCredential user.isSome someone settings.mechanism settings.source
    settings.properties).mapError .badCredential
  settings.checkSocketTimeout.mapError .badOption
  .ok { isService, addresses, database, settings }

/-- Reads a connection string. -/
def ofText (uri : String) : Except UriFault ConnectionString :=
  match Text.splitOnce "://".toList uri.toList with
  | none => .error .noScheme
  | some (scheme, rest) =>
    if scheme = "mongodb".toList then ofRest false rest
    else if scheme = "mongodb+srv".toList then ofRest true rest
    else .error (.unknownScheme (.ofList scheme))

/-- The least staleness that can be told, in seconds: a minute and a half, or ten seconds more than
passes between two looks at a server. -/
def leastStaleness (s : Settings) : Nat := max 90 (s.heartbeat.getD 10000 / 1000 + 10)

/-- What does not go together in a connection string, if there is something. -/
def clash? (c : ConnectionString) : Option UriFault :=
  let s := c.settings
  let hasSeveral := decide (1 < c.addresses.length)
  if s.isDirect && hasSeveral then some (.severalServers "directConnection=true")
  else if s.isUnacknowledged && s.isJournaled then some .unacknowledgedJournal
  else if s.isLoadBalanced && hasSeveral then some (.severalServers "loadBalanced=true")
  else if s.isLoadBalanced && s.hasReplicaSet then some (.balanced "replicaSet")
  else if s.isLoadBalanced && s.isDirect then some (.balanced "directConnection=true")
  else if s.maxPoolSize = some 0 then some (.limitZero "maxPoolSize")
  else if s.maxConnecting = some 0 then some (.limitZero "maxConnecting")
  else if s.maxStaleness.any (· < leastStaleness s) then
    some (.shortStaleness (leastStaleness s))
  else none

example : ofText "mongodb://u:p@a:1,b/db?w=1" = .ok
    { isService := false, addresses := [.host "a" (some 1), .host "b" none], database := some "db",
      settings := .none } := rfl
example : (ofText "mongodb://[::1]:27017").map (·.addresses) =
    .ok [.host "::1" (some 27017)] := rfl
example : ofText "mongodb://a/?tls=yes" = .error (.badOption (.notFlag .tls)) := rfl

end ConnectionString

end DocSchema.Server
