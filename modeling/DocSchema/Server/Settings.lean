import DocSchema.Number.Shortest
import DocSchema.Server.Credential
import DocSchema.Server.OptionName
import DocSchema.Text.Quoted

/-!
# DocSchema.Server.Settings

What the options of a connection string set. The options are taken in order, and each must have a
value of its kind that agrees with those before it. Only what can make a connection string wrong is
kept; an option whose value cannot clash with anything is looked at and forgotten.
-/

namespace DocSchema.Server

/-- What is wrong with an option of a connection string. -/
inductive OptionFault where
  | noValue (option : String)
  | repeated
  | unknown (name : String) (near : Option String)
  | notFlag (option : OptionName)
  | notSpan (option : OptionName)
  | notCount (option : OptionName)
  | notInteger (option : OptionName)
  | negativeAcknowledgement
  | frequentHeartbeat (millis : Nat)
  | badStaleness (reason : String)
  | negativeStaleness (seconds : Int)
  | badReadMode (mode : String)
  | badReadTags (tags : String)
  /-- Something about reading is set, but not from which servers. -/
  | noReadMode (what : String)
  /-- Something about reading is set that has no place when the primary is read. -/
  | primaryReadMode (what : String)
  | badUuidForm (form : String)
  | badMonitoringMode (mode : String)
  | badProperty (property : String)
  /-- A property that cannot stand in a connection string. -/
  | hiddenProperty (name : String)
  | badMechanism (fault : CredentialFault)
  | lowCompression
  | highCompression
  /-- The option needs a part that this program is built without. -/
  | unsupported (text : String)
  /-- Encryption is turned on after it was turned off. -/
  | encryptionOff
  /-- Encryption is turned off after it was turned on. -/
  | encryptionOn
  | certificateClash
  | certificatesUnencrypted (option : OptionName)
  | fileUnencrypted (option : String)
deriving DecidableEq, Repr

/-- What a refused option is answered with. -/
def OptionFault.message : OptionFault → String
  | .noValue option => "connection string option is not a 'key=value' pair: " ++ option
  | .repeated => "repeated options are not allowed in the connection string"
  | .unknown name near =>
    name ++ " is an invalid option" ++ match near with
      | some hint => ". An option with a similar name exists: " ++ hint
      | none => ""
  | .notFlag o => "connection string `" ++ o.text ++ "` option must be a boolean"
  | .notSpan o => "connection string `" ++ o.text ++ "` option must be a non-negative integer"
  | .notCount o => "connection string `" ++ o.text ++ "` argument must be a positive integer"
  | .notInteger o => "connection string `" ++ o.text ++ "` argument must be an integer"
  | .negativeAcknowledgement => "connection string `w` option cannot be a negative integer"
  | .frequentHeartbeat millis =>
    "'heartbeatFrequencyMS' must be at least 500, but " ++ .ofList (Nat.toDigits 10 millis) ++
      " was given"
  | .badStaleness reason => "invalid maxStalenessSeconds value: " ++ reason
  | .negativeStaleness seconds =>
    "maxStalenessSeconds must be -1 or positive, instead got " ++
      .ofList (Number.signedDigits seconds)
  | .badReadMode mode => "'" ++ mode ++ "' is not a valid read preference"
  | .badReadTags tags =>
    "'" ++ tags ++
      "' is not a valid read preference tag (which must be of the form 'key:value'"
  | .noReadMode what => "cannot set " ++ what ++ " without also setting read preference mode"
  | .primaryReadMode what => what ++ " can only be specified when a non-primary mode is specified"
  | .badUuidForm form =>
    "connection string `uuidRepresentation` option can be one of `csharpLegacy`, `javaLegacy`, " ++
      "or `pythonLegacy`. Received invalid `" ++ form ++ "`"
  | .badMonitoringMode mode => Text.quote mode ++ " is not a valid server monitoring mode"
  | .badProperty property =>
    "each entry in authMechanismProperties must be a colon-separated key-value pair, got " ++
      property
  | .hiddenProperty name => name ++ " must only be specified through client options"
  | .badMechanism fault => fault.message
  | .lowCompression => "'zlibCompressionLevel' cannot be less than -1"
  | .highCompression => "'zlibCompressionLevel' cannot be greater than 9"
  | .unsupported text => text
  | .encryptionOff => "cannot set \x7bkey\x7d=\x7btls\x7d if TLS is disabled"
  | .encryptionOn => "cannot set \x7bkey\x7d=\x7btls\x7d if other TLS options are set"
  | .certificateClash =>
    "cannot set both tlsinsecure and tlsallowinvalidcertificates in the connection string"
  | .certificatesUnencrypted o => "cannot set " ++ o.text ++ " when TLS is disabled"
  | .fileUnencrypted option => "'" ++ option ++ "' can't be set if tls=false"

/-! ## Values -/

/-- A truth value. -/
def flag (o : OptionName) (value : String) : Except OptionFault Bool :=
  if value = "true" then .ok true
  else if value = "false" then .ok false
  else .error (.notFlag o)

/-- A span of time in a whole number of its unit. -/
def span (o : OptionName) (value : String) : Except OptionFault Nat :=
  match Text.unsigned? (Nat.pow 2 64) value.toList with
  | some n => .ok n
  | none => .error (.notSpan o)

/-- A number of things. -/
def count (o : OptionName) (value : String) : Except OptionFault Nat :=
  match Text.unsigned? (Nat.pow 2 32) value.toList with
  | some n => .ok n
  | none => .error (.notCount o)

/-- A whole number with a sign. -/
def integer (o : OptionName) (value : String) : Except OptionFault Int :=
  match Text.signed? (Nat.pow 2 31) value.toList with
  | .ok n => .ok n
  | .error _ => .error (.notInteger o)

/-! ## Settings -/

/-- Whether connections are encrypted. -/
inductive Encryption where
  | off
  /-- Encrypted; `certificates` says whether the treatment of invalid certificates is set. -/
  | on (certificates : Bool)
deriving DecidableEq, Repr

/-- From which servers is read: the primary alone, or others too. -/
inductive ReadMode where
  | primary
  | others
deriving DecidableEq, Repr

/-- What the options of a connection string set. -/
structure Settings where
  encryption : Option Encryption
  readMode : Option ReadMode
  /-- Whether servers to read from are chosen by tags. -/
  hasReadTags : Bool
  /-- How far a server to read from may lag behind, in seconds. -/
  maxStaleness : Option Nat
  /-- The time between two looks at a server, in milliseconds. -/
  heartbeat : Option Nat
  mechanism : Option Mechanism
  source : Option String
  /-- The properties of the mechanism, in the order in which they are given. -/
  properties : List (String × String)
  isDirect : Bool
  isLoadBalanced : Bool
  hasReplicaSet : Bool
  hasServiceName : Bool
  serviceHosts : Option Nat
  maxPoolSize : Option Nat
  maxConnecting : Option Nat
  /-- Whether writes are not acknowledged. -/
  isUnacknowledged : Bool
  /-- Whether writes must reach the journal. -/
  isJournaled : Bool
  /-- Whether a level of compression is set. -/
  hasCompression : Bool
  /-- Whether the time that a connection may be silent is limited. -/
  hasSocketTimeout : Bool
deriving DecidableEq, Repr

/-- Nothing is set. -/
def Settings.none : Settings where
  encryption := .none
  readMode := .none
  hasReadTags := false
  maxStaleness := .none
  heartbeat := .none
  mechanism := .none
  source := .none
  properties := []
  isDirect := false
  isLoadBalanced := false
  hasReplicaSet := false
  hasServiceName := false
  serviceHosts := .none
  maxPoolSize := .none
  maxConnecting := .none
  isUnacknowledged := false
  isJournaled := false
  hasCompression := false
  hasSocketTimeout := false

namespace Settings

/-- The servers that a word tells to read from. -/
def readModeOf (word : String) : Except OptionFault ReadMode :=
  let mode := Text.lower word
  if mode = "primary" then .ok .primary
  else if ["secondary", "primarypreferred", "secondarypreferred", "nearest"].contains mode then
    .ok .others
  else .error (.badReadMode mode)

/-- Looks at tags, each a key and a value; there may be none. -/
def checkReadTags (value : String) : Except OptionFault Unit :=
  if value.isEmpty || (Text.splitAll ',' value.toList).all fun tag => tag.contains ':' then .ok ()
  else .error (.badReadTags value)

/-- How far a server may lag behind; none for -1. -/
def stalenessOf (value : String) : Except OptionFault (Option Nat) :=
  match Text.signed? (Nat.pow 2 63) value.toList with
  | .error fault => .error (.badStaleness fault.message)
  | .ok (.ofNat n) => .ok (some n)
  | .ok n => if n = -1 then .ok .none else .error (.negativeStaleness n)

/-- A property of a mechanism: a name and a value. -/
def propertyOf (property : List Char) : Except OptionFault (String × String) :=
  match Text.splitOnce [':'] property with
  | .none => .error (.badProperty (.ofList property))
  | some (name, value) =>
    let name : String := .ofList name
    if ["ALLOWED_HOSTS", "OIDC_CALLBACK", "OIDC_HUMAN_CALLBACK"].contains name then
      .error (.hiddenProperty name)
    else .ok (name, .ofList value)

/-- Turns encryption on or off, which must not change what is set. -/
def setEncryption (s : Settings) (on : Bool) : Except OptionFault Settings :=
  match s.encryption, on with
  | some .off, true => .error .encryptionOff
  | some (.on _), false => .error .encryptionOn
  | some _, _ => .ok s
  | .none, true => .ok { s with encryption := some (.on false) }
  | .none, false => .ok { s with encryption := some .off }

/-- Sets the treatment of invalid certificates, which also asks for encryption. -/
def setCertificates (s : Settings) (o : OptionName) : Except OptionFault Settings :=
  match s.encryption with
  | some .off => .error (.certificatesUnencrypted o)
  | some (.on true) => .error .certificateClash
  | _ => .ok { s with encryption := some (.on true) }

/-- Names a file for encryption, which also asks for encryption. -/
def setFile (s : Settings) (option : String) : Except OptionFault Settings :=
  match s.encryption with
  | some .off => .error (.fileUnencrypted option)
  | some (.on _) => .ok s
  | .none => .ok { s with encryption := some (.on false) }

/-- Takes a level of compression, which must be one. -/
def setCompression (s : Settings) (level : Int) : Except OptionFault Settings :=
  if level < -1 then .error .lowCompression
  else if 9 < level then .error .highCompression
  else .ok { s with hasCompression := true }

/-- The fault of an option for connections through a proxy. -/
def proxyFault (o : OptionName) : OptionFault :=
  .unsupported ("cannot specify " ++ o.text ++ " if socks5-proxy feature is not enabled")

/-- Sets an option. -/
def set (s : Settings) (o : OptionName) (value : String) : Except OptionFault Settings :=
  match o with
  | .appName | .readConcernLevel => .ok s
  | .authMechanism => do
    .ok { s with mechanism := some (← (Mechanism.ofText value).mapError .badMechanism) }
  | .authSource => .ok { s with source := some value }
  | .authMechanismProperties => do
    .ok { s with properties := ← (Text.splitAll ',' value.toList).mapM propertyOf }
  | .connectTimeout | .localThreshold | .maxIdleTime | .selectionTimeout | .queueTimeout
  | .writeTimeout => do
    let _ ← span o value
    .ok s
  | .heartbeatFrequency => do
    let millis ← span o value
    if millis < 500 then .error (.frequentHeartbeat millis)
    else .ok { s with heartbeat := some millis }
  | .directConnection => do .ok { s with isDirect := ← flag o value }
  | .loadBalanced => do .ok { s with isLoadBalanced := ← flag o value }
  | .journal => do .ok { s with isJournaled := ← flag o value }
  | .retryWrites | .retryReads | .overloadRetargeting => do
    let _ ← flag o value
    .ok s
  | .maxStaleness => do .ok { s with maxStaleness := ← stalenessOf value }
  | .maxPoolSize => do .ok { s with maxPoolSize := some (← count o value) }
  | .maxConnecting => do .ok { s with maxConnecting := some (← count o value) }
  | .minPoolSize | .maxAdaptiveRetries => do
    let _ ← count o value
    .ok s
  | .serviceHosts => do .ok { s with serviceHosts := some (← count o value) }
  | .serviceName => .ok { s with hasServiceName := true }
  | .readPreference => do .ok { s with readMode := some (← readModeOf value) }
  | .readPreferenceTags => do
    checkReadTags value
    .ok { s with hasReadTags := true }
  | .replicaSet => .ok { s with hasReplicaSet := true }
  | .socketTimeout => do
    let _ ← span o value
    .ok { s with hasSocketTimeout := true }
  | .tls | .ssl => do s.setEncryption (← flag o value)
  | .tlsInsecure | .tlsInvalidCertificates => do
    let _ ← flag o value
    s.setCertificates o
  | .tlsAuthorities => s.setFile "tlsCAFile"
  | .tlsCertificateKey => s.setFile "tlsCertificateKeyFile"
  | .tlsKeyPassword =>
    .error (.unsupported ("the cert-key-password feature must be enabled to specify " ++
      "tlsCertificateKeyFilePassword in the URI"))
  | .uuidRepresentation =>
    if ["csharplegacy", "javalegacy", "pythonlegacy"].contains (Text.lower value) then .ok s
    else .error (.badUuidForm value)
  | .acknowledgement =>
    match Text.signed? (Nat.pow 2 31) value.toList with
    | .ok n =>
      if n < 0 then .error .negativeAcknowledgement
      else .ok { s with isUnacknowledged := n == 0 }
    | .error _ => .ok { s with isUnacknowledged := false }
  | .compressionLevel => do s.setCompression (← integer o value)
  | .monitoringMode =>
    let mode := Text.lower value
    if ["stream", "poll", "auto"].contains mode then .ok s else .error (.badMonitoringMode mode)
  | .proxyHost | .proxyPort | .proxyUsername | .proxyPassword => .error (proxyFault o)

/-- Takes options in order, given the names of those before. Tags may be given more than once. -/
def takeOptions (s : Settings) (seen : List String) :
    List (List Char) → Except OptionFault Settings
  | [] => .ok s
  | option :: options =>
    match Text.splitOnce ['='] option with
    | .none => .error (.noValue (.ofList option))
    | some (name, value) =>
      let name := Text.lower (.ofList name)
      if name ≠ OptionName.readPreferenceTags.text ∧ seen.contains name then .error .repeated
      else match OptionName.ofText? name with
        | .none => .error (.unknown name (OptionName.nearest? name))
        | some o => do
          takeOptions (← s.set o (Text.percentDecode value).shown) (name :: seen) options

/-- Looks at what is set about reading: tags and staleness speak of servers other than the
primary. -/
def checkReading (s : Settings) : Except OptionFault Unit :=
  if s.hasReadTags then
    match s.readMode with
    | .none => .error (.noReadMode "read preference tags")
    | some .primary => .error (.primaryReadMode "read preference tags")
    | some .others => .ok ()
  else if s.maxStaleness.isSome then
    match s.readMode with
    | .none => .error (.noReadMode "max staleness")
    | some .primary => .error (.primaryReadMode "max staleness")
    | some .others => .ok ()
  else .ok ()

/-- Looks at what is set about compression, which this program is built without. -/
def checkCompression (s : Settings) : Except OptionFault Unit :=
  if s.hasCompression then .error (.unsupported
    "zlibCompressionLevel may not be specified without the zlib-compression feature flag enabled")
  else .ok ()

/-- Looks at the time that a connection may be silent, which cannot be limited. -/
def checkSocketTimeout (s : Settings) : Except OptionFault Unit :=
  if s.hasSocketTimeout then
    .error (.unsupported "the Rust driver does not support socketTimeoutMS")
  else .ok ()

/-- The settings of the options after the question mark of a connection string. -/
def ofChars (cs : List Char) : Except OptionFault Settings :=
  if cs.isEmpty then .ok .none
  else do
    let s ← Settings.none.takeOptions [] (Text.splitAll '&' cs)
    s.checkReading
    s.checkCompression
    .ok s

end Settings

end DocSchema.Server
