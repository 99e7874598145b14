import DocSchema.Text.LowerCase
import DocSchema.Text.Percent
import DocSchema.Text.Quoted
import DocSchema.Text.Split

/-!
# DocSchema.Server.Credential

Who connects to a server, and how it is shown: the user information of a connection string, and the
mechanisms of authentication with what each of them needs.
-/

namespace DocSchema.Server

/-- What is wrong with a credential. -/
inductive CredentialFault where
  /-- A part of the user information holds a character that must be written in another way. -/
  | notEncoded (part : String)
  /-- A `%` has no digits after it. -/
  | strayPercent (part : String)
  | emptySource
  | unknownMechanism (name : String)
  /-- A mechanism that this program has no support for. -/
  | unsupportedMechanism (text : String)
  | noUsername (mechanism : String)
  | noPassword (mechanism : String)
  | needlessPassword (mechanism : String)
  | foreignSource (mechanism : String)
  /-- A way to find the full name of a host that is none. -/
  | badHostNaming (way : String)
  /-- A property that means nothing to tokens. -/
  | unknownProperty (name : String)
  /-- Tokens of an environment are for a resource, which is not named. -/
  | noResource
  /-- A resource is named, but no environment whose tokens are for one. -/
  | needlessResource
  | tokenSource (source : String)
  | tokenPassword
  /-- Authentication is asked for, but not who it is for. -/
  | nothingGiven
deriving DecidableEq, Repr

/-- What a refused credential is answered with. -/
def CredentialFault.message : CredentialFault → String
  | .notEncoded part => part ++ " must be URL encoded"
  | .strayPercent part => part ++ " cannot contain unescaped %"
  | .emptySource => "empty authSource provided"
  | .unknownMechanism name => "invalid mechanism string: " ++ name
  | .unsupportedMechanism text => text
  | .noUsername mechanism => "No username provided for " ++ mechanism ++ " authentication"
  | .noPassword mechanism => "No password provided for " ++ mechanism ++ " authentication"
  | .needlessPassword mechanism => "A password cannot be specified with " ++ mechanism
  | .foreignSource mechanism =>
    "only $external may be specified as an auth source for " ++ mechanism
  | .badHostNaming way =>
    "Invalid CANONICALIZE_HOST_NAME value: " ++ way ++
      ". Valid values are 'none', 'forward', 'forwardAndReverse', 'true', 'false'"
  | .unknownProperty name =>
    "'" ++ name ++ "' is not a valid property for MONGODB-OIDC authentication"
  | .noResource =>
    "`TOKEN_RESOURCE` must be set for MONGODB-OIDC authentication in the `azure` or `gcp` " ++
      "`ENVIRONMENT`"
  | .needlessResource =>
    "`TOKEN_RESOURCE` must not be set for MONGODB-OIDC authentication unless using the " ++
      "`azure` or `gcp` `ENVIRONMENT`"
  | .tokenSource source =>
    "source must be $external for MONGODB-OIDC authentication, found: Some(" ++
      Text.quote source ++ ")"
  | .tokenPassword => "password must not be set for MONGODB-OIDC authentication"
  | .nothingGiven =>
    "username and mechanism both not provided, but authentication was requested"

/-! ## User information -/

/-- A user name, and a password for it. -/
structure User where
  name : String
  password : Option String
deriving DecidableEq, Repr

/-- A part of the user information as the text that it stands for. -/
def readUserPart (part : String) (cs : List Char) : Except CredentialFault String :=
  if cs.any fun c => ":/?#[]@".toList.contains c then .error (.notEncoded part)
  else if !Text.isPercentEncoded cs then .error (.strayPercent part)
  else match Text.percentDecode cs with
    | .text s => .ok s
    | .undecodable _ => .error (.notEncoded part)

/-- The user that the part of a connection string before its `@` speaks of. Without a name there is
none; the password must be in order even so. -/
def User.ofChars? (cs : List Char) : Except CredentialFault (Option User) := do
  let (name, password) := match Text.splitOnce [':'] cs with
    | some (name, password) => (name, some password)
    | none => (cs, none)
  let name ← readUserPart "username" name
  let password ← password.mapM (readUserPart "password")
  .ok (if name.isEmpty then none else some ⟨name, password⟩)

example : User.ofChars? "a%40b:c".toList = .ok (some ⟨"a@b", some "c"⟩) := rfl
example : User.ofChars? ":p".toList = .ok none := rfl
example : User.ofChars? ":p%".toList = .error (.strayPercent "password") := rfl

/-! ## Mechanisms -/

/-- A mechanism of authentication. -/
inductive Mechanism where
  | scram
  | challengeResponse
  | certificate
  | plain
  | token
deriving DecidableEq, Repr

/-- The mechanism of a name. -/
def Mechanism.ofText (name : String) : Except CredentialFault Mechanism :=
  if name = "SCRAM-SHA-1" ∨ name = "SCRAM-SHA-256" then .ok .scram
  else if name = "MONGODB-CR" then .ok .challengeResponse
  else if name = "MONGODB-X509" then .ok .certificate
  else if name = "PLAIN" then .ok .plain
  else if name = "MONGODB-OIDC" then .ok .token
  else if name = "GSSAPI" then
    .error (.unsupportedMechanism
      "GSSAPI auth is only supported with the gssapi-auth feature flag")
  else if name = "MONGODB-AWS" then
    .error (.unsupportedMechanism
      "MONGODB-AWS auth is only supported with the aws-auth feature flag and the tokio runtime")
  else .error (.unknownMechanism name)

/-- The value of a property, if it is given. Of several values the last counts. -/
def propertyValue? (properties : List (String × String)) (name : String) : Option String :=
  properties.reverse.lookup name

/-- Whether the way to find the full name of a host is one, whatever the case of its letters. Every
mechanism looks at it, also one that has no use for it. -/
def checkHostNaming (properties : List (String × String)) : Except CredentialFault Unit :=
  match propertyValue? properties "CANONICALIZE_HOST_NAME" with
  | none => .ok ()
  | some way =>
    let ways := ["none", "forward", "forwardandreverse", "true", "false"]
    if ways.contains (Text.lower way) then .ok () else .error (.badHostNaming way)

/-- Whether the properties of tokens are in order: an environment that has tokens for several
resources needs the name of one, and no other has a use for it. -/
def checkTokenProperties (properties : List (String × String)) : Except CredentialFault Unit :=
  let known := ["ALLOWED_HOSTS", "ENVIRONMENT", "TOKEN_RESOURCE"]
  match properties.find? fun p => !known.contains p.1 with
  | some (name, _) => .error (.unknownProperty name)
  | none =>
    let environment := propertyValue? properties "ENVIRONMENT"
    let isShared := environment = some "azure" ∨ environment = some "gcp"
    let hasResource := (propertyValue? properties "TOKEN_RESOURCE").isSome
    if isShared ∧ !hasResource then .error .noResource
    else if ¬ isShared ∧ hasResource then .error .needlessResource
    else .ok ()

/-- Whether a mechanism has what it needs. -/
def Mechanism.check (m : Mechanism) (user : Option User) (source : Option String)
    (properties : List (String × String)) : Except CredentialFault Unit :=
  let password := user.bind (·.password)
  match m with
  | .scram => if user.isNone then .error (.noUsername "SCRAM") else .ok ()
  | .certificate =>
    if password.isSome then .error (.needlessPassword "MONGODB-X509")
    else if source.getD "$external" ≠ "$external" then .error (.foreignSource "MONGODB-X509")
    else .ok ()
  | .plain =>
    if user.isNone then .error (.noUsername "PLAIN")
    else if password.isNone then .error (.noPassword "PLAIN")
    else .ok ()
  | .token => do
    checkTokenProperties properties
    if source.getD "$external" ≠ "$external" then .error (.tokenSource (source.getD ""))
    else if password.isSome then .error .tokenPassword
    else .ok ()
  | .challengeResponse => .ok ()

/-- Whether what is known about a user is enough. `requested` says that the connection string has
user information, even if it is empty. -/
def checkCredential (requested : Bool) (user : Option User) (mechanism : Option Mechanism)
    (source : Option String) (properties : List (String × String)) :
    Except CredentialFault Unit :=
  if source = some "" then .error .emptySource
  else match mechanism with
    | some m => do
    checkHostNaming properties
    m.check user source properties
    | none => if requested && user.isNone then .error .nothingGiven else .ok ()

end DocSchema.Server
