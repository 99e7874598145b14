import DocSchema.Text.LowerCase
import DocSchema.Text.Similarity

/-!
# DocSchema.Server.OptionName

The options of connection strings. Their names are written in lower case here; in a connection
string their case does not matter. A name that is none may be close to one that is known.
-/

namespace DocSchema.Server

/-- An option of a connection string. -/
inductive OptionName where
  | appName
  | authMechanism
  | authSource
  | authMechanismProperties
  | connectTimeout
  | directConnection
  | heartbeatFrequency
  | journal
  | localThreshold
  | maxIdleTime
  | maxStaleness
  | maxPoolSize
  | minPoolSize
  | maxConnecting
  | readConcernLevel
  | readPreference
  | readPreferenceTags
  | replicaSet
  | retryWrites
  | retryReads
  | selectionTimeout
  | socketTimeout
  | tls
  | ssl
  | tlsInsecure
  | tlsInvalidCertificates
  | tlsAuthorities
  | tlsCertificateKey
  | uuidRepresentation
  | acknowledgement
  | queueTimeout
  | writeTimeout
  | compressionLevel
  | serviceName
  | serviceHosts
  | loadBalanced
  | maxAdaptiveRetries
  | overloadRetargeting
  | monitoringMode
  | tlsKeyPassword
  | proxyHost
  | proxyPort
  | proxyUsername
  | proxyPassword
deriving DecidableEq, Repr

namespace OptionName

/-- The name of an option in lower case. -/
def text : OptionName → String
  | .appName => "appname"
  | .authMechanism => "authmechanism"
  | .authSource => "authsource"
  | .authMechanismProperties => "authmechanismproperties"
  | .connectTimeout => "connecttimeoutms"
  | .directConnection => "directconnection"
  | .heartbeatFrequency => "heartbeatfrequencyms"
  | .journal => "journal"
  | .localThreshold => "localthresholdms"
  | .maxIdleTime => "maxidletimems"
  | .maxStaleness => "maxstalenessseconds"
  | .maxPoolSize => "maxpoolsize"
  | .minPoolSize => "minpoolsize"
  | .maxConnecting => "maxconnecting"
  | .readConcernLevel => "readconcernlevel"
  | .readPreference => "readpreference"
  | .readPreferenceTags => "readpreferencetags"
  | .replicaSet => "replicaset"
  | .retryWrites => "retrywrites"
  | .retryReads => "retryreads"
  | .selectionTimeout => "serverselectiontimeoutms"
  | .socketTimeout => "sockettimeoutms"
  | .tls => "tls"
  | .ssl => "ssl"
  | .tlsInsecure => "tlsinsecure"
  | .tlsInvalidCertificates => "tlsallowinvalidcertificates"
  | .tlsAuthorities => "tlscafile"
  | .tlsCertificateKey => "tlscertificatekeyfile"
  | .uuidRepresentation => "uuidrepresentation"
  | .acknowledgement => "w"
  | .queueTimeout => "waitqueuetimeoutms"
  | .writeTimeout => "wtimeoutms"
  | .compressionLevel => "zlibcompressionlevel"
  | .serviceName => "srvservicename"
  | .serviceHosts => "srvmaxhosts"
  | .loadBalanced => "loadbalanced"
  | .maxAdaptiveRetries => "maxadaptiveretries"
  | .overloadRetargeting => "enableoverloadretargeting"
  | .monitoringMode => "servermonitoringmode"
  | .tlsKeyPassword => "tlscertificatekeyfilepassword"
  | .proxyHost => "proxyhost"
  | .proxyPort => "proxyport"
  | .proxyUsername => "proxyusername"
  | .proxyPassword => "proxypassword"

/-- All options. -/
def all : List OptionName :=
  [.appName, .authMechanism, .authSource, .authMechanismProperties, .connectTimeout,
   .directConnection, .heartbeatFrequency, .journal, .localThreshold, .maxIdleTime, .maxStaleness,
   .maxPoolSize, .minPoolSize, .maxConnecting, .readConcernLevel, .readPreference,
   .readPreferenceTags, .replicaSet, .retryWrites, .retryReads, .selectionTimeout, .socketTimeout,
   .tls, .ssl, .tlsInsecure, .tlsInvalidCertificates, .tlsAuthorities, .tlsCertificateKey,
   .uuidRepresentation, .acknowledgement, .queueTimeout, .writeTimeout, .compressionLevel,
   .serviceName, .serviceHosts, .loadBalanced, .maxAdaptiveRetries, .overloadRetargeting,
   .monitoringMode, .tlsKeyPassword, .proxyHost, .proxyPort, .proxyUsername, .proxyPassword]

/-- The option of a name in lower case. -/
def ofText? (name : String) : Option OptionName := all.find? fun o => o.text == name

/-- The names that an unknown name is compared with. They are those of the options that every
deployment may have, as they are shown, and two names of options that are not taken here:
`adaptiveretries` and `compressors`. -/
def hints : List String :=
  ["appname", "authmechanism", "authsource", "authmechanismproperties", "compressors",
   "connecttimeoutms", "directconnection", "heartbeatfrequencyms", "journal", "localthresholdms",
   "maxidletimems", "maxstalenessseconds", "maxpoolsize", "minpoolsize", "maxconnecting",
   "readconcernlevel", "readpreference", "readpreferencetags", "replicaset", "retrywrites",
   "retryreads", "serverselectiontimeoutms", "sockettimeoutms", "tls", "ssl", "tlsinsecure",
   "tlsallowinvalidcertificates", "tlscafile", "tlscertificatekeyfile", "uuidRepresentation", "w",
   "waitqueuetimeoutms", "wtimeoutms", "zlibcompressionlevel", "srvservicename",
   "adaptiveretries", "maxadaptiveretries", "enableoverloadretargeting"]

/-- How similar an unknown name must be to another to be taken for a slip of it. -/
def hintThreshold : Float := 0.84

/-- The hint that is most similar to an unknown name, if it is similar enough. Of several the first
counts. -/
def nearest? (name : String) : Option String :=
  let best := hints.foldl (fun (best : Float × Option String) hint =>
    let s := Text.similarity hint name
    if best.1 < s then (s, some hint) else best) (0, none)
  if hintThreshold ≤ best.1 then best.2 else none

end OptionName

end DocSchema.Server
