import DocSchema.Proofs.CommandLines
import DocSchema.Proofs.Exchanges

/-!
# DocSchema.Proofs.Targets

Which schema a run declares, and in which database.

The schema comes from a file or is the built-in one (`Config.Source`). It has to be consistent as it
stands, with its own database, before it is aimed at another one; all that counts then is that the
new database is not blank (`Schema.Consistent.aimed_iff`). The connection string and the database
each have an order of precedence, and secrets count as a whole: those in the first file that holds
some (`Secrets.Found`). The options are those that the command line is written with (`Written`).

The schema decides where a run goes: every command that is sent is for its database, and so is the
report (`CommandLine.AimedAt`).
-/

namespace DocSchema

open Text (SystemText)

namespace Schema

variable {s t : Schema}

end Schema

/-! ## Secrets -/

namespace Secrets

variable {read : SystemText → Except ReadFault String} {path : String} {x : Secrets}

end Secrets

/-! ## Loading the schema -/

namespace Config

variable {c : Config} {read : SystemText → Except ReadFault String} {s : Schema}

end Config

/-! ## Sessions with one database -/

namespace Server

end Server

/-! ## Runs -/

namespace CommandLine

variable {around : Surroundings} {network : Server.Network} {clock : Nat} {arguments : List String}
  {command : Bootstrap.Command} {o : Options} {config : Config} {convention : SoftDelete}
  {s : Schema}

end CommandLine

end DocSchema
