import DocSchema.Calendar
import DocSchema.Schema.Document

/-!
# DocSchema.Bootstrap.Report

The report of a bootstrap run: every declaration with what happened to it, as lines of text or as
a JSON document.
-/

namespace DocSchema

/-- A declaration of a schema. -/
inductive Declaration where
  | collection (name : CollectionName)
  | index (spec : IndexSpec)
deriving DecidableEq

/-- What happened to a declaration, or would happen. -/
inductive Action where
  | created
  | unchanged
  | wouldCreate
  /-- An index with another definition is in the way. -/
  | conflict (text : String)
deriving DecidableEq, Repr

/-- A declaration and what happened to it. -/
structure Outcome where
  declaration : Declaration
  action : Action
deriving DecidableEq

/-- The report of a run. -/
structure Report where
  database : String
  /-- Whether the store was only looked at. -/
  dryRun : Bool
  /-- When the run started and when it finished, in milliseconds since 1970. -/
  startedAt : Int
  finishedAt : Int
  /-- The outcomes in the order of the declarations. -/
  outcomes : List Outcome
deriving DecidableEq

/-- The text of a declaration. -/
def Declaration.text : Declaration → String
  | .collection name => "collection " ++ name.text
  | .index spec => "index " ++ spec.text

/-- The text of an action. -/
def Action.text : Action → String
  | .created => "created"
  | .unchanged => "unchanged"
  | .wouldCreate => "would create"
  | .conflict text => "conflict: " ++ text

/-- Whether an index is in the way. -/
def Action.isConflict : Action → Bool
  | .conflict _ => true
  | _ => false

namespace Report

/-! ## Counts -/

/-- How many declarations were created. -/
def created (r : Report) : Nat := r.outcomes.countP (·.action == .created)

/-- How many declarations were there already. -/
def unchanged (r : Report) : Nat := r.outcomes.countP (·.action == .unchanged)

/-- How many declarations would be created. -/
def pending (r : Report) : Nat := r.outcomes.countP (·.action == .wouldCreate)

/-- The outcomes with an index in the way. -/
def conflicts (r : Report) : List Outcome := r.outcomes.filter (·.action.isConflict)

/-- Whether the store agrees with every declaration already. -/
def isClean (r : Report) : Bool := r.outcomes.all (·.action == .unchanged)

/-! ## Written forms -/

/-- The line that confirms a completed run. -/
def confirmation : String := "✅ Collections and indexes created."

/-- The report as text, a line for each declaration. -/
def text (r : Report) : String :=
  (if r.dryRun then "plan" else "apply") ++ " for database " ++ r.database ++ ":\n" ++
    String.join
      (r.outcomes.map fun o => "  " ++ o.declaration.text ++ ": " ++ o.action.text ++ "\n")

/-- A declaration as a JSON document, with its kind as the first field. -/
def declarationJson : Declaration → Json
  | .collection name => .object [("kind", .string "collection"), ("name", .string name.text)]
  | .index spec => .object (("kind", .string "index") :: spec.jsonFields)

/-- An action as a JSON document: a word, or an object with the text of the conflict. -/
def actionJson : Action → Json
  | .created => .string "created"
  | .unchanged => .string "unchanged"
  | .wouldCreate => .string "would_create"
  | .conflict text => .object [("conflict", .string text)]

/-- The report as a JSON document. -/
def toJson (r : Report) : Json :=
  .object
    [("database", .string r.database),
     ("dry_run", .bool r.dryRun),
     ("started_at", .string (Calendar.stampText r.startedAt)),
     ("finished_at", .string (Calendar.stampText r.finishedAt)),
     ("outcomes", .array (r.outcomes.map fun o =>
       .object [("declaration", declarationJson o.declaration), ("action", actionJson o.action)]))]

/-- What a run prints: on the output and on the error stream. -/
structure Printed where
  out : String
  err : String
deriving DecidableEq, Repr

/-- Prints a report. A completed run is confirmed: on the output, or on the error stream when the
output is a JSON document. -/
def print (r : Report) (asJson : Bool) : Printed :=
  let body := if asJson then r.toJson.indented ++ "\n" else r.text
  if r.dryRun then ⟨body, ""⟩
  else if asJson then ⟨body, confirmation ++ "\n"⟩
  else ⟨body ++ confirmation ++ "\n", ""⟩

end Report

end DocSchema
