import DocSchema.Json.Pass

/-!
# DocSchema.Json.Reader

Readers of values from the tokens of a text: strings, truth values, lists, and what stands between
the items of a list or the fields of an object.
-/

namespace DocSchema.Json

/-- Reads a value from the front of the tokens, and returns the tokens after it. -/
abbrev Reader (α : Type) := List Token → Except Fault (α × List Token)

/-- The fault of tokens that do not begin the value that is wanted. A value of another kind is read
before it is refused, so its own faults come first. -/
def refusal (wanted : String) : List Token → Fault
  | [] => .endInValue
  | .null :: _ => .wrongKind .null wanted
  | .bool b :: _ => .wrongKind (.bool b) wanted
  | .integer n :: _ => .wrongKind (.integer n) wanted
  | .real d :: _ => .wrongKind (.real d) wanted
  | .string s :: _ => .wrongKind (.string s) wanted
  | .spoilt _ asked _ :: _ => asked
  | .openBracket :: _ => .wrongKind .sequence wanted
  | .openBrace :: _ => .wrongKind .map wanted
  | _ => .expectedValue

/-- A string. -/
def readText : Reader String
  | .string s :: ts => .ok (s, ts)
  | ts => .error (refusal "a string" ts)

/-- A truth value. -/
def readBool : Reader Bool
  | .bool b :: ts => .ok (b, ts)
  | ts => .error (refusal "a boolean" ts)

/-! ## Lists -/

/-- What stands before an item of a list: nothing before the first, and a comma before the others.
`none` is the end of the list. -/
def beforeItem (first : Bool) : List Token → Except Fault (Option (List Token))
  | [] => .error .endInList
  | .closeBracket :: _ => .ok none
  | t :: ts =>
    if first then .ok (some (t :: ts))
    else if t = .comma then
      match ts with
      | [] => .error .endInValue
      | .closeBracket :: _ => .error .trailingComma
      | ts => .ok (some ts)
    else .error .expectedCommaOrBracket

/-- The items of a list up to its end. Every item has a token, so the number of tokens is fuel
enough. -/
def readItems {α : Type} (read : Reader α) : Nat → Bool → Reader (List α)
  | 0, _, _ => .error .endInList
  | fuel + 1, first, ts => do
    match ← beforeItem first ts with
    | none => .ok ([], ts.drop 1)
    | some ts =>
      let (a, ts) ← read ts
      let (as, ts) ← readItems read fuel false ts
      .ok (a :: as, ts)

/-- A list of values. -/
def readList {α : Type} (read : Reader α) : Reader (List α)
  | .openBracket :: ts => readItems read ts.length true ts
  | ts => .error (refusal "a sequence" ts)

/-! ## Objects -/

/-- What stands before a key of an object: nothing before the first, and a comma before the others.
`none` is the end of the object. -/
def beforeKey (first : Bool) : List Token → Except Fault (Option (String × List Token))
  | [] => .error .endInObject
  | .closeBrace :: _ => .ok none
  | t :: ts =>
    if first then key (t :: ts)
    else if t = .comma then
      match ts with
      | [] => .error .endInValue
      | .closeBrace :: _ => .error .trailingComma
      | ts => key ts
    else .error .expectedCommaOrBrace
where
  key : List Token → Except Fault (Option (String × List Token))
    | .string s :: ts => .ok (some (s, ts))
    | .spoilt .string asked _ :: _ => .error asked
    | _ => .error .keyNotString

/-- The colon after a key. -/
def readColon : List Token → Except Fault (List Token)
  | .colon :: ts => .ok ts
  | [] => .error .endInObject
  | _ => .error .expectedColon

/-! ## Texts -/

/-- Reads a whole text as one value. -/
def readWhole {α : Type} (read : Reader α) (s : String) : Except Fault α := do
  match ← read (tokens s) with
  | (a, []) => .ok a
  | (_, _ :: _) => .error .trailingCharacters

end DocSchema.Json
