import DocSchema.Json.Basic
import DocSchema.Json.Reader

/-!
# DocSchema.Json.Tree

Texts as JSON documents of any kind. An object that gives a field twice has the later value in the
earlier place.
-/

namespace DocSchema.Json

/-- The fields of an object up to its end, added to those before. Every field has a token, so the
number of tokens is fuel enough. -/
def readEntries (read : Reader Json) :
    Nat → Bool → List (String × Json) → Reader (List (String × Json))
  | 0, _, _, _ => .error .endInObject
  | fuel + 1, first, fields, ts => do
    match ← beforeKey first ts with
    | none => .ok (fields, ts.drop 1)
    | some (key, ts) =>
      let (j, ts) ← read (← readColon ts)
      readEntries read fuel false (insertField fields key j) ts

/-- A document whose brackets are less than `depth` deep. -/
def readTree : Nat → Reader Json
  | 0, _ => .error .endInValue
  | depth + 1, ts =>
    match ts with
    | .null :: ts => .ok (.null, ts)
    | .bool b :: ts => .ok (.bool b, ts)
    | .integer n :: ts => .ok (.integer n, ts)
    | .real d :: ts => .ok (.real d, ts)
    | .string s :: ts => .ok (.string s, ts)
    | .openBracket :: ts => do
      let (items, ts) ← readItems (readTree depth) ts.length true ts
      .ok (.array items, ts)
    | .openBrace :: ts => do
      let (fields, ts) ← readEntries (readTree depth) ts.length true [] ts
      .ok (.object fields, ts)
    | .spoilt _ asked _ :: _ => .error asked
    | [] => .error .endInValue
    | _ => .error .expectedValue

/-- The document in a text. Every bracket is a token, so the number of tokens bounds the depth. -/
def ofText (s : String) : Except Fault Json :=
  readWhole (fun ts => readTree (ts.length + 1) ts) s

example : ofText "[1,\x7b\"a\":-0.0,\"a\":null\x7d]" =
    .ok (.array [.integer 1, .object [("a", .null)]]) := rfl

end DocSchema.Json
