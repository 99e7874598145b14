import DocSchema.Number.Binary64

/-!
# DocSchema.Value.Basic

The values a document store holds, and their equality.

A document is a list of fields, in order. Where a name occurs twice the first field counts; the
operations here never add a second field of a name. Equality of documents ignores the order of
their fields: each document must answer every field of the other. It is symmetric and transitive
on all values but, as a NaN differs from itself, not reflexive.

Three kinds that a BSON document can hold are left out: decimal numbers of 128 bits, the deprecated
pointers to documents of other collections, and code with a scope. Binary data has no subtype here:
it is generic. No declared index has any of these among its keys or in its filter.
-/

namespace DocSchema

/-- A value of a document store: all kinds of BSON but `Decimal128`, `DbPointer` and
`JavaScriptCodeWithScope`. -/
inductive Value where
  | null
  | undefined
  | minKey
  | maxKey
  | bool (b : Bool)
  | int32 (n : Int32)
  | int64 (n : Int64)
  | double (d : Binary64)
  | string (s : String)
  | array (items : List Value)
  | document (fields : List (String × Value))
  /-- A point in time, in milliseconds since 1970. -/
  | dateTime (millis : Int64)
  | objectId (bytes : List UInt8)
  /-- Binary data of the generic subtype. -/
  | binary (bytes : List UInt8)
  | regex (pattern options : String)
  | timestamp (time increment : UInt32)
  | code (source : String)
  | symbol (name : String)
deriving Inhabited

/-- The fields of a document, in order. -/
abbrev Document := List (String × Value)

namespace Value

mutual

/-- The test of being equal to a value. Values of different kinds differ, numbers included. -/
def test : Value → Value → Bool
  | .null => fun | .null => true | _ => false
  | .undefined => fun | .undefined => true | _ => false
  | .minKey => fun | .minKey => true | _ => false
  | .maxKey => fun | .maxKey => true | _ => false
  | .bool a => fun | .bool b => a == b | _ => false
  | .int32 a => fun | .int32 b => a == b | _ => false
  | .int64 a => fun | .int64 b => a == b | _ => false
  | .double a => fun | .double b => a.same b | _ => false
  | .string a => fun | .string b => a == b | _ => false
  | .array a => fun | .array b => testItems a b | _ => false
  | .document a =>
    let tests := testFields a
    fun
    | .document b =>
      (tests.all fun t => (b.lookup t.1).any t.2) &&
        (b.all fun f => (tests.lookup f.1).any (· f.2))
    | _ => false
  | .dateTime a => fun | .dateTime b => a == b | _ => false
  | .objectId a => fun | .objectId b => a == b | _ => false
  | .binary a => fun | .binary b => a == b | _ => false
  | .regex a c => fun | .regex b d => a == b && c == d | _ => false
  | .timestamp a c => fun | .timestamp b d => a == b && c == d | _ => false
  | .code a => fun | .code b => a == b | _ => false
  | .symbol a => fun | .symbol b => a == b | _ => false

/-- The test of being equal item by item. -/
def testItems : List Value → List Value → Bool
  | [] => fun | [] => true | _ :: _ => false
  | v :: vs => fun | [] => false | w :: ws => test v w && testItems vs ws

/-- The test that belongs to each field of a document. -/
def testFields : List (String × Value) → List (String × (Value → Bool))
  | [] => []
  | (key, v) :: fields => (key, test v) :: testFields fields

end

instance : BEq Value := ⟨test⟩

end Value

namespace Document

/-- Equality of documents as values. -/
def same (a b : Document) : Bool := Value.document a == Value.document b

/-- The value of the first field with this name. -/
def get? (d : Document) (key : String) : Option Value := d.lookup key

/-- Sets a field: in its place if it is there, and at the end otherwise. -/
def insert : Document → String → Value → Document
  | [], key, v => [(key, v)]
  | (key', v') :: fields, key, v =>
    if key' = key then (key, v) :: fields else (key', v') :: insert fields key v

/-- The document with these fields, where a later value of a name replaces an earlier one. -/
def ofFields (fields : List (String × Value)) : Document :=
  fields.foldl (fun d f => insert d f.1 f.2) []

/-- The names of the fields, in order. -/
def keys (d : Document) : List String := d.map (·.1)

theorem get?_nil (key : String) : get? [] key = none := rfl

theorem get?_cons (key' : String) (v : Value) (d : Document) (key : String) :
    get? ((key', v) :: d) key = if key = key' then some v else get? d key := by
  simp only [get?, List.lookup_cons]
  by_cases h : key = key'
  · simp [h]
  · simp [h, beq_false_of_ne h]

@[simp] theorem get?_insert_self (d : Document) (key : String) (v : Value) :
    get? (insert d key v) key = some v := by
  induction d with
  | nil => simp [insert, get?_cons]
  | cons f d ih =>
    obtain ⟨key', v'⟩ := f
    by_cases h : key' = key
    · simp [insert, h, get?_cons]
    · simp [insert, h, get?_cons, ih, Ne.symm h]

theorem get?_insert_of_ne {key other : String} (d : Document) (v : Value) (h : other ≠ key) :
    get? (insert d key v) other = get? d other := by
  induction d with
  | nil => simp [insert, get?_cons, h]
  | cons f d ih =>
    obtain ⟨key', v'⟩ := f
    by_cases hk : key' = key
    · simp [insert, hk, get?_cons, h]
    · simp [insert, hk, get?_cons, ih]

end Document

end DocSchema
