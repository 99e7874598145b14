import DocSchema.Value.Path

/-!
# DocSchema.Filter

Filter documents, as far as partial indexes use them. Every field of a filter is a condition on
the value at that path: equality, where null also accepts a missing value, or a document of the
operators `$eq` and `$exists`. Any other operator accepts nothing.
-/

namespace DocSchema.Filter

/-- Whether an operand counts as true. -/
def isTruthy : Value → Bool
  | .bool b => b
  | .int32 n => n != 0
  | .int64 n => n != 0
  | .double d => d.isTruthy
  | .null | .undefined => false
  | _ => true

/-- Equality with what was found: null accepts a missing value too. -/
def equals (found : Option Value) (expected : Value) : Bool :=
  match found, expected with
  | none, .null => true
  | some .null, .null => true
  | some v, w => v == w
  | none, _ => false

/-- Whether a name is that of an operator. -/
def isOperator (key : String) : Bool := key.toList.head? == some '$'

/-- One operator with its operand. -/
def operatorAccepts (found : Option Value) (op : String) (operand : Value) : Bool :=
  if op = "$exists" then isTruthy operand == found.isSome
  else if op = "$eq" then equals found operand
  else false

/-- One condition. A document with an operator among its names is made of operators, and all of
them must accept. -/
def conditionAccepts (found : Option Value) : Value → Bool
  | .document ops =>
    if ops.any fun o => isOperator o.1 then ops.all fun o => operatorAccepts found o.1 o.2
    else equals found (.document ops)
  | expected => equals found expected

/-- Whether a filter accepts a document: every condition accepts the value at its path. -/
def accepts (filter d : Document) : Bool :=
  filter.all fun f => conditionAccepts (d.getPath? f.1) f.2

end DocSchema.Filter
