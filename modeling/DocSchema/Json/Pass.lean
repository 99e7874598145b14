import DocSchema.Json.Token

/-!
# DocSchema.Json.Pass

Passing over a value that nobody asked for. Only its form is looked at, at any depth: a stack of
open brackets and what may come next decide about each token.
-/

namespace DocSchema.Json

/-- An open bracket. -/
inductive Bracket where
  | list
  | object
deriving DecidableEq, Repr

/-- What may come next while a value is passed over. -/
inductive Expecting where
  | value
  /-- A first item or field, or the end. -/
  | first
  | key
  | colon
  /-- A comma or the end. -/
  | next
deriving DecidableEq, Repr

/-- The fault of a text that ends inside a bracket. -/
def Bracket.endFault : Bracket → Fault
  | .list => .endInList
  | .object => .endInObject

/-- Whether a token closes a bracket. -/
def Bracket.isClosedBy : Bracket → Token → Bool
  | .list, .closeBracket => true
  | .object, .closeBrace => true
  | _, _ => false

/-- A token where a value may begin. -/
def passValue (stack : List Bracket) : Token → Except Fault (List Bracket × Expecting)
  | .null | .bool _ | .integer _ | .real _ | .string _ => .ok (stack, .next)
  | .spoilt _ _ none => .ok (stack, .next)
  | .spoilt _ _ (some fault) => .error fault
  | .openBracket => .ok (.list :: stack, .first)
  | .openBrace => .ok (.object :: stack, .first)
  | _ => .error .expectedValue

/-- A token where a key may stand. -/
def passKey (stack : List Bracket) : Token → Except Fault (List Bracket × Expecting)
  | .string _ => .ok (stack, .colon)
  | .spoilt .string _ none => .ok (stack, .colon)
  | .spoilt .string _ (some fault) => .error fault
  | _ => .error .keyNotString

/-- What follows a bracket or a comma inside a bracket. -/
def passItem (stack : List Bracket) (t : Token) : Except Fault (List Bracket × Expecting) :=
  match stack with
  | .object :: _ => passKey stack t
  | _ => passValue stack t

/-- One token while a value is passed over. -/
def passToken (stack : List Bracket) (e : Expecting) (t : Token) :
    Except Fault (List Bracket × Expecting) :=
  match e, stack with
  | .value, _ => passValue stack t
  | .key, _ => passKey stack t
  | .colon, _ => if t = .colon then .ok (stack, .value) else .error .expectedColon
  | .first, top :: outer => if top.isClosedBy t then .ok (outer, .next) else passItem stack t
  | .next, top :: outer =>
    if top.isClosedBy t then .ok (outer, .next)
    else if t = .comma then .ok (stack, match top with | .list => .value | .object => .key)
    else match top with
      | .list => .error .expectedCommaOrBracket
      | .object => .error .expectedCommaOrBrace
  | _, [] => passValue [] t

/-- The fault of a text that ends while a value is passed over. -/
def passEnd (stack : List Bracket) (e : Expecting) : Fault :=
  match e, stack with
  | .value, _ => .endInValue
  | _, top :: _ => top.endFault
  | _, [] => .endInValue

/-- Passes over tokens until no bracket is open: the tokens after the value. -/
def passFrom (stack : List Bracket) (e : Expecting) : List Token → Except Fault (List Token)
  | [] => .error (passEnd stack e)
  | t :: ts =>
    match passToken stack e t with
    | .error fault => .error fault
    | .ok ([], .next) => .ok ts
    | .ok (stack', e') => passFrom stack' e' ts

/-- The tokens after a value of any kind. -/
def pass (ts : List Token) : Except Fault (List Token) := passFrom [] .value ts

end DocSchema.Json
