import ProfileKit.Decimal.Binary64
import ProfileKit.Table

/-!
# JSON values

The dynamic value that profile documents, parser options and parsed lines are made of. An object is
a list of fields in increasing order of their keys, each key once; `Table.insert` and
`Table.erase` keep that order. Two values are compared in two ways: `=` tells any two written
forms apart, `Json.agrees` takes the two zeros of binary64 for one number.

| here | `document` of glossa-core |
| --- | --- |
| `Json`, `Mapping` | the values that documents are read into, and `sync::Mapping` |
| `agrees` | how such values are compared |
| `kindName` | `json_type_name` |
-/

namespace ProfileKit

/-- A number: a natural one below `2 ^ 64`, a negative integer not below `-2 ^ 63` (`negative n`
stands for `-(n + 1)`), or a finite binary64 number. `5` and `5.0` are different numbers. -/
inductive Json.Number where
  | natural (n : Nat)
  | negative (n : Nat)
  | float (x : Binary64)
deriving DecidableEq, Repr

/-- A JSON value. -/
inductive Json where
  | null
  | bool (b : Bool)
  | number (n : Json.Number)
  | string (s : String)
  | array (items : List Json)
  | object (fields : List (String × Json))
deriving Repr

instance : Inhabited Json := ⟨.null⟩

/-- The fields of an object, in increasing order of their keys. -/
abbrev Mapping := Table String Json

namespace Json

mutual
/-- Decides whether two values are the same. -/
def decEq : (a b : Json) → Decidable (a = b)
  | .null, .null => .isTrue rfl
  | .bool a, .bool b => if h : a = b then .isTrue (h ▸ rfl) else .isFalse fun e => h (Json.bool.inj e)
  | .number a, .number b =>
    if h : a = b then .isTrue (h ▸ rfl) else .isFalse fun e => h (Json.number.inj e)
  | .string a, .string b =>
    if h : a = b then .isTrue (h ▸ rfl) else .isFalse fun e => h (Json.string.inj e)
  | .array a, .array b =>
    match decEqItems a b with
    | .isTrue h => .isTrue (h ▸ rfl)
    | .isFalse h => .isFalse fun e => h (Json.array.inj e)
  | .object a, .object b =>
    match decEqFields a b with
    | .isTrue h => .isTrue (h ▸ rfl)
    | .isFalse h => .isFalse fun e => h (Json.object.inj e)
  | .null, .bool _ | .null, .number _ | .null, .string _ | .null, .array _ | .null, .object _
  | .bool _, .null | .bool _, .number _ | .bool _, .string _ | .bool _, .array _ | .bool _, .object _
  | .number _, .null | .number _, .bool _ | .number _, .string _ | .number _, .array _
  | .number _, .object _
  | .string _, .null | .string _, .bool _ | .string _, .number _ | .string _, .array _
  | .string _, .object _
  | .array _, .null | .array _, .bool _ | .array _, .number _ | .array _, .string _
  | .array _, .object _
  | .object _, .null | .object _, .bool _ | .object _, .number _ | .object _, .string _
  | .object _, .array _ => .isFalse fun e => nomatch e

/-- Decides whether two lists of values are the same. -/
def decEqItems : (a b : List Json) → Decidable (a = b)
  | [], [] => .isTrue rfl
  | x :: xs, y :: ys =>
    match decEq x y, decEqItems xs ys with
    | .isTrue h, .isTrue k => .isTrue (h ▸ k ▸ rfl)
    | .isFalse h, _ => .isFalse fun e => h (List.cons.inj e).1
    | _, .isFalse k => .isFalse fun e => k (List.cons.inj e).2
  | [], _ :: _ | _ :: _, [] => .isFalse fun e => nomatch e

/-- Decides whether two lists of fields are the same. -/
def decEqFields : (a b : List (String × Json)) → Decidable (a = b)
  | [], [] => .isTrue rfl
  | (i, x) :: xs, (j, y) :: ys =>
    match (inferInstance : Decidable (i = j)), decEq x y, decEqFields xs ys with
    | .isTrue h, .isTrue k, .isTrue l => .isTrue (h ▸ k ▸ l ▸ rfl)
    | .isFalse h, _, _ => .isFalse fun e => h (Prod.mk.inj (List.cons.inj e).1).1
    | _, .isFalse k, _ => .isFalse fun e => k (Prod.mk.inj (List.cons.inj e).1).2
    | _, _, .isFalse l => .isFalse fun e => l (List.cons.inj e).2
  | [], _ :: _ | _ :: _, [] => .isFalse fun e => nomatch e
end

instance : DecidableEq Json := decEq

/-- Equality of numbers: integers and floats never meet, and the two zeros are one float. -/
def Number.agrees : Number → Number → Bool
  | .float x, .float y => x.agrees y
  | m, n => m == n

mutual
/-- Equality of values up to the sign of a zero. -/
def agrees : Json → Json → Bool
  | .number m, .number n => m.agrees n
  | .array xs, .array ys => agreesItems xs ys
  | .object xs, .object ys => agreesFields xs ys
  | .null, .null => true
  | .bool a, .bool b => a == b
  | .string a, .string b => a == b
  | _, _ => false

def agreesItems : List Json → List Json → Bool
  | [], [] => true
  | x :: xs, y :: ys => agrees x y && agreesItems xs ys
  | _, _ => false

def agreesFields : List (String × Json) → List (String × Json) → Bool
  | [], [] => true
  | (i, x) :: xs, (j, y) :: ys => i == j && agrees x y && agreesFields xs ys
  | _, _ => false
end

/-- The value of a number of any kind as a natural number: only integers that are not negative have
one. -/
def asNat? : Json → Option Nat
  | .number (.natural n) => some n
  | _ => none

/-- The value of a number of any kind as a binary64 number. -/
def Number.toBinary64 : Number → Binary64
  | .natural n => .ofNat n
  | .negative n => (Binary64.ofNat (n + 1)).neg
  | .float x => x

def asString? : Json → Option String
  | .string s => some s
  | _ => none

def asBool? : Json → Option Bool
  | .bool b => some b
  | _ => none

/-- The word for a kind of value in messages. -/
def kindName : Json → String
  | .null => "null"
  | .bool _ => "boolean"
  | .number _ => "number"
  | .string _ => "string"
  | .array _ => "list"
  | .object _ => "mapping"

end Json

/-- The field of an object; nothing for a value that is no object. -/
def Json.get? (v : Json) (key : String) : Option Json :=
  match v with
  | .object fields => Table.get? key fields
  | _ => none

end ProfileKit
