import BoundSql.Binary64

/-!
# JSON documents
-/

namespace BoundSql

/-- A number as it is held once it is read: a whole number of 64 bits, with or without a sign, or else a
finite double. -/
inductive Json.Number where
  | whole (n : Int) (fits : Int64.minValue.toInt ≤ n ∧ n < UInt64.size)
  | double (x : Binary64) (finite : x.isFinite = true)

/-- Equality of numbers. A whole number differs from every double. -/
instance : BEq Json.Number where
  beq
    | .whole m _, .whole n _ => m == n
    | .double x _, .double y _ => x == y
    | _, _ => false

inductive Json where
  | null
  | bool (b : Bool)
  | number (n : Json.Number)
  | string (s : String)
  | array (items : List Json)
  /-- Fields in written order. -/
  | object (fields : List (String × Json))
  deriving Inhabited

namespace Json

def isNull : Json → Bool
  | .null => true
  | _ => false

/-- Adds a field to fields in key order, unless its key is already there. -/
def insertField (key : String) (value : Json) : List (String × Json) → List (String × Json)
  | [] => [(key, value)]
  | (k, v) :: rest =>
    if key < k then (key, value) :: (k, v) :: rest
    else if key = k then (k, v) :: rest
    else (k, v) :: insertField key value rest

mutual

/-- The document with the fields of every object in key order. Of fields with one key the last one
stands. -/
def normal : Json → Json
  | .array items => .array (normalItems items)
  | .object fields => .object (normalFields fields)
  | document => document

def normalItems : List Json → List Json
  | [] => []
  | item :: rest => item.normal :: normalItems rest

def normalFields : List (String × Json) → List (String × Json)
  | [] => []
  | (key, value) :: rest => insertField key value.normal (normalFields rest)

end

mutual

/-- Equality of documents with their items and fields in the order they have. -/
def same : Json → Json → Bool
  | .null, .null => true
  | .bool b, .bool c => b == c
  | .number m, .number n => m == n
  | .string s, .string t => s == t
  | .array xs, .array ys => sameItems xs ys
  | .object fs, .object gs => sameFields fs gs
  | _, _ => false

def sameItems : List Json → List Json → Bool
  | [], [] => true
  | x :: xs, y :: ys => same x y && sameItems xs ys
  | _, _ => false

def sameFields : List (String × Json) → List (String × Json) → Bool
  | [], [] => true
  | (key, x) :: fs, (key', y) :: gs => key == key' && same x y && sameFields fs gs
  | _, _ => false

end

/-- Two documents are equal when they differ at most in the order of fields. -/
instance : BEq Json where
  beq x y := same x.normal y.normal

end Json

end BoundSql
