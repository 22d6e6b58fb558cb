import BoundSql.Json

/-!
# Values that a statement binds

Data of other types is bound as one of these values. Bytes are a blob, any other list is an array, and
`none` is NULL.
-/

namespace BoundSql

/-- A point in time: whole seconds since the Unix epoch, rounded down, and the nanoseconds after
them. A leap second belongs to the second before it, whose nanoseconds go on beyond a second. -/
structure Timestamp where
  seconds : Int
  nanos : Fin 2000000000
  deriving DecidableEq

/-- A day of the proleptic Gregorian calendar. -/
structure Date where
  year : Int
  month : Nat
  day : Nat
  deriving DecidableEq

inductive Value where
  | null
  | bool (b : Bool)
  | int (n : Int64)
  | float (x : Binary64)
  | text (s : String)
  | blob (bytes : ByteArray)
  | json (document : Json)
  | timestamp (t : Timestamp)
  | date (d : Date)
  | array (elements : List Value)
  deriving Inhabited

namespace Value

def isNull : Value → Bool
  | .null => true
  | _ => false

mutual

/-- Equality of values. Floats compare as numbers at every depth, so an array that holds a NaN
differs from itself. -/
def same : Value → Value → Bool
  | .null, .null => true
  | .bool b, .bool c => b == c
  | .int m, .int n => m == n
  | .float x, .float y => x == y
  | .text s, .text t => s == t
  | .blob b, .blob c => b == c
  | .json x, .json y => x == y
  | .timestamp s, .timestamp t => s == t
  | .date d, .date e => d == e
  | .array xs, .array ys => sameElements xs ys
  | _, _ => false

def sameElements : List Value → List Value → Bool
  | [], [] => true
  | x :: xs, y :: ys => same x y && sameElements xs ys
  | _, _ => false

end

instance : BEq Value where
  beq := same

end Value

/-- What can be bound. Every integer is bound as a 64-bit integer and every float as a double. -/
class ToValue (α : Type) where
  toValue : α → Value

export ToValue (toValue)

instance : ToValue Value := ⟨id⟩
instance : ToValue Bool := ⟨.bool⟩
instance : ToValue Int64 := ⟨.int⟩
instance : ToValue Int32 := ⟨fun n => .int n.toInt64⟩
instance : ToValue Int16 := ⟨fun n => .int n.toInt64⟩
instance : ToValue UInt32 := ⟨fun n => .int n.toUInt64.toInt64⟩
instance : ToValue UInt16 := ⟨fun n => .int n.toUInt64.toInt64⟩
instance : ToValue Binary64 := ⟨.float⟩
instance : ToValue Binary32 := ⟨fun x => .float x.widen⟩
instance : ToValue String := ⟨.text⟩
instance : ToValue ByteArray := ⟨.blob⟩
instance : ToValue Json := ⟨.json⟩
instance : ToValue Timestamp := ⟨.timestamp⟩
instance : ToValue Date := ⟨.date⟩

instance {α : Type} [ToValue α] : ToValue (Option α) where
  toValue
    | none => .null
    | some a => toValue a

instance {α : Type} [ToValue α] : ToValue (List α) where
  toValue items := .array (items.map toValue)

end BoundSql
