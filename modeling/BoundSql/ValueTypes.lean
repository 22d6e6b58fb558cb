import BoundSql.Value
import BoundSql.WireType

/-!
# Types of values

A value has a type by itself, a caller may declare one beside it, and bound values carry theirs position
by position. An array has the type of its first element that is not NULL. NULL has no type, nor has an
array in which every element is NULL.
-/

namespace BoundSql

namespace Value

mutual

def wireType : Value → Except TypeError WireType
  | .null => .error .unspecified
  | .bool _ => .ok (.plain .bool)
  | .int _ => .ok (.plain .int64)
  | .float _ => .ok (.plain .float64)
  | .text _ => .ok (.plain .string)
  | .blob _ => .ok (.plain .bytes)
  | .json _ => .ok (.plain .json)
  | .timestamp _ => .ok (.plain .timestamp)
  | .date _ => .ok (.plain .date)
  | .array elements => (elementType elements).map WireType.array

def elementType : List Value → Except TypeError WireType
  | [] => .error .untypedArray
  | .null :: rest => elementType rest
  | element :: _ => wireType element

end

end Value

/-- A type as a caller declares it: a wire type, or a name yet to be read. -/
inductive DeclaredType where
  | exactly (type : WireType)
  | named (name : String)
  deriving DecidableEq

/-- The type that is meant. An unknown name declares nothing, and neither does the empty one. -/
def DeclaredType.resolve : DeclaredType → Option WireType
  | .exactly type => some type
  | .named name => if name.isEmpty then none else (WireType.ofName name).toOption

structure TypedValue where
  value : Value
  declared : Option DeclaredType
  deriving BEq

namespace TypedValue

/-- A NULL of a declared type. -/
def null (declared : DeclaredType) : TypedValue :=
  ⟨.null, some declared⟩

def resolve (typed : TypedValue) : Option WireType :=
  typed.declared.bind DeclaredType.resolve

end TypedValue

/-- Bound values and their types. The types leave the values as they are. -/
structure Bindings where
  values : List Value
  types : Option (List (Option WireType))
  deriving BEq

namespace Bindings

def ofValues (values : List Value) : Bindings :=
  ⟨values, none⟩

/-- Attaches types, cut or filled up to the number of values. Types that say nothing are not
attached, and types already there stay. -/
def attach? (bindings : Bindings) (types : List (Option WireType)) : Option Bindings :=
  if types.any Option.isSome && bindings.types.isNone then
    let size := bindings.values.length
    some { bindings with types := some ((types.take size).rightpad size none) }
  else none

/-- The type at a position, counted from zero. -/
def type? (bindings : Bindings) (index : Nat) : Option WireType :=
  bindings.types.bind fun types => types[index]?.join

end Bindings

end BoundSql
