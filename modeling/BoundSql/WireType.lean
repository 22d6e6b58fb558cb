import BoundSql.Json
import BoundSql.Text.LowerCase

/-!
# Wire types

A wire type tells a driver how a bound value travels. Only `ARRAY` has a use for an element type,
but a document may attach one to any code, or leave it off an array; such types are kept as they
are.

A name is read in any letter case and with blanks around it, also inside the brackets of
`array<…>`. Lower case is taken once, of the whole name: it never changes again, and it has the same
blanks and brackets.

As a document a type is an object with a `code` and, if there is one, an `arrayElementType`. It is also
read from the list of the two, and a code is also read from an object whose only field has the
code's name and a null.
-/

namespace BoundSql

inductive TypeCode where
  | string | int64 | float64 | bool | json | bytes | timestamp | date | array
  deriving DecidableEq

namespace TypeCode

def name : TypeCode → String
  | .string => "STRING"
  | .int64 => "INT64"
  | .float64 => "FLOAT64"
  | .bool => "BOOL"
  | .json => "JSON"
  | .bytes => "BYTES"
  | .timestamp => "TIMESTAMP"
  | .date => "DATE"
  | .array => "ARRAY"

def all : List TypeCode :=
  [.string, .int64, .float64, .bool, .json, .bytes, .timestamp, .date, .array]

def ofName? (name : String) : Option TypeCode :=
  all.find? (·.name == name)

end TypeCode

inductive WireType where
  | plain (code : TypeCode)
  | holding (code : TypeCode) (element : WireType)
  deriving DecidableEq

namespace WireType

def array (element : WireType) : WireType :=
  .holding .array element

def code : WireType → TypeCode
  | .plain code => code
  | .holding code _ => code

def element? : WireType → Option WireType
  | .plain _ => none
  | .holding _ element => some element

/-- The type as it is shown, such as `ARRAY<INT64>`. -/
def text : WireType → String
  | .plain code => code.name
  | .holding code element => code.name ++ "<" ++ element.text ++ ">"

end WireType

/-- Why a name or a value has no wire type. -/
inductive TypeError where
  | unknownName (name : String)
  | unspecified
  | untypedArray
  deriving DecidableEq

def TypeError.message : TypeError → String
  | .unknownName name => "unknown type name: " ++ name
  | .unspecified => "value has no wire type"
  | .untypedArray => "cannot infer the element type of an array without non-null elements"

def TypeCode.ofDocument? : Json → Option TypeCode
  | .string name => ofName? name
  | .object [(name, .null)] => ofName? name
  | _ => none

namespace WireType

/-- The text between `array<` and a closing bracket at the end. -/
def arrayBody? (name : List Char) : Option (List Char) :=
  if "array<".toList.isPrefixOf name && name.getLast? == some '>' then
    some (name.drop 6).dropLast
  else none

theorem length_lt_of_arrayBody? {name body : List Char} (h : arrayBody? name = some body) :
    body.length < name.length := by
  unfold arrayBody? at h
  split at h
  · next hc =>
    cases name with
    | nil => simp at hc
    | cons c rest =>
      cases h
      simp only [List.length_dropLast, List.length_drop, List.length_cons]
      omega
  · cases h

def scalarNames : List (String × TypeCode) := [
  ("string", .string), ("int64", .int64), ("float64", .float64), ("bool", .bool), ("json", .json),
  ("bytes", .bytes), ("timestamp", .timestamp), ("date", .date)]

/-- Reads a name in lower case and without blanks around it. An unknown name is reported as
`shown`. -/
def ofLowered (shown lowered : List Char) : Except TypeError WireType :=
  match h : arrayBody? lowered with
  | some body =>
    have := length_lt_of_arrayBody? h
    have := Text.length_trim_le body
    (ofLowered body (Text.trim body)).map array
  | none =>
    match scalarNames.lookup (String.ofList lowered) with
    | some code => .ok (.plain code)
    | none => .error (.unknownName (String.ofList shown))
termination_by lowered.length
decreasing_by omega

/-- Reads a type name. The error names an unknown name as it was given, and an unknown element name
in lower case. -/
def ofName (name : String) : Except TypeError WireType :=
  ofLowered name.toList (Text.lowerCase (Text.trim name.toList))

def toDocument : WireType → Json
  | .plain code => .object [("code", .string code.name)]
  | .holding code element =>
    .object [("code", .string code.name), ("arrayElementType", element.toDocument)]

/-- The compact text of the document. -/
def documentText : WireType → String
  | .plain code => "\x7b\"code\":\"" ++ code.name ++ "\"\x7d"
  | .holding code element =>
    "\x7b\"code\":\"" ++ code.name ++ "\",\"arrayElementType\":" ++ element.documentText ++ "\x7d"

/-- A type of the given code, with an element type if there is one. -/
def ofParts (code : TypeCode) : Option WireType → WireType
  | none => .plain code
  | some element => .holding code element

mutual

/-- Reads a document. Fields of other names are passed over, and a null element type is none. -/
def ofDocument? : Json → Option WireType
  | .object fields => do
    let code ← fields.lookup "code" >>= TypeCode.ofDocument?
    return ofParts code (← elementOfFields? fields)
  | .array [code] => plain <$> TypeCode.ofDocument? code
  | .array [code, element] => do
    let code ← TypeCode.ofDocument? code
    if element.isNull then return plain code else return holding code (← ofDocument? element)
  | _ => none

def elementOfFields? : List (String × Json) → Option (Option WireType)
  | [] => some none
  | (key, value) :: rest =>
    if key = "arrayElementType" then
      if value.isNull then some none else some <$> ofDocument? value
    else elementOfFields? rest

end

end WireType

end BoundSql
