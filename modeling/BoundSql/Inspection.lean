import BoundSql.GoogleSql

/-!
# Inspecting compilers and their state

An outline shows how a value is made up, on one line or with one part to a line.
-/

namespace BoundSql

inductive Outline where
  | word (word : String)
  | wrapped (name : String) (inner : Outline)
  | record (name : String) (fields : List (String × Outline))
  | list (items : List Outline)

namespace Outline

def yesNo (b : Bool) : Outline :=
  .word (if b then "true" else "false")

def number (n : Nat) : Outline :=
  .word (Nat.repr n)

def option : Option Outline → Outline
  | none => .word "None"
  | some inner => .wrapped "Some" inner

/-- A function shows only that it is there. -/
def function {α β : Type} : Option (α → β) → Outline
  | none => option none
  | some _ => option (some (.word "\"<fn>\""))

mutual

/-- The outline on one line. -/
def line : Outline → String
  | .word s => s
  | .wrapped name inner => name ++ "(" ++ inner.line ++ ")"
  | .record name fields => name ++ " \x7b " ++ String.intercalate ", " (fieldLines fields) ++ " \x7d"
  | .list items => "[" ++ String.intercalate ", " (itemLines items) ++ "]"

def fieldLines : List (String × Outline) → List String
  | [] => []
  | (label, value) :: rest => (label ++ ": " ++ value.line) :: fieldLines rest

def itemLines : List Outline → List String
  | [] => []
  | item :: rest => item.line :: itemLines rest

end

/-- Four spaces for every level. -/
def indent (depth : Nat) : String :=
  String.ofList (List.replicate (4 * depth) ' ')

mutual

/-- The outline with every part on a line of its own, indented and ended by a comma. -/
def block (depth : Nat) : Outline → String
  | .word s => s
  | .wrapped name inner =>
    name ++ "(\n" ++ indent (depth + 1) ++ inner.block (depth + 1) ++ ",\n" ++ indent depth ++ ")"
  | .record name fields =>
    name ++ " \x7b\n" ++ fieldBlocks (depth + 1) fields ++ indent depth ++ "\x7d"
  | .list [] => "[]"
  | .list items => "[\n" ++ itemBlocks (depth + 1) items ++ indent depth ++ "]"

def fieldBlocks (depth : Nat) : List (String × Outline) → String
  | [] => ""
  | (label, value) :: rest =>
    indent depth ++ label ++ ": " ++ value.block depth ++ ",\n" ++ fieldBlocks depth rest

def itemBlocks (depth : Nat) : List Outline → String
  | [] => ""
  | item :: rest => indent depth ++ item.block depth ++ ",\n" ++ itemBlocks depth rest

end

end Outline

def TypeCode.title : TypeCode → String
  | .string => "String"
  | .int64 => "Int64"
  | .float64 => "Float64"
  | .bool => "Bool"
  | .json => "Json"
  | .bytes => "Bytes"
  | .timestamp => "Timestamp"
  | .date => "Date"
  | .array => "Array"

def WireType.outline (type : WireType) : Outline :=
  let element := match type with
    | .plain _ => none
    | .holding _ element => some element.outline
  .record "WireType" [
    ("code", .word type.code.title),
    ("array_element_type", .option element)]

def Slot.outline : Slot → Outline
  | .empty => .word "Empty"
  | .inferred type => .wrapped "Inferred" type.outline
  | .declared type => .wrapped "Explicit" type.outline

def RenderOptions.outline (options : RenderOptions) : Outline :=
  .record "CompileOptions" [
    ("without_transform", .yesNo options.verbatimNames),
    ("placeholder", .function options.placeholder)]

namespace Binder

/-- What a binder counts, without the types. -/
def countOutline (binder : Binder) : Outline :=
  .record "Placeholders" [
    ("count", .number binder.count),
    ("placeholder", .function binder.placeholder)]

def outline (binder : Binder) : Outline :=
  .record "ParamContext" [
    ("placeholders", binder.countOutline),
    ("slots", .list (binder.slots.map Slot.outline))]

end Binder

def Dialect.outline : Dialect → Outline
  | .generic => .word "GenericDialect"
  | .googleSql style => .record "GoogleSqlDialect" [("transform_query_names", .function style)]

def Renderer.outline (renderer : Renderer) : Outline :=
  .record "StatementCompiler" [
    ("dialect", renderer.dialect.outline),
    ("without_transform", .yesNo renderer.verbatimNames)]

def GoogleSql.Compiler.outline (compiler : GoogleSql.Compiler) : Outline :=
  .record "GoogleSqlCompiler" [("inner", compiler.renderer.outline)]

end BoundSql
