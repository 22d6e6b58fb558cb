import BoundSql.Binder
import BoundSql.Text.Names

/-!
# Dialects

A dialect spells names, placeholders and tables of rows. What it writes are parts of a statement: a text
together with the values that are bound in it.
-/

namespace BoundSql

/-- Statement text and the values bound in it, in binding order. -/
@[ext]
structure Parts where
  sql : String
  params : List Value

namespace Parts

def ofText (text : String) : Parts :=
  ⟨text, []⟩

instance : Append Parts where
  append a b := ⟨a.sql ++ b.sql, a.params ++ b.params⟩

@[simp] theorem sql_append (a b : Parts) : (a ++ b).sql = a.sql ++ b.sql := rfl

@[simp] theorem params_append (a b : Parts) : (a ++ b).params = a.params ++ b.params := rfl

/-- Adds a RETURNING clause with the given body, if there is one. -/
def withReturning (parts : Parts) : Option Parts → Parts
  | none => parts
  | some body => parts ++ ofText " RETURNING " ++ body

end Parts

/-- The items in parentheses. -/
def tuple (items : List String) : String :=
  "(" ++ String.intercalate "," items ++ ")"

inductive Dialect where
  | generic
  /-- Names may pass through a style before they are quoted. -/
  | googleSql (style : Option (String → String))

namespace Dialect

def label : Dialect → String
  | .generic => "generic"
  | .googleSql _ => "googlesql"

/-- The quotation mark of names: `"`, or a grave accent in GoogleSQL. -/
def nameQuote : Dialect → Char
  | .generic => '\x22'
  | .googleSql _ => '\x60'

def styleName (dialect : Dialect) (verbatim : Bool) (name : String) : String :=
  match dialect, verbatim with
  | .googleSql (some style), false => style name
  | _, _ => name

def quoteName (dialect : Dialect) (verbatim : Bool) (name : String) : String :=
  Text.quoteName dialect.nameQuote (dialect.styleName verbatim name)

def columnList (dialect : Dialect) (verbatim : Bool) (columns : List String) : String :=
  tuple (columns.map (dialect.quoteName verbatim))

def placeholder : Dialect → Nat → String
  | .generic, _ => "?"
  | .googleSql _, position => "@param" ++ Nat.repr position

/-- A table made of rows: `rows` are their placeholders and `columns` the list of names. -/
def valuesTable (dialect : Dialect) (rows tableName columns : String)
    (values : List (List Value)) : Parts :=
  let keyword := match dialect with
    | .generic => "values"
    | .googleSql _ => "VALUES"
  ⟨"(" ++ keyword ++ " " ++ rows ++ ") AS " ++ tableName ++ columns, values.flatten⟩

def bind (dialect : Dialect) (value : Value) : StateM Binder String :=
  Binder.allocate dialect.placeholder value

/-- Binds a value under its declared type, if it has one that can be read. -/
def bindTyped (dialect : Dialect) (typed : TypedValue) : StateM Binder Parts := do
  let text ← dialect.bind typed.value
  if let some type := typed.resolve then
    modify fun binder => binder.recordDeclared binder.count type
  return ⟨text, [typed.value]⟩

def bindRow (dialect : Dialect) (row : List Value) : StateM Binder String :=
  return tuple (← row.mapM dialect.bind)

def bindRows (dialect : Dialect) (rows : List (List Value)) : StateM Binder String :=
  return String.intercalate "," (← rows.mapM dialect.bindRow)

end Dialect

end BoundSql
