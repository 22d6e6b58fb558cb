import BoundSql.Record
import BoundSql.ValueTypes

/-!
# Statement templates

A template is a statement before it is rendered: text, names still to be quoted, and values still to
be bound, in order. Rows of values stand in it as records, which may hand back what they wrote.
-/

namespace BoundSql

/-- A way to write records into a statement. -/
inductive RecordForm where
  /-- Rows to insert: `(a,b) VALUES (…),(…)`. -/
  | insert (records : List Record)
  /-- Rows as a table: `(VALUES (…),(…)) AS t(a,b)`. -/
  | valuesTable (records : List Record) (tableName : String)
  /-- Assignments `a = …, b = …`, without the omitted columns. -/
  | assignments (record : Record) (omitted : List String)
  deriving BEq

/-- Leaves more columns out of assignments. Rows keep all their columns. -/
def RecordForm.leaveOut : RecordForm → List String → RecordForm
  | .assignments record omitted, columns => .assignments record (omitted ++ columns)
  | form, _ => form

/-- What a record hands back. -/
inductive Returning (σ : Type) where
  | nothing
  | all
  | pieces (pieces : List σ)

inductive Piece where
  | text (text : String)
  | name (name : String)
  | value (value : Value)
  /-- A list of values in parentheses. -/
  | list (values : List Value)
  | typed (value : TypedValue)
  | record (form : RecordForm) (returning : Returning Piece)

abbrev Template := List Piece

def Returning.column (name : String) : Returning Piece :=
  .pieces [.name name]

namespace Template

/-- Adds text that is rendered as it stands. It must not come from outside the program. -/
def sql (template : Template) (text : String) : Template :=
  template ++ [.text text]

def name (template : Template) (name : String) : Template :=
  template ++ [.name name]

def param {α : Type} [ToValue α] (template : Template) (value : α) : Template :=
  template ++ [.value (toValue value)]

def inList {α : Type} [ToValue α] (template : Template) (values : List α) : Template :=
  template ++ [.list (values.map toValue)]

def typed (template : Template) (value : TypedValue) : Template :=
  template ++ [.typed value]

def record (template : Template) (form : RecordForm) (returning : Returning Piece) : Template :=
  template ++ [.record form returning]

/-- Joins templates with a separator between them. Several are put in parentheses if asked for, one
stands by itself, and none is the `fallback` text. -/
def join (templates : List Template) (separator : String) (parenthesized : Bool)
    (fallback : String) : Template :=
  match templates with
  | [] => [.text fallback]
  | [single] => single
  | templates =>
    let joined := List.intercalate [.text separator] templates
    if parenthesized then [.text "("] ++ joined ++ [.text ")"] else joined

/-- A conjunction; the empty one is `1=1`. -/
def allOf (clauses : List Template) : Template :=
  join clauses " AND " true "1=1"

/-- A disjunction; the empty one is `1=1` too. -/
def anyOf (clauses : List Template) : Template :=
  join clauses " OR " true "1=1"

end Template

namespace Piece

mutual

def same : Piece → Piece → Bool
  | .text s, .text t => s == t
  | .name s, .name t => s == t
  | .value v, .value w => v == w
  | .list vs, .list ws => vs == ws
  | .typed v, .typed w => v == w
  | .record f r, .record g s => f == g && sameReturning r s
  | _, _ => false

def sameReturning : Returning Piece → Returning Piece → Bool
  | .nothing, .nothing => true
  | .all, .all => true
  | .pieces ps, .pieces qs => samePieces ps qs
  | _, _ => false

def samePieces : List Piece → List Piece → Bool
  | [], [] => true
  | p :: ps, q :: qs => same p q && samePieces ps qs
  | _, _ => false

end

instance : BEq Piece where
  beq := same

end Piece

end BoundSql
