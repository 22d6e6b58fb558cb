import BoundSql.Dialect
import BoundSql.Template

/-!
# Flat templates

A template comes down to a flat list of items: pieces are taken from left to right, rows are spread
out in row-major order, assignments stand in the order of the record, and what a record hands back
follows its values, at any depth. Nothing is counted here. `Item.write` writes such a list from the
number of values bound before it, and `boundValues` lists the values that it binds.
-/

namespace BoundSql

/-- A value without a declared type. -/
def TypedValue.plain (value : Value) : TypedValue :=
  ⟨value, none⟩

@[simp] theorem map_value_plain (values : List Value) :
    (values.map TypedValue.plain).map TypedValue.value = values := by
  rw [List.map_map]
  exact List.map_id values

inductive Item where
  | text (text : String)
  | name (name : String)
  | bound (value : TypedValue)
  /-- The word in front of the rows of a table. -/
  | valuesWord
  /-- The word in front of what a record hands back. -/
  | returningWord

namespace Item

def ofValue (value : Value) : Item :=
  .bound (.plain value)

def separated (separator : String) (groups : List (List Item)) : List Item :=
  List.intercalate [.text separator] groups

/-- Groups of items in parentheses. -/
def tuple (groups : List (List Item)) : List Item :=
  .text "(" :: separated "," groups ++ [.text ")"]

def columnList (columns : List String) : List Item :=
  tuple (columns.map fun column => [.name column])

def row (values : List Value) : List Item :=
  tuple (values.map fun value => [ofValue value])

def rows (rows : List (List Value)) : List Item :=
  separated "," (rows.map row)

def assignment (field : String × Value) : List Item :=
  [.name field.1, .text " = ", ofValue field.2]

def bound? : Item → Option TypedValue
  | .bound value => some value
  | _ => none

end Item

/-- The bound values in the order in which they are met, each with the type declared for it. -/
def boundValues (items : List Item) : List TypedValue :=
  items.filterMap Item.bound?

section BoundValues

variable (s : String) (value : TypedValue) (items others : List Item)

@[simp] theorem boundValues_nil : boundValues [] = [] := rfl

@[simp] theorem boundValues_text :
    boundValues (.text s :: items) = boundValues items := rfl

@[simp] theorem boundValues_name :
    boundValues (.name s :: items) = boundValues items := rfl

@[simp] theorem boundValues_bound :
    boundValues (.bound value :: items) = value :: boundValues items := rfl

@[simp] theorem boundValues_valuesWord :
    boundValues (.valuesWord :: items) = boundValues items := rfl

@[simp] theorem boundValues_returningWord :
    boundValues (.returningWord :: items) = boundValues items := rfl

@[simp] theorem boundValues_append :
    boundValues (items ++ others) = boundValues items ++ boundValues others :=
  List.filterMap_append

end BoundValues

@[simp] theorem boundValues_ofValue (value : Value) (items : List Item) :
    boundValues (.ofValue value :: items) = .plain value :: boundValues items := rfl

theorem Item.separated_cons_cons (separator : String) (group next : List Item)
    (groups : List (List Item)) :
    separated separator (group :: next :: groups) =
      group ++ .text separator :: separated separator (next :: groups) := by
  simp [separated, List.intercalate_cons_cons]

@[simp] theorem boundValues_separated (separator : String) (groups : List (List Item)) :
    boundValues (Item.separated separator groups) = groups.flatMap boundValues := by
  induction groups with
  | nil => rfl
  | cons group rest ih =>
    cases rest with
    | nil => simp [Item.separated]
    | cons next rest => simp [Item.separated_cons_cons, ih]

@[simp] theorem boundValues_tuple (groups : List (List Item)) :
    boundValues (Item.tuple groups) = groups.flatMap boundValues := by
  simp [Item.tuple]

@[simp] theorem boundValues_columnList (columns : List String) :
    boundValues (Item.columnList columns) = [] := by
  simp [Item.columnList]

@[simp] theorem boundValues_row (values : List Value) :
    boundValues (Item.row values) = values.map TypedValue.plain := by
  induction values with
  | nil => rfl
  | cons value rest ih => simpa [Item.row] using ih

@[simp] theorem boundValues_rows (rows : List (List Value)) :
    boundValues (Item.rows rows) = rows.flatten.map TypedValue.plain := by
  rw [Item.rows, boundValues_separated, List.flatMap_map, List.map_flatten, List.flatMap_def]
  simp only [boundValues_row]

@[simp] theorem flatMap_boundValues_assignment (fields : List (String × Value)) :
    (fields.map Item.assignment).flatMap boundValues =
      (fields.map Prod.snd).map TypedValue.plain := by
  induction fields with
  | nil => rfl
  | cons field rest ih => exact congrArg (TypedValue.plain field.2 :: ·) ih

def RecordForm.items : RecordForm → List Item
  | .insert records =>
    Item.columnList (Record.sharedColumns records) ++ .text " VALUES " :: Item.rows (Record.rows records)
  | .valuesTable records tableName =>
    .text "(" :: .valuesWord :: .text " " :: Item.rows (Record.rows records) ++
      .text ") AS " :: .name tableName :: Item.columnList (Record.sharedColumns records)
  | .assignments record omitted =>
    Item.separated ", " ((record.without omitted).map Item.assignment)

/-- The values that records bind, in the order of their items. -/
def RecordForm.values : RecordForm → List Value
  | .insert records => (Record.rows records).flatten
  | .valuesTable records _ => (Record.rows records).flatten
  | .assignments record omitted => (record.without omitted).map Prod.snd

@[simp] theorem RecordForm.boundValues_items (form : RecordForm) :
    boundValues form.items = form.values.map TypedValue.plain := by
  cases form with
  | insert records => simp [items, values]
  | valuesTable records tableName => simp [items, values]
  | assignments record omitted =>
    rw [items, boundValues_separated, flatMap_boundValues_assignment, values]

/-- What a record hands back, as items after a RETURNING of their own. -/
def Item.returning (items : List Item) : List Item :=
  .text " " :: .returningWord :: .text " " :: items

@[simp] theorem boundValues_returning (items : List Item) :
    boundValues (Item.returning items) = boundValues items := rfl

mutual

def Piece.items : Piece → List Item
  | .text s => [.text s]
  | .name s => [.name s]
  | .value v => [.ofValue v]
  | .list vs => Item.row vs
  | .typed v => [.bound v]
  | .record form returning => form.items ++ Piece.returningItems returning

def Piece.returningItems : Returning Piece → List Item
  | .nothing => []
  | .all => Item.returning [.text "*"]
  | .pieces pieces => Item.returning (Piece.listItems pieces)

def Piece.listItems : List Piece → List Item
  | [] => []
  | piece :: rest => piece.items ++ Piece.listItems rest

end

def Template.items (template : Template) : List Item :=
  Piece.listItems template

@[simp] theorem Template.items_append (template other : Template) :
    Template.items (template ++ other) = template.items ++ other.items := by
  induction template with
  | nil => rfl
  | cons piece rest ih =>
    simpa only [List.cons_append, items, Piece.listItems, List.append_assoc] using
      congrArg (piece.items ++ ·) ih

namespace Piece

mutual

/-- A piece and, behind it, those that its record hands back, at any depth. -/
def nested : Piece → List Piece
  | .record form returning => .record form returning :: returningNested returning
  | piece => [piece]

def returningNested : Returning Piece → List Piece
  | .pieces pieces => listNested pieces
  | _ => []

def listNested : List Piece → List Piece
  | [] => []
  | piece :: rest => piece.nested ++ listNested rest

end

/-- The items of a piece by itself, without what a record hands back. -/
def ownItems : Piece → List Item
  | .record form _ => form.items
  | piece => piece.items

end Piece

/-- What the pieces of a template contribute, from left to right and at any depth. -/
def Template.gather {α : Type} (contribution : Piece → List α) (template : Template) : List α :=
  (Piece.listNested template).flatMap contribution

section Nested

variable {P : Item → Prop}

mutual

private theorem Piece.forall_mem_items (hr : ∀ item ∈ Item.returning [.text "*"], P item)
    (piece : Piece) (h : ∀ inner ∈ piece.nested, ∀ item ∈ inner.ownItems, P item) :
    ∀ item ∈ piece.items, P item := by
  cases piece with
  | record form returning =>
    obtain ⟨hform, hreturning⟩ := List.forall_mem_cons.mp h
    rw [items, List.forall_mem_append]
    exact ⟨hform, forall_mem_returningItems hr returning hreturning⟩
  | text | name | value | list | typed => exact h _ (.head _)

private theorem Piece.forall_mem_returningItems (hr : ∀ item ∈ Item.returning [.text "*"], P item)
    (returning : Returning Piece)
    (h : ∀ inner ∈ returningNested returning, ∀ item ∈ inner.ownItems, P item) :
    ∀ item ∈ returningItems returning, P item := by
  cases returning with
  | nothing => exact fun _ hm => nomatch hm
  | all => exact hr
  | pieces pieces =>
    have hl := forall_mem_listItems hr pieces h
    simp only [Item.returning, List.forall_mem_cons] at hr
    simp only [returningItems, Item.returning, List.forall_mem_cons]
    exact ⟨hr.1, hr.2.1, hr.2.2.1, hl⟩

private theorem Piece.forall_mem_listItems (hr : ∀ item ∈ Item.returning [.text "*"], P item)
    (pieces : List Piece) (h : ∀ inner ∈ listNested pieces, ∀ item ∈ inner.ownItems, P item) :
    ∀ item ∈ listItems pieces, P item := by
  cases pieces with
  | nil => exact fun _ hm => nomatch hm
  | cons piece rest =>
    rw [listNested, List.forall_mem_append] at h
    rw [listItems, List.forall_mem_append]
    exact ⟨forall_mem_items hr piece h.1, forall_mem_listItems hr rest h.2⟩

end

/-- What holds of the items of all pieces, and of what stands in front of those handed back, holds of
every item. -/
theorem Template.forall_mem_items (hr : ∀ item ∈ Item.returning [.text "*"], P item)
    (template : Template) (h : ∀ piece ∈ Piece.listNested template, ∀ item ∈ piece.ownItems, P item) :
    ∀ item ∈ template.items, P item :=
  Piece.forall_mem_listItems hr template h

end Nested

/-- How the items are written that are not text. -/
structure Spelling where
  name : String → String
  /-- What stands for the value that is bound at a position, counted from one. -/
  placeholder : Nat → Value → String
  valuesWord : String
  returningWord : String

/-- The text of the items when `count` values are bound before them. -/
def Item.write (spelling : Spelling) (count : Nat) : List Item → String
  | [] => ""
  | .text s :: rest => s ++ write spelling count rest
  | .name s :: rest => spelling.name s ++ write spelling count rest
  | .bound value :: rest =>
    spelling.placeholder (count + 1) value.value ++ write spelling (count + 1) rest
  | .valuesWord :: rest => spelling.valuesWord ++ write spelling count rest
  | .returningWord :: rest => spelling.returningWord ++ write spelling count rest

/-- The texts of groups of items that stand one after the other. -/
def Item.writeEach (spelling : Spelling) (count : Nat) : List (List Item) → List String
  | [] => []
  | group :: rest =>
    write spelling count group :: writeEach spelling (count + (boundValues group).length) rest

namespace Item

variable {spelling : Spelling} {count : Nat}

theorem write_append (items others : List Item) :
    write spelling count (items ++ others) =
      write spelling count items ++
        write spelling (count + (boundValues items).length) others := by
  induction items generalizing count with
  | nil => simp [write]
  | cons item rest ih =>
    cases item with
    | bound value =>
      simp only [List.cons_append, write, ih, boundValues_bound, List.length_cons,
        String.append_assoc, Nat.add_assoc, Nat.add_comm 1]
    | text | name | valuesWord | returningWord =>
      simp [write, ih, String.append_assoc]

@[simp] theorem write_ofValue (value : Value) (rest : List Item) :
    write spelling count (.ofValue value :: rest) =
      spelling.placeholder (count + 1) value ++ write spelling (count + 1) rest := rfl

theorem write_separated (separator : String) (groups : List (List Item)) :
    write spelling count (separated separator groups) =
      String.intercalate separator (writeEach spelling count groups) := by
  induction groups generalizing count with
  | nil => rfl
  | cons group rest ih =>
    cases rest with
    | nil => simp [separated, writeEach]
    | cons next rest =>
      rw [separated_cons_cons, write_append, write, ih]
      simp only [writeEach, String.intercalate_cons_cons, String.append_assoc]

theorem write_tuple (groups : List (List Item)) :
    write spelling count (tuple groups) = BoundSql.tuple (writeEach spelling count groups) := by
  simp only [tuple, List.cons_append, write, write_append, write_separated, BoundSql.tuple,
    String.append_assoc, String.append_empty]

private theorem writeEach_names (columns : List String) :
    writeEach spelling count (columns.map fun column => [.name column]) =
      columns.map spelling.name := by
  induction columns generalizing count with
  | nil => rfl
  | cons column rest ih => simp [writeEach, write, ih]

theorem write_columnList (columns : List String) :
    write spelling count (columnList columns) = BoundSql.tuple (columns.map spelling.name) := by
  rw [columnList, write_tuple, writeEach_names]

theorem write_insert (records : List Record) :
    write spelling count (RecordForm.items (.insert records)) =
      BoundSql.tuple ((Record.sharedColumns records).map spelling.name) ++ " VALUES " ++
        write spelling count (rows (Record.rows records)) := by
  rw [RecordForm.items, write_append, write_columnList, boundValues_columnList, String.append_assoc]
  rfl

theorem write_valuesTable (records : List Record) (tableName : String) :
    write spelling count (RecordForm.items (.valuesTable records tableName)) =
      "(" ++ spelling.valuesWord ++ " " ++ write spelling count (rows (Record.rows records)) ++
        ") AS " ++ spelling.name tableName ++
        BoundSql.tuple ((Record.sharedColumns records).map spelling.name) := by
  simp only [RecordForm.items, List.cons_append, write, write_append, write_columnList,
    String.append_assoc]

theorem write_assignments (record : Record) (omitted : List String) :
    write spelling count (RecordForm.items (.assignments record omitted)) =
      String.intercalate ", " (writeEach spelling count
        ((record.without omitted).map assignment)) :=
  write_separated ", " _

/-- The rendered items: their text, and the values without their declared types. -/
def parts (spelling : Spelling) (count : Nat) (items : List Item) : Parts :=
  ⟨write spelling count items, (boundValues items).map TypedValue.value⟩

@[simp] theorem parts_text (s : String) : parts spelling count [.text s] = .ofText s :=
  Parts.ext String.append_empty rfl

@[simp] theorem parts_name (s : String) :
    parts spelling count [.name s] = .ofText (spelling.name s) :=
  Parts.ext String.append_empty rfl

theorem parts_append (items others : List Item) :
    parts spelling count (items ++ others) =
      parts spelling count items ++
        parts spelling (count + (boundValues items).length) others :=
  Parts.ext (write_append items others) (by simp [parts])

end Item

end BoundSql
