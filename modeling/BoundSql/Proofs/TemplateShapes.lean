import BoundSql.Proofs.GatheredTypes

/-!
# Templates of one shape

Two templates have the same shape when they differ in nothing but the values to be bound. Their flat
items are then the same up to these values, so unless the options spell placeholders by value they are
rendered as the same text.
-/

namespace BoundSql

/-- The forms write the same columns in the same order, and as many rows. -/
def RecordForm.sameShape : RecordForm → RecordForm → Bool
  | .insert records, .insert others =>
    Record.sharedColumns records == Record.sharedColumns others && records.length == others.length
  | .valuesTable records tableName, .valuesTable others otherName =>
    Record.sharedColumns records == Record.sharedColumns others &&
      records.length == others.length && tableName == otherName
  | .assignments record omitted, .assignments other otherOmitted =>
    (record.without omitted).map Prod.fst == (other.without otherOmitted).map Prod.fst
  | _, _ => false

namespace Piece

mutual

def sameShape : Piece → Piece → Bool
  | .text s, .text t => s == t
  | .name s, .name t => s == t
  | .value _, .value _ => true
  | .list vs, .list ws => vs.length == ws.length
  | .typed _, .typed _ => true
  | .record f r, .record g s => f.sameShape g && sameShapeReturning r s
  | _, _ => false

def sameShapeReturning : Returning Piece → Returning Piece → Bool
  | .nothing, .nothing => true
  | .all, .all => true
  | .pieces ps, .pieces qs => sameShapePieces ps qs
  | _, _ => false

def sameShapePieces : List Piece → List Piece → Bool
  | [], [] => true
  | p :: ps, q :: qs => sameShape p q && sameShapePieces ps qs
  | _, _ => false

end

end Piece

def Template.sameShape (template other : Template) : Bool :=
  Piece.sameShapePieces template other

namespace Item

/-- The item with NULL in place of the value that it binds. -/
def blank : Item → Item
  | .bound _ => ofValue .null
  | item => item

private theorem map_blank_separated (separator : String) (groups : List (List Item)) :
    (separated separator groups).map blank = separated separator (groups.map (List.map blank)) := by
  induction groups with
  | nil => rfl
  | cons group rest ih =>
    cases rest with
    | nil => simp [separated]
    | cons next rest =>
      simp only [separated_cons_cons, List.map_append, List.map_cons, ih]
      rfl

private theorem map_blank_tuple (groups : List (List Item)) :
    (tuple groups).map blank = tuple (groups.map (List.map blank)) := by
  simp [tuple, map_blank_separated, blank]

private theorem map_blank_columnList (columns : List String) :
    (columnList columns).map blank = columnList columns := by
  rw [columnList, map_blank_tuple, List.map_map]
  rfl

/-- All that is left of a row is how many values it has. -/
theorem map_blank_row (values : List Value) :
    (row values).map blank = row (List.replicate values.length .null) := by
  rw [row, map_blank_tuple, row, List.map_map, ← List.map_const', List.map_map]
  rfl

/-- All that is left of rows is their number, when they have the same columns. -/
theorem map_blank_rows (records : List Record) :
    (rows (Record.rows records)).map blank =
      rows (List.replicate records.length
        (List.replicate (Record.sharedColumns records).length .null)) := by
  have hr : ∀ record : Record, (row (record.row (Record.sharedColumns records))).map blank =
      row (List.replicate (Record.sharedColumns records).length .null) := by
    intro record
    rw [map_blank_row, Record.row, List.length_map]
  have hg : ((Record.rows records).map row).map (List.map blank) =
      List.replicate records.length
        (row (List.replicate (Record.sharedColumns records).length .null)) := by
    rw [Record.rows, List.map_map, List.map_map, ← List.map_const']
    exact List.map_congr_left fun record _ => hr record
  rw [rows, map_blank_separated, hg, rows, List.map_replicate]

private theorem map_blank_assignments (fields : List (String × Value)) :
    (separated ", " (fields.map assignment)).map blank =
      separated ", " ((fields.map Prod.fst).map fun column => assignment (column, .null)) := by
  rw [map_blank_separated, List.map_map, List.map_map]
  rfl

private theorem map_blank_returning (items : List Item) :
    (returning items).map blank = returning (items.map blank) := rfl

end Item

private theorem RecordForm.map_blank_items {form other : RecordForm} (h : form.sameShape other) :
    form.items.map Item.blank = other.items.map Item.blank := by
  cases form with
  | insert records =>
    cases other with
    | insert others =>
      simp only [sameShape, Bool.and_eq_true, beq_iff_eq] at h
      obtain ⟨hc, hn⟩ := h
      simp only [items, List.map_append, List.map_cons, Item.map_blank_columnList,
        Item.map_blank_rows, hc, hn]
    | valuesTable | assignments => cases h
  | valuesTable records tableName =>
    cases other with
    | valuesTable others otherName =>
      simp only [sameShape, Bool.and_eq_true, beq_iff_eq] at h
      obtain ⟨⟨hc, hn⟩, rfl⟩ := h
      simp only [items, List.map_append, List.map_cons, Item.map_blank_columnList,
        Item.map_blank_rows, hc, hn]
    | insert | assignments => cases h
  | assignments record omitted =>
    cases other with
    | assignments other otherOmitted =>
      have hc : (record.without omitted).map Prod.fst = (other.without otherOmitted).map Prod.fst :=
        beq_iff_eq.mp h
      simp only [items, Item.map_blank_assignments, hc]
    | insert | valuesTable => cases h

namespace Piece

mutual

private theorem map_blank_items {piece other : Piece} (h : piece.sameShape other) :
    piece.items.map Item.blank = other.items.map Item.blank := by
  cases piece with
  | text s =>
    cases other with
    | text t => rw [beq_iff_eq.mp h]
    | name | value | list | typed | record => cases h
  | name s =>
    cases other with
    | name t => rw [beq_iff_eq.mp h]
    | text | value | list | typed | record => cases h
  | value v =>
    cases other with
    | value w => rfl
    | text | name | list | typed | record => cases h
  | list vs =>
    cases other with
    | list ws => rw [items, items, Item.map_blank_row, Item.map_blank_row, beq_iff_eq.mp h]
    | text | name | value | typed | record => cases h
  | typed v =>
    cases other with
    | typed w => rfl
    | text | name | value | list | record => cases h
  | record form returning =>
    cases other with
    | record otherForm otherReturning =>
      obtain ⟨hf, hr⟩ := Bool.and_eq_true_iff.mp h
      rw [items, items, List.map_append, List.map_append, RecordForm.map_blank_items hf,
        map_blank_returningItems hr]
    | text | name | value | list | typed => cases h

private theorem map_blank_returningItems {returning other : Returning Piece}
    (h : sameShapeReturning returning other) :
    (returningItems returning).map Item.blank = (returningItems other).map Item.blank := by
  cases returning with
  | nothing =>
    cases other with
    | nothing => rfl
    | all | pieces => cases h
  | all =>
    cases other with
    | all => rfl
    | nothing | pieces => cases h
  | pieces pieces =>
    cases other with
    | pieces others =>
      rw [returningItems, returningItems, Item.map_blank_returning, Item.map_blank_returning,
        map_blank_listItems h]
    | nothing | all => cases h

theorem map_blank_listItems {pieces others : List Piece} (h : sameShapePieces pieces others) :
    (listItems pieces).map Item.blank = (listItems others).map Item.blank := by
  cases pieces with
  | nil =>
    cases others with
    | nil => rfl
    | cons => cases h
  | cons piece rest =>
    cases others with
    | nil => cases h
    | cons other others =>
      obtain ⟨hp, hr⟩ := Bool.and_eq_true_iff.mp h
      rw [listItems, listItems, List.map_append, List.map_append, map_blank_items hp,
        map_blank_listItems hr]

end

end Piece

@[simp] theorem length_boundValues_map_blank (items : List Item) :
    (boundValues (items.map Item.blank)).length = (boundValues items).length := by
  induction items with
  | nil => rfl
  | cons item rest ih => cases item <;> simpa [Item.blank] using ih

/-- A text whose placeholders do not look at the values is that of the items without values. -/
theorem Item.write_map_blank {spelling : Spelling}
    (h : ∀ position value other, spelling.placeholder position value =
      spelling.placeholder position other) (count : Nat) (items : List Item) :
    write spelling count (items.map blank) = write spelling count items := by
  induction items generalizing count with
  | nil => rfl
  | cons item rest ih =>
    cases item with
    | bound value => simp only [List.map_cons, blank, write_ofValue, write, ih, h _ .null value.value]
    | text | name | valuesWord | returningWord => simp only [List.map_cons, blank, write, ih]

private theorem placeholderText_of_none (dialect : Dialect) (position : Nat) (value other : Value) :
    placeholderText dialect none position value = placeholderText dialect none position other := by
  cases dialect <;> rfl

/-- What a template writes by position, and how much it binds, is told by its shape. -/
theorem Template.write_eq_of_sameShape {template other : Template} (h : template.sameShape other)
    (dialect : Dialect) (verbatim : Bool) (count : Nat) :
    Item.write (dialect.spelling verbatim none) count template.items =
        Item.write (dialect.spelling verbatim none) count other.items ∧
      (boundValues template.items).length = (boundValues other.items).length := by
  have hb : template.items.map Item.blank = other.items.map Item.blank := Piece.map_blank_listItems h
  have hp := placeholderText_of_none dialect
  constructor
  · rw [← Item.write_map_blank hp, hb, Item.write_map_blank hp]
  · rw [← length_boundValues_map_blank, hb, length_boundValues_map_blank]

/-- Values never reach the text. Templates of one shape are rendered and compiled to the same text
and to as many values, unless the options spell placeholders by value. -/
theorem sql_eq_of_sameShape {template other : Template} (h : template.sameShape other)
    {options : RenderOptions} (ho : options.placeholder = none) :
    (∀ renderer : Renderer,
      (renderer.render template options).sql = (renderer.render other options).sql ∧
        (renderer.render template options).params.length =
          (renderer.render other options).params.length) ∧
    ∀ compiler : GoogleSql.Compiler,
      (compiler.compile template options).sql = (compiler.compile other options).sql ∧
        (compiler.compile template options).bindings.values.length =
          (compiler.compile other options).bindings.values.length := by
  constructor
  · intro renderer
    obtain ⟨ht, hl⟩ := Template.write_eq_of_sameShape h renderer.dialect
      (options.verbatimNames || renderer.verbatimNames) 0
    rw [render_eq, render_eq, ho]
    exact ⟨ht, by simpa [Item.parts] using hl⟩
  · intro compiler
    obtain ⟨ht, hl⟩ := Template.write_eq_of_sameShape h compiler.renderer.dialect
      (options.verbatimNames || compiler.verbatimNames) 0
    rw [compiler.compile_eq, compiler.compile_eq, GoogleSql.Compiler.spelling, ho, ht]
    exact ⟨rfl, by simpa [Bindings.values_ofTyped] using hl⟩

/-- A text that would end the statement is bound like any other value, in a row that lacks a column
and in what the row hands back. -/
theorem sql_eq_of_sameShape_text :
    let statement (row : Record) (handedBack : List Value) : Template :=
      [.text "INSERT INTO t ", .record (.insert [Record.ofList [("a", Value.null), ("b", .null)], row])
        (.pieces [.name "a", .text " IN ", .list handedBack])]
    let template := statement (Record.ofList [("a", Value.text "\x27; DROP TABLE t; --")])
      [.bool true, .text "RETURNING"]
    let other := statement (Record.ofList [("b", Value.int 1), ("c", .int 2)]) [.null, .null]
    template.sameShape other = true ∧
      (GoogleSql.Compiler.compile {} template {}).sql = (GoogleSql.Compiler.compile {} other {}).sql ∧
      (GoogleSql.Compiler.compile {} other {}).sql = "INSERT INTO t (\x60a\x60,\x60b\x60) VALUES " ++
        "(@param1,@param2),(@param3,@param4) THEN RETURN \x60a\x60 IN (@param5,@param6)" := by
  intro statement template other
  have h : template.sameShape other = true := by decide
  refine ⟨h, ((sql_eq_of_sameShape h rfl).2 {}).1, ?_⟩
  rw [GoogleSql.Compiler.compile_eq, GoogleSql.thenReturn_eq]
  decide +kernel

end BoundSql
