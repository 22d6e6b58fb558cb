import BoundSql.Proofs.FlatRendering

/-!
# Rows of records

Records are bound row by row in the columns of the first record, and written as one tuple of
placeholders for every row. So the place of a value among the parameters, and the number of its
placeholder, are told by its row and its column. Values in other columns are left unbound.
-/

namespace BoundSql

section Grid

variable {α : Type} {width : Nat} {rows : List (List α)}

/-- In row-major order the cell of a row and a column is told by their numbers. -/
theorem getElem?_flatten_of_width (h : ∀ row ∈ rows, row.length = width) {k : Nat}
    (hk : k < width) (r : Nat) : rows.flatten[r * width + k]? = rows[r]?.bind (·[k]?) := by
  induction rows generalizing r with
  | nil => simp
  | cons row rest ih =>
    obtain ⟨hl, hr⟩ := List.forall_mem_cons.mp h
    rw [List.flatten_cons]
    cases r with
    | zero =>
      rw [Nat.zero_mul, Nat.zero_add, List.getElem?_append_left (by omega)]
      rfl
    | succ r =>
      have hi : (r + 1) * width + k = row.length + (r * width + k) := by
        rw [Nat.succ_mul]
        omega
      rw [hi, List.getElem?_append_right (Nat.le_add_right _ _), Nat.add_sub_cancel_left, ih hr]
      rfl

private theorem length_flatten_of_width (h : ∀ row ∈ rows, row.length = width) :
    rows.flatten.length = rows.length * width := by
  induction rows with
  | nil => simp
  | cons row rest ih =>
    obtain ⟨hl, hr⟩ := List.forall_mem_cons.mp h
    rw [List.flatten_cons, List.length_append, hl, ih hr, List.length_cons, Nat.succ_mul]
    omega

end Grid

namespace Record

/-- The value of a record in a column; a column that it lacks reads as NULL. -/
def cell (record : Record) (column : String) : Value :=
  (record.get? column).getD .null

private theorem length_of_mem_rows {records : List Record} :
    ∀ row ∈ rows records, row.length = (sharedColumns records).length := by
  intro row hm
  obtain ⟨record, -, rfl⟩ := List.mem_map.mp hm
  exact List.length_map _

private theorem length_flatten_rows (records : List Record) :
    (rows records).flatten.length = records.length * (sharedColumns records).length := by
  rw [length_flatten_of_width length_of_mem_rows, rows, List.length_map]

private theorem getElem?_rows {records : List Record} {r k : Nat} {record : Record} {column : String}
    (hr : records[r]? = some record) (hk : (sharedColumns records)[k]? = some column) :
    (rows records)[r]?.bind (·[k]?) = some (record.cell column) := by
  rw [rows, List.getElem?_map, hr]
  exact (List.getElem?_map ..).trans (congrArg _ hk)

private theorem sharedColumns_set {records : List Record} {r : Nat} {record : Record}
    {column : String} (hr : records[r]? = some record) (hc : column ∈ record.columns)
    (value : Value) :
    sharedColumns (records.set r (record.set column value)) = sharedColumns records := by
  cases records with
  | nil => rfl
  | cons first rest =>
    cases r with
    | zero =>
      cases hr
      exact columns_set_of_mem hc value
    | succ r => rfl

private theorem row_set_of_notMem {columns : List String} {column : String} (hc : column ∉ columns)
    (record : Record) (value : Value) : (record.set column value).row columns = record.row columns := by
  apply List.map_congr_left
  intro c hm
  have hne : c ≠ column := fun he => hc (he ▸ hm)
  rw [get?_set, if_neg hne]

private theorem rows_set_of_notMem {records : List Record} {r : Nat} {record : Record}
    {column : String} (hr : records[r]? = some record) (hc : column ∈ record.columns)
    (hn : column ∉ sharedColumns records) (value : Value) :
    rows (records.set r (record.set column value)) = rows records := by
  obtain ⟨hlt, rfl⟩ := List.getElem?_eq_some_iff.mp hr
  have hlen : r < (rows records).length := by rwa [rows, List.length_map]
  have hrow : records[r].row (sharedColumns records) = (rows records)[r] := by
    simp only [rows, List.getElem_map]
  rw [rows, sharedColumns_set hr hc, List.map_set, row_set_of_notMem hn, hrow]
  exact List.set_getElem_self hlen

end Record

/-- Records as rows to insert, or as the rows of a table with the given name. -/
def RecordForm.ofRows (records : List Record) : Option String → RecordForm
  | none => .insert records
  | some tableName => .valuesTable records tableName

namespace Spelling

variable (spelling : Spelling)

/-- The text of rows together with the columns that are named for them. -/
def rowsText (tableName : Option String) (columns : List String) (rows : String) : String :=
  let names := tuple (columns.map spelling.name)
  match tableName with
  | none => names ++ " VALUES " ++ rows
  | some name => "(" ++ spelling.valuesWord ++ " " ++ rows ++ ") AS " ++ spelling.name name ++ names

/-- What stands for the values of rows of one width when `count` values are bound before them. -/
def grid (count width : Nat) (rows : List (List Value)) : List (List String) :=
  rows.mapIdx fun r row =>
    row.mapIdx fun k value => spelling.placeholder (count + r * width + k + 1) value

private theorem grid_cons (count width : Nat) (row : List Value) (rows : List (List Value)) :
    spelling.grid count width (row :: rows) =
      (row.mapIdx fun k value => spelling.placeholder (count + k + 1) value) ::
        spelling.grid (count + width) width rows := by
  simp only [grid, List.mapIdx_cons, Nat.zero_mul, Nat.zero_add, Nat.succ_mul, Nat.add_assoc,
    Nat.add_left_comm width]

private theorem length_grid (count width : Nat) (rows : List (List Value)) :
    (spelling.grid count width rows).length = rows.length :=
  List.length_mapIdx

private theorem length_of_mem_grid {count width : Nat} {rows : List (List Value)}
    (h : ∀ row ∈ rows, row.length = width) :
    ∀ row ∈ spelling.grid count width rows, row.length = width := by
  intro row hm
  obtain ⟨r, hr, rfl⟩ := List.mem_mapIdx.mp hm
  rw [List.length_mapIdx]
  exact h _ (List.getElem_mem hr)

private theorem getElem?_grid (count width : Nat) (rows : List (List Value)) (r k : Nat) :
    (spelling.grid count width rows)[r]?.bind (·[k]?) =
      (rows[r]?.bind (·[k]?)).map (spelling.placeholder (count + r * width + k + 1)) := by
  rw [grid, List.getElem?_mapIdx]
  cases rows[r]? with
  | none => rfl
  | some row => exact List.getElem?_mapIdx

end Spelling

namespace Item

variable {spelling : Spelling}

private theorem writeEach_values (count : Nat) (values : List Value) :
    writeEach spelling count (values.map fun value => [ofValue value]) =
      values.mapIdx fun k value => spelling.placeholder (count + k + 1) value := by
  induction values generalizing count with
  | nil => rfl
  | cons value rest ih =>
    have hw : write spelling count [ofValue value] = spelling.placeholder (count + 1) value :=
      String.append_empty
    rw [List.map_cons, writeEach, hw, ih, List.mapIdx_cons]
    simp only [boundValues_ofValue, boundValues_nil, List.length_singleton, Nat.add_zero,
      Nat.add_assoc, Nat.add_comm 1]

theorem writeEach_rows {width : Nat} {rows : List (List Value)}
    (h : ∀ row ∈ rows, row.length = width) (count : Nat) :
    writeEach spelling count (rows.map row) =
      (spelling.grid count width rows).map BoundSql.tuple := by
  induction rows generalizing count with
  | nil => rfl
  | cons first rest ih =>
    obtain ⟨hl, hr⟩ := List.forall_mem_cons.mp h
    rw [List.map_cons, writeEach, ih hr, row, write_tuple, writeEach_values, Spelling.grid_cons,
      List.map_cons, ← row, boundValues_row, List.length_map, hl]

theorem write_ofRows (count : Nat) (records : List Record) (tableName : Option String) :
    write spelling count (RecordForm.ofRows records tableName).items =
      spelling.rowsText tableName (Record.sharedColumns records) (String.intercalate ","
        ((spelling.grid count (Record.sharedColumns records).length (Record.rows records)).map
          BoundSql.tuple)) := by
  rw [← writeEach_rows Record.length_of_mem_rows, ← write_separated]
  cases tableName with
  | none => exact write_insert records
  | some name => exact write_valuesTable records name

end Item

section Rows

variable (renderer : Renderer) (verbatim : Bool) (binder : Binder) (tableName : Option String)
  (returning : Returning Piece) (records : List Record)

/-- What records are rendered to together with what they hand back, and the binder that is left. -/
def Renderer.renderRows : Parts × Binder :=
  (renderer.renderIn [.record (.ofRows records tableName) returning] verbatim).run binder

private theorem items_ofRows_congr {others : List Record}
    (hc : Record.sharedColumns records = Record.sharedColumns others)
    (hr : Record.rows records = Record.rows others) :
    (RecordForm.ofRows records tableName).items = (RecordForm.ofRows others tableName).items := by
  cases tableName <;> simp only [RecordForm.ofRows, RecordForm.items, hc, hr]

private theorem values_ofRows :
    (RecordForm.ofRows records tableName).values = (Record.rows records).flatten := by
  cases tableName <;> rfl

private theorem length_values_ofRows : (RecordForm.ofRows records tableName).values.length =
    records.length * (Record.sharedColumns records).length := by
  rw [values_ofRows, Record.length_flatten_rows]

theorem renderRows_eq :
    renderer.renderRows verbatim binder tableName returning records =
      (Item.parts (renderer.dialect.spelling (verbatim || renderer.verbatimNames) binder.placeholder)
          binder.count
          ((RecordForm.ofRows records tableName).items ++ Piece.returningItems returning),
        binder.bindAll (boundValues
          ((RecordForm.ofRows records tableName).items ++ Piece.returningItems returning))) := by
  have ht : Template.items [.record (.ofRows records tableName) returning] =
      (RecordForm.ofRows records tableName).items ++ Piece.returningItems returning :=
    List.append_nil _
  rw [Renderer.renderRows, run_renderIn, ht]

theorem sql_renderRows :
    let m := (Record.sharedColumns records).length
    let spelling :=
      renderer.dialect.spelling (verbatim || renderer.verbatimNames) binder.placeholder
    (renderer.renderRows verbatim binder tableName returning records).1.sql =
      spelling.rowsText tableName (Record.sharedColumns records) (String.intercalate ","
          ((spelling.grid binder.count m (Record.rows records)).map tuple)) ++
        Item.write spelling (binder.count + records.length * m)
          (Piece.returningItems returning) := by
  intro m spelling
  simp only [renderRows_eq, Item.parts, Item.write_append, Item.write_ofRows,
    RecordForm.boundValues_items, List.length_map, length_values_ofRows]
  rfl

theorem params_renderRows :
    (renderer.renderRows verbatim binder tableName returning records).1.params =
      (Record.rows records).flatten ++
        (boundValues (Piece.returningItems returning)).map TypedValue.value := by
  simp only [renderRows_eq, Item.parts, boundValues_append, RecordForm.boundValues_items,
    List.map_append, map_value_plain, values_ofRows]

variable {records}

/-- The value of a row in a column of the first row, at its place among the parameters. -/
theorem getElem?_params_renderRows {r k : Nat} {record : Record} {column : String}
    (hr : records[r]? = some record) (hk : (Record.sharedColumns records)[k]? = some column) :
    (renderer.renderRows verbatim binder tableName returning records).1.params[
        r * (Record.sharedColumns records).length + k]? = some (record.cell column) := by
  obtain ⟨hlt, -⟩ := List.getElem?_eq_some_iff.mp hk
  have hcell : (Record.rows records).flatten[r * (Record.sharedColumns records).length + k]? =
      some (record.cell column) := by
    rw [getElem?_flatten_of_width Record.length_of_mem_rows hlt]
    exact Record.getElem?_rows hr hk
  obtain ⟨hlen, -⟩ := List.getElem?_eq_some_iff.mp hcell
  rw [params_renderRows, List.getElem?_append_left hlen, hcell]

/-- A value can be replaced by any other without a trace exactly if the first row lacks its column. -/
theorem renderRows_set_iff {r : Nat} {record : Record} {column : String}
    (hr : records[r]? = some record) (hc : column ∈ record.columns) :
    (∀ value : Value,
        renderer.renderRows verbatim binder tableName returning
            (records.set r (record.set column value)) =
          renderer.renderRows verbatim binder tableName returning records) ↔
      column ∉ Record.sharedColumns records := by
  constructor
  · intro h hm
    obtain ⟨k, hk⟩ := List.mem_iff_getElem?.mp hm
    have hvalue : ∀ value : Value, some value = some (record.cell column) := by
      intro value
      have hs := Record.sharedColumns_set hr hc value
      obtain ⟨hlt, -⟩ := List.getElem?_eq_some_iff.mp hr
      have hset : (records.set r (record.set column value))[r]? = some (record.set column value) :=
        List.getElem?_set_self hlt
      have hp := getElem?_params_renderRows renderer verbatim binder tableName returning hset
        (hs.symm ▸ hk)
      have hcell : (record.set column value).cell column = value := by
        rw [Record.cell, Record.get?_set, if_pos rfl]
        rfl
      rw [hs, hcell, h value, getElem?_params_renderRows renderer verbatim binder tableName
        returning hr hk] at hp
      exact hp.symm
    have hn : Value.null = .bool true :=
      Option.some.inj ((hvalue .null).trans (hvalue (.bool true)).symm)
    cases hn
  · intro hm value
    rw [renderRows_eq, renderRows_eq, items_ofRows_congr tableName records
      (Record.sharedColumns_set hr hc value).symm (Record.rows_set_of_notMem hr hc hm value).symm]

/-- What is handed back goes on behind the rows: its j-th value is the j-th parameter behind theirs, and
its placeholder counts on from them. -/
theorem clause_renderRows {before after : List Item} {typed : TypedValue}
    (h : Piece.returningItems returning = before ++ .bound typed :: after) :
    let start := records.length * (Record.sharedColumns records).length
    let spelling :=
      renderer.dialect.spelling (verbatim || renderer.verbatimNames) binder.placeholder
    let j := (boundValues before).length
    (renderer.renderRows verbatim binder tableName returning records).1.params[start + j]? =
        some typed.value ∧
      Item.write spelling (binder.count + start) (Piece.returningItems returning) =
        Item.write spelling (binder.count + start) before ++
          placeholderText renderer.dialect binder.placeholder (binder.count + start + j + 1)
            typed.value ++
          Item.write spelling (binder.count + start + j + 1) after := by
  intro start spelling j
  have hlen : (Record.rows records).flatten.length = start := Record.length_flatten_rows records
  constructor
  · rw [params_renderRows, List.getElem?_append_right (by omega), hlen, Nat.add_sub_cancel_left, h]
    simp [j]
  · rw [h, Item.write_append, Item.write, ← String.append_assoc]
    rfl

variable (records)

/-- Rows are bound in row-major order in the columns of the first row. Every row is written as a tuple
of as many placeholders as there are columns, a column that a row lacks is bound as NULL, and what is
handed back goes on where the rows have ended. A value is left unbound, so that any other in its place
changes nothing, exactly if the first row lacks its column. -/
theorem renderRows_row_major :
    let columns := Record.sharedColumns records
    let m := columns.length
    let start := records.length * m
    let spelling :=
      renderer.dialect.spelling (verbatim || renderer.verbatimNames) binder.placeholder
    let rendered := renderer.renderRows verbatim binder tableName returning records
    ∃ placeholders : List (List String),
      rendered.1.sql =
          spelling.rowsText tableName columns (String.intercalate "," (placeholders.map tuple)) ++
            Item.write spelling (binder.count + start) (Piece.returningItems returning) ∧
        (placeholders.length = records.length ∧ ∀ row ∈ placeholders, row.length = m) ∧
        (∀ r k record column, records[r]? = some record → columns[k]? = some column →
          rendered.1.params[r * m + k]? = some (record.cell column) ∧
            placeholders[r]?.bind (·[k]?) = some (placeholderText renderer.dialect
              binder.placeholder (binder.count + r * m + k + 1) (record.cell column))) ∧
        rendered.1.params.drop start =
          (boundValues (Piece.returningItems returning)).map TypedValue.value ∧
        (∀ before typed after, Piece.returningItems returning = before ++ .bound typed :: after →
          let j := (boundValues before).length
          rendered.1.params[start + j]? = some typed.value ∧
            Item.write spelling (binder.count + start) (Piece.returningItems returning) =
              Item.write spelling (binder.count + start) before ++
                placeholderText renderer.dialect binder.placeholder (binder.count + start + j + 1)
                  typed.value ++
                Item.write spelling (binder.count + start + j + 1) after) ∧
        ∀ r record column, records[r]? = some record → column ∈ record.columns →
          ((∀ value : Value,
              renderer.renderRows verbatim binder tableName returning
                (records.set r (record.set column value)) = rendered) ↔
            column ∉ columns) := by
  intro columns m start spelling rendered
  have hwidth : ∀ row ∈ Record.rows records, row.length = m := Record.length_of_mem_rows
  have hlen : (Record.rows records).flatten.length = start := Record.length_flatten_rows records
  refine ⟨spelling.grid binder.count m (Record.rows records), ?text, ⟨?rows, ?width⟩, ?cells, ?rest,
    ?clause, ?unbound⟩
  case text => exact sql_renderRows renderer verbatim binder tableName returning records
  case rows => rw [Spelling.length_grid, Record.rows, List.length_map]
  case width => exact spelling.length_of_mem_grid hwidth
  case cells =>
    intro r k record column hr hk
    refine ⟨getElem?_params_renderRows renderer verbatim binder tableName returning hr hk, ?_⟩
    rw [Spelling.getElem?_grid, Record.getElem?_rows hr hk]
    rfl
  case rest => rw [params_renderRows, ← hlen, List.drop_left]
  case clause =>
    intro before typed after h
    exact clause_renderRows renderer verbatim binder tableName returning h
  case unbound =>
    intro r record column hr hc
    exact renderRows_set_iff renderer verbatim binder tableName returning hr hc

/-- The second row lacks a column of the first and has one of its own, and a value is handed back. -/
theorem renderRows_row_major_ragged :
    let ragged := Record.ofList [("c", Value.int 3), ("b", .int 4)]
    let records := [Record.ofList [("a", Value.int 1), ("b", .int 2)], ragged]
    let render (records : List Record) :=
      Renderer.renderRows { dialect := .googleSql none } false { count := 5 } (some "t")
        (.pieces [.name "a", .value (.int 9)]) records
    (render records).1.params[2]? = some .null ∧ (render records).1.params[3]? = some (.int 4) ∧
      (render records).1.params[4]? = some (.int 9) ∧
      (render records).1.sql = "(VALUES (@param6,@param7),(@param8,@param9)) AS " ++
        "\x60t\x60(\x60a\x60,\x60b\x60) RETURNING \x60a\x60@param10" ∧
      ∀ value : Value, render (records.set 1 (ragged.set "c" value)) = render records := by
  intro ragged records render
  obtain ⟨placeholders, -, -, hcell, -, hclause, hunbound⟩ :=
    renderRows_row_major { dialect := .googleSql none } false { count := 5 } (some "t")
      (.pieces [.name "a", .value (.int 9)]) records
  refine ⟨(hcell 1 0 ragged "a" rfl rfl).1, (hcell 1 1 ragged "b" rfl rfl).1, ?_, ?_, ?_⟩
  · exact (hclause [.text " ", .returningWord, .text " ", .name "a"] (.plain (.int 9)) [] rfl).1
  · decide +kernel
  · exact (hunbound 1 ragged "c" rfl (by decide)).mpr (by decide)

end Rows

end BoundSql
