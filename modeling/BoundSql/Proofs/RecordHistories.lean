import BoundSql.Template

/-!
# Histories of records

A record keeps a column where it was first set and with the value that was last set. So the columns are
told by their first appearances in the history of the record, and the values by going through it
backwards. Assignments take the fields over in this order, without the columns that they leave out.
-/

namespace BoundSql

namespace Record

private theorem columns_putField_of_notMem {column : String} {value : Value}
    {fields : List (String × Value)} (h : column ∉ fields.map Prod.fst) :
    (putField column value fields).map Prod.fst = fields.map Prod.fst ++ [column] := by
  induction fields with
  | nil => rfl
  | cons field rest ih =>
    obtain ⟨d, v⟩ := field
    obtain ⟨hd, hr⟩ := List.ne_and_not_mem_of_not_mem_cons h
    rw [putField, if_neg hd.symm, List.map_cons, ih hr, List.map_cons, List.cons_append]

private theorem set_toValue {α : Type} [ToValue α] (record : Record) (column : String) (value : α) :
    record.set column (toValue value) = record.set column value := rfl

theorem columns_set (record : Record) (column : String) (value : Value) :
    (record.set column value).columns =
      if column ∈ record.columns then record.columns else record.columns ++ [column] := by
  split
  · next h => exact columns_set_of_mem h value
  · next h => exact columns_putField_of_notMem h

/-- The record comes about by setting columns one after another, with data of any types. -/
inductive SetBy : List (String × Value) → Record → Prop
  | empty : SetBy [] empty
  | set {α : Type} [ToValue α] {history : List (String × Value)} {record : Record} (column : String)
      (value : α) : SetBy history record →
      SetBy (history ++ [(column, toValue value)]) (record.set column value)

theorem SetBy.foldl {α : Type} [ToValue α] {history : List (String × Value)} {record : Record}
    (h : SetBy history record) (fields : List (String × α)) :
    SetBy (history ++ fields.map fun field => (field.1, toValue field.2))
      (fields.foldl (fun record field => record.set field.1 field.2) record) := by
  induction fields generalizing history record with
  | nil => simpa using h
  | cons field rest ih => simpa using ih (h.set field.1 field.2)

theorem setBy_ofList {α : Type} [ToValue α] (fields : List (String × α)) :
    SetBy (fields.map fun field => (field.1, toValue field.2)) (ofList fields) :=
  SetBy.empty.foldl fields

private theorem eraseDups_concat (columns : List String) (column : String) :
    (columns ++ [column]).eraseDups =
      if column ∈ columns then columns.eraseDups else columns.eraseDups ++ [column] := by
  rw [List.eraseDups_append]
  split
  · next h => simp [List.removeAll, h]
  · next h => simp [List.removeAll, h, List.eraseDups_cons]

private theorem lookup_of_mem {fields : List (String × Value)} (hn : (fields.map Prod.fst).Nodup)
    {field : String × Value} (h : field ∈ fields) : fields.lookup field.1 = some field.2 := by
  induction fields with
  | nil => cases h
  | cons first rest ih =>
    obtain ⟨c, v⟩ := first
    obtain ⟨hc, hr⟩ := List.nodup_cons.mp hn
    rw [lookup_cons_field]
    rcases List.mem_cons.mp h with rfl | hm
    · exact if_pos rfl
    · have hne : field.1 ≠ c := fun he => hc (he ▸ List.mem_map.mpr ⟨field, hm, rfl⟩)
      rw [if_neg hne, ih hr hm]

theorem fields_eq (record : Record) :
    record.fields.map (fun field => (field.1, some field.2)) =
      record.columns.map fun column => (column, record.get? column) := by
  rw [columns, List.map_map]
  apply List.map_congr_left
  intro field hm
  exact congrArg _ (lookup_of_mem record.distinct hm).symm

namespace SetBy

variable {history : List (String × Value)} {record : Record}

theorem columns_eq (h : SetBy history record) :
    record.columns = (history.map Prod.fst).eraseDups := by
  induction h with
  | empty => rfl
  | @set _ _ history record column value _ ih =>
    rw [← set_toValue, columns_set, List.map_append, List.map_singleton, eraseDups_concat, ih]
    simp only [List.mem_eraseDups]

theorem get?_eq (h : SetBy history record) (column : String) :
    record.get? column = history.reverse.lookup column := by
  induction h with
  | empty => rfl
  | set c value _ ih =>
    rw [← set_toValue, get?_set, ih, List.reverse_append, List.reverse_singleton,
      List.singleton_append, lookup_cons_field]

end SetBy

end Record

private theorem RecordForm.foldl_leaveOut (record : Record) (omitted : List String)
    (lists : List (List String)) :
    lists.foldl RecordForm.leaveOut (.assignments record omitted) =
      .assignments record (omitted ++ lists.flatten) := by
  induction lists generalizing omitted with
  | nil => simp
  | cons columns rest ih =>
    rw [List.foldl_cons, leaveOut, ih, List.flatten_cons, List.append_assoc]

private theorem Record.without_flatten (record : Record) (lists : List (List String)) :
    record.without lists.flatten =
      record.fields.filter fun field => ∀ columns ∈ lists, field.1 ∉ columns := by
  apply List.filter_congr
  intro field _
  rw [Bool.eq_iff_iff]
  simp

namespace Record

/-- The columns of a record that is set step by step are the distinct columns of its history in order of
first appearance, each with the value that was set last. Assignments of a record assign the fields whose
columns are in none of the lists that are left out. A record of a list of fields has this list as its
history. -/
theorem fields_follow_history :
    (∀ (history : List (String × Value)) (record : Record), SetBy history record →
      record.columns.Nodup ∧ record.columns = (history.map Prod.fst).eraseDups ∧
        (∀ column, record.get? column = history.reverse.lookup column) ∧
        record.fields.map (fun field => (field.1, some field.2)) =
          record.columns.map fun column => (column, record.get? column)) ∧
    (∀ (record : Record) (lists : List (List String)), ∃ omitted,
      lists.foldl RecordForm.leaveOut (.assignments record []) = .assignments record omitted ∧
        record.without omitted =
          record.fields.filter fun field => ∀ columns ∈ lists, field.1 ∉ columns) ∧
    ∀ {α : Type} [ToValue α] (fields : List (String × α)),
      SetBy (fields.map fun field => (field.1, toValue field.2)) (ofList fields) := by
  refine ⟨fun history record h => ?_, fun record lists => ?_, setBy_ofList⟩
  · exact ⟨record.distinct, h.columns_eq, h.get?_eq, record.fields_eq⟩
  · exact ⟨lists.flatten, RecordForm.foldl_leaveOut record [] lists, record.without_flatten lists⟩

/-- A column that is set again keeps its place, and its value may come from data of another type. -/
theorem fields_follow_history_of_repeated_column :
    let history : List (String × Value) := [("a", .bool true), ("b", .text "x"), ("a", .null)]
    let record := ((empty.set "a" true).set "b" "x").set "a" (none : Option Int64)
    SetBy history record ∧ record.columns = ["a", "b"] ∧ record.get? "a" = some .null ∧
      record.get? "c" = none := by
  intro history record
  have h : SetBy history record := .set "a" (none : Option Int64) (.set "b" "x" (.set "a" true .empty))
  obtain ⟨-, hcolumns, hget, -⟩ := fields_follow_history.1 history record h
  have herase : (history.map Prod.fst).eraseDups = ["a", "b"] := by decide
  exact ⟨h, hcolumns.trans herase, hget "a", hget "c"⟩

end Record

end BoundSql
