import BoundSql.Value

/-!
# Records

A record is a row of named values. Its columns are distinct and keep the order in which they were
first set.
-/

namespace BoundSql

structure Record where
  fields : List (String × Value)
  distinct : (fields.map Prod.fst).Nodup

namespace Record

/-- Gives a column a value in its place, or adds the column at the end. -/
def putField (column : String) (value : Value) : List (String × Value) → List (String × Value)
  | [] => [(column, value)]
  | (c, v) :: rest => if c = column then (c, value) :: rest else (c, v) :: putField column value rest

theorem mem_columns_putField {column c : String} {value : Value} {fields : List (String × Value)}
    (h : c ∈ (putField column value fields).map Prod.fst) :
    c = column ∨ c ∈ fields.map Prod.fst := by
  induction fields with
  | nil => simpa [putField] using h
  | cons field rest ih =>
    obtain ⟨d, v⟩ := field
    by_cases hd : d = column
    · simp only [putField, hd, if_true, List.map_cons, List.mem_cons] at h ⊢
      exact h.imp_right .inr
    · simp only [putField, hd, if_false, List.map_cons, List.mem_cons] at h ⊢
      exact h.elim (fun h => .inr (.inl h)) fun h => (ih h).imp_right .inr

theorem nodup_columns_putField (column : String) (value : Value) {fields : List (String × Value)}
    (h : (fields.map Prod.fst).Nodup) :
    ((putField column value fields).map Prod.fst).Nodup := by
  induction fields with
  | nil => simp [putField]
  | cons field rest ih =>
    obtain ⟨d, v⟩ := field
    simp only [List.map_cons, List.nodup_cons] at h
    by_cases hd : d = column
    · simpa [putField, hd] using h
    · simp only [putField, hd, if_false, List.map_cons, List.nodup_cons]
      exact ⟨fun hm => (mem_columns_putField hm).elim hd h.1, ih h.2⟩

/-- A column that is there keeps its place and all the others. -/
theorem columns_putField_of_mem {column : String} {value : Value} {fields : List (String × Value)}
    (h : column ∈ fields.map Prod.fst) :
    (putField column value fields).map Prod.fst = fields.map Prod.fst := by
  induction fields with
  | nil => cases h
  | cons field rest ih =>
    obtain ⟨d, v⟩ := field
    by_cases hd : d = column
    · simp [putField, hd]
    · have hr : column ∈ rest.map Prod.fst := (List.mem_cons.mp h).resolve_left (Ne.symm hd)
      simp [putField, hd, ih hr]

theorem lookup_cons_field (c column : String) (value : Value) (rest : List (String × Value)) :
    ((column, value) :: rest).lookup c = if c = column then some value else rest.lookup c := by
  by_cases h : c = column
  · simp [h]
  · have hb : (c == column) = false := beq_eq_false_iff_ne.mpr h
    rw [List.lookup_cons, hb, if_neg h]

theorem lookup_putField (column c : String) (value : Value) (fields : List (String × Value)) :
    (putField column value fields).lookup c =
      if c = column then some value else fields.lookup c := by
  induction fields with
  | nil => exact lookup_cons_field c column value []
  | cons field rest ih =>
    obtain ⟨d, v⟩ := field
    by_cases hd : d = column
    · subst hd
      rw [putField, if_pos rfl, lookup_cons_field, lookup_cons_field]
      split <;> rfl
    · rw [putField, if_neg hd, lookup_cons_field, lookup_cons_field, ih]
      by_cases hc : c = d
      · subst hc
        rw [if_pos rfl, if_pos rfl, if_neg hd]
      · rw [if_neg hc, if_neg hc]

def empty : Record where
  fields := []
  distinct := List.nodup_nil

instance : Inhabited Record := ⟨empty⟩

def set {α : Type} [ToValue α] (record : Record) (column : String) (value : α) : Record where
  fields := putField column (toValue value) record.fields
  distinct := nodup_columns_putField column _ record.distinct

/-- Sets the columns one after another. -/
def ofList {α : Type} [ToValue α] (fields : List (String × α)) : Record :=
  fields.foldl (fun record field => record.set field.1 field.2) empty

def columns (record : Record) : List String :=
  record.fields.map Prod.fst

def get? (record : Record) (column : String) : Option Value :=
  record.fields.lookup column

theorem columns_set_of_mem {record : Record} {column : String} (h : column ∈ record.columns)
    (value : Value) : (record.set column value).columns = record.columns :=
  columns_putField_of_mem h

theorem get?_set (record : Record) (column c : String) (value : Value) :
    (record.set column value).get? c = if c = column then some value else record.get? c :=
  lookup_putField column c value record.fields

def size (record : Record) : Nat :=
  record.fields.length

def isEmpty (record : Record) : Bool :=
  record.fields.isEmpty

/-- The values of the given columns; a column that the record lacks reads as NULL. -/
def row (record : Record) (columns : List String) : List Value :=
  columns.map fun column => (record.get? column).getD .null

/-- The fields of all columns but the omitted ones. -/
def without (record : Record) (omitted : List String) : List (String × Value) :=
  record.fields.filter fun field => !omitted.contains field.1

instance : BEq Record where
  beq r s := r.fields == s.fields

/-- The columns of several records are those of the first. -/
def sharedColumns (records : List Record) : List String :=
  match records with
  | [] => []
  | first :: _ => first.columns

def rows (records : List Record) : List (List Value) :=
  records.map (·.row (sharedColumns records))

end Record

end BoundSql
