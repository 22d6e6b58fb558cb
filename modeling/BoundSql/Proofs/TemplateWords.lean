import BoundSql.Proofs.FlatTemplates

/-!
# The words of a template

The words of a template are its texts and the names that it quotes, at any depth. Around them stand
only a few fixed marks, bound values and two words of the dialect. So what holds of all these holds of
every item.
-/

namespace BoundSql

/-- The names that records write, in the order of their items. -/
def RecordForm.names : RecordForm → List String
  | .insert records => Record.sharedColumns records
  | .valuesTable records tableName => tableName :: Record.sharedColumns records
  | .assignments record omitted => (record.without omitted).map Prod.fst

/-- The texts that are written around names and values, whatever the template says. -/
def Item.marks : List String :=
  ["(", ")", ",", ", ", " ", " = ", " VALUES ", ") AS ", "*"]

private theorem Item.forall_mem_separated {P : Item → Prop} {separator : String}
    {groups : List (List Item)}
    (hs : P (.text separator)) (hg : ∀ group ∈ groups, ∀ item ∈ group, P item) :
    ∀ item ∈ separated separator groups, P item := by
  induction groups with
  | nil => simp [separated]
  | cons group rest ih =>
    have hr := ih fun g hm => hg g (.tail _ hm)
    have hh : ∀ item ∈ group, P item := hg group (.head _)
    cases rest with
    | nil => simpa [separated] using hh
    | cons next rest =>
      rw [separated_cons_cons, List.forall_mem_append, List.forall_mem_cons]
      exact ⟨hh, hs, hr⟩

section Marks

variable {P : Item → Prop} (hm : ∀ mark ∈ Item.marks, P (.text mark))

include hm

theorem Item.forall_mem_tuple {groups : List (List Item)}
    (hg : ∀ group ∈ groups, ∀ item ∈ group, P item) : ∀ item ∈ tuple groups, P item := by
  simp only [tuple, List.forall_mem_append, List.forall_mem_cons]
  exact ⟨⟨hm _ (by decide), forall_mem_separated (hm _ (by decide)) hg⟩, hm _ (by decide), by simp⟩

private theorem Item.forall_mem_columnList {columns : List String}
    (hn : ∀ name ∈ columns, P (.name name)) :
    ∀ item ∈ columnList columns, P item := by
  apply forall_mem_tuple hm
  simpa using hn

private theorem Item.forall_mem_rows (hb : ∀ value, P (.bound value)) (groups : List (List Value)) :
    ∀ item ∈ rows groups, P item := by
  apply forall_mem_separated (hm _ (by decide))
  intro group hg
  obtain ⟨values, -, rfl⟩ := List.mem_map.mp hg
  apply forall_mem_tuple hm
  simp [ofValue, hb]

/-- What holds of the marks, of bound values and of the names of records holds of all their items. -/
theorem RecordForm.forall_mem_items (hb : ∀ value, P (.bound value)) (hv : P .valuesWord)
    {form : RecordForm} (hn : ∀ name ∈ form.names, P (.name name)) :
    ∀ item ∈ form.items, P item := by
  cases form with
  | insert records =>
    simp only [items, List.forall_mem_append, List.forall_mem_cons]
    exact ⟨Item.forall_mem_columnList hm hn, hm _ (by decide), Item.forall_mem_rows hm hb _⟩
  | valuesTable records tableName =>
    obtain ⟨htable, hcolumns⟩ := List.forall_mem_cons.mp hn
    simp only [items, List.forall_mem_append, List.forall_mem_cons]
    exact ⟨⟨hm _ (by decide), hv, hm _ (by decide), Item.forall_mem_rows hm hb _⟩,
      hm _ (by decide), htable, Item.forall_mem_columnList hm hcolumns⟩
  | assignments record omitted =>
    apply Item.forall_mem_separated (hm _ (by decide))
    intro group hg
    obtain ⟨field, hf, rfl⟩ := List.mem_map.mp hg
    have hname : P (.name field.1) := hn _ (List.mem_map_of_mem hf)
    have hmark : P (.text " = ") := hm _ (by decide)
    simp [Item.assignment, Item.ofValue, hname, hmark, hb]

end Marks

/-- The text of a piece that is rendered as it stands. -/
def Piece.texts : Piece → List String
  | .text s => [s]
  | _ => []

/-- The names, columns and table names of a piece that are quoted. -/
def Piece.names : Piece → List String
  | .name s => [s]
  | .record form _ => form.names
  | _ => []

def Template.literals (template : Template) : List String :=
  template.gather Piece.texts

def Template.names (template : Template) : List String :=
  template.gather Piece.names

/-- The property holds of everything that is written besides the words of a template. -/
structure Item.HoldsAroundWords (P : Item → Prop) : Prop where
  mark : ∀ mark ∈ Item.marks, P (.text mark)
  bound : ∀ value, P (.bound value)
  valuesWord : P .valuesWord
  returningWord : P .returningWord

section Words

variable {P : Item → Prop} (h : Item.HoldsAroundWords P)

include h

theorem Item.HoldsAroundWords.returning : ∀ item ∈ Item.returning [.text "*"], P item := by
  have hblank : P (.text " ") := h.mark _ (by decide)
  have hstar : P (.text "*") := h.mark _ (by decide)
  simp [Item.returning, hblank, hstar, h.returningWord]

theorem Item.HoldsAroundWords.ownItems {piece : Piece} (ht : ∀ s ∈ piece.texts, P (.text s))
    (hn : ∀ s ∈ piece.names, P (.name s)) : ∀ item ∈ piece.ownItems, P item := by
  cases piece with
  | text s => simpa [Piece.ownItems, Piece.items, Piece.texts] using ht
  | name s => simpa [Piece.ownItems, Piece.items, Piece.names] using hn
  | value v => simpa [Piece.ownItems, Piece.items, Item.ofValue] using h.bound _
  | list vs =>
    apply Item.forall_mem_tuple h.mark
    simp [Item.ofValue, h.bound]
  | typed v => simpa [Piece.ownItems, Piece.items] using h.bound v
  | record form returning => exact RecordForm.forall_mem_items h.mark h.bound h.valuesWord hn

/-- What holds of the words of a template and of all that is written around them holds of every
item. -/
theorem Item.HoldsAroundWords.forall_mem_items {template : Template}
    (ht : ∀ s ∈ template.literals, P (.text s)) (hn : ∀ s ∈ template.names, P (.name s)) :
    ∀ item ∈ template.items, P item := by
  refine Template.forall_mem_items h.returning template fun piece hp => h.ownItems ?texts ?names
  case texts => exact fun s hs => ht s (List.mem_flatMap_of_mem hp hs)
  case names => exact fun s hs => hn s (List.mem_flatMap_of_mem hp hs)

end Words

end BoundSql
