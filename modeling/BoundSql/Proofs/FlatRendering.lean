import BoundSql.Proofs.FlatTemplates
import BoundSql.Rendering

/-!
# Rendering is writing the flat template

Whatever a binder has counted before, rendering a template writes its items one after the other and
hands the bound values to the binder in the same order. So the k-th value met is the k-th parameter,
and its placeholder stands where the value is met. Templates that stand one after the other are rendered
one after the other, and what a record hands back as if it stood behind the record.
-/

namespace BoundSql

/-- What stands for a value: what the options say of the value, or else what the dialect says of
the position. -/
def placeholderText (dialect : Dialect) (override : Option (Value → String)) (position : Nat)
    (value : Value) : String :=
  match override, dialect with
  | some spell, _ => spell value
  | none, .generic => "?"
  | none, .googleSql _ => "@param" ++ Nat.repr position

def Dialect.spelling (dialect : Dialect) (verbatim : Bool) (override : Option (Value → String)) :
    Spelling where
  name := dialect.quoteName verbatim
  placeholder := placeholderText dialect override
  valuesWord := match dialect with
    | .generic => "values"
    | .googleSql _ => "VALUES"
  returningWord := "RETURNING"

namespace Binder

/-- Counts a value and keeps the type declared for it, or else the type that it has by itself. -/
def bindTyped (binder : Binder) (typed : TypedValue) : Binder :=
  let noted := binder.note typed.value
  match typed.resolve with
  | some type => noted.recordDeclared noted.count type
  | none => noted

def bindAll (binder : Binder) (values : List TypedValue) : Binder :=
  values.foldl bindTyped binder

@[simp] theorem bindAll_nil (binder : Binder) : binder.bindAll [] = binder := rfl

@[simp] theorem bindAll_cons (binder : Binder) (typed : TypedValue) (rest : List TypedValue) :
    binder.bindAll (typed :: rest) = (binder.bindTyped typed).bindAll rest := rfl

@[simp] theorem bindAll_append (binder : Binder) (values others : List TypedValue) :
    binder.bindAll (values ++ others) = (binder.bindAll values).bindAll others :=
  List.foldl_append

theorem modifySlot_frame (binder : Binder) (change : Slot → Slot) (position : Nat) :
    (binder.modifySlot change position).count = binder.count ∧
      (binder.modifySlot change position).placeholder = binder.placeholder := by
  cases position <;> exact ⟨rfl, rfl⟩

theorem note_frame (binder : Binder) (value : Value) :
    (binder.note value).count = binder.count + 1 ∧
      (binder.note value).placeholder = binder.placeholder := by
  unfold note
  cases value.wireType with
  | ok type => exact modifySlot_frame _ _ _
  | error _ => exact ⟨rfl, rfl⟩

theorem bindTyped_frame (binder : Binder) (typed : TypedValue) :
    (binder.bindTyped typed).count = binder.count + 1 ∧
      (binder.bindTyped typed).placeholder = binder.placeholder := by
  have hn := note_frame binder typed.value
  unfold bindTyped
  cases typed.resolve with
  | some type =>
    obtain ⟨hc, hp⟩ := modifySlot_frame (binder.note typed.value) (fun _ => .declared type)
      (binder.note typed.value).count
    exact ⟨hc.trans hn.1, hp.trans hn.2⟩
  | none => exact hn

/-- Binding counts every value and leaves the placeholders as they were asked for. -/
theorem bindAll_frame (binder : Binder) (values : List TypedValue) :
    (binder.bindAll values).count = binder.count + values.length ∧
      (binder.bindAll values).placeholder = binder.placeholder := by
  induction values generalizing binder with
  | nil => exact ⟨rfl, rfl⟩
  | cons typed rest ih =>
    obtain ⟨hc, hp⟩ := bindTyped_frame binder typed
    obtain ⟨hc', hp'⟩ := ih (binder.bindTyped typed)
    refine ⟨?_, hp'.trans hp⟩
    rw [bindAll_cons, hc', hc, List.length_cons]
    omega

@[simp] theorem count_bindAll (binder : Binder) (values : List TypedValue) :
    (binder.bindAll values).count = binder.count + values.length :=
  (bindAll_frame binder values).1

@[simp] theorem placeholder_bindAll (binder : Binder) (values : List TypedValue) :
    (binder.bindAll values).placeholder = binder.placeholder :=
  (bindAll_frame binder values).2

end Binder

/-- The action writes the items, and binds their values. -/
def Writes (dialect : Dialect) (verbatim : Bool) (action : StateM Binder String)
    (items : List Item) : Prop :=
  ∀ binder, action.run binder =
    (Item.write (dialect.spelling verbatim binder.placeholder) binder.count items,
      binder.bindAll (boundValues items))

/-- The action renders the items: it writes them, binds their values and returns these. -/
def Renders (dialect : Dialect) (verbatim : Bool) (action : StateM Binder Parts)
    (items : List Item) : Prop :=
  ∀ binder, action.run binder =
    (Item.parts (dialect.spelling verbatim binder.placeholder) binder.count items,
      binder.bindAll (boundValues items))

private theorem run_bind {α β : Type} (action : StateM Binder α) (next : α → StateM Binder β)
    (binder : Binder) :
    (action >>= next).run binder = (next (action.run binder).1).run (action.run binder).2 := rfl

private theorem run_pure {α : Type} (a : α) (binder : Binder) :
    (pure a : StateM Binder α).run binder = (a, binder) := rfl

/-- The action renders the items in a spelling that is told by how the options ask for
placeholders. -/
def RendersAs (spelling : Option (Value → String) → Spelling) (action : StateM Binder Parts)
    (items : List Item) : Prop :=
  ∀ binder, action.run binder =
    (Item.parts (spelling binder.placeholder) binder.count items, binder.bindAll (boundValues items))

section RendersAs

variable {spelling : Option (Value → String) → Spelling} {action : StateM Binder Parts}
  {items others : List Item}

theorem RendersAs.append {next : StateM Binder Parts} (h : RendersAs spelling action items)
    (h' : RendersAs spelling next others) :
    RendersAs spelling (return (← action) ++ (← next)) (items ++ others) := by
  intro binder
  have hn := h' (binder.bindAll (boundValues items))
  simp only [Binder.placeholder_bindAll, Binder.count_bindAll] at hn
  simp only [run_bind, run_pure, h binder, hn, Item.parts_append, boundValues_append,
    Binder.bindAll_append]

/-- A clause that is joined to a record goes on where the record has ended. -/
theorem RendersAs.withClause {clause : StateM Binder (Option Parts)}
    {join : Parts → Option Parts → Parts} (h : RendersAs spelling action items)
    (h' : ∀ binder, ∃ body, clause.run binder = (body, binder.bindAll (boundValues others)) ∧
      ∀ parts, join parts body =
        parts ++ Item.parts (spelling binder.placeholder) binder.count others) :
    RendersAs spelling (return join (← action) (← clause)) (items ++ others) := by
  intro binder
  obtain ⟨body, hb, hp⟩ := h' (binder.bindAll (boundValues items))
  simp only [Binder.placeholder_bindAll, Binder.count_bindAll] at hp
  simp only [run_bind, run_pure, h binder, hb, hp, Item.parts_append, boundValues_append,
    Binder.bindAll_append]

end RendersAs

variable {dialect : Dialect} {verbatim : Bool}

/-- Writing groups one by one, from the items before them. -/
theorem run_mapM {α : Type} {action : α → StateM Binder String} {items : α → List Item}
    (h : ∀ a, Writes dialect verbatim (action a) (items a)) (as : List α) (binder : Binder) :
    (as.mapM action).run binder =
      (Item.writeEach (dialect.spelling verbatim binder.placeholder) binder.count (as.map items),
        binder.bindAll ((as.map items).flatMap boundValues)) := by
  induction as generalizing binder with
  | nil => rfl
  | cons a rest ih =>
    simp only [List.mapM_cons, run_bind, run_pure, h a binder, ih, List.map_cons, Item.writeEach,
      List.flatMap_cons, Binder.bindAll_append, Binder.count_bindAll, Binder.placeholder_bindAll]

section Values

variable (dialect verbatim)

private theorem writes_bind (value : Value) :
    Writes dialect verbatim (dialect.bind value) [.ofValue value] := by
  rintro ⟨count, override, slots⟩
  have ht : (Binder.mk count override slots).nextPlaceholder dialect.placeholder value =
      placeholderText dialect override (count + 1) value := by
    cases override <;> cases dialect <;> rfl
  have hw : Item.write (dialect.spelling verbatim override) count [.ofValue value] =
      placeholderText dialect override (count + 1) value := String.append_empty
  simp only [hw, ← ht]
  rfl

private theorem writes_bindRow (row : List Value) :
    Writes dialect verbatim (dialect.bindRow row) (Item.row row) := by
  intro binder
  simp only [Dialect.bindRow, run_bind, run_pure, run_mapM (writes_bind dialect verbatim),
    Item.row, Item.write_tuple, boundValues_tuple]

private theorem writes_bindRows (rows : List (List Value)) :
    Writes dialect verbatim (dialect.bindRows rows) (Item.rows rows) := by
  intro binder
  simp only [Dialect.bindRows, run_bind, run_pure, run_mapM (writes_bindRow dialect verbatim),
    Item.rows, Item.write_separated, boundValues_separated]

private theorem writes_assignment (field : String × Value) :
    Writes dialect verbatim
      (return dialect.quoteName verbatim field.1 ++ " = " ++ (← dialect.bind field.2))
      (Item.assignment field) := by
  intro binder
  have h := writes_bind dialect verbatim field.2 binder
  simp only [run_bind, run_pure, h, Item.assignment, Item.write, String.append_assoc]
  rfl

theorem renders_form (form : RecordForm) :
    Renders dialect verbatim (form.render dialect verbatim) form.items := by
  intro binder
  cases form with
  | insert records =>
    have h := writes_bindRows dialect verbatim (Record.rows records) binder
    simp only [RecordForm.render, run_bind, run_pure, h, Item.parts, Item.write_insert,
      RecordForm.boundValues_items, RecordForm.values, boundValues_rows, map_value_plain]
    rfl
  | valuesTable records tableName =>
    have h := writes_bindRows dialect verbatim (Record.rows records) binder
    simp only [RecordForm.render, run_bind, run_pure, h, Item.parts, Item.write_valuesTable,
      RecordForm.boundValues_items, RecordForm.values, boundValues_rows, map_value_plain]
    cases dialect <;> rfl
  | assignments record omitted =>
    have h := run_mapM (writes_assignment dialect verbatim) (record.without omitted) binder
    simp only [RecordForm.render, run_bind, run_pure, h, Item.parts, Item.write_assignments,
      RecordForm.boundValues_items, RecordForm.values, flatMap_boundValues_assignment,
      map_value_plain]

private theorem renders_bindTyped (typed : TypedValue) :
    Renders dialect verbatim (dialect.bindTyped typed) [.bound typed] := by
  intro binder
  have h := writes_bind dialect verbatim typed.value binder
  simp only [Dialect.bindTyped, run_bind, h, boundValues_bound, boundValues_nil,
    Binder.bindAll_cons, Binder.bindAll_nil, Binder.bindTyped]
  cases typed.resolve with
  | none => rfl
  | some type => rfl

end Values

theorem Renders.append {action next : StateM Binder Parts} {items others : List Item}
    (h : Renders dialect verbatim action items) (h' : Renders dialect verbatim next others) :
    Renders dialect verbatim (return (← action) ++ (← next)) (items ++ others) :=
  RendersAs.append h h'

/-- A returning clause goes on where the record before it has ended. -/
theorem Renders.withReturning {action : StateM Binder Parts} {clause : StateM Binder (Option Parts)}
    {items others : List Item} (h : Renders dialect verbatim action items)
    (h' : ∀ binder, ∃ body, clause.run binder = (body, binder.bindAll (boundValues others)) ∧
      ∀ parts : Parts, parts.withReturning body =
        parts ++ Item.parts (dialect.spelling verbatim binder.placeholder) binder.count others) :
    Renders dialect verbatim (return (← action).withReturning (← clause)) (items ++ others) :=
  RendersAs.withClause h h'

private theorem parts_returning (override : Option (Value → String)) (count : Nat)
    (items : List Item) :
    Item.parts (dialect.spelling verbatim override) count (Item.returning items) =
      .ofText " RETURNING " ++ Item.parts (dialect.spelling verbatim override) count items := by
  apply Parts.ext _ rfl
  simp only [Item.parts, Item.returning, Item.write, ← String.append_assoc]

private theorem withReturning_some (parts : Parts) (override : Option (Value → String)) (count : Nat)
    (items : List Item) :
    parts.withReturning (some (Item.parts (dialect.spelling verbatim override) count items)) =
      parts ++ Item.parts (dialect.spelling verbatim override) count (Item.returning items) := by
  rw [parts_returning]
  exact Parts.ext String.append_assoc (List.append_assoc _ _ _)

mutual

theorem renders_piece (piece : Piece) :
    Renders dialect verbatim (piece.render dialect verbatim) piece.items := by
  intro binder
  cases piece with
  | text s => rw [Piece.items, Item.parts_text]; rfl
  | name s => rw [Piece.items, Item.parts_name]; rfl
  | value v =>
    have h := writes_bind dialect verbatim v binder
    simp only [Piece.render, run_bind, run_pure, h]
    rfl
  | list vs =>
    have h := writes_bindRow dialect verbatim vs binder
    simp only [Piece.render, run_bind, run_pure, h, Piece.items, Item.parts, boundValues_row,
      map_value_plain]
  | typed v => exact renders_bindTyped dialect verbatim v binder
  | record form returning =>
    exact (renders_form dialect verbatim form).withReturning (run_renderReturning returning) binder

private theorem run_renderReturning (returning : Returning Piece) (binder : Binder) :
    ∃ body, (Piece.renderReturning dialect verbatim returning).run binder =
        (body, binder.bindAll (boundValues (Piece.returningItems returning))) ∧
      ∀ parts : Parts, parts.withReturning body =
        parts ++ Item.parts (dialect.spelling verbatim binder.placeholder) binder.count
          (Piece.returningItems returning) := by
  cases returning with
  | nothing =>
    exact ⟨none, rfl, fun _ => Parts.ext String.append_empty.symm (List.append_nil _).symm⟩
  | all =>
    refine ⟨some (.ofText "*"), rfl, fun parts => ?_⟩
    rw [Piece.returningItems, ← withReturning_some, Item.parts_text]
  | pieces pieces =>
    have h := renders_pieces pieces binder
    refine ⟨some _, ?_, fun parts => withReturning_some parts _ _ (Piece.listItems pieces)⟩
    simp only [Piece.renderReturning, run_bind, run_pure, h, Piece.returningItems,
      boundValues_returning]

theorem renders_pieces (pieces : List Piece) :
    Renders dialect verbatim (Piece.renderPieces dialect verbatim pieces)
      (Piece.listItems pieces) := by
  cases pieces with
  | nil => exact fun _ => rfl
  | cons piece rest => exact (renders_piece piece).append (renders_pieces rest)

end

/-- What a renderer does with a template, from any state of the binder. -/
theorem run_renderIn (renderer : Renderer) (template : Template) (verbatim : Bool)
    (binder : Binder) :
    (renderer.renderIn template verbatim).run binder =
      (Item.parts (renderer.dialect.spelling (verbatim || renderer.verbatimNames) binder.placeholder)
          binder.count template.items,
        binder.bindAll (boundValues template.items)) :=
  renders_pieces template binder

theorem render_eq (renderer : Renderer) (template : Template) (options : RenderOptions) :
    renderer.render template options =
      Item.parts (renderer.dialect.spelling (options.verbatimNames || renderer.verbatimNames)
        options.placeholder) 0 template.items := by
  rw [Renderer.render, run_renderIn]
  rfl

/-- Rendering writes the flat template, from any state of the binder. The k-th value that is met is
the k-th parameter, and its placeholder, which counts on from the binder, stands between the text of
the items before it and the text of those after it. -/
theorem renderIn_writes_items (renderer : Renderer) (template : Template) (verbatim : Bool)
    (binder : Binder) :
    let spelling :=
      renderer.dialect.spelling (verbatim || renderer.verbatimNames) binder.placeholder
    let rendered := (renderer.renderIn template verbatim).run binder
    rendered.1.sql = Item.write spelling binder.count template.items ∧
      rendered.1.params = (boundValues template.items).map TypedValue.value ∧
      rendered.2.count = binder.count + rendered.1.params.length ∧
      ∀ before typed after, template.items = before ++ .bound typed :: after →
        let k := (boundValues before).length + 1
        rendered.1.params[k - 1]? = some typed.value ∧
          rendered.1.sql = Item.write spelling binder.count before ++
            placeholderText renderer.dialect binder.placeholder (binder.count + k) typed.value ++
            Item.write spelling (binder.count + k) after := by
  intro spelling rendered
  have hr : rendered = (Item.parts spelling binder.count template.items,
      binder.bindAll (boundValues template.items)) := run_renderIn renderer template verbatim binder
  refine ⟨by rw [hr]; rfl, by rw [hr]; rfl, ?_, ?_⟩
  · simp [hr, Item.parts]
  · intro before typed after hi k
    constructor
    · simp [hr, Item.parts, hi, k]
    · simp only [hr, Item.parts, hi, Item.write_append, Item.write, String.append_assoc]
      rfl

/-- After two other values, a row is inserted and a value handed back with it. -/
theorem renderIn_writes_items_after_row :
    let renderer : Renderer := { dialect := .googleSql none }
    let records := [Record.ofList [("a", (7 : Int64))]]
    let template : Template := [.record (.insert records) (.pieces [.value (.int 8)])]
    let before := RecordForm.items (.insert records) ++ Item.returning []
    let rendered := (renderer.renderIn template false).run { count := 2 }
    template.items = before ++ [.bound (.plain (.int 8))] ∧
      rendered.1.params[1]? = some (.int 8) ∧
      rendered.1.sql = "(\x60a\x60) VALUES (@param3) RETURNING @param4" := by
  intro renderer records template before rendered
  have hi : template.items = before ++ .bound (.plain (.int 8)) :: [] := rfl
  have h := (renderIn_writes_items renderer template false { count := 2 }).2.2.2 _ _ _ hi
  exact ⟨hi, h.1, h.2.trans (by decide)⟩

private theorem write_returning (dialect : Dialect) (verbatim : Bool)
    (override : Option (Value → String))
    (count : Nat) (items : List Item) :
    Item.write (dialect.spelling verbatim override) count (Item.returning items) =
      " RETURNING " ++ Item.write (dialect.spelling verbatim override) count items :=
  congrArg Parts.sql (parts_returning override count items)

section Templates

variable (renderer : Renderer) (verbatim : Bool) (binder : Binder)

/-- The second template is rendered from the binder that the first has left. -/
theorem run_renderIn_append (template other : Template) :
    let first := (renderer.renderIn template verbatim).run binder
    let second := (renderer.renderIn other verbatim).run first.2
    (renderer.renderIn (template ++ other) verbatim).run binder =
      (first.1 ++ second.1, second.2) := by
  simp only [run_renderIn, Template.items_append, Item.parts_append, boundValues_append,
    Binder.bindAll_append, Binder.placeholder_bindAll, Binder.count_bindAll]

/-- What a record hands back is rendered as if ` RETURNING ` and the body stood behind the record. -/
theorem run_renderIn_behind (form : RecordForm) {returning : Returning Piece} {clause : Template}
    {body : List Item} (hr : Piece.returningItems returning = Item.returning body)
    (hb : boundValues clause.items = boundValues body)
    (hw : ∀ spelling count,
      Item.write spelling count clause.items = " RETURNING " ++ Item.write spelling count body) :
    (renderer.renderIn [.record form returning] verbatim).run binder =
      (renderer.renderIn (.record form .nothing :: clause) verbatim).run binder := by
  have ht : Template.items [.record form returning] = form.items ++ Item.returning body := by
    rw [← hr]
    exact List.append_nil _
  have hc : Template.items (.record form .nothing :: clause) = form.items ++ clause.items :=
    congrArg (· ++ clause.items) (List.append_nil form.items)
  simp only [run_renderIn, ht, hc, Item.parts, Item.write_append, boundValues_append,
    boundValues_returning, hb, hw, write_returning]

/-- Rendering goes part by part, from any state of the binder. The texts and the values of two templates
are joined, and the second goes on with the binder of the first. A record that hands something back is
rendered like the record alone and then ` RETURNING ` and the body, or ` RETURNING *`. -/
theorem run_renderIn_part_by_part (template other : Template) (form : RecordForm)
    (body : Template) :
    let run (template : Template) (binder : Binder) :=
      (renderer.renderIn template verbatim).run binder
    let first := run template binder
    let second := run other first.2
    run (template ++ other) binder =
        (⟨first.1.sql ++ second.1.sql, first.1.params ++ second.1.params⟩, second.2) ∧
      run [.record form (.pieces body)] binder =
        run ([.record form .nothing, .text " RETURNING "] ++ body) binder ∧
      run [.record form .all] binder =
        run [.record form .nothing, .text " RETURNING *"] binder := by
  intro run first second
  refine ⟨run_renderIn_append renderer verbatim binder template other, ?pieces, ?all⟩
  case pieces => exact run_renderIn_behind renderer verbatim binder form rfl rfl fun _ _ => rfl
  case all => exact run_renderIn_behind renderer verbatim binder form rfl rfl fun _ _ => rfl

end Templates

end BoundSql
