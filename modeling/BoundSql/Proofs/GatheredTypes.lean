import BoundSql.GoogleSql
import BoundSql.Proofs.AttachedTypes
import BoundSql.Proofs.FlatRendering

/-!
# Types gathered for bound values

While a statement is rendered from a fresh binder there is one slot for every bound value, in order.
So the types that are attached in the end are those of the values, position by position, however deep
a value is bound.
-/

namespace BoundSql

/-- The type that travels with a bound value: the declared one if it can be read, or else the one
that the value has by itself. -/
def TypedValue.carriedType (typed : TypedValue) : Option WireType :=
  match typed.resolve with
  | some type => some type
  | none => typed.value.wireType.toOption

def Value.slot (value : Value) : Slot :=
  match value.wireType with
  | .ok type => .inferred type
  | .error _ => .empty

def TypedValue.slot (typed : TypedValue) : Slot :=
  match typed.resolve with
  | some type => .declared type
  | none => typed.value.slot

private theorem TypedValue.type?_slot (typed : TypedValue) :
    typed.slot.type? = typed.carriedType := by
  unfold slot carriedType Value.slot
  cases typed.resolve with
  | some type => rfl
  | none => cases typed.value.wireType <;> rfl

namespace Binder

/-- There is a slot for every value that is counted, and no other. -/
def Aligned (binder : Binder) : Prop :=
  binder.slots.length = binder.count

private theorem aligned_fresh (options : RenderOptions) : (fresh options).Aligned := rfl

private theorem modifySlot_last {binder : Binder} {slots : List Slot} {slot : Slot}
    (h : binder.slots = slots ++ [slot]) (change : Slot → Slot) :
    (binder.modifySlot change (slots.length + 1)).slots = slots ++ [change slot] := by
  simp [modifySlot, reserve, List.rightpad, h, List.modify_eq_take_cons_drop]

private theorem slots_note {binder : Binder} (h : binder.Aligned) (value : Value) :
    (binder.note value).slots = binder.slots ++ [value.slot] := by
  have hl : binder.slots.length = binder.count := h
  have hr : ({ binder with count := binder.count + 1 }.reserve (binder.count + 1)).slots =
      binder.slots ++ [.empty] := by
    simp [reserve, List.rightpad, hl]
  unfold note Value.slot
  cases value.wireType with
  | ok type =>
    rw [← hl] at hr ⊢
    exact modifySlot_last hr _
  | error _ => exact hr

private theorem slots_bindTyped {binder : Binder} (h : binder.Aligned) (typed : TypedValue) :
    (binder.bindTyped typed).slots = binder.slots ++ [typed.slot] := by
  have hl : binder.slots.length = binder.count := h
  have hn := slots_note h typed.value
  unfold bindTyped TypedValue.slot
  cases typed.resolve with
  | some type =>
    simp only [(note_frame binder typed.value).1, ← hl]
    exact modifySlot_last hn _
  | none => exact hn

theorem Aligned.bindTyped {binder : Binder} (h : binder.Aligned) (typed : TypedValue) :
    (binder.bindTyped typed).Aligned := by
  have hl : binder.slots.length = binder.count := h
  simp [Aligned, slots_bindTyped h, (bindTyped_frame binder typed).1, hl]

/-- The slots after binding values are those before it and one for each of the values. -/
theorem slots_bindAll {binder : Binder} (h : binder.Aligned) (values : List TypedValue) :
    (binder.bindAll values).slots = binder.slots ++ values.map TypedValue.slot := by
  induction values generalizing binder with
  | nil => simp
  | cons typed rest ih =>
    rw [bindAll_cons, ih (h.bindTyped typed), slots_bindTyped h, List.append_assoc]
    rfl

theorem types_bindAll_fresh (options : RenderOptions) (values : List TypedValue) :
    ((fresh options).bindAll values).types = values.map TypedValue.carriedType := by
  have hs : ((fresh options).bindAll values).slots = values.map TypedValue.slot :=
    slots_bindAll (aligned_fresh options) values
  rw [types, hs, List.map_map]
  exact List.map_congr_left fun typed _ => TypedValue.type?_slot typed

end Binder

namespace Bindings

/-- Bound values with their types, as far as these are attached. -/
def ofTyped (bound : List TypedValue) : Bindings :=
  let bindings := ofValues (bound.map TypedValue.value)
  (bindings.attach? (bound.map TypedValue.carriedType)).getD bindings

/-- Types that are as many as the values are attached as they are, unless they say nothing. -/
theorem attach?_ofValues {values : List Value} {types : List (Option WireType)}
    (h : types.length = values.length) :
    ((ofValues values).attach? types).getD (ofValues values) =
      ⟨values, if types.all Option.isNone then none else some types⟩ := by
  have ha : types.any Option.isSome = !types.all Option.isNone := by
    simp [List.any_eq_not_all_not]
  rw [attach?_ofValues_eq, align_eq_self h, ha]
  cases types.all Option.isNone <;> rfl

/-- Its types apart, a binding is the values that were bound. -/
theorem values_ofTyped (bound : List TypedValue) :
    (ofTyped bound).values = bound.map TypedValue.value := by
  rw [ofTyped, attach?_ofValues (by simp)]

theorem eq_of_types_ofTyped {bound : List TypedValue} {types : List (Option WireType)}
    (h : (ofTyped bound).types = some types) : types = bound.map TypedValue.carriedType := by
  rw [ofTyped, attach?_ofValues (by simp)] at h
  simp only at h
  split at h
  · cases h
  · exact (Option.some.inj h).symm

end Bindings

namespace GoogleSql.Compiler

/-- How the compiler has items written under the given options. -/
def spelling (compiler : Compiler) (options : RenderOptions) : Spelling :=
  compiler.renderer.dialect.spelling (options.verbatimNames || compiler.verbatimNames)
    options.placeholder

/-- A compiled statement is its flat template, written out and rewritten, and the bound values. -/
theorem compile_eq (compiler : Compiler) (template : Template) (options : RenderOptions) :
    compiler.compile template options =
      ⟨thenReturn (Item.write (compiler.spelling options) 0 template.items),
        Bindings.ofTyped (boundValues template.items)⟩ := by
  unfold compile
  rw [run_renderIn]
  simp only [Binder.types_bindAll_fresh]
  rfl

/-- The types of a compiled statement are decided position by position: by the type declared for
the value there, or else by the value. They are left out when no position has a type. -/
theorem compile_types (compiler : Compiler) (template : Template) (options : RenderOptions) :
    let bound := boundValues template.items
    let bindings := (compiler.compile template options).bindings
    bindings.values = bound.map TypedValue.value ∧
      bindings.types =
        if bound.all fun typed => typed.carriedType.isNone then none
        else some (bound.map TypedValue.carriedType) := by
  intro bound bindings
  have hb : bindings = Bindings.ofTyped bound :=
    congrArg Compiled.bindings (compile_eq compiler template options)
  rw [hb, Bindings.ofTyped, Bindings.attach?_ofValues (by simp), List.all_map]
  exact ⟨rfl, rfl⟩

/-- What is bound is told by the template alone. Names may be styled or quoted as given and
placeholders spelled in any way: compilers bind the same values under the same types, and a renderer,
of the generic dialect too, binds the same values. -/
theorem compile_binds_alike (template : Template) (compiler other : Compiler)
    (options others : RenderOptions) :
    let bindings := (compiler.compile template options).bindings
    let otherBindings := (other.compile template others).bindings
    bindings.values = (boundValues template.items).map TypedValue.value ∧
      otherBindings.values = bindings.values ∧
      otherBindings.types = bindings.types ∧
      ∀ renderer : Renderer, (renderer.render template others).params = bindings.values := by
  intro bindings otherBindings
  have hb : bindings = Bindings.ofTyped (boundValues template.items) :=
    congrArg Compiled.bindings (compile_eq compiler template options)
  have ho : otherBindings = Bindings.ofTyped (boundValues template.items) :=
    congrArg Compiled.bindings (compile_eq other template others)
  have hv : bindings.values = (boundValues template.items).map TypedValue.value := by
    rw [hb, Bindings.values_ofTyped]
  refine ⟨hv, by rw [ho, hb], by rw [ho, hb], fun renderer => ?_⟩
  rw [render_eq, hv]
  rfl

end GoogleSql.Compiler

end BoundSql
