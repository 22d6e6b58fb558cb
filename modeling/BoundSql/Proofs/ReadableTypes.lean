import BoundSql.Proofs.GatheredTypes
import BoundSql.Proofs.TypeNames
import BoundSql.Proofs.WellFormedTypes

/-!
# Types that can be read back

The types of a compiled statement come from three sides: from the values, from type names, and from types
that are declared as they are. What a value or a name has is well formed, and a well-formed type is read
back from its text. So the same holds of every type of a compiled statement, if it holds of those declared
as they are.
-/

namespace BoundSql

namespace Value

mutual

theorem wellFormed_of_wireType (value : Value) {type : WireType} (h : value.wireType = .ok type) :
    type.WellFormed := by
  cases value with
  | null => cases h
  | array elements =>
    rw [wireType] at h
    cases he : elementType elements with
    | error _ =>
      rw [he] at h
      cases h
    | ok element =>
      rw [he] at h
      cases h
      exact (WireType.wellFormed_holding _ _).mpr ⟨rfl, wellFormed_of_elementType elements he⟩
  | _ =>
    cases h
    exact (WireType.wellFormed_plain _).mpr (by decide)

private theorem wellFormed_of_elementType (elements : List Value) {type : WireType}
    (h : elementType elements = .ok type) : type.WellFormed := by
  cases elements with
  | nil => cases h
  | cons element rest =>
    cases element with
    | null => exact wellFormed_of_elementType rest h
    | _ => exact wellFormed_of_wireType _ h

end

end Value

namespace WireType

theorem wellFormed_of_ofName {name : String} {type : WireType} (h : ofName name = .ok type) :
    type.WellFormed := by
  refine ofLowered_induction (motive := fun _ type => type.WellFormed) ?scalar ?array h
  case scalar =>
    exact fun code hc => (wellFormed_plain code).mpr hc
  case array =>
    exact fun _ element he => (wellFormed_holding _ element).mpr ⟨rfl, he⟩

/-- A well-formed type is read back from its text. -/
theorem ofName_text {type : WireType} (h : type.WellFormed) : ofName type.text = .ok type := by
  have hblank : Text.Blank "" := by decide
  induction type with
  | plain code =>
    have hs : SameLetters code.name code.name := rfl
    have hr := ofName_scalar hblank hblank ((wellFormed_plain code).mp h) hs
    rwa [String.empty_append, String.append_empty] at hr
  | holding code element ih =>
    obtain ⟨rfl, he⟩ := (wellFormed_holding code element).mp h
    have hs : SameLetters "ARRAY<" "array<" := by decide
    have hr := ofName_array hblank hblank hs (ih he)
    rwa [String.empty_append, String.append_empty] at hr

end WireType

/-- The type that is declared as it is. -/
def TypedValue.exactType? (typed : TypedValue) : Option WireType :=
  match typed.declared with
  | some (.exactly type) => some type
  | _ => none

private theorem eq_ok_of_toOption {ε α : Type} {result : Except ε α} {a : α}
    (h : result.toOption = some a) : result = .ok a := by
  cases result with
  | error _ => cases h
  | ok b =>
    cases h
    rfl

namespace TypedValue

theorem wellFormed_of_resolve {typed : TypedValue}
    (h : ∀ type, typed.exactType? = some type → type.WellFormed) {type : WireType}
    (hr : typed.resolve = some type) : type.WellFormed := by
  obtain ⟨value, declared⟩ := typed
  cases declared with
  | none => cases hr
  | some declared =>
    cases declared with
    | exactly other =>
      cases hr
      exact h type rfl
    | named name =>
      have hn : (if name.isEmpty then none else (WireType.ofName name).toOption) = some type := hr
      split at hn
      · cases hn
      · exact WireType.wellFormed_of_ofName (eq_ok_of_toOption hn)

theorem wellFormed_of_carriedType {typed : TypedValue}
    (h : ∀ type, typed.exactType? = some type → type.WellFormed) {type : WireType}
    (hc : typed.carriedType = some type) : type.WellFormed := by
  rw [carriedType] at hc
  cases hr : typed.resolve with
  | some other =>
    rw [hr] at hc
    cases hc
    exact wellFormed_of_resolve h hr
  | none =>
    rw [hr] at hc
    exact typed.value.wellFormed_of_wireType (eq_ok_of_toOption hc)

end TypedValue

/-- The type that a piece declares as it is. -/
def Piece.exactTypes : Piece → List WireType
  | .typed v => v.exactType?.toList
  | _ => []

/-- The types of a template that are declared as they are, at any depth. -/
def Template.exactTypes (template : Template) : List WireType :=
  template.gather Piece.exactTypes

/-- Values that are bound as they are declare no type. -/
theorem notMem_plain {typed : TypedValue} {type : WireType} (ht : typed.exactType? = some type)
    (values : List Value) : typed ∉ values.map TypedValue.plain := by
  intro h
  obtain ⟨value, -, rfl⟩ := List.mem_map.mp h
  cases ht

/-- A bound value with a type declared as it is comes from a piece that declares that type. -/
theorem mem_exactTypes_of_mem_ownItems {typed : TypedValue} {type : WireType}
    (ht : typed.exactType? = some type) {piece : Piece} (h : .bound typed ∈ piece.ownItems) :
    type ∈ piece.exactTypes := by
  have hb : typed ∈ boundValues piece.ownItems := List.mem_filterMap.mpr ⟨_, h, rfl⟩
  cases piece with
  | typed v =>
    obtain rfl : typed = v := by simpa [Piece.ownItems, Piece.items] using hb
    simp [Piece.exactTypes, ht]
  | value v => exact absurd (by simpa [Piece.ownItems, Piece.items] using hb) (notMem_plain ht [v])
  | list vs => exact absurd (by simpa [Piece.ownItems, Piece.items] using hb) (notMem_plain ht vs)
  | record form returning =>
    exact absurd (by simpa [Piece.ownItems] using hb) (notMem_plain ht form.values)
  | text | name => cases hb

theorem mem_exactTypes {typed : TypedValue} {type : WireType} (ht : typed.exactType? = some type)
    {template : Template} (h : typed ∈ boundValues template.items) : type ∈ template.exactTypes := by
  obtain ⟨item, hm, hi⟩ := List.mem_filterMap.mp h
  refine Template.forall_mem_items
    (P := fun item => item.bound? = some typed → type ∈ template.exactTypes)
    ?returning template ?pieces item hm hi
  case returning => simp [Item.returning, Item.bound?]
  case pieces =>
    intro piece hp item hm hi
    cases item with
    | bound value =>
      cases hi
      exact List.mem_flatMap_of_mem hp (mem_exactTypes_of_mem_ownItems ht hm)
    | text | name | valuesWord | returningWord => cases hi

namespace GoogleSql.Compiler

/-- If the types that a template declares as they are are well formed, then so is every type of the compiled
statement, and it is read back from its text. -/
theorem compile_types_readable (compiler : Compiler) (template : Template) (options : RenderOptions)
    (h : ∀ type ∈ template.exactTypes, type.WellFormed) :
    ∀ types, (compiler.compile template options).bindings.types = some types →
      ∀ type, some type ∈ types → type.WellFormed ∧ WireType.ofName type.text = .ok type := by
  intro types hc type hm
  rw [compile_eq] at hc
  rw [Bindings.eq_of_types_ofTyped hc] at hm
  obtain ⟨typed, hb, hcarried⟩ := List.mem_map.mp hm
  have hexact : ∀ exact, typed.exactType? = some exact → exact.WellFormed :=
    fun exact he => h exact (mem_exactTypes he hb)
  have hw : type.WellFormed := TypedValue.wellFormed_of_carriedType hexact hcarried
  exact ⟨hw, WireType.ofName_text hw⟩

/-- One type comes from a value, one from a name, and one is declared as it is inside of what a record
hands back. -/
theorem compile_types_readable_nested :
    let numbers : Value := .array [.null, .array [.int 1]]
    let named : TypedValue := .null (.named " array<Bytes> ")
    let dates : TypedValue := .null (.exactly (.array (.plain .date)))
    let template : Template :=
      [.value numbers, .typed named, .record (.insert []) (.pieces [.typed dates])]
    let types : List WireType := [.array (.array (.plain .int64)), .array (.plain .bytes),
      .array (.plain .date)]
    (({} : Compiler).compile template {}).bindings.types = some (types.map some) ∧
      ∀ type ∈ types, WireType.ofName type.text = .ok type := by
  intro numbers named dates template types
  have hn : WireType.ofName " array<Bytes> " = .ok (.array (.plain .bytes)) := by
    have hc : WireType.SameLetters "Bytes" TypeCode.bytes.name := by decide
    have hi : WireType.ofName ("" ++ "Bytes" ++ "") = .ok (.plain .bytes) :=
      WireType.ofName_scalar (by decide) (by decide) (by decide) hc
    have ha : WireType.SameLetters "array<" "array<" := rfl
    have hb : Text.Blank " " := by decide
    have hs : " array<Bytes> " = " " ++ ("array<" ++ ("" ++ "Bytes" ++ "") ++ ">") ++ " " := by decide
    rw [hs]
    exact WireType.ofName_array hb hb ha hi
  have hb : (boundValues template.items).map TypedValue.carriedType = types.map some := by
    have hc : named.carriedType = some (.array (.plain .bytes)) := by
      have hr : named.resolve = (WireType.ofName " array<Bytes> ").toOption := rfl
      rw [TypedValue.carriedType, hr, hn]
      rfl
    have hl : boundValues template.items = [.plain numbers, named, dates] := rfl
    rw [hl, List.map_cons, List.map_cons, hc]
    rfl
  have ht : (({} : Compiler).compile template {}).bindings.types = some (types.map some) := by
    rw [compile_eq, Bindings.ofTyped, Bindings.attach?_ofValues (by simp), hb]
    rfl
  refine ⟨ht, fun type hm => ?_⟩
  have hx : ∀ type ∈ template.exactTypes, type.WellFormed := by decide
  exact (compile_types_readable {} template {} hx _ ht type (List.mem_map_of_mem hm)).2

end GoogleSql.Compiler

end BoundSql
