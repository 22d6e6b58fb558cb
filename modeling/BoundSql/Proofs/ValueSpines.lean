import Mathlib.Logic.Function.Iterate
import Mathlib.Logic.Relation
import BoundSql.ValueTypes

/-!
# Spines of values

The spine of a value goes from an array to its first element that is not NULL, and on from there, until
it comes to a scalar, to NULL or to an array that has no such element. It alone decides about the type
of the value: there is one if a scalar stands at the end.
-/

namespace BoundSql.Value

/-- The first element of an array that is not NULL. -/
def inner? : Value → Option Value
  | .array elements => elements.find? (!·.isNull)
  | _ => none

def isArray : Value → Bool
  | .array _ => true
  | _ => false

/-- The code of a scalar's type. NULL and arrays are no scalars. -/
def scalarCode? : Value → Option TypeCode
  | .null | .array _ => none
  | .bool _ => some .bool
  | .int _ => some .int64
  | .float _ => some .float64
  | .text _ => some .string
  | .blob _ => some .bytes
  | .json _ => some .json
  | .timestamp _ => some .timestamp
  | .date _ => some .date

private theorem isNull_iff (value : Value) : value.isNull = true ↔ value = .null := by
  cases value <;> simp [isNull]

private theorem exists_array_of_inner? {value element : Value} (h : value.inner? = some element) :
    ∃ elements, value = .array elements ∧ elements.find? (!·.isNull) = some element := by
  cases value with
  | array elements => exact ⟨elements, rfl, h⟩
  | null | bool | int | float | text | blob | json | timestamp | date => cases h

private theorem isNull_inner? {value element : Value} (h : value.inner? = some element) :
    element.isNull = false := by
  obtain ⟨elements, -, hf⟩ := exists_array_of_inner? h
  simpa using List.find?_some hf

private theorem sizeOf_inner?_lt {value element : Value} (h : value.inner? = some element) :
    sizeOf element < sizeOf value := by
  obtain ⟨elements, rfl, hf⟩ := exists_array_of_inner? h
  have := List.sizeOf_lt_of_mem (List.mem_of_find?_eq_some hf)
  simp only [array.sizeOf_spec]
  omega

/-- The value, its first element that is not NULL, and so on inwards. -/
def spine (value : Value) : List Value :=
  value :: match h : value.inner? with
    | none => []
    | some element =>
      have := sizeOf_inner?_lt h
      element.spine
termination_by sizeOf value

theorem spine_of_none {value : Value} (h : value.inner? = none) : value.spine = [value] := by
  rw [spine]
  split
  · rfl
  · next he => rw [h] at he; cases he

theorem spine_of_some {value element : Value} (h : value.inner? = some element) :
    value.spine = value :: element.spine := by
  rw [spine]
  split
  · next he => rw [h] at he; cases he
  · next he => rw [h] at he; cases he; rfl

private theorem getLast?_spine_of_some {value element : Value} (h : value.inner? = some element) :
    value.spine.getLast? = element.spine.getLast? := by
  rw [spine_of_some h, spine, List.getLast?_cons_cons]

theorem elementType_eq (elements : List Value) :
    elementType elements = match elements.find? (!·.isNull) with
      | none => .error .untypedArray
      | some element => element.wireType := by
  induction elements with
  | nil => rfl
  | cons element rest ih =>
    cases element with
    | null => exact ih
    | bool | int | float | text | blob | json | timestamp | date | array => rfl

theorem wireType_of_some {value element : Value} (h : value.inner? = some element) :
    value.wireType = element.wireType.map WireType.array := by
  obtain ⟨elements, rfl, hf⟩ := exists_array_of_inner? h
  rw [wireType, elementType_eq, hf]

theorem wireType_of_none {value : Value} (h : value.inner? = none) :
    value.wireType = match value.scalarCode? with
      | some code => .ok (.plain code)
      | none => .error (if value.isNull then .unspecified else .untypedArray) := by
  cases value with
  | array elements =>
    have hf : elements.find? (!·.isNull) = none := h
    rw [wireType, elementType_eq, hf]
    rfl
  | null | bool | int | float | text | blob | json | timestamp | date => rfl

/-- The type of the scalar at the end of the spine, as an array once for every array before it. -/
def spineType? (value : Value) : Option WireType :=
  (value.spine.getLast?.bind scalarCode?).map fun code =>
    WireType.array^[value.spine.countP isArray] (.plain code)

private theorem spineType?_of_some {value element : Value} (h : value.inner? = some element) :
    value.spineType? = element.spineType?.map WireType.array := by
  obtain ⟨elements, rfl, -⟩ := exists_array_of_inner? h
  have hc : (array elements).spine.countP isArray = element.spine.countP isArray + 1 := by
    rw [spine_of_some h, List.countP_cons_of_pos rfl]
  simp only [spineType?, getLast?_spine_of_some h, hc, Option.map_map, Function.comp_def,
    Function.iterate_succ_apply']

private theorem spineType?_of_none {value : Value} (h : value.inner? = none) :
    value.spineType? = value.scalarCode?.map .plain := by
  cases hc : value.scalarCode? with
  | none => simp [spineType?, spine_of_none h, hc]
  | some code =>
    have ha : value.isArray = false := by
      cases value with
      | array => cases hc
      | null | bool | int | float | text | blob | json | timestamp | date => rfl
    simp [spineType?, spine_of_none h, hc, ha]

private theorem spineType?_null : spineType? .null = none :=
  spineType?_of_none rfl

/-- The type of a value is what its spine tells. -/
theorem wireType_eq (value : Value) :
    value.wireType = match value.spineType? with
      | some type => .ok type
      | none => .error (if value.isNull then .unspecified else .untypedArray) := by
  induction value using spine.induct with
  | case1 value ih =>
    cases h : value.inner? with
    | none =>
      rw [wireType_of_none h, spineType?_of_none h]
      cases value.scalarCode? <;> rfl
    | some element =>
      obtain ⟨elements, rfl, -⟩ := exists_array_of_inner? h
      rw [wireType_of_some h, spineType?_of_some h, ih element h]
      cases element.spineType? with
      | some type => rfl
      | none =>
        -- The element is not NULL, and neither is the array around it.
        simp only [isNull_inner? h]
        rfl

theorem spineType?_eq_some_iff {value : Value} {type : WireType} :
    value.spineType? = some type ↔ ∃ last code, value.spine.getLast? = some last ∧
      last.scalarCode? = some code ∧ type = WireType.array^[value.spine.countP isArray] (.plain code) := by
  simp only [spineType?, Option.map_eq_some_iff, Option.bind_eq_some_iff]
  constructor
  · rintro ⟨code, ⟨last, hl, hc⟩, rfl⟩
    exact ⟨last, code, hl, hc, rfl⟩
  · rintro ⟨last, code, hl, hc, rfl⟩
    exact ⟨code, ⟨last, hl, hc⟩, rfl⟩

theorem spineType?_eq_none_iff {value : Value} :
    value.spineType? = none ↔ ∀ last ∈ value.spine.getLast?, last.scalarCode? = none := by
  simp [spineType?, Option.bind_eq_none_iff]

/-- A NULL comes in or goes, or an element behind the first one that is not NULL is another value. -/
inductive ElementsEdit : List Value → List Value → Prop
  | insertNull (front back : List Value) : ElementsEdit (front ++ back) (front ++ .null :: back)
  | removeNull (front back : List Value) : ElementsEdit (front ++ .null :: back) (front ++ back)
  | replace (front : List Value) (old new : Value) (back : List Value) :
      (∃ element ∈ front, element ≠ .null) → ElementsEdit (front ++ old :: back) (front ++ new :: back)

/-- An edit of the elements of one array on the spine. -/
inductive SpineEdit : Value → Value → Prop
  | here {elements edited : List Value} : ElementsEdit elements edited →
      SpineEdit (.array elements) (.array edited)
  | inside {element edited : Value} (nulls : Nat) (rest : List Value) : SpineEdit element edited →
      SpineEdit (.array (List.replicate nulls .null ++ element :: rest))
        (.array (List.replicate nulls .null ++ edited :: rest))

private theorem ElementsEdit.find?_eq {elements edited : List Value}
    (h : ElementsEdit elements edited) :
    edited.find? (!·.isNull) = elements.find? (!·.isNull) := by
  cases h with
  | insertNull front back | removeNull front back =>
    rw [List.find?_append, List.find?_append]
    rfl
  | replace front old new back h =>
    obtain ⟨element, hm, hne⟩ := h
    have hn : (!element.isNull) = true := by simpa [← isNull_iff] using hne
    have hsome : (front.find? (!·.isNull)).isSome := List.find?_isSome.mpr ⟨element, hm, hn⟩
    rw [List.find?_append, List.find?_append, Option.or_of_isSome hsome, Option.or_of_isSome hsome]

private theorem inner?_behind_nulls (nulls : Nat) {element : Value} (h : element.isNull = false)
    (rest : List Value) :
    (array (List.replicate nulls .null ++ element :: rest)).inner? = some element := by
  have hn : (List.replicate nulls null).find? (!·.isNull) = none := by simp [isNull]
  rw [inner?, List.find?_append, hn, Option.none_or, List.find?_cons_of_pos (by simp [h])]

theorem SpineEdit.isNull_eq_false {value edited : Value} (h : SpineEdit value edited) :
    value.isNull = false ∧ edited.isNull = false := by
  cases h <;> exact ⟨rfl, rfl⟩

theorem SpineEdit.wireType_eq {value edited : Value} (h : SpineEdit value edited) :
    edited.wireType = value.wireType := by
  induction h with
  | here he => rw [wireType, wireType, elementType_eq, elementType_eq, he.find?_eq]
  | inside nulls rest he ih =>
    obtain ⟨hv, hw⟩ := he.isNull_eq_false
    rw [wireType_of_some (inner?_behind_nulls nulls hv rest),
      wireType_of_some (inner?_behind_nulls nulls hw rest), ih]

theorem wireType_of_edits {value edited : Value} (h : Relation.ReflTransGen SpineEdit value edited) :
    edited.wireType = value.wireType := by
  induction h with
  | refl => rfl
  | tail _ he ih => exact he.wireType_eq.trans ih

/-- A value has a type exactly if its spine ends in a scalar: the type of the scalar, as an array once
for every array on the spine. Otherwise NULL is left unspecified and any other value is an untyped
array. Edits beside the spine never matter. -/
theorem wireType_along_spine :
    (∀ (value : Value) (type : WireType), value.wireType = .ok type ↔
      ∃ last code, value.spine.getLast? = some last ∧ last.scalarCode? = some code ∧
        type = WireType.array^[value.spine.countP isArray] (.plain code)) ∧
    (∀ value : Value, value.wireType = .error .unspecified ↔ value = .null) ∧
    (∀ value : Value, value.wireType = .error .untypedArray ↔
      value ≠ .null ∧ ∀ last ∈ value.spine.getLast?, last.scalarCode? = none) ∧
    ∀ value edited : Value, Relation.ReflTransGen SpineEdit value edited →
      edited.wireType = value.wireType := by
  refine ⟨fun value type => ?_, fun value => ?_, fun value => ?_, fun _ _ => wireType_of_edits⟩
  · rw [wireType_eq, ← spineType?_eq_some_iff]
    cases value.spineType? <;> simp
  · rw [wireType_eq, ← isNull_iff]
    cases hs : value.spineType? with
    | some type =>
      refine iff_of_false (fun h => by cases h) fun hn => ?_
      rw [(isNull_iff value).mp hn, spineType?_null] at hs
      cases hs
    | none => cases value.isNull <;> simp
  · rw [wireType_eq, ← spineType?_eq_none_iff, ne_eq, ← isNull_iff]
    cases hs : value.spineType? with
    | some type => simp
    | none => cases value.isNull <;> simp

/-- NULLs go from two arrays of a spine, and an array without a type comes in behind the first element.
In front of it, it leaves the whole array without a type. -/
theorem wireType_along_spine_nested :
    let value : Value := .array [.null, .array [.null, .int 5], .text "a"]
    let edited : Value := .array [.array [.int 5], .array []]
    let untyped : Value := .array [.null, .array [], .array [.int 5]]
    value.wireType = .ok (.array (.array (.plain .int64))) ∧
      Relation.ReflTransGen SpineEdit value edited ∧ edited.wireType = value.wireType ∧
      untyped.wireType = .error .untypedArray := by
  intro value edited untyped
  obtain ⟨hok, -, huntyped, hedits⟩ := wireType_along_spine
  have hvalue : value.spine = [value, .array [.null, .int 5], .int 5] := by
    rw [spine_of_some rfl, spine_of_some rfl, spine_of_none rfl]
  have hend : untyped.spine = [untyped, .array []] := by
    rw [spine_of_some rfl, spine_of_none rfl]
  have hedit : Relation.ReflTransGen SpineEdit value edited :=
    .head (.here (.removeNull [] [.array [.null, .int 5], .text "a"])) <|
      .head (.inside 0 [.text "a"] (.here (.removeNull [] [.int 5]))) <|
        .single (.here (.replace [.array [.int 5]] _ _ [] ⟨_, .head _, by simp⟩))
  refine ⟨?_, hedit, hedits value edited hedit, ?_⟩
  · exact (hok value _).mpr ⟨.int 5, .int64, by rw [hvalue]; rfl, rfl, by rw [hvalue]; rfl⟩
  · exact (huntyped untyped).mpr ⟨by simp [untyped], by rw [hend]; rintro _ ⟨⟩; rfl⟩

end BoundSql.Value
