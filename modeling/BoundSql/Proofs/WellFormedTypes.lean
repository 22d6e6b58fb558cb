import BoundSql.WireType

/-!
# Well-formed types and their documents

In a well-formed type arrays have an element type, at every level, and nothing else has. All types that
are built from scalars and arrays are well formed, and no others. A document may describe other types
too: it is read as soon as it gives a code at every level, and the type is well formed only if the
document pairs codes and element types as a well-formed type does.
-/

namespace BoundSql

namespace WireType

/-- The type, its element type and so on, from the outside in. -/
def levels : WireType → List WireType
  | .plain code => [.plain code]
  | .holding code element => .holding code element :: element.levels

/-- At every level there is an element type exactly if the code is that of arrays. -/
def WellFormed (type : WireType) : Prop :=
  ∀ level ∈ type.levels, level.element?.isSome ↔ level.code = .array

instance (type : WireType) : Decidable type.WellFormed :=
  inferInstanceAs (Decidable (∀ level ∈ type.levels, level.element?.isSome ↔ level.code = .array))

@[simp] theorem wellFormed_plain (code : TypeCode) : WellFormed (.plain code) ↔ code ≠ .array := by
  simp [WellFormed, levels, element?, WireType.code]

@[simp] theorem wellFormed_holding (code : TypeCode) (element : WireType) :
    WellFormed (.holding code element) ↔ code = .array ∧ element.WellFormed := by
  simp [WellFormed, levels, element?, WireType.code]

/-- Types built level by level from a scalar type. -/
inductive Built : WireType → Prop
  | scalar {code : TypeCode} : code ≠ .array → Built (.plain code)
  | array {element : WireType} : Built element → Built element.array

theorem wellFormed_iff_built (type : WireType) : type.WellFormed ↔ type.Built := by
  constructor
  · intro h
    induction type with
    | plain code => exact .scalar ((wellFormed_plain code).mp h)
    | holding code element ih =>
      obtain ⟨rfl, he⟩ := (wellFormed_holding code element).mp h
      exact .array (ih he)
  · intro h
    induction h with
    | scalar hc => exact (wellFormed_plain _).mpr hc
    | array _ ih => exact (wellFormed_holding _ _).mpr ⟨rfl, ih⟩

end WireType

namespace Json

/-- The code that a type's document gives at its outermost level. -/
def typeCode? : Json → Option TypeCode
  | .object fields => fields.lookup "code" >>= TypeCode.ofDocument?
  | .array [code] | .array [code, _] => TypeCode.ofDocument? code
  | _ => none

/-- The document of the element type, where a null stands for none. -/
def elementDocument? : Json → Option Json
  | .object fields => (fields.lookup "arrayElementType").filter (!·.isNull)
  | .array [_, element] => (some element).filter (!·.isNull)
  | _ => none

/-- The document itself, the one of its element type, and so on inwards. -/
inductive TypeLevel : Json → Json → Prop
  | outermost (document : Json) : TypeLevel document document
  | element {document element level : Json} :
    document.elementDocument? = some element → TypeLevel element level → TypeLevel document level

private theorem typeLevel_of_none {document level : Json} (h : document.elementDocument? = none) :
    document.TypeLevel level ↔ level = document := by
  constructor
  · rintro (_ | ⟨he, _⟩)
    · rfl
    · rw [h] at he; cases he
  · rintro rfl
    exact .outermost _

private theorem typeLevel_of_some {document element level : Json}
    (h : document.elementDocument? = some element) :
    document.TypeLevel level ↔ level = document ∨ element.TypeLevel level := by
  constructor
  · rintro (_ | ⟨he, hl⟩)
    · exact .inl rfl
    · rw [h] at he
      cases he
      exact .inr hl
  · rintro (rfl | hl)
    · exact .outermost _
    · exact .element h hl

private theorem sizeOf_lookup_lt {key : String} {value : Json} {fields : List (String × Json)}
    (h : fields.lookup key = some value) : sizeOf value < sizeOf fields := by
  induction fields with
  | nil => cases h
  | cons field rest ih =>
    obtain ⟨k, v⟩ := field
    rw [List.lookup_cons] at h
    simp only [List.cons.sizeOf_spec, Prod.mk.sizeOf_spec]
    split at h
    · cases h
      omega
    · have := ih h
      omega

private theorem sizeOf_elementDocument?_lt {document element : Json}
    (h : document.elementDocument? = some element) : sizeOf element < sizeOf document := by
  unfold elementDocument? at h
  split at h
  · next fields =>
    have hl := sizeOf_lookup_lt (Option.filter_eq_some_iff.mp h).1
    simp only [object.sizeOf_spec]
    omega
  · cases (Option.filter_eq_some_iff.mp h).1
    simp only [array.sizeOf_spec, List.cons.sizeOf_spec]
    omega
  · cases h

/-- Induction over the levels of a document, from the inside out. -/
theorem level_induction {motive : Json → Prop}
    (innermost : ∀ document : Json, document.elementDocument? = none → motive document)
    (element : ∀ document element : Json,
      document.elementDocument? = some element → motive element → motive document)
    (document : Json) : motive document :=
  match h : document.elementDocument? with
  | none => innermost document h
  | some inner =>
    have := sizeOf_elementDocument?_lt h
    element document inner h (level_induction innermost element inner)
termination_by sizeOf document

end Json

namespace WireType

theorem elementOfFields?_eq (fields : List (String × Json)) :
    elementOfFields? fields =
      match (fields.lookup "arrayElementType").filter (!·.isNull) with
      | none => some none
      | some element => (ofDocument? element).map some := by
  induction fields with
  | nil => rfl
  | cons field rest ih =>
    obtain ⟨key, value⟩ := field
    rw [elementOfFields?, List.lookup_cons]
    by_cases hk : key = "arrayElementType"
    · subst hk
      cases hn : value.isNull <;> simp [Option.filter, hn]
    · have hb : ("arrayElementType" == key) = false := by simpa using Ne.symm hk
      rw [if_neg hk, hb, ih]

/-- A document is read level by level. -/
theorem ofDocument?_eq (document : Json) :
    ofDocument? document = document.typeCode?.bind fun code =>
      match document.elementDocument? with
      | none => some (.plain code)
      | some element => (ofDocument? element).map (.holding code) := by
  cases document with
  | object fields =>
    simp only [ofDocument?, elementOfFields?_eq, Json.typeCode?, Json.elementDocument?]
    cases fields.lookup "code" >>= TypeCode.ofDocument? with
    | none => rfl
    | some code =>
      cases (fields.lookup "arrayElementType").filter (!·.isNull) with
      | none => rfl
      | some element => cases h : ofDocument? element <;> simp [h, ofParts]
  | array items =>
    -- Only lists of one or two entries are read.
    rcases items with _ | ⟨code, _ | ⟨element, _ | ⟨_, _⟩⟩⟩
    · rfl
    · simp only [ofDocument?, Json.typeCode?, Json.elementDocument?]
      cases TypeCode.ofDocument? code <;> rfl
    · simp only [ofDocument?, Json.typeCode?, Json.elementDocument?]
      cases TypeCode.ofDocument? code with
      | none => rfl
      | some code =>
        cases hn : element.isNull with
        | true => simp [Option.filter, hn]
        | false => cases h : ofDocument? element <;> simp [Option.filter, hn, h]
    · rfl
  | null | bool | number | string => rfl

/-- A document is read exactly if it gives a code at every level. -/
theorem isSome_ofDocument?_iff (document : Json) :
    (ofDocument? document).isSome ↔ ∀ level, document.TypeLevel level → level.typeCode?.isSome := by
  induction document using Json.level_induction with
  | innermost document hn =>
    rw [ofDocument?_eq, hn]
    simp only [Json.typeLevel_of_none hn, forall_eq]
    cases document.typeCode? <;> simp
  | element document element he ih =>
    rw [ofDocument?_eq, he]
    simp only [Json.typeLevel_of_some he, or_imp, forall_and, forall_eq, ← ih]
    cases document.typeCode? <;> simp

/-- The type that is read has the levels of the document. -/
theorem wellFormed_iff_of_ofDocument? {document : Json} {type : WireType}
    (h : ofDocument? document = some type) :
    type.WellFormed ↔ ∀ level, document.TypeLevel level →
      (level.elementDocument?.isSome ↔ level.typeCode? = some .array) := by
  induction document using Json.level_induction generalizing type with
  | innermost document hn =>
    rw [ofDocument?_eq, hn] at h
    obtain ⟨code, hc, ht⟩ := Option.bind_eq_some_iff.mp h
    cases ht
    simp [Json.typeLevel_of_none hn, hn, hc]
  | element document element he ih =>
    rw [ofDocument?_eq, he] at h
    obtain ⟨code, hc, ht⟩ := Option.bind_eq_some_iff.mp h
    obtain ⟨inner, hi, rfl⟩ := Option.map_eq_some_iff.mp ht
    simp [Json.typeLevel_of_some he, or_imp, forall_and, he, hc, ih hi]

/-- The well-formed types are those that are built from scalars. A document is read exactly if it gives
a code at every level, and the type that is read is well formed exactly if the document has an element
type at the levels of arrays and at no others. -/
theorem ofDocument?_wellFormed_iff (document : Json) (type : WireType) :
    (type.WellFormed ↔ type.Built) ∧
      ((ofDocument? document).isSome ↔
        ∀ level, document.TypeLevel level → level.typeCode?.isSome) ∧
      (ofDocument? document = some type →
        (type.WellFormed ↔ ∀ level, document.TypeLevel level →
          (level.elementDocument?.isSome ↔ level.typeCode? = some .array))) := by
  refine ⟨wellFormed_iff_built type, isSome_ofDocument?_iff document, fun h => ?_⟩
  exact wellFormed_iff_of_ofDocument? h

/-- An element type of integers inside an array, where the inner type is written as a list and its code
as an object. -/
theorem ofDocument?_wellFormed_iff_inside :
    let inner : Json := .array [.string "INT64", .object [("code", .object [("DATE", .null)])]]
    let document : Json :=
      .object [("arrayElementType", inner), ("note", .null), ("code", .string "ARRAY")]
    let type : WireType := .array (.holding .int64 (.plain .date))
    ofDocument? document = some type ∧ ¬ type.WellFormed ∧
      ¬ ∀ level, document.TypeLevel level →
        (level.elementDocument?.isSome ↔ level.typeCode? = some .array) := by
  intro inner document type
  have hr : ofDocument? document = some type := by decide
  have hw : ¬ type.WellFormed := by decide
  exact ⟨hr, hw, fun h => hw (((ofDocument?_wellFormed_iff document type).2.2 hr).mpr h)⟩

/-- Not every type that is read is well formed: an array may lack its element type. -/
theorem ofDocument?_bare_array :
    let document : Json := .object [("code", .string "ARRAY")]
    ofDocument? document = some (.plain .array) ∧ ¬ WellFormed (.plain .array) := by
  decide

end WireType

end BoundSql
