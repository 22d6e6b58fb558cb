import Mathlib.Logic.Relation
import BoundSql.Proofs.WellFormedTypes

/-!
# Documents that describe one type

A type is read back from the document that it is written as. Other documents describe it too: at every
level there may be more fields, and a list may stand for the object. What is read stays the same under
such rewriting, and what is refused is still refused.
-/

namespace BoundSql

namespace Json

/-- One level of a type's document is rewritten, the outermost or one inside: a field of another name
comes in, or the object becomes the list of its code and its element type. The code alone will do if no
element type is given. -/
inductive TypeRewrite : Json → Json → Prop
  | field {key : String} (value : Json) (front back : List (String × Json)) :
      key ≠ "code" → key ≠ "arrayElementType" →
      TypeRewrite (.object (front ++ back)) (.object (front ++ (key, value) :: back))
  | single {code : Json} {fields : List (String × Json)} : fields.lookup "code" = some code →
      ((fields.lookup "arrayElementType").getD .null).isNull = true →
      TypeRewrite (.object fields) (.array [code])
  | pair {code : Json} {fields : List (String × Json)} : fields.lookup "code" = some code →
      TypeRewrite (.object fields) (.array [code, (fields.lookup "arrayElementType").getD .null])
  | insideObject {element rewritten : Json} (front back : List (String × Json)) :
      front.lookup "arrayElementType" = none → TypeRewrite element rewritten →
      TypeRewrite (.object (front ++ ("arrayElementType", element) :: back))
        (.object (front ++ ("arrayElementType", rewritten) :: back))
  | insideList {element rewritten : Json} (code : Json) : TypeRewrite element rewritten →
      TypeRewrite (.array [code, element]) (.array [code, rewritten])

private theorem lookup_insert_of_ne {key name : String} (h : key ≠ name) (value : Json)
    (front back : List (String × Json)) :
    (front ++ (key, value) :: back).lookup name = (front ++ back).lookup name := by
  have hb : (name == key) = false := beq_eq_false_iff_ne.mpr h.symm
  rw [List.lookup_append, List.lookup_append, List.lookup_cons, hb]

private theorem lookup_insert_self {name : String} {front : List (String × Json)}
    (h : front.lookup name = none) (value : Json) (back : List (String × Json)) :
    (front ++ (name, value) :: back).lookup name = some value := by
  rw [List.lookup_append, h, List.lookup_cons_self, Option.none_or]

/-- A missing element type and a null are the same. -/
theorem elementDocument?_object (fields : List (String × Json)) :
    (object fields).elementDocument? =
      (some ((fields.lookup "arrayElementType").getD .null)).filter (!·.isNull) := by
  rw [elementDocument?]
  cases fields.lookup "arrayElementType" <;> rfl

namespace TypeRewrite

variable {document rewritten : Json}

theorem isNull_eq_false (h : TypeRewrite document rewritten) :
    document.isNull = false ∧ rewritten.isNull = false := by
  cases h <;> exact ⟨rfl, rfl⟩

private theorem typeCode?_eq (h : TypeRewrite document rewritten) :
    rewritten.typeCode? = document.typeCode? := by
  cases h with
  | field value front back hcode _ => simp only [typeCode?, lookup_insert_of_ne hcode]
  | single hcode _ | pair hcode => simp only [typeCode?, hcode, Option.bind_eq_bind, Option.bind_some]
  | insideObject front back _ _ =>
    have hne : "arrayElementType" ≠ "code" := by decide
    simp only [typeCode?, lookup_insert_of_ne hne]
  | insideList => rfl

/-- The element type's document is the one it was, or it has been rewritten itself. -/
theorem elementDocument?_eq_or (h : TypeRewrite document rewritten) :
    rewritten.elementDocument? = document.elementDocument? ∨
      ∃ element inner, document.elementDocument? = some element ∧
        rewritten.elementDocument? = some inner ∧ TypeRewrite element inner := by
  cases h with
  | field value front back _ helement =>
    exact .inl (by simp only [elementDocument?, lookup_insert_of_ne helement])
  | single _ hnull =>
    refine .inl ?_
    rw [elementDocument?_object, Option.filter_some, hnull]
    rfl
  | pair _ => exact .inl (elementDocument?_object _).symm
  | @insideObject element inner front back hfront hi =>
    obtain ⟨he, hn⟩ := hi.isNull_eq_false
    refine .inr ⟨element, inner, ?_, ?_, hi⟩
    · simp [elementDocument?, lookup_insert_self hfront, he]
    · simp [elementDocument?, lookup_insert_self hfront, hn]
  | @insideList element inner code hi =>
    obtain ⟨he, hn⟩ := hi.isNull_eq_false
    refine .inr ⟨element, inner, ?_, ?_, hi⟩
    · simp [elementDocument?, he]
    · simp [elementDocument?, hn]

end TypeRewrite

end Json

private theorem TypeCode.ofDocument?_name (code : TypeCode) :
    ofDocument? (.string code.name) = some code := by
  cases code <;> rfl

namespace WireType

private theorem typeCode?_toDocument (type : WireType) :
    type.toDocument.typeCode? = some type.code := by
  cases type <;> exact TypeCode.ofDocument?_name _

private theorem elementDocument?_toDocument (type : WireType) :
    type.toDocument.elementDocument? = type.element?.map toDocument := by
  cases type with
  | plain code => rfl
  | holding code element => cases element <;> rfl

theorem ofDocument?_toDocument (type : WireType) : ofDocument? type.toDocument = some type := by
  induction type with
  | plain code => rw [ofDocument?_eq, typeCode?_toDocument, elementDocument?_toDocument]; rfl
  | holding code element ih =>
    rw [ofDocument?_eq, typeCode?_toDocument, elementDocument?_toDocument]
    simp only [element?, Option.map_some, Option.bind_some, ih, WireType.code]

theorem ofDocument?_of_rewrite {document rewritten : Json} (h : document.TypeRewrite rewritten) :
    ofDocument? rewritten = ofDocument? document := by
  induction document using Json.level_induction generalizing rewritten with
  | innermost document hn =>
    rcases h.elementDocument?_eq_or with he | ⟨element, -, he, -⟩
    · rw [ofDocument?_eq, ofDocument?_eq document, h.typeCode?_eq, he]
    · rw [hn] at he
      cases he
  | element document element hs ih =>
    rcases h.elementDocument?_eq_or with he | ⟨_, inner, he, hr, hi⟩
    · rw [ofDocument?_eq, ofDocument?_eq document, h.typeCode?_eq, he]
    · rw [hs] at he
      cases he
      rw [ofDocument?_eq, ofDocument?_eq document, h.typeCode?_eq, hs, hr]
      simp only [ih hi]

theorem ofDocument?_of_rewrites {document rewritten : Json}
    (h : Relation.ReflTransGen Json.TypeRewrite document rewritten) :
    ofDocument? rewritten = ofDocument? document := by
  induction h with
  | refl => rfl
  | tail _ hr ih => exact (ofDocument?_of_rewrite hr).trans ih

/-- Every type is read back from its document, well formed or not. Documents that differ by fields of
other names, and by lists in place of objects, are read as the same type. -/
theorem ofDocument?_toDocument_and_rewritten :
    (∀ type : WireType, ofDocument? type.toDocument = some type) ∧
      ∀ (document rewritten : Json) (type : WireType),
        Relation.ReflTransGen Json.TypeRewrite document rewritten →
          (ofDocument? rewritten = some type ↔ ofDocument? document = some type) := by
  refine ⟨ofDocument?_toDocument, fun document rewritten type h => ?_⟩
  rw [ofDocument?_of_rewrites h]

/-- The outer and the innermost type are written as lists, and a field comes in between them. -/
theorem ofDocument?_toDocument_and_rewritten_inside :
    let type : WireType := .array (.holding .int64 (.plain .date))
    let inner : Json := .object [("note", .bool true), ("code", .string "INT64"),
      ("arrayElementType", .array [.string "DATE"])]
    let rewritten : Json := .array [.string "ARRAY", inner]
    Relation.ReflTransGen Json.TypeRewrite type.toDocument rewritten ∧
      ofDocument? rewritten = some type := by
  intro type inner rewritten
  obtain ⟨hread, hrewritten⟩ := ofDocument?_toDocument_and_rewritten
  have hdate : Json.TypeRewrite (.object [("code", .string "DATE")]) (.array [.string "DATE"]) :=
    .single rfl rfl
  have h : Relation.ReflTransGen Json.TypeRewrite type.toDocument rewritten :=
    .head (.pair rfl) <|
      .head (.insideList _ (.field (.bool true) [] _ (by decide) (by decide))) <|
        .single (.insideList _ (.insideObject [("note", _), ("code", _)] [] rfl hdate))
  exact ⟨h, (hrewritten _ _ type h).mpr (hread type)⟩

end WireType

end BoundSql
