import BoundSql.Proofs.AttachedTypes

/-!
# Copies of bindings

A copy that is offered types is equal to its original exactly if the types are refused and nothing in
the values is a NaN, however deep in arrays it stands: a NaN is the one value that differs from itself.
Bindings that are held side by side do not share anything. Those that are offered nothing stay as they
are, whatever is copied from them and whatever is offered to the copies.
-/

namespace BoundSql

theorem Binary64.beq_self (x : Binary64) : (x == x) = !x.isNaN := by
  change (!x.isNaN && !x.isNaN && (x.bits == x.bits || (x.isZero && x.isZero))) = !x.isNaN
  rw [Bool.and_self, beq_self_eq_true, Bool.true_or, Bool.and_true]

private theorem Binary64.isNaN_of_isFinite {x : Binary64} (h : x.isFinite = true) :
    x.isNaN = false := by
  rw [isFinite, decide_eq_true_iff] at h
  rw [isNaN, decide_eq_false_iff_not]
  omega

namespace Json

/-- Numbers of documents equal themselves: none of them is a NaN. -/
theorem Number.beq_self : ∀ n : Number, (n == n) = true
  | .whole n _ => beq_self_eq_true n
  | .double x finite => by
    change (x == x) = true
    rw [Binary64.beq_self, Binary64.isNaN_of_isFinite finite, Bool.not_false]

mutual

theorem same_self : ∀ document : Json, document.same document = true
  | .null => rfl
  | .bool b => by rw [same, beq_self_eq_true]
  | .number n => by rw [same, Number.beq_self]
  | .string s => by rw [same, beq_self_eq_true]
  | .array items => by rw [same, sameItems_self items]
  | .object fields => by rw [same, sameFields_self fields]

private theorem sameItems_self : ∀ items : List Json, sameItems items items = true
  | [] => rfl
  | item :: rest => by rw [sameItems, same_self item, sameItems_self rest, Bool.and_self]

private theorem sameFields_self : ∀ fields : List (String × Json), sameFields fields fields = true
  | [] => rfl
  | (key, value) :: rest => by
    rw [sameFields, beq_self_eq_true, same_self value, sameFields_self rest, Bool.and_self,
      Bool.and_self]

end

theorem beq_self (document : Json) : (document == document) = true :=
  same_self document.normal

end Json

private theorem beq_bytes_self (bytes : ByteArray) : (bytes == bytes) = true :=
  beq_self_eq_true bytes.data

namespace Value

/-- The first value stands in the second one: it is that value, or it stands in one of its elements. -/
inductive Within : Value → Value → Prop
  | self (value : Value) : Within value value
  | element {value element : Value} {elements : List Value} : element ∈ elements →
      Within value element → Within value (.array elements)

def HoldsNaN (value : Value) : Prop :=
  ∃ x : Binary64, x.isNaN = true ∧ Within (.float x) value

theorem holdsNaN_float {x : Binary64} : HoldsNaN (.float x) ↔ x.isNaN = true := by
  constructor
  · rintro ⟨y, hy, hw⟩
    cases hw
    exact hy
  · intro hx
    exact ⟨x, hx, .self _⟩

theorem holdsNaN_array {elements : List Value} :
    HoldsNaN (.array elements) ↔ ∃ element ∈ elements, element.HoldsNaN := by
  constructor
  · rintro ⟨x, hx, hw⟩
    cases hw with
    | element hm hw => exact ⟨_, hm, x, hx, hw⟩
  · rintro ⟨element, hm, x, hx, hw⟩
    exact ⟨x, hx, .element hm hw⟩

private theorem sameElements_self_iff (elements : List Value) :
    sameElements elements elements = true ↔ ∀ element ∈ elements, element.same element = true := by
  induction elements with
  | nil => simp [sameElements]
  | cons element rest ih => rw [sameElements, Bool.and_eq_true, ih, List.forall_mem_cons]

/-- A value equals itself exactly if it holds no NaN. -/
theorem same_self_iff (value : Value) : value.same value = true ↔ ¬ value.HoldsNaN := by
  cases value with
  | float x =>
    rw [same, Binary64.beq_self, holdsNaN_float]
    simp
  | array elements =>
    have ih : ∀ element ∈ elements, element.same element = true ↔ ¬ element.HoldsNaN :=
      fun element _ => same_self_iff element
    simp only [same, sameElements_self_iff, holdsNaN_array, not_exists, not_and]
    exact forall₂_congr ih
  | null | bool | int | text | blob | json | timestamp | date =>
    refine iff_of_true (by simp [same, beq_bytes_self, Json.beq_self]) ?_
    rintro ⟨x, -, hw⟩
    cases hw
termination_by sizeOf value

theorem beq_self_iff (values : List Value) :
    (values == values) = true ↔ ∀ value ∈ values, ¬ value.HoldsNaN := by
  induction values with
  | nil => simp
  | cons value rest ih =>
    rw [List.cons_beq_cons, Bool.and_eq_true, ih, List.forall_mem_cons]
    exact and_congr_left fun _ => same_self_iff value

end Value

namespace Bindings

private theorem beq_eq (bindings other : Bindings) :
    (bindings == other) = (bindings.values == other.values && bindings.types == other.types) := rfl

theorem beq_self_iff (bindings : Bindings) :
    (bindings == bindings) = true ↔ ∀ value ∈ bindings.values, ¬ value.HoldsNaN := by
  rw [beq_eq, Bool.and_eq_true, Value.beq_self_iff]
  exact and_iff_left (beq_self_eq_true bindings.types)

/-- What is done with bindings that are held side by side. -/
inductive Step where
  | copy (place : Nat)
  | offer (place : Nat) (types : List (Option WireType))

/-- A copy goes behind all that are held. A list is offered to the bindings at a place and to no others. -/
def step (held : List Bindings) : Step → List Bindings
  | .copy place => held ++ held[place]?.toList
  | .offer place types =>
    held.modify place fun bindings => (bindings.attach? types).getD bindings

def run (held : List Bindings) (steps : List Step) : List Bindings :=
  steps.foldl step held

private theorem getElem?_step {held : List Bindings} {place : Nat} {bindings : Bindings}
    (h : held[place]? = some bindings) {next : Step} (hn : ∀ types, next ≠ .offer place types) :
    (step held next)[place]? = some bindings := by
  cases next with
  | copy source =>
    have hl : place < held.length := (List.getElem?_eq_some_iff.mp h).1
    rw [step, List.getElem?_append_left hl, h]
  | offer other types =>
    have ho : other ≠ place := by
      rintro rfl
      exact hn types rfl
    rw [step, List.getElem?_modify_ne _ _ ho, h]

/-- Bindings that are offered nothing stay at their place as they are. -/
theorem getElem?_run {held : List Bindings} {place : Nat} {bindings : Bindings}
    (h : held[place]? = some bindings) {steps : List Step}
    (hs : ∀ types, Step.offer place types ∉ steps) : (run held steps)[place]? = some bindings := by
  induction steps generalizing held with
  | nil => exact h
  | cons next rest ih =>
    have hn : ∀ types, next ≠ .offer place types := by
      rintro types rfl
      exact hs types (.head _)
    exact ih (getElem?_step h hn) fun types hm => hs types (.tail _ hm)

private theorem getElem?_run_copy_offer {held : List Bindings} {place : Nat} {bindings : Bindings}
    (h : held[place]? = some bindings) (types : List (Option WireType)) :
    (run held [.copy place, .offer held.length types])[held.length]? =
      some ((bindings.attach? types).getD bindings) := by
  simp [run, step, h]

private theorem types_of_attach? {bindings attached : Bindings} {types : List (Option WireType)}
    (h : bindings.attach? types = some attached) :
    bindings.types = none ∧ attached.types.isSome := by
  have hs : (bindings.attach? types).isSome := by rw [h]; rfl
  rw [attach?_isSome_iff, h] at hs
  exact hs

/-- A copy that was offered types equals its original exactly if they were refused and no value of the
original holds a NaN. The copy is made behind all bindings that are held, and the original stays at its
place as it is, whatever is done but offering types to it. -/
theorem copy_eq_original_iff (original : Bindings) (types : List (Option WireType)) :
    let copy := (original.attach? types).getD original
    ((copy == original) = true ↔
      original.attach? types = none ∧ ∀ value ∈ original.values, ¬ value.HoldsNaN) ∧
    ∀ (held : List Bindings) (place : Nat), held[place]? = some original →
      (run held [.copy place, .offer held.length types])[held.length]? = some copy ∧
        ∀ steps, (∀ offered, Step.offer place offered ∉ steps) →
          (run held steps)[place]? = some original := by
  intro copy
  refine ⟨?equal, fun held place h => ⟨getElem?_run_copy_offer h types, fun _ => getElem?_run h⟩⟩
  case equal =>
    cases ha : original.attach? types with
    | none =>
      have hc : copy = original := by simp only [copy, ha, Option.getD_none]
      rw [hc, beq_self_iff]
      exact (and_iff_right rfl).symm
    | some attached =>
      have hc : copy = attached := by simp only [copy, ha, Option.getD_some]
      obtain ⟨hn, hs⟩ := types_of_attach? ha
      obtain ⟨there, ht⟩ := Option.isSome_iff_exists.mp hs
      have hd : (copy == original) = false := by
        rw [hc, beq_eq, hn, ht, Bool.and_eq_false_iff]
        exact .inr rfl
      simp [hd]

/-- A NaN in an array of arrays makes a copy differ that was refused its types. Without the NaN the
copy is equal, and it differs once it has types; the original has none then. -/
theorem copy_eq_original_iff_of_nan :
    let original := ofValues [.int 7, .null]
    let odd := ofValues [.int 7, .array [.null, .array [.float ⟨0x7FF8000000000000⟩]]]
    let types := [none, some (.plain .string)]
    odd.attach? [none] = none ∧ (odd == odd) = false ∧ original.attach? [none] = none ∧
      (original == original) = true ∧
      (⟨original.values, some types⟩ == original) = false ∧
      (run [odd, original] [.copy 1, .offer 2 types])[2]? = some ⟨original.values, some types⟩ ∧
      (run [odd, original] [.copy 1, .offer 2 types])[1]? = some original := by
  intro original odd types
  have hodd : (odd == odd) = false := by
    rw [← Bool.not_eq_true]
    intro he
    obtain ⟨-, hn⟩ := (copy_eq_original_iff odd [none]).1.mp he
    apply hn (.array [.null, .array [.float ⟨0x7FF8000000000000⟩]]) (by simp [odd, ofValues])
    exact ⟨⟨0x7FF8000000000000⟩, by decide,
      .element (.tail _ (.head _)) (.element (.head _) (.self _))⟩
  have hequal : (original == original) = true := by
    refine (copy_eq_original_iff original [none]).1.mpr ⟨rfl, fun value hm => ?_⟩
    have hv : value = .int 7 ∨ value = .null := by simpa [original, ofValues] using hm
    rintro ⟨x, -, hw⟩
    rcases hv with rfl | rfl <;> cases hw
  obtain ⟨hiff, hheld⟩ := copy_eq_original_iff original types
  obtain ⟨hcopy, hkept⟩ := hheld [odd, original] 1 rfl
  have hdiffers : (⟨original.values, some types⟩ == original) = false := by
    rw [← Bool.not_eq_true]
    intro he
    exact Option.some_ne_none _ (hiff.mp he).1
  exact ⟨rfl, hodd, rfl, hequal, hdiffers, hcopy, hkept _ (by simp)⟩

end Bindings

end BoundSql
