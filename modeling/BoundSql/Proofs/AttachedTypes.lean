import BoundSql.ValueTypes

/-!
# Types attached to bound values

Types are attached once. Of the lists that are offered one after another, the first that says anything
is cut or filled up to the number of values, and all others are refused. Whether a list says anything is
asked before it is cut, so what is attached may say nothing: then every type of that list stands past
the values.
-/

namespace BoundSql.Bindings

/-- Types cut or filled up to a number of positions. -/
def align (size : Nat) (types : List (Option WireType)) : List (Option WireType) :=
  (types.take size).rightpad size none

private theorem length_align (size : Nat) (types : List (Option WireType)) :
    (align size types).length = size := by
  simp only [align, List.rightpad, List.length_append, List.length_take, List.length_replicate]
  omega

theorem align_eq_self {size : Nat} {types : List (Option WireType)} (h : types.length = size) :
    align size types = types := by
  simp [align, List.rightpad, ← h]

/-- The entries of aligned types: those of the list as far as it goes, and none beyond. -/
theorem getElem?_align (size : Nat) (types : List (Option WireType)) (index : Nat) :
    (align size types)[index]? = if index < size then some types[index]?.join else none := by
  by_cases hi : index < size
  · rw [if_pos hi, align, List.rightpad, List.getElem?_append, List.length_take]
    by_cases ht : index < types.length
    · rw [if_pos (Nat.lt_min.mpr ⟨hi, ht⟩), List.getElem?_take_of_lt hi, List.getElem?_eq_getElem ht]
      rfl
    · have hf : ¬ index < min size types.length := fun h => ht (Nat.lt_min.mp h).2
      have hr : index - min size types.length < size - min size types.length := by omega
      rw [if_neg hf, List.getElem?_replicate, if_pos hr, List.getElem?_eq_none (Nat.le_of_not_lt ht)]
      rfl
  · rw [if_neg hi, List.getElem?_eq_none]
    rw [length_align]
    omega

private theorem eq_align_iff {size : Nat} {types attached : List (Option WireType)} :
    attached = align size types ↔ attached.length = size ∧
      ∀ index < size, attached[index]? = some types[index]?.join := by
  constructor
  · rintro rfl
    refine ⟨length_align size types, fun index hi => ?_⟩
    rw [getElem?_align, if_pos hi]
  · rintro ⟨hl, he⟩
    apply List.ext_getElem?
    intro index
    rw [getElem?_align]
    by_cases hi : index < size
    · rw [if_pos hi, he index hi]
    · rw [if_neg hi, List.getElem?_eq_none (hl ▸ Nat.le_of_not_lt hi)]

/-- A type is left where one stands at a position that is not cut off. -/
theorem exists_some_mem_align {size : Nat} {types : List (Option WireType)} :
    (∃ type, some type ∈ align size types) ↔
      ∃ index < size, ∃ type, types[index]? = some (some type) := by
  simp only [List.mem_iff_getElem?, getElem?_align]
  constructor
  · rintro ⟨type, index, h⟩
    split at h
    · next hi => exact ⟨index, hi, type, Option.join_eq_some_iff.mp (Option.some.inj h)⟩
    · cases h
  · rintro ⟨index, hi, type, h⟩
    exact ⟨type, index, by simp [hi, h]⟩

theorem attach?_ofValues_eq (values : List Value) (types : List (Option WireType)) :
    (ofValues values).attach? types =
      if types.any Option.isSome then some ⟨values, some (align values.length types)⟩ else none := by
  simp only [attach?, ofValues, Option.isNone_none, Bool.and_true]
  rfl

/-- Types that are there stay. -/
theorem attach?_of_isSome {bindings : Bindings} (h : bindings.types.isSome)
    (types : List (Option WireType)) : bindings.attach? types = none := by
  have hn : bindings.types.isNone = false := by simpa using h
  simp [attach?, hn]

/-- A list is taken exactly if it brings types where there were none. -/
theorem attach?_isSome_iff (bindings : Bindings) (types : List (Option WireType)) :
    (bindings.attach? types).isSome ↔
      bindings.types = none ∧ ((bindings.attach? types).getD bindings).types.isSome := by
  unfold attach?
  cases hb : bindings.types with
  | none => cases types.any Option.isSome <;> simp [hb]
  | some attached => simp

/-- The bindings after each list was offered; one that is refused leaves them as they are. -/
def attachAll (bindings : Bindings) (lists : List (List (Option WireType))) : Bindings :=
  lists.foldl (fun bindings types => (bindings.attach? types).getD bindings) bindings

private theorem attachAll_concat (bindings : Bindings) (lists : List (List (Option WireType)))
    (types : List (Option WireType)) :
    bindings.attachAll (lists ++ [types]) =
      ((bindings.attachAll lists).attach? types).getD (bindings.attachAll lists) := by
  simp only [attachAll, List.foldl_append, List.foldl_cons, List.foldl_nil]

theorem attachAll_of_isSome {bindings : Bindings} (h : bindings.types.isSome)
    (lists : List (List (Option WireType))) : bindings.attachAll lists = bindings := by
  induction lists with
  | nil => rfl
  | cons types rest ih =>
    rw [attachAll, List.foldl_cons, attach?_of_isSome h]
    exact ih

/-- The first list that says anything is attached, and the values stay. -/
theorem attachAll_ofValues (values : List Value) (lists : List (List (Option WireType))) :
    (ofValues values).attachAll lists =
      ⟨values, (lists.find? (·.any Option.isSome)).map (align values.length)⟩ := by
  induction lists with
  | nil => rfl
  | cons types rest ih =>
    rw [attachAll, List.foldl_cons, attach?_ofValues_eq, List.find?_cons]
    cases types.any Option.isSome with
    | false => exact ih
    | true => exact attachAll_of_isSome rfl rest

/-- Types that are there say something: one of them is a type. -/
def Informative (bindings : Bindings) : Prop :=
  ∀ types ∈ bindings.types, ∃ type, some type ∈ types

/-- Types are there as soon as one of the lists has a type. They say something exactly if the first
such list has a type at the position of a value. -/
theorem informative_attachAll_iff (values : List Value) (lists : List (List (Option WireType))) :
    let bindings := (ofValues values).attachAll lists
    (bindings.types = none ↔ ∀ types ∈ lists, ∀ entry ∈ types, entry = none) ∧
      (bindings.Informative ↔ ∀ types ∈ lists.find? (·.any Option.isSome),
        ∃ index < values.length, ∃ type, types[index]? = some (some type)) := by
  intro bindings
  have hb : bindings = _ := attachAll_ofValues values lists
  rw [hb]
  constructor
  · rw [Option.map_eq_none_iff, List.find?_eq_none]
    simp [Option.eq_none_iff_forall_not_mem]
  · cases lists.find? (·.any Option.isSome) with
    | none => simp [Informative]
    | some types => simp [Informative, exists_some_mem_align]

/-- A type for a position past the values is cut off, and what is left of its list says nothing. -/
theorem attachAll_cut :
    let bindings := (ofValues [.int 1]).attachAll [[none, some (.plain .int64)]]
    bindings.types = some [none] ∧ ¬ bindings.Informative := by
  intro bindings
  have hb : bindings.types = some [none] := rfl
  refine ⟨hb, fun h => ?_⟩
  obtain ⟨type, ht⟩ := h [none] hb
  simp at ht

theorem type?_eq_some_iff {bindings : Bindings} {index : Nat} {type : WireType} :
    bindings.type? index = some type ↔
      ∃ types, bindings.types = some types ∧ types[index]? = some (some type) := by
  simp only [type?, Option.bind_eq_some_iff, Option.join_eq_some_iff]

/-- Whatever lists are offered one after another, the values stay. The types are those of the first
list that says anything, entry by entry and one for each value, and no later list changes them. A list
is taken exactly if it brings types where there were none; one that is refused changes nothing. -/
theorem attachAll_keeps_first (values : List Value) (lists : List (List (Option WireType))) :
    let bindings := (ofValues values).attachAll lists
    bindings.values = values ∧
      (∀ types, bindings.types = some types → types.length = values.length) ∧
      (∀ types, bindings.types = some types ↔
        ∃ first, lists.find? (·.any Option.isSome) = some first ∧ types.length = values.length ∧
          ∀ index < values.length, types[index]? = some first[index]?.join) ∧
      (∀ later, bindings.types.isSome → bindings.attachAll later = bindings) ∧
      (∀ types, let after := (ofValues values).attachAll (lists ++ [types])
        ((bindings.attach? types).isSome ↔ bindings.types = none ∧ after.types.isSome) ∧
          (bindings.attach? types = none → after = bindings)) ∧
      ∀ index type, bindings.type? index = some type ↔
        ∃ types, bindings.types = some types ∧ types[index]? = some (some type) := by
  intro bindings
  have hb : bindings =
      ⟨values, (lists.find? (·.any Option.isSome)).map (align values.length)⟩ :=
    attachAll_ofValues values lists
  have ht : ∀ types, bindings.types = some types ↔
      ∃ first, lists.find? (·.any Option.isSome) = some first ∧ types.length = values.length ∧
        ∀ index < values.length, types[index]? = some first[index]?.join := by
    intro types
    rw [hb, Option.map_eq_some_iff]
    simp only [← eq_align_iff, @eq_comm _ types]
  refine ⟨by rw [hb], ?size, ht, ?later, ?step, fun index type => type?_eq_some_iff⟩
  case size =>
    intro types h
    obtain ⟨first, -, hl, -⟩ := (ht types).mp h
    exact hl
  case later =>
    intro later h
    exact attachAll_of_isSome h later
  case step =>
    intro types after
    have ha : after = (bindings.attach? types).getD bindings := attachAll_concat _ lists types
    rw [ha]
    refine ⟨attach?_isSome_iff bindings types, fun h => ?_⟩
    rw [h, Option.getD_none]

/-- A list that says nothing is refused, a short one is taken and filled up, and a later one is refused. -/
theorem attachAll_keeps_first_of_short :
    let lists := [[none], [some (.plain .int64)]]
    let bindings := (ofValues [.int 7, .null]).attachAll lists
    let later := [some (.plain .string), some (.plain .date)]
    bindings.types = some [some (.plain .int64), none] ∧ bindings.attachAll [later] = bindings ∧
      bindings.attach? later = none ∧
      (ofValues [.int 7, .null]).attachAll (lists ++ [later]) = bindings := by
  intro lists bindings later
  obtain ⟨-, -, ht, hl, hs, -⟩ := attachAll_keeps_first [.int 7, .null] lists
  have ha : bindings.types = some [some (.plain .int64), none] :=
    (ht _).mpr ⟨_, rfl, rfl, by decide⟩
  have hk : bindings.types.isSome := by rw [ha]; rfl
  have hr : bindings.attach? later = none := by
    rw [← Option.not_isSome_iff_eq_none, (hs later).1, ha]
    simp
  exact ⟨ha, hl [later] hk, hr, (hs later).2 hr⟩

end BoundSql.Bindings
