import BoundSql.Proofs.GatheredTypes
import Mathlib.Data.List.Induction

/-!
# Slots after a history

Values are bound and types are recorded at any positions, in any order. Every such action comes down
to one entry, a position and what is recorded there, and an entry changes the slot of its position
and no other. So the slot of a position is told by the entries of that position alone, in their
order: the last declared type stands, and without one the last inferred type.
-/

namespace BoundSql

namespace Slot

/-- What a slot holds after something is recorded in it. The empty slot records nothing. -/
def record (slot : Slot) : Slot → Slot
  | .empty => slot
  | .declared type => .declared type
  | .inferred type =>
    match slot with
    | .declared kept => .declared kept
    | _ => .inferred type

def declared? : Slot → Option WireType
  | .declared type => some type
  | _ => none

def inferred? : Slot → Option WireType
  | .inferred type => some type
  | _ => none

private theorem type?_eq_or (slot : Slot) : slot.type? = slot.declared?.or slot.inferred? := by
  cases slot <;> rfl

private theorem type?_isSome (slot : Slot) : slot.type?.isSome = (slot != .empty) := by
  cases slot <;> rfl

theorem declared?_record (slot entry : Slot) :
    (slot.record entry).declared? = entry.declared?.or slot.declared? := by
  cases entry with
  | empty | declared => rfl
  | inferred type => cases slot <;> rfl

/-- An inferred type counts where nothing is declared. -/
theorem inferred?_record {slot entry : Slot} (h : (slot.record entry).declared? = none) :
    (slot.record entry).inferred? = entry.inferred?.or slot.inferred? := by
  cases entry with
  | empty => rfl
  | declared type => cases h
  | inferred type =>
    cases slot with
    | declared => cases h
    | empty | inferred => rfl

/-- What a slot holds that was empty before everything was recorded in it. -/
def recordAll (entries : List Slot) : Slot :=
  entries.foldl record .empty

private theorem recordAll_concat (entries : List Slot) (entry : Slot) :
    recordAll (entries ++ [entry]) = (recordAll entries).record entry :=
  List.foldl_append

private theorem getLast?_filterMap_concat {α β : Type} (f : α → Option β) (as : List α) (a : α) :
    ((as ++ [a]).filterMap f).getLast? = (f a).or (as.filterMap f).getLast? := by
  rw [List.filterMap_append, List.getLast?_append]
  cases h : f a <;> simp [h]

theorem declared?_recordAll (entries : List Slot) :
    (recordAll entries).declared? = (entries.filterMap declared?).getLast? := by
  induction entries using List.reverseRecOn with
  | nil => rfl
  | append_singleton entries entry ih =>
    rw [recordAll_concat, declared?_record, ih, getLast?_filterMap_concat]

theorem inferred?_recordAll {entries : List Slot} (h : (recordAll entries).declared? = none) :
    (recordAll entries).inferred? = (entries.filterMap inferred?).getLast? := by
  induction entries using List.reverseRecOn with
  | nil => rfl
  | append_singleton entries entry ih =>
    rw [recordAll_concat] at h ⊢
    have hb : (recordAll entries).declared? = none := by
      rw [declared?_record, Option.or_eq_none_iff] at h
      exact h.2
    rw [inferred?_record h, ih hb, getLast?_filterMap_concat]

/-- The last declared type stands, and without one the last inferred type. -/
theorem type?_recordAll (entries : List Slot) :
    (recordAll entries).type? =
      (entries.filterMap declared?).getLast?.or (entries.filterMap inferred?).getLast? := by
  rw [type?_eq_or, ← declared?_recordAll]
  cases h : (recordAll entries).declared? with
  | some type => rfl
  | none => exact inferred?_recordAll h

end Slot

namespace Binder

/-- What can be done with a binder. -/
inductive Action where
  | allocate (spell : Nat → String) (value : Value)
  | recordInferred (position : Nat) (type : WireType)
  | recordDeclared (position : Nat) (type : WireType)

/-- What an action records, and where. -/
structure Entry where
  position : Nat
  slot : Slot
  deriving DecidableEq

namespace Action

def isAllocation : Action → Bool
  | .allocate .. => true
  | _ => false

/-- The position that is named to record a type there. -/
def recordedPosition? : Action → Option Nat
  | .allocate .. => none
  | .recordInferred position _ | .recordDeclared position _ => some position

/-- The largest position that is named, or zero. -/
def largestPosition (actions : List Action) : Nat :=
  (actions.filterMap recordedPosition?).foldr max 0

/-- The number of bound values after the action. -/
def countAfter (count : Nat) (action : Action) : Nat :=
  if action.isAllocation then count + 1 else count

/-- The entry of an action when `count` values are bound before it. A value records its own type at
the position where it is bound. -/
def entry (count : Nat) : Action → Entry
  | .allocate _ value => ⟨count + 1, value.slot⟩
  | .recordInferred position type => ⟨position, .inferred type⟩
  | .recordDeclared position type => ⟨position, .declared type⟩

/-- The entries of actions, one after another. -/
def entries (count : Nat) : List Action → List Entry
  | [] => []
  | action :: rest => action.entry count :: entries (action.countAfter count) rest

end Action

namespace Entry

/-- What is recorded at a position, in order. -/
def slotsAt (position : Nat) (entries : List Entry) : List Slot :=
  (entries.filter (·.position == position)).map Entry.slot

def lastDeclared? (position : Nat) (entries : List Entry) : Option WireType :=
  ((slotsAt position entries).filterMap Slot.declared?).getLast?

def lastInferred? (position : Nat) (entries : List Entry) : Option WireType :=
  ((slotsAt position entries).filterMap Slot.inferred?).getLast?

end Entry

/-- The slot of the position `index + 1`; one that is not there yet is empty. -/
def slotAt (binder : Binder) (index : Nat) : Slot :=
  binder.slots[index]?.getD .empty

private theorem type?_slotAt (binder : Binder) (index : Nat) :
    binder.types[index]?.join = (binder.slotAt index).type? := by
  rw [types, List.getElem?_map, slotAt]
  cases binder.slots[index]? <;> rfl

private theorem length_modifySlot (binder : Binder) (change : Slot → Slot) (position : Nat) :
    (binder.modifySlot change position).slots.length = max binder.slots.length position := by
  cases position with
  | zero => simp [modifySlot]
  | succ index =>
    simp only [modifySlot, reserve, List.rightpad, List.length_modify, List.length_append,
      List.length_replicate]
    omega

/-- Room that is made for a position is empty. -/
theorem slotAt_reserve (binder : Binder) (position index : Nat) :
    (binder.reserve position).slotAt index = binder.slotAt index := by
  simp only [slotAt, reserve, List.rightpad, List.getElem?_append, List.getElem?_replicate]
  by_cases hi : index < binder.slots.length
  · rw [if_pos hi]
  · rw [if_neg hi, List.getElem?_eq_none (Nat.le_of_not_lt hi)]
    split <;> rfl

private theorem slotAt_modifySlot (binder : Binder) (change : Slot → Slot) (position index : Nat) :
    (binder.modifySlot change position).slotAt index =
      if position = index + 1 then change (binder.slotAt index) else binder.slotAt index := by
  cases position with
  | zero => rfl
  | succ other =>
    rw [← slotAt_reserve binder (other + 1) index]
    by_cases hi : other = index
    · subst hi
      have hl : other < (binder.reserve (other + 1)).slots.length := by
        simp only [reserve, List.rightpad, List.length_append, List.length_replicate]
        omega
      simp [modifySlot, slotAt, List.getElem?_eq_getElem hl]
    · simp [modifySlot, slotAt, hi]

private theorem reserve_reserve (binder : Binder) (position : Nat) :
    (binder.reserve position).reserve position = binder.reserve position := by
  have hl : position - (binder.slots.length + (position - binder.slots.length)) = 0 := by omega
  simp [reserve, List.rightpad, hl]

/-- The binder after an action. -/
def act (binder : Binder) : Action → Binder
  | .allocate spell value => ((allocate spell value).run binder).2
  | .recordInferred position type => binder.recordInferred position type
  | .recordDeclared position type => binder.recordDeclared position type

private theorem slots_note_eq (binder : Binder) (value : Value) :
    (binder.note value).slots =
      (binder.modifySlot (·.record value.slot) (binder.count + 1)).slots := by
  unfold note Value.slot
  cases value.wireType with
  | ok type =>
    have hr := reserve_reserve { binder with count := binder.count + 1 } (binder.count + 1)
    simp only [recordInferred, modifySlot, hr]
    rfl
  | error _ => exact (List.modify_id _ _).symm

/-- Every action changes the slots as its entry says. -/
theorem slots_act (binder : Binder) (action : Action) :
    (binder.act action).slots =
      (binder.modifySlot (·.record (action.entry binder.count).slot)
        (action.entry binder.count).position).slots := by
  cases action with
  | allocate spell value => exact slots_note_eq binder value
  | recordInferred position type => rfl
  | recordDeclared position type => rfl

private theorem count_act (binder : Binder) (action : Action) :
    (binder.act action).count = action.countAfter binder.count := by
  cases action with
  | allocate spell value => exact (note_frame binder value).1
  | recordInferred position type => exact (modifySlot_frame _ _ _).1
  | recordDeclared position type => exact (modifySlot_frame _ _ _).1

private theorem length_slots_act (binder : Binder) (action : Action) :
    (binder.act action).slots.length =
      max binder.slots.length (action.entry binder.count).position := by
  rw [slots_act, length_modifySlot]

/-- There is still a slot for every bound value. -/
theorem count_le_length_act {binder : Binder} (h : binder.count ≤ binder.slots.length)
    (action : Action) : (binder.act action).count ≤ (binder.act action).slots.length := by
  rw [count_act, length_slots_act]
  cases action with
  | allocate => exact Nat.le_max_right _ _
  | recordInferred | recordDeclared => exact Nat.le_trans h (Nat.le_max_left _ _)

theorem slotAt_act (binder : Binder) (action : Action) (index : Nat) :
    (binder.act action).slotAt index =
      if (action.entry binder.count).position = index + 1 then
        (binder.slotAt index).record (action.entry binder.count).slot
      else binder.slotAt index := by
  rw [slotAt, slots_act]
  exact slotAt_modifySlot binder _ _ index

/-- The binder after the actions, one after another. -/
def actAll (binder : Binder) (actions : List Action) : Binder :=
  actions.foldl act binder

@[simp] theorem actAll_cons (binder : Binder) (action : Action) (rest : List Action) :
    binder.actAll (action :: rest) = (binder.act action).actAll rest := rfl

theorem count_actAll (binder : Binder) (actions : List Action) :
    (binder.actAll actions).count = binder.count + actions.countP Action.isAllocation := by
  induction actions generalizing binder with
  | nil => rfl
  | cons action rest ih =>
    rw [actAll_cons, ih, count_act, Action.countAfter, List.countP_cons]
    split <;> omega

/-- A position has a slot as soon as a value is bound there, or it or a larger one is named. -/
theorem length_slots_actAll (binder : Binder) (h : binder.count ≤ binder.slots.length)
    (actions : List Action) :
    (binder.actAll actions).slots.length =
      max (max binder.slots.length (binder.actAll actions).count)
        (Action.largestPosition actions) := by
  induction actions generalizing binder with
  | nil => exact ((Nat.max_zero _).trans (Nat.max_eq_left h)).symm
  | cons action rest ih =>
    rw [actAll_cons, ih _ (count_le_length_act h action), length_slots_act]
    cases action with
    | allocate spell value =>
      have hc : (binder.act (.allocate spell value)).count = binder.count + 1 := count_act binder _
      have hf := count_actAll (binder.act (.allocate spell value)) rest
      have hl : binder.count + 1 ≤ ((binder.act (.allocate spell value)).actAll rest).count := by
        omega
      rw [Action.entry, Nat.max_assoc binder.slots.length, Nat.max_eq_right hl]
      rfl
    | recordInferred position type | recordDeclared position type =>
      simp only [Action.entry, Action.largestPosition, List.filterMap_cons,
        Action.recordedPosition?, List.foldr_cons]
      ac_rfl

theorem slotAt_actAll (binder : Binder) (actions : List Action) (index : Nat) :
    (binder.actAll actions).slotAt index =
      (Entry.slotsAt (index + 1) (Action.entries binder.count actions)).foldl Slot.record
        (binder.slotAt index) := by
  induction actions generalizing binder with
  | nil => rfl
  | cons action rest ih =>
    rw [actAll_cons, ih, slotAt_act, count_act, Action.entries, Entry.slotsAt, Entry.slotsAt,
      List.filter_cons]
    by_cases hp : (action.entry binder.count).position = index + 1
    · simp [hp]
    · simp [hp]

theorem hasTypes_iff (binder : Binder) :
    binder.hasTypes = true ↔ ∃ type, some type ∈ binder.types := by
  simp only [hasTypes, types, List.any_eq_true, List.mem_map, ← Slot.type?_isSome,
    Option.isSome_iff_exists]
  constructor
  · rintro ⟨slot, hs, type, ht⟩
    exact ⟨type, slot, hs, ht⟩
  · rintro ⟨type, slot, hs, ht⟩
    exact ⟨slot, hs, type, ht⟩

/-- After any history from a fresh binder, the position of the last value is the number of values
bound, whatever was recorded. There is a slot for every value and up to the largest position named.
The type of a position is the last one declared there, or else the last one inferred there, also by
the value bound there, and there are types exactly if some position has one. -/
theorem actAll_types (options : RenderOptions) (actions : List Action) :
    let binder := (fresh options).actAll actions
    let bound := actions.countP Action.isAllocation
    let entries := Action.entries 0 actions
    binder.count = bound ∧
      (∀ position type, (binder.recordInferred position type).count = bound ∧
        (binder.recordDeclared position type).count = bound) ∧
      binder.types.length = max bound (Action.largestPosition actions) ∧
      (∀ index, binder.types[index]?.join =
        (Entry.lastDeclared? (index + 1) entries).or (Entry.lastInferred? (index + 1) entries)) ∧
      (binder.hasTypes = true ↔ ∃ type, some type ∈ binder.types) := by
  intro binder bound entries
  have hc : binder.count = bound := (count_actAll (fresh options) actions).trans (Nat.zero_add _)
  refine ⟨hc, ?recording, ?size, ?type, hasTypes_iff binder⟩
  case recording =>
    intro position type
    exact ⟨(modifySlot_frame _ _ _).1.trans hc, (modifySlot_frame _ _ _).1.trans hc⟩
  case size =>
    calc binder.types.length = binder.slots.length := List.length_map _
      _ = max (max 0 binder.count) (Action.largestPosition actions) :=
        length_slots_actAll (fresh options) (Nat.le_refl 0) actions
      _ = max bound (Action.largestPosition actions) := by rw [hc, Nat.zero_max]
  case type =>
    intro index
    have hs : binder.slotAt index = Slot.recordAll (Entry.slotsAt (index + 1) entries) :=
      slotAt_actAll (fresh options) actions index
    rw [type?_slotAt, hs, Slot.type?_recordAll]
    rfl

/-- A type is declared ahead of its value, one is recorded over the type of a value, and position
zero holds nothing. -/
example :
    ((fresh {}).actAll [.recordDeclared 3 (.plain .date), .allocate Nat.repr (.int 7),
      .recordInferred 1 (.plain .json), .allocate Nat.repr .null, .allocate Nat.repr (.bool true),
      .recordDeclared 0 (.plain .bytes)]).types =
        [some (.plain .json), none, some (.plain .date)] := by
  decide

end Binder

end BoundSql
