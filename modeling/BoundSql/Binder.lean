import BoundSql.ValueTypes

/-!
# Binding values

While a statement is rendered, a binder counts the values bound so far and gathers a type for every
position. Positions count from one.
-/

namespace BoundSql

/-- How a single rendering departs from the renderer's ways. -/
structure RenderOptions where
  /-- Quote names as they are given. -/
  verbatimNames : Bool := false
  /-- Spells placeholders, by the value bound there. -/
  placeholder : Option (Value → String) := none

inductive Slot where
  | empty
  | inferred (type : WireType)
  | declared (type : WireType)
  deriving DecidableEq

def Slot.type? : Slot → Option WireType
  | .empty => none
  | .inferred type | .declared type => some type

structure Binder where
  /-- The position of the last bound value. -/
  count : Nat := 0
  placeholder : Option (Value → String) := none
  slots : List Slot := []

namespace Binder

def fresh (options : RenderOptions) : Binder where
  placeholder := options.placeholder

/-- Makes room for every position up to the given one. -/
def reserve (binder : Binder) (position : Nat) : Binder :=
  { binder with slots := binder.slots.rightpad position .empty }

/-- Changes the slot of a position. There is no position zero. -/
def modifySlot (binder : Binder) (change : Slot → Slot) : Nat → Binder
  | 0 => binder
  | index + 1 =>
    let binder := binder.reserve (index + 1)
    { binder with slots := binder.slots.modify index change }

/-- A declared type stays; otherwise the last inferred one counts. -/
def recordInferred (binder : Binder) (position : Nat) (type : WireType) : Binder :=
  binder.modifySlot (fun
    | .declared declared => .declared declared
    | _ => .inferred type) position

def recordDeclared (binder : Binder) (position : Nat) (type : WireType) : Binder :=
  binder.modifySlot (fun _ => .declared type) position

/-- The placeholder of the next value: as the options spell it, or else by its position. -/
def nextPlaceholder (binder : Binder) (spell : Nat → String) (value : Value) : String :=
  match binder.placeholder with
  | some placeholder => placeholder value
  | none => spell (binder.count + 1)

/-- Counts a value and notes the type it has by itself. -/
def note (binder : Binder) (value : Value) : Binder :=
  let position := binder.count + 1
  let counted := { binder with count := position }.reserve position
  match value.wireType with
  | .ok type => counted.recordInferred position type
  | .error _ => counted

/-- Binds a value and returns its placeholder. -/
def allocate (spell : Nat → String) (value : Value) : StateM Binder String :=
  modifyGet fun binder => (binder.nextPlaceholder spell value, binder.note value)

def hasTypes (binder : Binder) : Bool :=
  binder.slots.any (· != .empty)

/-- The gathered types by position. -/
def types (binder : Binder) : List (Option WireType) :=
  binder.slots.map Slot.type?

end Binder

end BoundSql
