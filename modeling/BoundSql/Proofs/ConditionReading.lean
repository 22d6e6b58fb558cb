import BoundSql.Template
import Mathlib.Data.List.Forall2

/-!
# Reading conditions

A condition is a tree of conjunctions and disjunctions over clauses, and it is put together as one
template. Read again as an expression with parentheses, in which AND binds tighter than OR, the template
has the truth value of the tree and no other: several clauses always stand in parentheses, and what does
not is a single operand.
-/

namespace BoundSql

namespace Condition

inductive Mark where
  | opening
  | closing
  | and
  | or
  deriving DecidableEq

/-- The mark that a piece is, if it is one. -/
def mark? : Piece → Option Mark
  | .text "(" => some .opening
  | .text ")" => some .closing
  | .text " AND " => some .and
  | .text " OR " => some .or
  | _ => none

inductive Token where
  | mark (mark : Mark)
  | clause (pieces : Template)

/-- Puts a piece that is no mark in front of tokens. Pieces that follow each other are one clause. -/
def consClause (piece : Piece) : List Token → List Token
  | .clause pieces :: rest => .clause (piece :: pieces) :: rest
  | tokens => .clause [piece] :: tokens

/-- A template as marks and the clauses between them. -/
def tokens : Template → List Token
  | [] => []
  | piece :: rest =>
    match mark? piece with
    | some mark => .mark mark :: tokens rest
    | none => consClause piece (tokens rest)

private theorem tokens_cons_of_mark {piece : Piece} {mark : Mark} (h : mark? piece = some mark)
    (rest : Template) : tokens (piece :: rest) = .mark mark :: tokens rest := by
  rw [tokens, h]

private theorem consClause_append_mark (piece : Piece) (front : List Token) (mark : Mark)
    (back : List Token) :
    consClause piece (front ++ .mark mark :: back) =
      consClause piece front ++ .mark mark :: back := by
  cases front with
  | nil => rfl
  | cons token rest => cases token <;> rfl

/-- A mark ends the clause before it. -/
theorem tokens_append_mark {piece : Piece} {mark : Mark} (h : mark? piece = some mark)
    (front back : Template) :
    tokens (front ++ piece :: back) = tokens front ++ .mark mark :: tokens back := by
  induction front with
  | nil => exact tokens_cons_of_mark h back
  | cons first rest ih =>
    rw [List.cons_append, tokens, tokens, ih]
    cases mark? first with
    | some other => rfl
    | none => exact consClause_append_mark first (tokens rest) mark (tokens back)

/-- A clause that is not empty and has no marks of its own. -/
def Atomic (clause : Template) : Prop :=
  clause ≠ [] ∧ ∀ piece ∈ clause, mark? piece = none

private theorem tokens_of_atomic {clause : Template} (h : Atomic clause) :
    tokens clause = [.clause clause] := by
  obtain ⟨hn, hm⟩ := h
  induction clause with
  | nil => exact absurd rfl hn
  | cons piece rest ih =>
    obtain ⟨hp, hr⟩ := List.forall_mem_cons.mp hm
    rw [tokens, hp]
    cases rest with
    | nil => rfl
    | cons next more => rw [ih (List.cons_ne_nil _ _) hr]; rfl

/-- How tightly an expression is bound, from the tightest. -/
inductive Level where
  | operand
  | conjunction
  | disjunction

/-- The tokens are an expression of the level, and its value is the given one if clauses are as true as
`truth` says. -/
inductive Reads (truth : Template → Bool) : Level → List Token → Bool → Prop where
  | clause (pieces : Template) : Reads truth .operand [.clause pieces] (truth pieces)
  | parentheses {inside : List Token} {value : Bool} :
      Reads truth .disjunction inside value →
      Reads truth .operand (.mark .opening :: inside ++ [.mark .closing]) value
  | operand {tokens : List Token} {value : Bool} :
      Reads truth .operand tokens value → Reads truth .conjunction tokens value
  | and {left right : List Token} {value other : Bool} :
      Reads truth .conjunction left value → Reads truth .operand right other →
      Reads truth .conjunction (left ++ .mark .and :: right) (value && other)
  | conjunction {tokens : List Token} {value : Bool} :
      Reads truth .conjunction tokens value → Reads truth .disjunction tokens value
  | or {left right : List Token} {value other : Bool} :
      Reads truth .disjunction left value → Reads truth .conjunction right other →
      Reads truth .disjunction (left ++ .mark .or :: right) (value || other)

/-- What is known of an expression up to some place in it. -/
structure Progress where
  /-- Whether one of the finished conjunctions is true. -/
  finished : Bool
  /-- Whether all operands so far of the conjunction at that place are true. -/
  current : Bool

namespace Progress

def start : Progress := ⟨false, true⟩

def value (progress : Progress) : Bool :=
  progress.finished || progress.current

def meet (progress : Progress) (operand : Bool) : Progress :=
  { progress with current := progress.current && operand }

/-- Finishes the conjunction, so that another one can begin. -/
def next (progress : Progress) : Progress := ⟨progress.value, true⟩

@[simp] theorem value_start_meet (operand : Bool) : (start.meet operand).value = operand := by
  simp [start, meet, value]

@[simp] theorem value_next_meet (progress : Progress) (operand : Bool) :
    (progress.next.meet operand).value = (progress.value || operand) := by
  simp [next, meet, value]

@[simp] theorem meet_meet (progress : Progress) (operand other : Bool) :
    (progress.meet operand).meet other = progress.meet (operand && other) := by
  simp [meet, Bool.and_assoc]

end Progress

section Reader

variable (truth : Template → Bool)

mutual

/-- Reads on where an operand has to stand, inside the parentheses that are still open. -/
def readOperand (outer : List Progress) (progress : Progress) : List Token → Option Bool
  | .clause pieces :: rest => readOperator outer (progress.meet (truth pieces)) rest
  | .mark .opening :: rest => readOperand (progress :: outer) .start rest
  | _ => none

/-- Reads on behind an operand. -/
def readOperator (outer : List Progress) (progress : Progress) : List Token → Option Bool
  | [] => if outer.isEmpty then some progress.value else none
  | .mark .and :: rest => readOperand outer progress rest
  | .mark .or :: rest => readOperand outer progress.next rest
  | .mark .closing :: rest =>
    match outer with
    | [] => none
    | enclosing :: outer => readOperator outer (enclosing.meet progress.value) rest
  | _ => none

end

/-- The value of a template that is an expression. -/
def read (template : Template) : Option Bool :=
  readOperand truth [] .start (tokens template)

end Reader

section Exact

variable {truth : Template → Bool}

/-- What the reader does with an expression of a level, whatever stands around it. -/
def Level.Passes (truth : Template → Bool) : Level → List Token → Bool → Prop
  | .operand, tokens, value | .conjunction, tokens, value => ∀ outer progress rest,
    readOperand truth outer progress (tokens ++ rest) =
      readOperator truth outer (progress.meet value) rest
  | .disjunction, tokens, value => ∀ outer, ∃ progress : Progress, progress.value = value ∧
    ∀ rest, readOperand truth outer .start (tokens ++ rest) = readOperator truth outer progress rest

theorem passes_of_reads {level : Level} {tokens : List Token} {value : Bool}
    (h : Reads truth level tokens value) : level.Passes truth tokens value := by
  induction h with
  | clause pieces => exact fun outer progress rest => rfl
  | @parentheses inside value _ ih =>
    intro outer progress rest
    obtain ⟨reached, hv, hr⟩ := ih (progress :: outer)
    rw [List.cons_append, List.cons_append, List.append_assoc, readOperand, hr,
      List.singleton_append, readOperator, hv]
  | operand _ ih => exact ih
  | @and left right value other _ _ ihl ihr =>
    intro outer progress rest
    rw [List.append_assoc, List.cons_append, ihl, readOperator, ihr, Progress.meet_meet]
  | @conjunction tokens value _ ih =>
    intro outer
    exact ⟨Progress.start.meet value, Progress.value_start_meet value, ih outer .start⟩
  | @or left right value other _ _ ihl ihr =>
    intro outer
    obtain ⟨progress, hv, hr⟩ := ihl outer
    refine ⟨progress.next.meet other, by rw [Progress.value_next_meet, hv], fun rest => ?_⟩
    rw [List.append_assoc, List.cons_append, hr, readOperator, ihr]

/-- The tokens before a conjunction: none, or a disjunction and the word after it. -/
inductive Finished (truth : Template → Bool) : List Token → Bool → Prop where
  | none : Finished truth [] false
  | disjunction {tokens : List Token} {value : Bool} :
      Reads truth .disjunction tokens value → Finished truth (tokens ++ [.mark .or]) value

/-- The tokens are what was read of an expression that can end with them. -/
inductive Ended (truth : Template → Bool) (progress : Progress) : List Token → Prop where
  | mk {before last : List Token} :
      Finished truth before progress.finished → Reads truth .conjunction last progress.current →
      Ended truth progress (before ++ last)

/-- The tokens are what was read of an expression that still needs an operand. -/
inductive Pending (truth : Template → Bool) (progress : Progress) : List Token → Prop where
  | first {before : List Token} : Finished truth before progress.finished →
      progress.current = true → Pending truth progress before
  | and {tokens : List Token} : Ended truth progress tokens →
      Pending truth progress (tokens ++ [.mark .and])

theorem Pending.start : Pending truth .start [] :=
  .first .none rfl

theorem Pending.meet {progress : Progress} {tokens operand : List Token} {value : Bool}
    (h : Pending truth progress tokens) (ho : Reads truth .operand operand value) :
    Ended truth (progress.meet value) (tokens ++ operand) := by
  cases h with
  | first hb hc =>
    refine .mk hb ?_
    rw [Progress.meet, hc, Bool.true_and]
    exact .operand ho
  | and he =>
    obtain ⟨hb, hl⟩ := he
    rw [List.append_assoc, List.append_assoc]
    exact .mk hb (.and hl ho)

theorem Ended.disjunction {progress : Progress} {tokens : List Token}
    (h : Ended truth progress tokens) : Reads truth .disjunction tokens progress.value := by
  obtain ⟨finished, current⟩ := progress
  obtain ⟨hb, hl⟩ := h
  cases hb with
  | none => exact .conjunction hl
  | disjunction hd =>
    rw [List.append_assoc]
    exact .or hd hl

theorem Ended.next {progress : Progress} {tokens : List Token} (h : Ended truth progress tokens) :
    Pending truth progress.next (tokens ++ [.mark .or]) :=
  .first (.disjunction h.disjunction) rfl

/-- The tokens are what was read in front of the innermost parentheses that are still open. -/
inductive Enclosing (truth : Template → Bool) : List Progress → List Token → Prop where
  | none : Enclosing truth [] []
  | opening {outer : List Progress} {progress : Progress} {before tokens : List Token} :
      Enclosing truth outer before → Pending truth progress tokens →
      Enclosing truth (progress :: outer) (before ++ tokens ++ [.mark .opening])

mutual

private theorem reads_of_readOperand {outer : List Progress} {progress : Progress}
    {before tokens : List Token} {value : Bool} (ho : Enclosing truth outer before)
    (hp : Pending truth progress tokens) (rest : List Token)
    (h : readOperand truth outer progress rest = some value) :
    Reads truth .disjunction (before ++ tokens ++ rest) value := by
  cases rest with
  | nil => cases h
  | cons token rest =>
    cases token with
    | clause pieces =>
      have hr := reads_of_readOperator ho (hp.meet (.clause pieces)) rest h
      simpa using hr
    | mark mark =>
      cases mark with
      | opening =>
        have hr := reads_of_readOperand (.opening ho hp) .start rest h
        simpa using hr
      | closing | and | or => cases h

private theorem reads_of_readOperator {outer : List Progress} {progress : Progress}
    {before tokens : List Token} {value : Bool} (ho : Enclosing truth outer before)
    (he : Ended truth progress tokens) (rest : List Token)
    (h : readOperator truth outer progress rest = some value) :
    Reads truth .disjunction (before ++ tokens ++ rest) value := by
  cases rest with
  | nil =>
    cases ho with
    | none =>
      cases h
      simpa using he.disjunction
    | opening => cases h
  | cons token rest =>
    cases token with
    | clause pieces => cases h
    | mark mark =>
      cases mark with
      | opening => cases h
      | and =>
        have hr := reads_of_readOperand ho (.and he) rest h
        simpa using hr
      | or =>
        have hr := reads_of_readOperand ho he.next rest h
        simpa using hr
      | closing =>
        cases ho with
        | none => cases h
        | opening ho hp =>
          have hr := reads_of_readOperator ho (hp.meet (.parentheses he.disjunction)) rest h
          simpa using hr

end

/-- The reader accepts exactly the expressions, and it finds their values. -/
theorem read_eq_some_iff {template : Template} {value : Bool} :
    read truth template = some value ↔ Reads truth .disjunction (tokens template) value := by
  constructor
  · exact reads_of_readOperand .none .start (tokens template)
  · intro h
    obtain ⟨progress, hv, hr⟩ := passes_of_reads h []
    have he := hr []
    rw [List.append_nil] at he
    rw [read, he, ← hv]
    rfl

/-- AND binds tighter than OR. -/
example :
    read (fun clause => clause.length == 1)
        [.name "a", .text " OR ", .name "b", .text " AND ", .name "c", .name "d"] = some true := by
  decide

end Exact

end Condition

inductive Condition where
  | clause (pieces : Template)
  | allOf (conditions : List Condition)
  | anyOf (conditions : List Condition)

namespace Condition

mutual

/-- The condition put together as one template. -/
def template : Condition → Template
  | .clause pieces => pieces
  | .allOf conditions => Template.allOf (templates conditions)
  | .anyOf conditions => Template.anyOf (templates conditions)

def templates : List Condition → List Template
  | [] => []
  | condition :: rest => condition.template :: templates rest

end

mutual

/-- The clauses at the leaves. -/
def clauses : Condition → List Template
  | .clause pieces => [pieces]
  | .allOf conditions | .anyOf conditions => listClauses conditions

def listClauses : List Condition → List Template
  | [] => []
  | condition :: rest => condition.clauses ++ listClauses rest

end

section Holds

variable (truth : Template → Bool)

mutual

/-- Whether the condition is true if clauses are as true as `truth` says. Without any conditions both
kinds of nodes are. -/
def holds : Condition → Bool
  | .clause pieces => truth pieces
  | .allOf conditions => (listHolds conditions).all id
  | .anyOf conditions => (listHolds conditions).isEmpty || (listHolds conditions).any id

def listHolds : List Condition → List Bool
  | [] => []
  | condition :: rest => condition.holds :: listHolds rest

end

end Holds

section Joined

variable {truth : Template → Bool}

/-- Each template is an operand of the value beside it. -/
abbrev Operands (truth : Template → Bool) : List Template → List Bool → Prop :=
  List.Forall₂ fun template value => Reads truth .operand (tokens template) value

private theorem tokens_intercalate {separator : String} {mark : Mark}
    (h : mark? (.text separator) = some mark) (first : Template) (rest : List Template) :
    tokens (List.intercalate [.text separator] (first :: rest)) =
      tokens first ++ rest.flatMap fun template => .mark mark :: tokens template := by
  induction rest generalizing first with
  | nil => simp
  | cons next rest ih =>
    rw [List.intercalate_cons_cons, List.append_assoc, List.singleton_append, tokens_append_mark h,
      ih next]
    rfl

/-- Several templates are joined inside parentheses. -/
theorem tokens_join {separator fallback : String} {mark : Mark}
    (h : mark? (.text separator) = some mark) (first second : Template) (rest : List Template) :
    tokens (Template.join (first :: second :: rest) separator true fallback) =
      .mark .opening :: (tokens first ++
        (second :: rest).flatMap fun template => .mark mark :: tokens template) ++
        [.mark .closing] := by
  have hj : Template.join (first :: second :: rest) separator true fallback =
      (.text "(" :: List.intercalate [.text separator] (first :: second :: rest)) ++ [.text ")"] :=
    rfl
  have hopening : mark? (.text "(") = some .opening := rfl
  have hclosing : mark? (.text ")") = some .closing := rfl
  rw [hj, tokens_append_mark hclosing, tokens_cons_of_mark hopening, tokens_intercalate h]
  rfl

private theorem reads_allOf_behind {left : List Token} {value : Bool}
    (h : Reads truth .conjunction left value) {templates : List Template} {values : List Bool}
    (ho : Operands truth templates values) :
    Reads truth .conjunction (left ++ templates.flatMap fun template => .mark .and :: tokens template)
      (value && values.all id) := by
  induction ho generalizing left value with
  | nil => simpa using h
  | cons hr _ ih => simpa [Bool.and_assoc] using ih (.and h hr)

private theorem reads_anyOf_behind {left : List Token} {value : Bool}
    (h : Reads truth .disjunction left value) {templates : List Template} {values : List Bool}
    (ho : Operands truth templates values) :
    Reads truth .disjunction (left ++ templates.flatMap fun template => .mark .or :: tokens template)
      (value || values.any id) := by
  induction ho generalizing left value with
  | nil => simpa using h
  | cons hr _ ih => simpa [Bool.or_assoc] using ih (.or h (.operand hr))

/-- What joined operands come to is an operand again: a single one stands by itself, several stand in
parentheses, and the fallback is a clause. -/
theorem reads_join (combine : List Bool → Bool) {separator : String} {mark : Mark}
    (hs : mark? (.text separator) = some mark) (hnone : combine [] = true)
    (hone : ∀ value, combine [value] = value)
    (hmany : ∀ first rest value values, Reads truth .operand (tokens first) value →
      Operands truth rest values → Reads truth .disjunction
        (tokens first ++ rest.flatMap fun template => .mark mark :: tokens template)
        (combine (value :: values)))
    (ht : truth [.text "1=1"] = true) {templates : List Template} {values : List Bool}
    (ho : Operands truth templates values) :
    Reads truth .operand (tokens (Template.join templates separator true "1=1")) (combine values) := by
  cases ho with
  | nil =>
    rw [hnone, ← ht]
    exact .clause [.text "1=1"]
  | @cons first value rest values hf hr =>
    cases hr with
    | nil =>
      rw [hone]
      exact hf
    | @cons second other rest values hn hr =>
      have hd := hmany first (second :: rest) value (other :: values) hf (.cons hn hr)
      rw [tokens_join hs]
      exact .parentheses hd

theorem reads_allOf (ht : truth [.text "1=1"] = true) {templates : List Template}
    {values : List Bool} (ho : Operands truth templates values) :
    Reads truth .operand (tokens (Template.allOf templates)) (values.all id) := by
  refine reads_join (fun values => values.all id) rfl rfl (by simp) ?_ ht ho
  intro first rest value values hf hr
  exact .conjunction (reads_allOf_behind (.operand hf) hr)

theorem reads_anyOf (ht : truth [.text "1=1"] = true) {templates : List Template}
    {values : List Bool} (ho : Operands truth templates values) :
    Reads truth .operand (tokens (Template.anyOf templates)) (values.isEmpty || values.any id) := by
  refine reads_join (fun values => values.isEmpty || values.any id) rfl rfl (by simp) ?_ ht ho
  intro first rest value values hf hr
  exact reads_anyOf_behind (.conjunction (.operand hf)) hr

mutual

/-- A condition over atomic clauses is an operand of its own value. -/
theorem reads_template (ht : truth [.text "1=1"] = true) (condition : Condition)
    (hc : ∀ clause ∈ condition.clauses, Atomic clause) :
    Reads truth .operand (tokens condition.template) (condition.holds truth) := by
  cases condition with
  | clause pieces =>
    have ha : Atomic pieces := hc pieces (.head _)
    rw [template, tokens_of_atomic ha]
    exact .clause pieces
  | allOf conditions => exact reads_allOf ht (reads_templates ht conditions hc)
  | anyOf conditions => exact reads_anyOf ht (reads_templates ht conditions hc)

private theorem reads_templates (ht : truth [.text "1=1"] = true) (conditions : List Condition)
    (hc : ∀ clause ∈ listClauses conditions, Atomic clause) :
    Operands truth (templates conditions) (listHolds truth conditions) := by
  cases conditions with
  | nil => exact .nil
  | cons condition rest =>
    rw [listClauses, List.forall_mem_append] at hc
    exact .cons (reads_template ht condition hc.1) (reads_templates ht rest hc.2)

end

/-- The template of a condition over atomic clauses is an expression in which AND binds tighter than OR,
and every way to read it gives the truth value of the condition. The reader finds it. -/
theorem read_template (condition : Condition) (truth : Template → Bool)
    (hc : ∀ clause ∈ condition.clauses, Atomic clause) (ht : truth [.text "1=1"] = true) :
    read truth condition.template = some (condition.holds truth) ∧
      ∀ value, Reads truth .disjunction (tokens condition.template) value ↔
        value = condition.holds truth := by
  have hr : read truth condition.template = some (condition.holds truth) :=
    read_eq_some_iff.mpr (.conjunction (.operand (reads_template ht condition hc)))
  refine ⟨hr, fun value => ?_⟩
  rw [← read_eq_some_iff, hr, Option.some.injEq, eq_comm]

/-- One disjunction stands inside the conjunction, a conjunction of one clause inside of that, and a
conjunction is empty. -/
theorem read_template_nested :
    let equal (name : String) : Template := [.name name, .text " = ", .value (.int 1)]
    let condition : Condition :=
      .allOf [.anyOf [.clause (equal "a"), .allOf [.clause (equal "b")]], .allOf [],
        .clause (equal "c")]
    let truth : Template → Bool
      | .name name :: _ => name == "b" || name == "c"
      | _ => true
    condition.template =
        [.text "(", .text "("] ++ equal "a" ++ [.text " OR "] ++ equal "b" ++
          [.text ")", .text " AND ", .text "1=1", .text " AND "] ++ equal "c" ++ [.text ")"] ∧
      (∀ clause ∈ condition.clauses, Atomic clause) ∧
      read truth condition.template = some true := by
  intro equal condition truth
  have ha : ∀ name, Atomic (equal name) := by
    intro name
    refine ⟨List.cons_ne_nil _ _, ?_⟩
    simp [equal, mark?]
  have hc : ∀ clause ∈ condition.clauses, Atomic clause := by
    simp [condition, clauses, listClauses, ha]
  exact ⟨rfl, hc, (read_template condition truth hc rfl).1.trans (by decide)⟩

end Joined

end Condition

end BoundSql
