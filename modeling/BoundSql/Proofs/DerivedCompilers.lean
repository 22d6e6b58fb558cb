import BoundSql.Proofs.QuotedText
import BoundSql.Text.Names

/-!
# Compilers made from others

A compiler is copied, or made into one that quotes names as they are given. At the end of a chain of
such steps stands a compiler that works like the first one, or, if names are quoted as given anywhere
on the way, like one that never had a style. The compilers that were there before go on as they did.
-/

namespace BoundSql.GoogleSql

namespace Compiler

/-- Compilers that style every name alike compile everything alike. -/
theorem compile_congr {compiler other : Compiler} {options others : RenderOptions}
    (hn : ∀ name, compiler.styled options name = other.styled others name)
    (hp : options.placeholder = others.placeholder) (template : Template) :
    compiler.compile template options = other.compile template others := by
  have hs : compiler.styled options = other.styled others := funext hn
  rw [compile_eq, compile_eq, spelling_eq, spelling_eq, hs, hp]

private theorem styled_of_verbatim {compiler : Compiler} {options : RenderOptions}
    (h : (options.verbatimNames || compiler.verbatimNames) = true) (name : String) :
    compiler.styled options name = name := by
  rw [styled, h]
  cases hs : compiler.style <;> simp [renderer, Dialect.styleName, hs]

private theorem styled_plain (options : RenderOptions) (name : String) :
    styled {} options name = name := rfl

/-- Names that are quoted as given are quoted as if there were no style. -/
theorem compile_of_verbatim {compiler : Compiler} {options : RenderOptions}
    (h : (options.verbatimNames || compiler.verbatimNames) = true) (template : Template)
    {others : RenderOptions} (hp : options.placeholder = others.placeholder) :
    compiler.compile template options = compile {} template others := by
  apply compile_congr _ hp
  intro name
  rw [styled_of_verbatim h, styled_plain]

/-- How one compiler is made from another. -/
inductive Derivation where
  | copy
  | verbatim
  deriving DecidableEq

def derive (compiler : Compiler) : Derivation → Compiler
  | .copy => compiler
  | .verbatim => compiler.verbatim

/-- The compiler at the end of a chain that starts at this one. -/
def deriveAll (compiler : Compiler) (chain : List Derivation) : Compiler :=
  chain.foldl derive compiler

/-- Names are quoted as given from the first step on that asks for it. -/
theorem verbatimNames_deriveAll (compiler : Compiler) (chain : List Derivation) :
    (compiler.deriveAll chain).verbatimNames =
      (compiler.verbatimNames || chain.contains .verbatim) := by
  induction chain generalizing compiler with
  | nil => simp [deriveAll]
  | cons step rest ih =>
    have hr := ih (compiler.derive step)
    cases step with
    | copy => simpa [deriveAll, derive] using hr
    | verbatim => simpa [deriveAll, derive, verbatim] using hr

private theorem deriveAll_of_notMem {compiler : Compiler} {chain : List Derivation}
    (h : .verbatim ∉ chain) : compiler.deriveAll chain = compiler := by
  induction chain with
  | nil => rfl
  | cons step rest ih =>
    cases step with
    | copy => exact ih fun hm => h (.tail _ hm)
    | verbatim => exact absurd (.head _) h

/-- Makes a compiler from the one at a place, if there is one, and puts it behind all others. -/
def deriveAt (made : List Compiler) (step : Nat × Derivation) : List Compiler :=
  match made[step.1]? with
  | some source => made ++ [source.derive step.2]
  | none => made

private theorem getElem?_deriveAt {made : List Compiler} {place : Nat} {source : Compiler}
    (h : made[place]? = some source) (step : Nat × Derivation) :
    (deriveAt made step)[place]? = some source := by
  have hl : place < made.length := (List.getElem?_eq_some_iff.mp h).1
  unfold deriveAt
  split
  · rw [List.getElem?_append_left hl, h]
  · exact h

/-- However many compilers are made, one that was there stays at its place. -/
theorem getElem?_foldl_deriveAt {made : List Compiler} {place : Nat} {source : Compiler}
    (h : made[place]? = some source) (steps : List (Nat × Derivation)) :
    (steps.foldl deriveAt made)[place]? = some source := by
  induction steps generalizing made with
  | nil => exact h
  | cons step rest ih => exact ih (getElem?_deriveAt h step)

/-- Quoting names as they are given is the same whether the compiler asks for it, the options do or
there is no style, and it is so at the end of every chain in which a compiler asks for it. At the end
of any other chain everything is compiled as before, and so it is by a compiler from which others are
made. -/
theorem compile_derived (compiler : Compiler) (template : Template) (options : RenderOptions) :
    let plain := compile {} template options
    compiler.verbatim.compile template options = plain ∧
      compiler.compile template { options with verbatimNames := true } = plain ∧
      (∀ chain, (compiler.deriveAll chain).compile template options =
        if .verbatim ∈ chain then plain else compiler.compile template options) ∧
      ∀ (made : List Compiler) (place : Nat) (steps : List (Nat × Derivation)),
        made[place]? = some compiler →
        (steps.foldl deriveAt made)[place]?.map (·.compile template options) =
          some (compiler.compile template options) := by
  intro plain
  refine ⟨?sibling, ?option, ?chain, ?source⟩
  case sibling => exact compile_of_verbatim (Bool.or_true _) template rfl
  case option => exact compile_of_verbatim rfl template rfl
  case chain =>
    intro chain
    split
    · next h =>
      have hv : (compiler.deriveAll chain).verbatimNames = true := by
        rw [verbatimNames_deriveAll, List.contains_iff_mem.mpr h, Bool.or_true]
      exact compile_of_verbatim (by rw [hv, Bool.or_true]) template rfl
    · next h => rw [deriveAll_of_notMem h]
  case source =>
    intro made place steps h
    rw [getElem?_foldl_deriveAt h, Option.map_some]

/-- Three compilers are made in turn from one with a style. It goes on to style every name of a table
that hands back assignments, and the last one, which comes from a verbatim sibling, styles none. -/
theorem compile_derived_of_snakeCase :
    let compiler : Compiler := { style := some Text.snakeCase }
    let row := Record.ofList [("zipCode", Value.null)]
    let template : Template := [.record (.valuesTable [row] "newRows")
      (.pieces [.record (.assignments row []) (.column "rowId")])]
    let made := [(0, Derivation.copy), (1, .verbatim), (2, .copy)].foldl deriveAt [compiler]
    made.map (·.verbatimNames) = [false, false, true, true] ∧
      made[0]?.map (·.compile template {}) = some (compiler.compile template {}) ∧
      (compiler.compile template {}).sql = "(VALUES (@param1)) AS \x60new_rows\x60(\x60zip_code\x60) " ++
        "THEN RETURN \x60zip_code\x60 = @param2 THEN RETURN \x60row_id\x60" ∧
      (compiler.deriveAll [.copy, .verbatim, .copy]).compile template {} = compile {} template {} ∧
      (compile {} template {}).sql = "(VALUES (@param1)) AS \x60newRows\x60(\x60zipCode\x60) " ++
        "THEN RETURN \x60zipCode\x60 = @param2 THEN RETURN \x60rowId\x60" := by
  intro compiler row template made
  have h := compile_derived compiler template {}
  refine ⟨by decide, h.2.2.2 [compiler] 0 _ rfl, ?styled, (h.2.2.1 _).trans (if_pos (by decide)), ?plain⟩
  case styled =>
    rw [compile_eq, thenReturn_eq]
    decide +kernel
  case plain =>
    rw [compile_eq, thenReturn_eq]
    decide +kernel

end Compiler

end BoundSql.GoogleSql
