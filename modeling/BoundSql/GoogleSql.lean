import BoundSql.Rendering
import BoundSql.Text.Words

/-!
# GoogleSQL

A compiled statement is a rendered one with `THEN RETURN` in place of `RETURNING`, and with the types
that were gathered for its values. The keyword is any word of the statement that is exactly `RETURNING`,
also one between quotes. In calls of functions expressions stand as they are given; only JSON paths are
quoted.
-/

namespace BoundSql.GoogleSql

def returningWord : List Char :=
  "RETURNING".toList

def thenReturnRun (run : List Char) : List Char :=
  if run = returningWord then "THEN RETURN".toList else run

/-- The text with `THEN RETURN` for the keyword, if the keyword is there. A text without its letters
is not cut into words. -/
def thenReturn? (sql : String) : Option String :=
  if sql.contains "RETURNING" then
    let runs := Text.wordRuns sql.toList
    if runs.contains returningWord then some (.ofList (runs.flatMap thenReturnRun)) else none
  else none

def hasReturning (sql : String) : Bool :=
  (thenReturn? sql).isSome

def thenReturn (sql : String) : String :=
  (thenReturn? sql).getD sql

/-- Where the keyword is a word of the text, its letters are in the text. -/
theorem contains_of_mem_wordRuns {sql : String} (h : returningWord ∈ Text.wordRuns sql.toList) :
    sql.contains "RETURNING" = true := by
  obtain ⟨left, right, hs⟩ := List.append_of_mem h
  rw [String.contains_string_iff]
  refine ⟨left.flatten, right.flatten, ?_⟩
  rw [← Text.flatten_wordRuns sql.toList, hs, List.flatten_append, List.flatten_cons, List.append_assoc]
  rfl

theorem thenReturn?_eq (sql : String) :
    thenReturn? sql =
      if returningWord ∈ Text.wordRuns sql.toList then
        some (.ofList ((Text.wordRuns sql.toList).flatMap thenReturnRun))
      else none := by
  rw [thenReturn?]
  split
  · exact ite_congr (propext List.contains_iff_mem) (fun _ => rfl) fun _ => rfl
  · next hc => rw [if_neg (mt contains_of_mem_wordRuns hc)]

theorem hasReturning_eq (sql : String) :
    hasReturning sql = (Text.wordRuns sql.toList).contains returningWord := by
  rw [hasReturning, thenReturn?_eq, Bool.eq_iff_iff, List.contains_iff_mem]
  split <;> simp_all

theorem flatMap_thenReturnRun_of_notMem {runs : List (List Char)} (h : returningWord ∉ runs) :
    runs.flatMap thenReturnRun = runs.flatten := by
  have hr : ∀ run ∈ runs, thenReturnRun run = id run := by
    intro run hm
    apply if_neg
    rintro rfl
    exact h hm
  rw [List.flatMap_def, List.map_congr_left hr, List.map_id]

theorem thenReturn_eq (sql : String) :
    thenReturn sql = .ofList ((Text.wordRuns sql.toList).flatMap thenReturnRun) := by
  rw [thenReturn, thenReturn?_eq]
  split
  · rfl
  · next h => rw [flatMap_thenReturnRun_of_notMem h, Text.flatten_wordRuns, String.ofList_toList]; rfl

def safeCast (expression type : String) : Template :=
  [.text ("SAFE_CAST(" ++ expression ++ " AS " ++ type ++ ")")]

def jsonValue (expression path : String) : Template :=
  [.text ("JSON_VALUE(" ++ expression ++ ", " ++ Text.quoteString path ++ ")")]

def jsonQuery (expression path : String) : Template :=
  [.text ("JSON_QUERY(" ++ expression ++ ", " ++ Text.quoteString path ++ ")")]

/-- Whether the path exists, where NULL counts as no. -/
def jsonExists (expression path : String) : Template :=
  [.text ("IFNULL(JSON_EXISTS(" ++ expression ++ ", " ++ Text.quoteString path ++ "), FALSE)")]

def safeOffset (expression : String) (offset : Int64) : Template :=
  [.text ("SAFE_OFFSET(" ++ expression ++ ", " ++ Int.repr offset.toInt ++ ")")]

structure Compiled where
  sql : String
  bindings : Bindings
  deriving BEq

structure Compiler where
  style : Option (String → String) := none
  verbatimNames : Bool := false

namespace Compiler

def renderer (compiler : Compiler) : Renderer where
  dialect := .googleSql compiler.style
  verbatimNames := compiler.verbatimNames

/-- The same compiler, but for names: it quotes them as they are given. -/
def verbatim (compiler : Compiler) : Compiler :=
  { compiler with verbatimNames := true }

def compile (compiler : Compiler) (template : Template) (options : RenderOptions) : Compiled :=
  let (parts, binder) :=
    (compiler.renderer.renderIn template options.verbatimNames).run (Binder.fresh options)
  let bindings := Bindings.ofValues parts.params
  ⟨thenReturn parts.sql, (bindings.attach? binder.types).getD bindings⟩

end Compiler

end BoundSql.GoogleSql
