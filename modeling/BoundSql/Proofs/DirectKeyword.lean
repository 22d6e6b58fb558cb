import BoundSql.Proofs.GatheredTypes
import BoundSql.Proofs.KeywordRewriting
import BoundSql.Proofs.TemplateWords

/-!
# Saying THEN RETURN at once

A statement is compiled in two steps: it is rendered with `RETURNING`, and then the whole text is
rewritten. Here the rendering itself says `THEN RETURN`. Both ways lead to the same statement, with
nested clauses too, exactly when the text of the second way has no keyword in it that came from
elsewhere.
-/

namespace BoundSql

/-- Adds what a record hands back behind the given word, if there is anything. -/
def Parts.withClause (word : String) (parts : Parts) : Option Parts → Parts
  | none => parts
  | some body => parts ++ ofText (" " ++ word ++ " ") ++ body

namespace Piece

mutual

/-- Rendering that differs in the word between a record and what it hands back, and in nothing
else. -/
def renderSaying (word : String) (dialect : Dialect) (verbatim : Bool) :
    Piece → StateM Binder Parts
  | .record form returning =>
    return (← form.render dialect verbatim).withClause word
      (← renderReturningSaying word dialect verbatim returning)
  | piece => piece.render dialect verbatim

def renderReturningSaying (word : String) (dialect : Dialect) (verbatim : Bool) :
    Returning Piece → StateM Binder (Option Parts)
  | .nothing => return none
  | .all => return some (.ofText "*")
  | .pieces pieces => return some (← renderPiecesSaying word dialect verbatim pieces)

def renderPiecesSaying (word : String) (dialect : Dialect) (verbatim : Bool) :
    List Piece → StateM Binder Parts
  | [] => return .ofText ""
  | piece :: rest =>
    return (← renderSaying word dialect verbatim piece) ++
      (← renderPiecesSaying word dialect verbatim rest)

end

private theorem withClause_returning (parts : Parts) (body : Option Parts) :
    parts.withClause "RETURNING" body = parts.withReturning body := by
  cases body <;> rfl

variable {word : String} {dialect : Dialect} {verbatim : Bool}

mutual

private theorem renderSaying_returning (piece : Piece) :
    piece.renderSaying "RETURNING" dialect verbatim = piece.render dialect verbatim := by
  cases piece with
  | record form returning =>
    simp only [renderSaying, render, withClause_returning, renderReturningSaying_returning returning]
  | text | name | value | list | typed => rfl

private theorem renderReturningSaying_returning (returning : Returning Piece) :
    renderReturningSaying "RETURNING" dialect verbatim returning =
      renderReturning dialect verbatim returning := by
  cases returning with
  | nothing | all => rfl
  | pieces pieces =>
    simp only [renderReturningSaying, renderReturning, renderPiecesSaying_returning pieces]

/-- With the keyword itself it is the rendering of statements. -/
theorem renderPiecesSaying_returning (pieces : List Piece) :
    renderPiecesSaying "RETURNING" dialect verbatim pieces = renderPieces dialect verbatim pieces := by
  cases pieces with
  | nil => rfl
  | cons piece rest =>
    simp only [renderPiecesSaying, renderPieces, renderSaying_returning piece,
      renderPiecesSaying_returning rest]

end

end Piece

/-- The spelling with another word in front of what a record hands back. -/
def Spelling.saying (spelling : Spelling) (word : String) : Spelling :=
  { spelling with returningWord := word }

section Saying

variable (spelling : Spelling) (word : String)

@[simp] theorem Spelling.name_saying : (spelling.saying word).name = spelling.name := rfl

@[simp] theorem Spelling.placeholder_saying :
    (spelling.saying word).placeholder = spelling.placeholder := rfl

@[simp] theorem Spelling.valuesWord_saying :
    (spelling.saying word).valuesWord = spelling.valuesWord := rfl

@[simp] theorem Spelling.returningWord_saying : (spelling.saying word).returningWord = word := rfl

end Saying

namespace Item

variable {spelling : Spelling} {word : String} {count : Nat}

private theorem write_saying {items : List Item} (h : ∀ item ∈ items, item ≠ .returningWord) :
    write (spelling.saying word) count items = write spelling count items := by
  induction items generalizing count with
  | nil => rfl
  | cons item rest ih =>
    obtain ⟨hi, hr⟩ := List.forall_mem_cons.mp h
    cases item with
    | text | name | bound | valuesWord => simp [write, ih hr]
    | returningWord => exact absurd rfl hi

private theorem parts_saying {items : List Item} (h : ∀ item ∈ items, item ≠ .returningWord) :
    parts (spelling.saying word) count items = parts spelling count items :=
  Parts.ext (write_saying h) rfl

private theorem withClause_parts (parts : Parts) (items : List Item) :
    parts.withClause word (some (Item.parts (spelling.saying word) count items)) =
      parts ++ Item.parts (spelling.saying word) count (returning items) := by
  apply Parts.ext
  · simp only [Parts.withClause, Parts.sql_append, Parts.ofText, Item.parts, returning, write,
      Spelling.returningWord_saying, String.append_assoc]
  · simp only [Parts.withClause, Parts.params_append, Parts.ofText, Item.parts, List.append_nil,
      boundValues_returning]

/-- Only what a record hands back has the word in front of it. -/
theorem ne_returningWord_of_mem_form {form : RecordForm} :
    ∀ item ∈ form.items, item ≠ .returningWord := by
  apply RecordForm.forall_mem_items <;> simp

private theorem ne_returningWord_of_mem_row {values : List Value} :
    ∀ item ∈ row values, item ≠ .returningWord := by
  apply forall_mem_tuple (P := (· ≠ .returningWord)) (by simp)
  simp [ofValue]

end Item

private theorem RendersAs.saying {spelling : Option (Value → String) → Spelling}
    {action : StateM Binder Parts} {items : List Item} (h : RendersAs spelling action items)
    (hi : ∀ item ∈ items, item ≠ .returningWord) (word : String) :
    RendersAs (fun override => (spelling override).saying word) action items := by
  intro binder
  rw [Item.parts_saying hi]
  exact h binder

namespace Piece

variable {word : String} {dialect : Dialect} {verbatim : Bool}

/-- Rendering with a word writes the items in the spelling with that word. -/
abbrev RendersSaying (word : String) (dialect : Dialect) (verbatim : Bool) :
    StateM Binder Parts → List Item → Prop :=
  RendersAs fun override => (dialect.spelling verbatim override).saying word

mutual

private theorem renderSaying_renders (piece : Piece) :
    RendersSaying word dialect verbatim (piece.renderSaying word dialect verbatim) piece.items := by
  cases piece with
  | record form returning =>
    have hf := RendersAs.saying (renders_form dialect verbatim form)
      Item.ne_returningWord_of_mem_form word
    exact hf.withClause (run_renderReturningSaying returning)
  | list vs => exact RendersAs.saying (renders_piece (.list vs)) Item.ne_returningWord_of_mem_row word
  | text s | name s | value s | typed s =>
    exact RendersAs.saying (renders_piece _) (by simp [items, Item.ofValue]) word

private theorem run_renderReturningSaying (returning : Returning Piece) (binder : Binder) :
    ∃ body, (renderReturningSaying word dialect verbatim returning).run binder =
        (body, binder.bindAll (boundValues (returningItems returning))) ∧
      ∀ parts : Parts, parts.withClause word body =
        parts ++ Item.parts ((dialect.spelling verbatim binder.placeholder).saying word)
          binder.count (returningItems returning) := by
  cases returning with
  | nothing =>
    exact ⟨none, rfl, fun _ => Parts.ext String.append_empty.symm (List.append_nil _).symm⟩
  | all =>
    refine ⟨some (.ofText "*"), rfl, fun parts => ?_⟩
    rw [returningItems, ← Item.withClause_parts, Item.parts_text]
  | pieces pieces =>
    have h := renderPiecesSaying_renders pieces binder
    refine ⟨some _, ?_, fun parts => Item.withClause_parts parts (listItems pieces)⟩
    exact congrArg (fun rendered => (some rendered.1, rendered.2)) h

/-- Rendering with another word writes the same items in the spelling with that word. -/
theorem renderPiecesSaying_renders (pieces : List Piece) :
    RendersSaying word dialect verbatim (renderPiecesSaying word dialect verbatim pieces)
      (listItems pieces) := by
  cases pieces with
  | nil => exact fun _ => rfl
  | cons piece rest => exact (renderSaying_renders piece).append (renderPiecesSaying_renders rest)

end

end Piece

/-- Wherever the word stands among the items, there is a blank on both sides of it. -/
inductive Item.Spaced : List Item → Prop
  | nil : Spaced []
  | cons {item : Item} {items : List Item} :
    item ≠ .returningWord → Spaced items → Spaced (item :: items)
  | returning {items : List Item} : Spaced items → Spaced (Item.returning items)

namespace Item.Spaced

private theorem of_ne {items : List Item} (h : ∀ item ∈ items, item ≠ .returningWord) :
    Spaced items := by
  induction items with
  | nil => exact nil
  | cons item rest ih =>
    obtain ⟨hi, hr⟩ := List.forall_mem_cons.mp h
    exact cons hi (ih hr)

theorem append {items others : List Item} (h : Spaced items) (h' : Spaced others) :
    Spaced (items ++ others) := by
  induction h with
  | nil => exact h'
  | cons hi _ ih => exact cons hi ih
  | returning _ ih => exact returning ih

end Item.Spaced

namespace Piece

mutual

private theorem spaced_items (piece : Piece) : Item.Spaced piece.items := by
  cases piece with
  | record form returning =>
    exact (Item.Spaced.of_ne Item.ne_returningWord_of_mem_form).append (spaced_returningItems returning)
  | list vs => exact .of_ne Item.ne_returningWord_of_mem_row
  | text | name | value | typed => exact .of_ne (by simp [items, Item.ofValue])

private theorem spaced_returningItems (returning : Returning Piece) :
    Item.Spaced (returningItems returning) := by
  cases returning with
  | nothing => exact .nil
  | all => exact .returning (.of_ne (by simp))
  | pieces pieces => exact .returning (spaced_listItems pieces)

theorem spaced_listItems (pieces : List Piece) : Item.Spaced (listItems pieces) := by
  cases pieces with
  | nil => exact .nil
  | cons piece rest => exact (spaced_items piece).append (spaced_listItems rest)

end

end Piece

namespace GoogleSql

/-- Blanks keep the word in front of a clause apart from its neighbours. -/
theorem thenReturn_clause (word front clause : String) :
    thenReturn (front ++ (" " ++ (word ++ (" " ++ clause)))) =
      thenReturn front ++ (" " ++ (thenReturn word ++ (" " ++ thenReturn clause))) := by
  have hw := thenReturn_around separates_blank word clause
  have hf := thenReturn_around separates_blank front (word ++ " " ++ clause)
  rw [hw] at hf
  simpa only [String.append_assoc] using hf

private theorem hasReturning_clause (word front clause : String) :
    hasReturning (front ++ (" " ++ (word ++ (" " ++ clause)))) =
      (hasReturning front || (hasReturning word || hasReturning clause)) := by
  have hw := hasReturning_around separates_blank word clause
  have hf := hasReturning_around separates_blank front (word ++ " " ++ clause)
  rw [hw] at hf
  simpa only [String.append_assoc] using hf

/-- Where no keyword is in the text that says `THEN RETURN` at once, rewriting comes to that text. -/
theorem thenReturn_write_of_spaced {items : List Item} (hs : Item.Spaced items)
    {spelling : Spelling} (hw : spelling.returningWord = "RETURNING") (count : Nat) (front : String)
    (h : hasReturning (front ++ Item.write (spelling.saying "THEN RETURN") count items) = false) :
    thenReturn (front ++ Item.write spelling count items) =
      front ++ Item.write (spelling.saying "THEN RETURN") count items := by
  induction hs generalizing count front with
  | nil => exact (thenReturn_eq_self_iff _).mpr h
  | @cons item items hi _ ih =>
    -- What is written in front of the next word is one text, so the item goes over to the front.
    have hone : ∀ spelling : Spelling, Item.write spelling count (item :: items) =
        Item.write spelling count [item] ++
          Item.write spelling (count + (boundValues [item]).length) items :=
      fun _ => Item.write_append [item] items
    have hsame : Item.write (spelling.saying "THEN RETURN") count [item] =
        Item.write spelling count [item] := Item.write_saying (by simpa using hi)
    rw [hone (spelling.saying _), hsame, ← String.append_assoc] at h ⊢
    rw [hone spelling, ← String.append_assoc]
    exact ih _ _ h
  | @returning items _ ih =>
    simp only [Item.returning, Item.write, Spelling.returningWord_saying, hasReturning_clause,
      Bool.or_eq_false_iff] at h
    obtain ⟨hf, -, hc⟩ := h
    have hfront : thenReturn front = front := (thenReturn_eq_self_iff _).mpr hf
    have hclause : thenReturn (Item.write spelling count items) =
        Item.write (spelling.saying "THEN RETURN") count items := by
      simpa using ih count "" (by simpa using hc)
    have hkeyword : thenReturn "RETURNING" = "THEN RETURN" := by
      rw [thenReturn_eq]
      decide
    simp only [Item.returning, Item.write, Spelling.returningWord_saying, hw, thenReturn_clause,
      hfront, hclause, hkeyword]

namespace Compiler

/-- Compiling in one step: a statement is rendered with the given word and not rewritten. -/
def compileSaying (word : String) (compiler : Compiler) (template : Template)
    (options : RenderOptions) : Compiled :=
  let verbatim := options.verbatimNames || compiler.verbatimNames
  let (parts, binder) :=
    (Piece.renderPiecesSaying word compiler.renderer.dialect verbatim template).run
      (Binder.fresh options)
  let bindings := Bindings.ofValues parts.params
  ⟨parts.sql, (bindings.attach? binder.types).getD bindings⟩

theorem compileSaying_eq (word : String) (compiler : Compiler) (template : Template)
    (options : RenderOptions) :
    compileSaying word compiler template options =
      ⟨Item.write ((compiler.spelling options).saying word) 0 template.items,
        Bindings.ofTyped (boundValues template.items)⟩ := by
  let verbatim := options.verbatimNames || compiler.verbatimNames
  have hr : (Piece.renderPiecesSaying word compiler.renderer.dialect verbatim template).run
      (Binder.fresh options) = _ := Piece.renderPiecesSaying_renders template (Binder.fresh options)
  have ht := Binder.types_bindAll_fresh options (boundValues template.items)
  simp only [compileSaying, verbatim] at hr ⊢
  rw [hr, ← Template.items]
  simp only [ht]
  rfl

theorem compile_eq_compileSaying_returning (compiler : Compiler) (template : Template)
    (options : RenderOptions) :
    compiler.compile template options =
      let said := compileSaying "RETURNING" compiler template options
      ⟨thenReturn said.sql, said.bindings⟩ := by
  simp only [compileSaying, Piece.renderPiecesSaying_returning]
  rfl

/-- Compiling renders with `RETURNING` and rewrites the text. Rendering with `THEN RETURN` in its place
binds the same values under the same types, and comes to the same text exactly if that text has no
keyword in it, however deep clauses are nested. -/
theorem compile_eq_saying_thenReturn (compiler : Compiler) (template : Template)
    (options : RenderOptions) :
    let compiled := compiler.compile template options
    let said word := compileSaying word compiler template options
    compiled = ⟨thenReturn (said "RETURNING").sql, (said "RETURNING").bindings⟩ ∧
      compiled.bindings = (said "THEN RETURN").bindings ∧
      (compiled.sql = (said "THEN RETURN").sql ↔
        hasReturning (said "THEN RETURN").sql = false) := by
  intro compiled said
  have hc : compiled = _ := compiler.compile_eq template options
  have hs : said "THEN RETURN" = _ := compileSaying_eq "THEN RETURN" compiler template options
  refine ⟨compile_eq_compileSaying_returning compiler template options, by rw [hc, hs], ?_, ?_⟩
  · intro h
    rw [← h, hc]
    exact hasReturning_thenReturn _
  · intro h
    have hi : Item.Spaced template.items := Piece.spaced_listItems template
    rw [hs] at h ⊢
    rw [hc]
    simpa using thenReturn_write_of_spaced hi rfl 0 "" (by simpa using h)

/-- A clause inside the clause of a table, where the insert inside it binds a value too. -/
example :
    let row : RecordForm := .insert [Record.ofList [("a", (7 : Int64))]]
    let table : RecordForm := .valuesTable [Record.ofList [("b", (8 : Int64))]] "t"
    (compileSaying "THEN RETURN" {} [.record table (.pieces [.record row .all])] {}).sql =
      "(VALUES (@param1)) AS \x60t\x60(\x60b\x60) THEN RETURN (\x60a\x60) VALUES (@param2) " ++
        "THEN RETURN *" := by
  decide +kernel

end Compiler

end GoogleSql

end BoundSql
