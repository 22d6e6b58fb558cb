import BoundSql.Proofs.QuotedText
import BoundSql.Proofs.TemplateWords

/-!
# Reading the placeholders of a statement

Placeholders are read from the text of a compiled statement alone: a reader goes through it and takes
the number behind every `@param`. If the template's own words hold no `@` and none of its texts begins
with a digit, it finds the positions of the bound values, each once and in order. The rewriting of the
keyword leaves every number where the reader finds it.
-/

namespace BoundSql

open Text

namespace GoogleSql

/-- The number that the decimal digits at the front of a text make, if there are any. -/
def leadingNumber (text : List Char) : Option Nat :=
  match text.takeWhile Char.isDigit with
  | [] => none
  | digits => some (Nat.ofDigitChars 10 digits 0)

/-- The number behind every `@param`, from left to right. Where no digit follows it stands for none. -/
def placeholderNumbers : List Char → List (Option Nat)
  | [] => []
  | c :: rest =>
    if "@param".toList.isPrefixOf (c :: rest) then
      leadingNumber ((c :: rest).drop 6) :: placeholderNumbers rest
    else placeholderNumbers rest

/-- What the reader takes behind an `@`. -/
def numberBehind (text : List Char) : List (Option Nat) :=
  if "param".toList.isPrefixOf text then [leadingNumber (text.drop 5)] else []

private theorem numberBehind_param (text : List Char) :
    numberBehind ("param".toList ++ text) = [leadingNumber text] := rfl

private theorem placeholderNumbers_at (rest : List Char) :
    placeholderNumbers ('@' :: rest) = numberBehind rest ++ placeholderNumbers rest := by
  have hp : "@param".toList.isPrefixOf ('@' :: rest) = "param".toList.isPrefixOf rest := rfl
  rw [placeholderNumbers, hp, numberBehind, List.drop_succ_cons]
  split <;> rfl

private theorem placeholderNumbers_cons_of_ne {c : Char} (hc : c ≠ '@') (rest : List Char) :
    placeholderNumbers (c :: rest) = placeholderNumbers rest := by
  have hp : "@param".toList.isPrefixOf (c :: rest) = false := by simp [List.isPrefixOf, hc.symm]
  rw [placeholderNumbers, hp, if_neg Bool.false_ne_true]

private theorem placeholderNumbers_append_of_notMem {text : List Char} (h : '@' ∉ text)
    (rest : List Char) :
    placeholderNumbers (text ++ rest) = placeholderNumbers rest := by
  induction text with
  | nil => rfl
  | cons c more ih =>
    simp only [List.mem_cons, not_or] at h
    obtain ⟨hc, hm⟩ := h
    rw [List.cons_append, placeholderNumbers_cons_of_ne (Ne.symm hc), ih hm]

def startsInDigit (text : List Char) : Bool :=
  text.head?.any Char.isDigit

private theorem startsInDigit_append {text rest : List Char} (h : startsInDigit text = false)
    (hr : startsInDigit rest = false) : startsInDigit (text ++ rest) = false := by
  cases text with
  | nil => exact hr
  | cons c more => exact h

private theorem takeWhile_isDigit_append {rest : List Char} (h : startsInDigit rest = false)
    (text : List Char) :
    (text ++ rest).takeWhile Char.isDigit = text.takeWhile Char.isDigit := by
  induction text with
  | nil =>
    cases rest with
    | nil => rfl
    | cons c more => exact List.takeWhile_cons_of_neg (by simpa [startsInDigit] using h)
  | cons c more ih => simp only [List.cons_append, List.takeWhile_cons, ih]

private theorem leadingNumber_append {rest : List Char} (h : startsInDigit rest = false)
    (text : List Char) :
    leadingNumber (text ++ rest) = leadingNumber text := by
  simp only [leadingNumber, takeWhile_isDigit_append h]

private theorem isDigit_of_mem_repr {n : Nat} {c : Char} (h : c ∈ (Nat.repr n).toList) :
    c.isDigit = true := by
  rw [Nat.toList_repr] at h
  exact Nat.isDigit_of_mem_toDigits (by decide) (by decide) h

/-- The digits of a number read as that number. -/
theorem leadingNumber_repr (n : Nat) : leadingNumber (Nat.repr n).toList = some n := by
  have ha : ((Nat.repr n).toList ++ []).takeWhile Char.isDigit = (Nat.repr n).toList ++ [] :=
    List.takeWhile_append_of_pos fun _ => isDigit_of_mem_repr
  have ht : (Nat.repr n).toList.takeWhile Char.isDigit = (Nat.repr n).toList := by simpa using ha
  rw [leadingNumber, ht, Nat.toList_repr]
  split
  · next h => exact absurd h Nat.toDigits_ne_nil
  · rw [Nat.ofDigitChars_ten_toDigits]

private theorem isWordChar_of_isDigit {c : Char} (h : c.isDigit = true) : isWordChar c = true := by
  have hr : wordRanges = (0x30, 0x39) :: wordRanges.tail := rfl
  obtain ⟨hl, hu⟩ := Char.isDigit_iff_toNat.mp h
  have hzero : '0'.toNat = 0x30 := rfl
  have hnine : '9'.toNat = 0x39 := rfl
  rw [isWordChar, hr, CodeRanges.covers, if_neg (by omega), if_pos (by omega)]

private theorem startsInDigit_of_startsInWord {text : List Char} (h : startsInWord text = false) :
    startsInDigit text = false := by
  cases text with
  | nil => rfl
  | cons c rest =>
    have hc : isWordChar c = false := by simpa [startsInWord] using h
    cases hd : c.isDigit with
    | false => simpa [startsInDigit] using hd
    | true =>
      rw [isWordChar_of_isDigit hd] at hc
      cases hc

/-- A word is not longer in front of a text that starts between words. -/
theorem isPrefixOf_append_of_word {word : List Char} (hw : ∀ c ∈ word, isWordChar c = true)
    {rest : List Char} (hs : startsInWord rest = false) (run : List Char) :
    word.isPrefixOf (run ++ rest) = word.isPrefixOf run := by
  induction word generalizing run with
  | nil => rfl
  | cons c word ih =>
    obtain ⟨hc, hw⟩ := List.forall_mem_cons.mp hw
    cases run with
    | nil =>
      cases rest with
      | nil => rfl
      | cons d more =>
        have hd : isWordChar d = false := by simpa [startsInWord] using hs
        simp [List.isPrefixOf, ne_of_isWordChar hc hd]
    | cons d more => simp only [List.cons_append, List.isPrefixOf, ih hw]

private theorem numberBehind_append {rest : List Char} (hs : startsInWord rest = false)
    (run : List Char) :
    numberBehind (run ++ rest) = numberBehind run := by
  have ha : "param".toList.all isWordChar = true := by decide
  have hw : ∀ c ∈ "param".toList, isWordChar c = true := List.all_eq_true.mp ha
  have hd : startsInDigit rest = false := startsInDigit_of_startsInWord hs
  rw [numberBehind, isPrefixOf_append_of_word hw hs, numberBehind]
  split
  · next hp =>
    have hl : 5 ≤ run.length := (List.isPrefixOf_iff_prefix.mp hp).length_le
    rw [List.drop_append_of_le_length hl, leadingNumber_append hd]
  · rfl

/-- No number stands where a text does not begin with the first letter of `param`. -/
theorem numberBehind_of_head?_ne {text : List Char} (h : 'p' ∉ text.head?) :
    numberBehind text = [] := by
  apply if_neg
  cases text with
  | nil => decide
  | cons c rest =>
    have hc : c ≠ 'p' := by simpa using h
    simp [List.isPrefixOf, hc.symm]

private theorem numberBehind_rewriteRuns (text : List Char) :
    numberBehind (rewriteRuns text) = numberBehind text := by
  induction text using word_induction with
  | nil => rfl
  | between c rest hc ih =>
    have hp : c ≠ 'p' := (ne_of_isWordChar (by decide) hc).symm
    rw [rewriteRuns_cons_of_not_word hc, numberBehind_of_head?_ne (by simpa using hp),
      numberBehind_of_head?_ne (by simpa using hp)]
  | word run rest hn hw hs ih =>
    have hr : startsInWord (rewriteRuns rest) = false := (startsInWord_rewriteRuns rest).trans hs
    rw [rewriteRuns_word_append hn hw hs, numberBehind_append hr, numberBehind_append hs]
    unfold thenReturnRun
    split
    · next h => rw [h]; rfl
    · rfl

/-- Rewriting the keyword leaves every placeholder as it is. -/
theorem placeholderNumbers_rewriteRuns (text : List Char) :
    placeholderNumbers (rewriteRuns text) = placeholderNumbers text := by
  induction text using word_induction with
  | nil => rfl
  | between c rest hc ih =>
    rw [rewriteRuns_cons_of_not_word hc]
    by_cases ha : c = '@'
    · rw [ha, placeholderNumbers_at, placeholderNumbers_at, numberBehind_rewriteRuns, ih]
    · rw [placeholderNumbers_cons_of_ne ha, placeholderNumbers_cons_of_ne ha, ih]
  | word run rest hn hw hs ih =>
    have hat : isWordChar '@' = false := by decide
    have hrun : '@' ∉ run := fun h => by simp [hw _ h] at hat
    have hnew : '@' ∉ thenReturnRun run := by
      unfold thenReturnRun
      split
      · decide
      · exact hrun
    rw [rewriteRuns_word_append hn hw hs, placeholderNumbers_append_of_notMem hnew,
      placeholderNumbers_append_of_notMem hrun, ih]

/-- The item is written without an `@` and does not go on a number in front of it. -/
def Legible (spelling : Spelling) : Item → Prop
  | .text s => '@' ∉ s.toList ∧ startsInDigit s.toList = false
  | .name s => '@' ∉ (spelling.name s).toList ∧ startsInDigit (spelling.name s).toList = false
  | .bound _ | .valuesWord | .returningWord => True

/-- The spelling writes placeholders by their position. -/
structure Numbered (spelling : Spelling) : Prop where
  placeholder : ∀ position value, spelling.placeholder position value = "@param" ++ Nat.repr position
  valuesWord : spelling.valuesWord = "VALUES"
  returningWord : spelling.returningWord = "RETURNING"

section Written

variable {spelling : Spelling} (hs : Numbered spelling)

include hs

private theorem startsInDigit_write {items : List Item} (h : ∀ item ∈ items, Legible spelling item)
    (count : Nat) : startsInDigit (Item.write spelling count items).toList = false := by
  induction items generalizing count with
  | nil => rfl
  | cons item rest ih =>
    obtain ⟨hi, hr⟩ := List.forall_mem_cons.mp h
    cases item with
    | text s =>
      rw [Item.write, String.toList_append]
      exact startsInDigit_append hi.2 (ih hr count)
    | name s =>
      rw [Item.write, String.toList_append]
      exact startsInDigit_append hi.2 (ih hr count)
    | bound value =>
      rw [Item.write, hs.placeholder, String.toList_append, String.toList_append]
      rfl
    | valuesWord =>
      rw [Item.write, hs.valuesWord, String.toList_append]
      rfl
    | returningWord =>
      rw [Item.write, hs.returningWord, String.toList_append]
      rfl

/-- Behind the items that are counted, the numbers go on one by one. -/
theorem placeholderNumbers_write {items : List Item} (h : ∀ item ∈ items, Legible spelling item)
    (count : Nat) :
    placeholderNumbers (Item.write spelling count items).toList =
      (List.range' (count + 1) (boundValues items).length).map some := by
  induction items generalizing count with
  | nil => rfl
  | cons item rest ih =>
    obtain ⟨hi, hr⟩ := List.forall_mem_cons.mp h
    cases item with
    | text s =>
      rw [Item.write, String.toList_append, placeholderNumbers_append_of_notMem hi.1, ih hr]
      rfl
    | name s =>
      rw [Item.write, String.toList_append, placeholderNumbers_append_of_notMem hi.1, ih hr]
      rfl
    | bound value =>
      let digits := (Nat.repr (count + 1)).toList
      let more := (Item.write spelling (count + 1) rest).toList
      have hw : (Item.write spelling count (.bound value :: rest)).toList =
          '@' :: ("param".toList ++ (digits ++ more)) := by
        rw [Item.write, hs.placeholder, String.toList_append, String.toList_append,
          List.append_assoc]
        rfl
      have hparam : '@' ∉ "param".toList := by decide
      have hdigits : '@' ∉ digits := fun h => absurd (isDigit_of_mem_repr h) (by decide)
      have hnumber : leadingNumber (digits ++ more) = some (count + 1) :=
        (leadingNumber_append (startsInDigit_write hs hr (count + 1)) digits).trans
          (leadingNumber_repr (count + 1))
      rw [hw, placeholderNumbers_at, numberBehind_param, hnumber,
        placeholderNumbers_append_of_notMem hparam, placeholderNumbers_append_of_notMem hdigits,
        ih hr]
      rfl
    | valuesWord =>
      rw [Item.write, hs.valuesWord, String.toList_append,
        placeholderNumbers_append_of_notMem (by decide), ih hr]
      rfl
    | returningWord =>
      rw [Item.write, hs.returningWord, String.toList_append,
        placeholderNumbers_append_of_notMem (by decide), ih hr]
      rfl

end Written

namespace Compiler

theorem numbered_spelling (compiler : Compiler) {options : RenderOptions}
    (ho : options.placeholder = none) : Numbered (compiler.spelling options) where
  placeholder position value := by rw [spelling_eq, ho]; rfl
  valuesWord := rfl
  returningWord := rfl

private theorem startsInDigit_name (compiler : Compiler) (options : RenderOptions) (name : String) :
    startsInDigit ((compiler.spelling options).name name).toList = false := by
  rw [name_spelling, quoteName, String.toList_ofList]
  rfl

private theorem legible_mark (spelling : Spelling) :
    ∀ mark ∈ Item.marks, Legible spelling (.text mark) := by
  intro mark hm
  have h : Item.marks.all (fun mark => !mark.toList.contains '@' && !startsInDigit mark.toList) =
      true := by decide
  simpa [Legible] using List.all_eq_true.mp h mark hm

/-- The placeholders of a compiled statement are read back from its text. If no `@` stands in the texts
of the template nor in its names as they are quoted, and no text begins with a digit, then the numbers
behind `@param` are those from one up to how many values are bound. -/
theorem placeholderNumbers_compile (compiler : Compiler) (template : Template)
    (options : RenderOptions) (ho : options.placeholder = none)
    (hl : ∀ text ∈ template.literals, '@' ∉ text.toList ∧ startsInDigit text.toList = false)
    (hn : ∀ name ∈ template.names, '@' ∉ ((compiler.spelling options).name name).toList) :
    let compiled := compiler.compile template options
    placeholderNumbers compiled.sql.toList =
      (List.range' 1 compiled.bindings.values.length).map some := by
  have hlegible : ∀ item ∈ template.items, Legible (compiler.spelling options) item := by
    have hname : ∀ name ∈ template.names, Legible (compiler.spelling options) (.name name) :=
      fun name h => ⟨hn name h, startsInDigit_name compiler options name⟩
    have haround : Item.HoldsAroundWords (Legible (compiler.spelling options)) :=
      ⟨legible_mark _, fun _ => trivial, trivial, trivial⟩
    exact haround.forall_mem_items hl hname
  have hw := placeholderNumbers_write (compiler.numbered_spelling ho) hlegible 0
  intro compiled
  have hc : compiled = _ := compiler.compile_eq template options
  rw [hc, toList_thenReturn, placeholderNumbers_rewriteRuns, hw, Bindings.values_ofTyped,
    List.length_map]

/-- Numbers end where the next placeholder begins, also across an empty text, and where the keyword
follows without a blank. -/
theorem placeholderNumbers_compile_adjacent :
    let rows := [Record.ofList [("a", Value.int 7), ("b", .null)], Record.ofList [("b", Value.int 8)]]
    let template : Template := [.text "INSERT INTO t ", .record (.insert rows)
      (.pieces [.typed ⟨.null, none⟩, .text "", .value .null, .text "RETURNING",
        .list [.null, .null, .null], .value .null, .value .null])]
    let sql := (Compiler.compile {} template {}).sql
    template.literals = ["INSERT INTO t ", "", "RETURNING"] ∧ template.names = ["a", "b"] ∧
      sql = "INSERT INTO t (\x60a\x60,\x60b\x60) VALUES (@param1,@param2),(@param3,@param4) THEN RETURN " ++
        "@param5@param6RETURNING(@param7,@param8,@param9)@param10@param11" ∧
      placeholderNumbers sql.toList = (List.range' 1 11).map some := by
  intro rows template sql
  have hl : template.literals = ["INSERT INTO t ", "", "RETURNING"] := by decide
  have hn : template.names = ["a", "b"] := by decide
  have h := placeholderNumbers_compile {} template {} rfl (by rw [hl]; decide)
    (by rw [hn]; decide)
  refine ⟨hl, hn, ?_, h.trans (by decide +kernel)⟩
  change (Compiler.compile {} template {}).sql = _
  rw [compile_eq, thenReturn_eq]
  decide +kernel

end Compiler

end GoogleSql

end BoundSql
