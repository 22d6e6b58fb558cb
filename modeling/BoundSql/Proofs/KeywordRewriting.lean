import BoundSql.GoogleSql
import BoundSql.Dialect
import BoundSql.Proofs.WordBoundaries

/-!
# Rewriting the keyword

The rewriting of `RETURNING` is local: texts that do not join in a word are rewritten one by one, and
a quotation is rewritten as the text that it quotes. A text stays as it is exactly when the keyword is
not among its words.
-/

namespace BoundSql.GoogleSql

open Text

/-- The rewriting on characters. -/
def rewriteRuns (text : List Char) : List Char :=
  (wordRuns text).flatMap thenReturnRun

@[simp] theorem toList_thenReturn (sql : String) :
    (thenReturn sql).toList = rewriteRuns sql.toList := by
  rw [thenReturn_eq, String.toList_ofList, rewriteRuns]

theorem hasReturning_iff (sql : String) :
    hasReturning sql = true ↔ returningWord ∈ wordRuns sql.toList := by
  rw [hasReturning_eq, List.contains_iff_mem]

theorem rewriteRuns_append {s t : List Char} (h : Apart s t) :
    rewriteRuns (s ++ t) = rewriteRuns s ++ rewriteRuns t := by
  simp only [rewriteRuns, wordRuns_append h, List.flatMap_append]

private theorem singleton_ne_returningWord (c : Char) : [c] ≠ returningWord := by
  intro h
  have hl : 1 = returningWord.length := congrArg List.length h
  exact absurd hl (by decide)

private theorem thenReturnRun_singleton (c : Char) : thenReturnRun [c] = [c] :=
  if_neg (singleton_ne_returningWord c)

private theorem flatMap_thenReturnRun_singletons (text : List Char) :
    (text.map ([·])).flatMap thenReturnRun = text := by
  induction text with
  | nil => rfl
  | cons c rest ih => simpa [thenReturnRun_singleton] using ih

private theorem rewriteRuns_of_not_word {text : List Char} (h : ∀ c ∈ text, isWordChar c = false) :
    rewriteRuns text = text := by
  rw [rewriteRuns, wordRuns_of_not_word h, flatMap_thenReturnRun_singletons]

private theorem length_thenReturnRun (run : List Char) :
    (thenReturnRun run).length = run.length + 2 * if run = returningWord then 1 else 0 := by
  unfold thenReturnRun
  split
  · next h => rw [h]; rfl
  · rfl

private theorem length_flatMap_thenReturnRun (runs : List (List Char)) :
    (runs.flatMap thenReturnRun).length = runs.flatten.length + 2 * runs.count returningWord := by
  induction runs with
  | nil => rfl
  | cons run rest ih =>
    rw [List.flatMap_cons, List.length_append, length_thenReturnRun, ih, List.flatten_cons,
      List.length_append, List.count_cons]
    simp only [beq_iff_eq]
    omega

theorem rewriteRuns_eq_self_iff (text : List Char) :
    rewriteRuns text = text ↔ returningWord ∉ wordRuns text := by
  have hl := length_flatMap_thenReturnRun (wordRuns text)
  rw [flatten_wordRuns] at hl
  constructor
  · intro h
    rw [← rewriteRuns, h] at hl
    exact List.count_eq_zero.mp (by omega)
  · intro h
    have hm : ∀ run ∈ wordRuns text, thenReturnRun run = id run := by
      intro run hr
      apply if_neg
      rintro rfl
      exact h hr
    rw [rewriteRuns, List.flatMap_def, List.map_congr_left hm, List.map_id, flatten_wordRuns]

/-- Only a text without the keyword stays as it is. -/
theorem thenReturn_eq_self_iff (sql : String) : thenReturn sql = sql ↔ hasReturning sql = false := by
  rw [← String.toList_inj, toList_thenReturn, rewriteRuns_eq_self_iff, ← hasReturning_iff,
    Bool.not_eq_true]

private theorem thenReturn_empty : thenReturn "" = "" :=
  thenReturn_eq ""

private theorem hasReturning_empty : hasReturning "" = false :=
  (thenReturn_eq_self_iff "").mp thenReturn_empty

theorem rewriteRuns_cons_of_not_word {c : Char} (hc : isWordChar c = false) (rest : List Char) :
    rewriteRuns (c :: rest) = c :: rewriteRuns rest := by
  have ha : Apart [c] rest := .inl (by simpa [endsInWord] using hc)
  rw [← List.singleton_append, rewriteRuns_append ha]
  simp [rewriteRuns, thenReturnRun_singleton]

section Word

variable {run rest : List Char} (hn : run ≠ []) (hw : ∀ c ∈ run, isWordChar c = true)

include hn hw

private theorem rewriteRuns_of_word : rewriteRuns run = thenReturnRun run := by
  rw [rewriteRuns, wordRuns_of_word hn hw, List.flatMap_singleton]

theorem rewriteRuns_word_append (hs : startsInWord rest = false) :
    rewriteRuns (run ++ rest) = thenReturnRun run ++ rewriteRuns rest := by
  rw [rewriteRuns_append (.inr hs), rewriteRuns_of_word hn hw]

private theorem startsInWord_thenReturnRun_append (rest : List Char) :
    startsInWord (thenReturnRun run ++ rest) = true := by
  unfold thenReturnRun
  split
  · rfl
  · obtain ⟨c, more, rfl⟩ := List.exists_cons_of_ne_nil hn
    simpa [startsInWord] using hw c (by simp)

/-- A word that is rewritten leaves no keyword behind. -/
theorem returningWord_notMem_thenReturnRun : returningWord ∉ wordRuns (thenReturnRun run) := by
  unfold thenReturnRun
  split
  · decide
  · next h =>
    rw [wordRuns_of_word hn hw, List.mem_singleton]
    exact fun he => h he.symm

end Word

theorem startsInWord_rewriteRuns (text : List Char) :
    startsInWord (rewriteRuns text) = startsInWord text := by
  induction text using word_induction with
  | nil => rfl
  | between c rest hc ih => rw [rewriteRuns_cons_of_not_word hc]; rfl
  | word run rest hn hw hs ih =>
    obtain ⟨c, more, rfl⟩ := List.exists_cons_of_ne_nil hn
    rw [rewriteRuns_word_append hn hw hs, startsInWord_thenReturnRun_append hn hw]
    simpa [startsInWord] using (hw c (by simp)).symm

private theorem returningWord_notMem_rewriteRuns (text : List Char) :
    returningWord ∉ wordRuns (rewriteRuns text) := by
  induction text using word_induction with
  | nil => decide
  | between c rest hc ih =>
    have ha : Apart [c] (rewriteRuns rest) := .inl (by simpa [endsInWord] using hc)
    rw [rewriteRuns_cons_of_not_word hc, wordRuns_cons, consRun_of_apart ha, List.mem_cons]
    exact fun h => h.elim (fun h => singleton_ne_returningWord c h.symm) ih
  | word run rest hn hw hs ih =>
    have ha : Apart (thenReturnRun run) (rewriteRuns rest) :=
      .inr ((startsInWord_rewriteRuns rest).trans hs)
    rw [rewriteRuns_word_append hn hw hs, wordRuns_append ha, List.mem_append]
    exact fun h => h.elim (returningWord_notMem_thenReturnRun hn hw) ih

/-- A rewritten text has no keyword left. -/
theorem hasReturning_thenReturn (sql : String) : hasReturning (thenReturn sql) = false := by
  rw [Bool.eq_false_iff, ne_eq, hasReturning_iff, toList_thenReturn]
  exact returningWord_notMem_rewriteRuns sql.toList

theorem thenReturn_append {s t : String} (h : Apart s.toList t.toList) :
    thenReturn (s ++ t) = thenReturn s ++ thenReturn t := by
  rw [← String.toList_inj]
  simp only [toList_thenReturn, String.toList_append, rewriteRuns_append h]

theorem hasReturning_append {s t : String} (h : Apart s.toList t.toList) :
    hasReturning (s ++ t) = (hasReturning s || hasReturning t) := by
  rw [Bool.eq_iff_iff, Bool.or_eq_true]
  simp only [hasReturning_iff, String.toList_append, wordRuns_append h, List.mem_append]

/-- A text that holds no word and so keeps its neighbours apart. -/
structure Separates (text : String) : Prop where
  ne_nil : text.toList ≠ []
  not_word : ∀ c ∈ text.toList, isWordChar c = false

section Separators

variable {separator : String} (h : Separates separator)

include h

theorem Separates.apart_right (text : String) : Apart separator.toList text.toList :=
  .inl (endsInWord_of_not_word h.not_word)

theorem Separates.apart_left (text rest : String) : Apart text.toList (separator ++ rest).toList := by
  obtain ⟨c, more, hc⟩ := List.exists_cons_of_ne_nil h.ne_nil
  apply Or.inr
  simpa [startsInWord, hc] using h.not_word c (by simp [hc])

private theorem thenReturn_separator : thenReturn separator = separator := by
  rw [← String.toList_inj, toList_thenReturn, rewriteRuns_of_not_word h.not_word]

private theorem hasReturning_separator : hasReturning separator = false :=
  (thenReturn_eq_self_iff separator).mp (thenReturn_separator h)

theorem thenReturn_around (s t : String) :
    thenReturn (s ++ separator ++ t) = thenReturn s ++ separator ++ thenReturn t := by
  have hl := thenReturn_append (h.apart_left s t)
  have hr := thenReturn_append (h.apart_right t)
  rw [String.append_assoc, hl, hr, thenReturn_separator h, String.append_assoc]

theorem hasReturning_around (s t : String) :
    hasReturning (s ++ separator ++ t) = (hasReturning s || hasReturning t) := by
  have hl := hasReturning_append (h.apart_left s t)
  have hr := hasReturning_append (h.apart_right t)
  rw [String.append_assoc, hl, hr, hasReturning_separator h, Bool.false_or]

theorem thenReturn_intercalate (texts : List String) :
    thenReturn (String.intercalate separator texts) =
      String.intercalate separator (texts.map thenReturn) := by
  induction texts with
  | nil => exact thenReturn_empty
  | cons text rest ih =>
    cases rest with
    | nil => simp
    | cons next rest =>
      rw [String.intercalate_cons_cons, thenReturn_around h, ih]
      simp only [List.map_cons, String.intercalate_cons_cons]

theorem hasReturning_intercalate (texts : List String) :
    hasReturning (String.intercalate separator texts) = texts.any hasReturning := by
  induction texts with
  | nil => exact hasReturning_empty
  | cons text rest ih =>
    cases rest with
    | nil => simp
    | cons next rest =>
      rw [String.intercalate_cons_cons, hasReturning_around h, ih, List.any_cons, List.any_cons,
        List.any_cons]

end Separators

theorem Separates.thenReturn_between {opening closing : String} (ho : Separates opening)
    (hc : Separates closing) (text : String) :
    thenReturn (opening ++ text ++ closing) = opening ++ thenReturn text ++ closing := by
  have h := thenReturn_around hc (opening ++ text) ""
  rwa [String.append_empty, thenReturn_append (ho.apart_right text), thenReturn_separator ho,
    thenReturn_empty, String.append_empty] at h

theorem Separates.hasReturning_between {opening closing : String} (ho : Separates opening)
    (hc : Separates closing) (text : String) :
    hasReturning (opening ++ text ++ closing) = hasReturning text := by
  have h := hasReturning_around hc (opening ++ text) ""
  rwa [String.append_empty, hasReturning_append (ho.apart_right text), hasReturning_separator ho,
    hasReturning_empty, Bool.or_false, Bool.false_or] at h

theorem Separates.of_any {text : String} (hn : text.toList ≠ [])
    (hw : text.toList.any isWordChar = false) : Separates text where
  ne_nil := hn
  not_word c hc := by simpa using List.any_eq_false.mp hw c hc

theorem separates_comma : Separates "," := .of_any (by decide) (by decide)

theorem separates_blank : Separates " " := .of_any (by decide) (by decide)

theorem separates_opening : Separates "(" := .of_any (by decide) (by decide)

theorem separates_closing : Separates ")" := .of_any (by decide) (by decide)

theorem thenReturn_tuple (texts : List String) :
    thenReturn (tuple texts) = tuple (texts.map thenReturn) := by
  simp only [tuple, separates_opening.thenReturn_between separates_closing,
    thenReturn_intercalate separates_comma]

theorem hasReturning_tuple (texts : List String) :
    hasReturning (tuple texts) = texts.any hasReturning := by
  simp only [tuple, separates_opening.hasReturning_between separates_closing,
    hasReturning_intercalate separates_comma]

/-- A text between two quotes, in which other texts stand for some of its characters. -/
def enquote (quote : Char) (replace : Char → List Char) (text : String) : String :=
  String.ofList (quote :: text.toList.flatMap replace ++ [quote])

theorem startsInWord_returningWord : startsInWord returningWord = true := by decide

private theorem thenReturnRun_of_not_word {run : List Char} (h : startsInWord run = false) :
    thenReturnRun run = run := by
  apply if_neg
  intro he
  rw [he, startsInWord_returningWord] at h
  cases h

private theorem returningWord_mem_wordRuns_flatMap {replace : Char → List Char}
    (h : KeepsWords replace) (text : List Char) :
    returningWord ∈ wordRuns (text.flatMap replace) ↔ returningWord ∈ wordRuns text := by
  rw [wordRuns_flatMap h, List.mem_flatMap]
  constructor
  · rintro ⟨run, hr, hm⟩
    unfold replaceRun at hm
    split at hm
    · rwa [List.mem_singleton.mp hm]
    · obtain ⟨c, -, hc⟩ := List.mem_map.mp hm
      exact absurd hc (singleton_ne_returningWord c)
  · exact fun hr => ⟨_, hr, by simp [replaceRun, startsInWord_returningWord]⟩

/-- The characters of a word, rewritten or not, are of words or blank. -/
theorem mem_thenReturnRun {run : List Char} (hw : ∀ c ∈ run, isWordChar c = true) :
    ∀ c ∈ thenReturnRun run, c = ' ' ∨ isWordChar c = true := by
  have ht : "THEN RETURN".toList.all (fun c => c == ' ' || isWordChar c) = true := by decide
  intro c hc
  unfold thenReturnRun at hc
  split at hc
  · simpa using List.all_eq_true.mp ht c hc
  · exact .inr (hw c hc)

private theorem flatMap_eq_self {replace : Char → List Char} {text : List Char}
    (h : ∀ c ∈ text, replace c = [c]) : text.flatMap replace = text := by
  rw [List.flatMap_def, List.map_congr_left h, ← List.flatMap_def, List.flatMap_singleton']

/-- The rewriting commutes with a replacement that also leaves blanks alone. -/
theorem rewriteRuns_flatMap {replace : Char → List Char} (h : KeepsWords replace)
    (hb : replace ' ' = [' ']) (text : List Char) :
    rewriteRuns (text.flatMap replace) = (rewriteRuns text).flatMap replace := by
  have hr : ∀ run ∈ wordRuns text,
      (replaceRun replace run).flatMap thenReturnRun = (thenReturnRun run).flatMap replace := by
    intro run hm
    cases hs : startsInWord run with
    | false =>
      simp only [replaceRun, hs, Bool.false_eq_true, if_false, flatMap_thenReturnRun_singletons,
        thenReturnRun_of_not_word hs]
    | true =>
      have hc : ∀ c ∈ thenReturnRun run, replace c = [c] := by
        intro c hc
        rcases mem_thenReturnRun (isWordChar_of_mem_wordRuns hm hs) c hc with rfl | hw
        · exact hb
        · exact h.word c hw
      simp only [replaceRun, hs, if_true, List.flatMap_singleton, flatMap_eq_self hc]
  rw [rewriteRuns, wordRuns_flatMap h, List.flatMap_assoc, rewriteRuns, List.flatMap_assoc,
    List.flatMap_def, List.map_congr_left hr, ← List.flatMap_def]

private theorem rewriteRuns_between {quote : Char} (hq : isWordChar quote = false)
    (text : List Char) :
    rewriteRuns (quote :: text ++ [quote]) = quote :: rewriteRuns text ++ [quote] := by
  have hl : Apart [quote] (text ++ [quote]) := .inl (by simpa [endsInWord] using hq)
  have hr : Apart text [quote] := .inr (by simpa [startsInWord] using hq)
  rw [List.cons_append, ← List.singleton_append, rewriteRuns_append hl, rewriteRuns_append hr]
  simp [rewriteRuns, thenReturnRun_singleton]

section Enquote

variable {quote : Char} {replace : Char → List Char}

/-- A quotation is rewritten as the text that it quotes. -/
theorem thenReturn_enquote (h : KeepsWords replace) (hb : replace ' ' = [' '])
    (hq : isWordChar quote = false) (text : String) :
    thenReturn (enquote quote replace text) = enquote quote replace (thenReturn text) := by
  have hf := rewriteRuns_flatMap h hb text.toList
  apply String.toList_inj.mp
  simp only [toList_thenReturn, enquote, String.toList_ofList, rewriteRuns_between hq, hf]

theorem hasReturning_enquote (h : KeepsWords replace) (hq : isWordChar quote = false)
    (text : String) : hasReturning (enquote quote replace text) = hasReturning text := by
  have hl : Apart [quote] (text.toList.flatMap replace ++ [quote]) :=
    .inl (by simpa [endsInWord] using hq)
  have hr : Apart (text.toList.flatMap replace) [quote] :=
    .inr (by simpa [startsInWord] using hq)
  rw [Bool.eq_iff_iff, hasReturning_iff, hasReturning_iff, enquote, String.toList_ofList,
    List.cons_append, ← List.singleton_append, wordRuns_append hl, wordRuns_append hr]
  simp [returningWord_mem_wordRuns_flatMap h, (singleton_ne_returningWord quote).symm]

end Enquote

end BoundSql.GoogleSql
