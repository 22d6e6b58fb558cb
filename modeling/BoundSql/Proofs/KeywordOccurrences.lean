import BoundSql.Proofs.KeywordRewriting

/-!
# Occurrences of the keyword

The keyword occurs in a text wherever `RETURNING` stands and joins no word on either side. Its occurrences
cut the text into parts, and the rewriting joins the same parts with `THEN RETURN`.
-/

namespace BoundSql

namespace Text

private theorem endsInWord_append {s t : List Char} (h : t ≠ []) :
    endsInWord (s ++ t) = endsInWord t := by
  rcases List.eq_nil_or_concat t with rfl | ⟨rest, c, rfl⟩
  · exact absurd rfl h
  · rw [endsInWord, endsInWord, List.concat_eq_append, ← List.append_assoc, List.getLast?_concat,
      List.getLast?_concat]

private theorem startsInWord_append {s t : List Char} (h : s ≠ []) :
    startsInWord (s ++ t) = startsInWord s := by
  obtain ⟨c, rest, rfl⟩ := List.exists_cons_of_ne_nil h
  rfl

/-- A text in front keeps apart what was apart, if it joins no word with what follows. -/
theorem Apart.append_left {s t u : List Char} (hs : Apart s (t ++ u)) (h : Apart t u) :
    Apart (s ++ t) u := by
  cases t with
  | nil => simpa using hs
  | cons c rest => exact h.imp_left fun he => by rwa [endsInWord_append (List.cons_ne_nil c rest)]

/-- Behind a first run the text is cut as it is without that run. -/
theorem apart_of_cons_eq_append {run rest : List Char} (ha : Apart run rest)
    (hrest : ∀ left right, wordRuns rest = left ++ right → Apart left.flatten right.flatten)
    {left right : List (List Char)} (h : run :: wordRuns rest = left ++ right) :
    Apart left.flatten right.flatten := by
  cases left with
  | nil => exact .inl rfl
  | cons first left =>
    obtain ⟨hrun, hr⟩ : run = first ∧ wordRuns rest = left ++ right := List.cons_eq_cons.mp h
    have hflat : left.flatten ++ right.flatten = rest := by
      rw [← List.flatten_append, ← hr, flatten_wordRuns]
    rw [List.flatten_cons, ← hrun]
    exact Apart.append_left (hflat ▸ ha) (hrest left right hr)

/-- Wherever a text is cut between two runs, the two sides are apart. -/
theorem apart_of_wordRuns_eq_append {text : List Char} :
    ∀ left right, wordRuns text = left ++ right → Apart left.flatten right.flatten := by
  induction text using word_induction with
  | nil =>
    intro left right h
    obtain ⟨rfl, rfl⟩ := List.append_eq_nil_iff.mp h.symm
    exact .inl rfl
  | between c rest hc ih =>
    intro left right h
    have ha : Apart [c] rest := .inl (by simpa [endsInWord] using hc)
    rw [wordRuns_cons, consRun_of_apart ha] at h
    exact apart_of_cons_eq_append ha ih h
  | word run rest hn hw hs ih =>
    intro left right h
    have ha : Apart run rest := .inr hs
    rw [wordRuns_append ha, wordRuns_of_word hn hw] at h
    exact apart_of_cons_eq_append ha ih h

end Text

namespace GoogleSql

open Text

/-- The keyword stands in the text between the two others and joins no word of theirs. -/
structure KeywordBetween (sql before after : String) : Prop where
  text_eq : sql = before ++ "RETURNING" ++ after
  apart_before : endsInWord before.toList = false
  apart_after : startsInWord after.toList = false

private theorem toList_returning : "RETURNING".toList = returningWord := rfl

private theorem returningWord_ne_nil : returningWord ≠ [] := by decide

private theorem endsInWord_returningWord : endsInWord returningWord = true := by decide

private theorem wordRuns_returningWord : wordRuns returningWord = [returningWord] :=
  wordRuns_of_word returningWord_ne_nil (List.all_eq_true.mp (by decide))

theorem wordRuns_of_keywordBetween {sql before after : String} (h : KeywordBetween sql before after) :
    wordRuns sql.toList = wordRuns before.toList ++ returningWord :: wordRuns after.toList := by
  have ht : sql.toList = before.toList ++ (returningWord ++ after.toList) := by
    rw [h.text_eq, String.toList_append, String.toList_append, List.append_assoc, toList_returning]
  rw [ht, wordRuns_append (.inl h.apart_before), wordRuns_append (.inr h.apart_after),
    wordRuns_returningWord, List.singleton_append]

/-- The keyword among the runs stands between what comes before it and after it. -/
theorem keywordBetween_of_wordRuns {sql : String} {left right : List (List Char)}
    (h : wordRuns sql.toList = left ++ returningWord :: right) :
    KeywordBetween sql (.ofList left.flatten) (.ofList right.flatten) := by
  have hl : Apart left.flatten (returningWord ++ right.flatten) :=
    apart_of_wordRuns_eq_append left (returningWord :: right) h
  have hr : Apart (left.flatten ++ returningWord) right.flatten := by
    have ha := apart_of_wordRuns_eq_append (left ++ [returningWord]) right (by simpa using h)
    rwa [List.flatten_append, List.flatten_singleton] at ha
  rw [Apart, startsInWord_append returningWord_ne_nil, startsInWord_returningWord] at hl
  rw [Apart, endsInWord_append returningWord_ne_nil, endsInWord_returningWord] at hr
  refine ⟨?_, ?_, ?_⟩
  · have hs : sql.toList = left.flatten ++ returningWord ++ right.flatten := by
      rw [← flatten_wordRuns sql.toList, h, List.flatten_append, List.flatten_cons, List.append_assoc]
    rw [← String.toList_inj, hs]
    simp only [String.toList_append, String.toList_ofList, toList_returning]
  · rw [String.toList_ofList]
    exact hl.resolve_right Bool.noConfusion
  · rw [String.toList_ofList]
    exact hr.resolve_left Bool.noConfusion

theorem hasReturning_iff_exists_keywordBetween (sql : String) :
    hasReturning sql = true ↔ ∃ before after, KeywordBetween sql before after := by
  rw [hasReturning_iff]
  constructor
  · intro h
    obtain ⟨left, right, hs⟩ := List.append_of_mem h
    exact ⟨_, _, keywordBetween_of_wordRuns hs⟩
  · rintro ⟨before, after, h⟩
    rw [wordRuns_of_keywordBetween h]
    exact List.mem_append_right _ (.head _)

/-- The text is cut at every run that is the keyword. -/
def keywordParts (sql : String) : List String :=
  ((wordRuns sql.toList).splitOn returningWord).map fun runs => .ofList runs.flatten

theorem keywordParts_ne_nil (sql : String) : keywordParts sql ≠ [] := by
  simp [keywordParts, List.splitOn_ne_nil]

/-- What becomes of runs, group by group. -/
theorem intercalate_map_flatMap {f : List Char → List Char} {run : List Char} {word : String}
    (hw : word.toList = f run) (groups : List (List (List Char))) :
    String.intercalate word (groups.map fun runs => .ofList (runs.flatMap f)) =
      .ofList (([run].intercalate groups).flatMap f) := by
  induction groups with
  | nil => rfl
  | cons group rest ih =>
    cases rest with
    | nil => simp
    | cons next rest =>
      have hf : String.ofList (f run) = word := by rw [← hw, String.ofList_toList]
      simp only [List.map_cons, String.intercalate_cons_cons, List.intercalate_cons_cons] at ih ⊢
      simp only [ih, List.flatMap_append, String.ofList_append, List.flatMap_singleton, hf]

private theorem intercalate_map_flatten (groups : List (List (List Char))) :
    String.intercalate "RETURNING" (groups.map fun runs => .ofList runs.flatten) =
      .ofList ([returningWord].intercalate groups).flatten := by
  have hw : "RETURNING".toList = id returningWord := toList_returning
  simpa only [List.flatMap_id] using intercalate_map_flatMap hw groups

theorem intercalate_keywordParts (sql : String) :
    String.intercalate "RETURNING" (keywordParts sql) = sql := by
  rw [keywordParts, intercalate_map_flatten, List.intercalate_splitOn, flatten_wordRuns,
    String.ofList_toList]

/-- No group between the keywords holds one. -/
theorem notMem_of_mem_splitOn {run : List Char} {runs group : List (List Char)}
    (h : group ∈ runs.splitOn run) : run ∉ group := by
  induction runs generalizing group with
  | nil => simp_all
  | cons first rest ih =>
    rw [List.splitOn_cons_eq_if_modifyHead] at h
    split at h
    · rcases List.mem_cons.mp h with rfl | h
      · exact List.not_mem_nil
      · exact ih h
    · next hf =>
      obtain ⟨head, tail, ht⟩ := List.exists_cons_of_ne_nil (List.splitOn_ne_nil run rest)
      rw [ht, List.modifyHead_cons] at h
      rw [ht] at ih
      rcases List.mem_cons.mp h with rfl | h
      · rw [List.mem_cons, not_or]
        exact ⟨fun he => hf (beq_iff_eq.mpr he.symm), ih (.head _)⟩
      · exact ih (.tail _ h)

/-- The rewriting joins the parts with the other word. -/
theorem thenReturn_eq_intercalate (sql : String) :
    thenReturn sql = String.intercalate "THEN RETURN" (keywordParts sql) := by
  have hparts : keywordParts sql = ((wordRuns sql.toList).splitOn returningWord).map fun runs =>
      .ofList (runs.flatMap thenReturnRun) := by
    refine List.map_congr_left fun group hm => ?_
    have hg : ∀ run ∈ group, thenReturnRun run = id run := by
      intro run hr
      apply if_neg
      rintro rfl
      exact notMem_of_mem_splitOn hm hr
    rw [List.flatMap_def, List.map_congr_left hg, List.map_id]
  have hw : "THEN RETURN".toList = thenReturnRun returningWord := (if_pos rfl).symm
  rw [hparts, intercalate_map_flatMap hw, List.intercalate_splitOn, thenReturn_eq]

/-- An occurrence cuts the parts in two. -/
theorem keywordParts_of_keywordBetween {sql before after : String}
    (h : KeywordBetween sql before after) :
    keywordParts sql = keywordParts before ++ keywordParts after := by
  rw [keywordParts, wordRuns_of_keywordBetween h, List.splitOn_append_cons_self, List.map_append]
  rfl

private theorem intercalate_append {run : List Char} {left right : List (List (List Char))}
    (hl : left ≠ []) (hr : right ≠ []) :
    [run].intercalate (left ++ right) = [run].intercalate left ++ run :: [run].intercalate right := by
  induction left with
  | nil => exact absurd rfl hl
  | cons group rest ih =>
    cases rest with
    | nil => simp [List.intercalate_cons_of_ne_nil hr]
    | cons next rest =>
      have hi := ih (List.cons_ne_nil next rest)
      simp only [List.cons_append] at hi ⊢
      simp only [List.intercalate_cons_cons, hi, List.append_assoc]

/-- Between any two parts the keyword occurs. -/
theorem keywordBetween_of_keywordParts {sql : String} {left right : List String} (hl : left ≠ [])
    (hr : right ≠ []) (h : left ++ right = keywordParts sql) :
    KeywordBetween sql (String.intercalate "RETURNING" left)
      (String.intercalate "RETURNING" right) := by
  obtain ⟨before, after, hg, rfl, rfl⟩ := List.map_eq_append_iff.mp h.symm
  have hs : [returningWord].intercalate ((wordRuns sql.toList).splitOn returningWord) =
      wordRuns sql.toList := List.intercalate_splitOn returningWord
  rw [hg, intercalate_append (by simpa using hl) (by simpa using hr)] at hs
  rw [intercalate_map_flatten, intercalate_map_flatten]
  exact keywordBetween_of_wordRuns hs.symm

/-- The occurrences of the keyword are the joints between the parts of the text. -/
theorem keywordBetween_iff {sql before after : String} :
    KeywordBetween sql before after ↔
      ∃ left right, left ≠ [] ∧ right ≠ [] ∧ left ++ right = keywordParts sql ∧
        before = String.intercalate "RETURNING" left ∧
        after = String.intercalate "RETURNING" right := by
  constructor
  · intro h
    exact ⟨keywordParts before, keywordParts after, keywordParts_ne_nil before,
      keywordParts_ne_nil after, (keywordParts_of_keywordBetween h).symm,
      (intercalate_keywordParts before).symm, (intercalate_keywordParts after).symm⟩
  · rintro ⟨left, right, hl, hr, h, rfl, rfl⟩
    exact keywordBetween_of_keywordParts hl hr h

theorem not_keywordBetween_iff (sql : String) :
    hasReturning sql = false ↔ ∀ before after, ¬ KeywordBetween sql before after := by
  rw [← Bool.not_eq_true, hasReturning_iff_exists_keywordBetween]
  simp only [not_exists]

theorem thenReturn_thenReturn (sql : String) : thenReturn (thenReturn sql) = thenReturn sql :=
  (thenReturn_eq_self_iff (thenReturn sql)).mpr (hasReturning_thenReturn sql)

theorem hasReturning_of_not_infix {sql : String} (h : ¬ returningWord <:+: sql.toList) :
    hasReturning sql = false := by
  rw [not_keywordBetween_iff]
  intro before after hb
  apply h
  rw [hb.text_eq]
  simp only [String.toList_append, toList_returning]
  exact List.infix_append _ _ _

/-- The text is made of parts, and the keyword occurs exactly where they join. Rewritten, the same parts are
joined with the other word, so nothing else changes. A text stays untouched exactly if the keyword does
not occur, and then it may still be a part of longer words; without it as a part of the text there is
nothing to look for. A rewritten text is not rewritten again, and texts that do not join in a word are
rewritten one by one. -/
theorem thenReturn_replaces_occurrences (sql : String) :
    (∃ parts, sql = String.intercalate "RETURNING" parts ∧
        thenReturn sql = String.intercalate "THEN RETURN" parts ∧
        ∀ before after, KeywordBetween sql before after ↔
          ∃ left right, left ≠ [] ∧ right ≠ [] ∧ left ++ right = parts ∧
            before = String.intercalate "RETURNING" left ∧
            after = String.intercalate "RETURNING" right) ∧
      (hasReturning sql = false ↔ ∀ before after, ¬ KeywordBetween sql before after) ∧
      (hasReturning sql = false ↔ thenReturn sql = sql) ∧
      (¬ returningWord <:+: sql.toList → hasReturning sql = false) ∧
      (∀ before after, ¬ KeywordBetween (thenReturn sql) before after) ∧
      thenReturn (thenReturn sql) = thenReturn sql ∧
      ∀ rest, Apart sql.toList rest.toList →
        thenReturn (sql ++ rest) = thenReturn sql ++ thenReturn rest := by
  refine ⟨⟨keywordParts sql, ?parts⟩, not_keywordBetween_iff sql, (thenReturn_eq_self_iff sql).symm,
    hasReturning_of_not_infix, ?none, thenReturn_thenReturn sql, fun rest h => thenReturn_append h⟩
  case parts =>
    exact ⟨(intercalate_keywordParts sql).symm, thenReturn_eq_intercalate sql,
      fun before after => keywordBetween_iff⟩
  case none =>
    exact (not_keywordBetween_iff _).mp (hasReturning_thenReturn sql)

/-- A keyword at the end of a text is rewritten whatever comes behind a comma, where an underscore makes
it a part of another word. -/
theorem thenReturn_replaces_occurrences_at_end :
    let sql := "é RETURNING"
    let rest := ",_RETURNING"
    Apart sql.toList rest.toList ∧ hasReturning rest = false ∧
      thenReturn (sql ++ rest) = "é THEN RETURN,_RETURNING" := by
  intro sql rest
  have ha : Apart sql.toList rest.toList := .inr (by decide)
  have hn : hasReturning rest = false := by
    rw [hasReturning_eq]
    decide
  obtain ⟨-, -, hr, -⟩ := thenReturn_replaces_occurrences rest
  obtain ⟨-, -, -, -, -, -, happend⟩ := thenReturn_replaces_occurrences sql
  refine ⟨ha, hn, ?_⟩
  rw [happend rest ha, hr.mp hn, thenReturn_eq]
  decide

end GoogleSql

end BoundSql
