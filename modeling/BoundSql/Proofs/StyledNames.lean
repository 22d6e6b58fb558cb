import Mathlib.Data.List.Infix
import BoundSql.Proofs.StyleRoundTrips

/-!
# Styled names

A name in snake case has no capitals, and it is the name in small letters but for underscores. They come
in only in front of a letter, and neither at the beginning of a name nor behind an underscore or a dot.
In camel case there is an underscore at the beginning of a name at most. Both styles leave a name alone
that has this form, so a name that is styled twice is styled once.
-/

namespace BoundSql.Text

private theorem toUpper_ne_underscore {c : Char} (h : c ≠ '_') : c.toUpper ≠ '_' := by
  cases hl : c.isLower with
  | false => rwa [toUpper_eq_self hl]
  | true =>
    intro he
    have hu := (capital_form_of_isLower hl).1
    rw [he] at hu
    cases hu

private theorem IsSeparator.ne_of_isAlphanum {separator c : Char} (h : IsSeparator separator)
    (hc : c.isAlphanum = true) : separator ≠ c := by
  obtain ⟨hdot, hunderscore⟩ := ne_separator_of_isAlphanum hc
  rcases h with rfl | rfl
  · exact hdot.symm
  · exact hunderscore.symm

private theorem snakeCaseAfter_cons_of_not_upper {c : Char} (h : c.isUpper = false)
    (before : Option Char) (rest : List Char) :
    snakeCaseAfter before (c :: rest) = c :: snakeCaseAfter (some c) rest := by
  simp [snakeCaseAfter, h]

private theorem snakeCaseAfter_cons_of_upper {c : Char} (h : c.isUpper = true) (before : Option Char)
    (rest : List Char) :
    snakeCaseAfter before (c :: rest) =
      (if opensWord before rest.head? then ['_'] else []) ++
        c.toLower :: snakeCaseAfter (some c) rest := by
  rw [snakeCaseAfter, if_pos h]
  split <;> rfl

private theorem isUpper_eq_false_of_mem_snakeCaseAfter {before : Option Char} {text : List Char} :
    ∀ c ∈ snakeCaseAfter before text, c.isUpper = false := by
  induction text generalizing before with
  | nil => simp [snakeCaseAfter]
  | cons d rest ih =>
    intro c hm
    cases hd : d.isUpper with
    | false =>
      rw [snakeCaseAfter_cons_of_not_upper hd] at hm
      rcases List.mem_cons.mp hm with rfl | hm
      · exact hd
      · exact ih c hm
    | true =>
      rw [snakeCaseAfter_cons_of_upper hd] at hm
      rcases List.mem_append.mp hm with hm | hm
      · split at hm
        · rw [List.mem_singleton.mp hm]
          rfl
        · cases hm
      · rcases List.mem_cons.mp hm with rfl | hm
        · exact isUpper_eq_false_of_isLower (small_form_of_isUpper hd).1
        · exact ih c hm

private theorem filter_snakeCaseAfter (before : Option Char) (text : List Char) :
    (snakeCaseAfter before text).filter (· ≠ '_') = (text.map Char.toLower).filter (· ≠ '_') := by
  induction text generalizing before with
  | nil => rfl
  | cons c rest ih =>
    cases hc : c.isUpper with
    | false =>
      rw [snakeCaseAfter_cons_of_not_upper hc, List.map_cons, toLower_eq_self hc,
        List.filter_cons, List.filter_cons, ih]
    | true =>
      rw [snakeCaseAfter_cons_of_upper hc, List.filter_append, List.map_cons, List.filter_cons,
        List.filter_cons, ih]
      split <;> rfl

/-- Snake case leaves a name alone exactly if it has no capitals. -/
theorem snakeCase_eq_self_iff (name : String) :
    snakeCase name = name ↔ ∀ c ∈ name.toList, c.isUpper = false := by
  rw [← String.toList_inj, toList_snakeCase]
  constructor
  · intro h
    rw [← h]
    exact isUpper_eq_false_of_mem_snakeCaseAfter
  · intro h
    simpa [snakeCaseAfter] using snakeCaseAfter_append_of_not_upper h none []

private theorem underscore_mem_head?_snakeCaseAfter (text : List Char) :
    '_' ∈ (snakeCaseAfter none text).head? ↔ '_' ∈ text.head? := by
  cases text with
  | nil => rfl
  | cons c rest =>
    cases hc : c.isUpper with
    | false => rw [snakeCaseAfter_cons_of_not_upper hc, List.head?_cons, List.head?_cons]
    | true =>
      have hne : c ≠ '_' := by
        rintro rfl
        cases hc
      simp [snakeCaseAfter_cons_of_upper hc, opensWord, hne, toLower_ne_underscore hc]

private theorem pair_prefix_cons_iff {a b c : Char} {rest : List Char} :
    [a, b] <+: c :: rest ↔ a = c ∧ b ∈ rest.head? := by
  rw [List.cons_prefix_cons]
  cases rest <;> simp [eq_comm]

/-- An underscore stands behind a separator exactly if it stood there before. -/
theorem IsSeparator.infix_snakeCaseAfter_iff {separator : Char} (h : IsSeparator separator)
    (before : Option Char) (text : List Char) :
    [separator, '_'] <:+: snakeCaseAfter before text ↔ [separator, '_'] <:+: text := by
  induction text generalizing before with
  | nil => rfl
  | cons c rest ih =>
    rw [@List.infix_cons_iff _ _ c rest, pair_prefix_cons_iff]
    cases hc : c.isUpper with
    | false =>
      rw [snakeCaseAfter_cons_of_not_upper hc, List.infix_cons_iff, pair_prefix_cons_iff, ih]
      refine or_congr_left (and_congr_right ?_)
      rintro rfl
      rw [h.snakeCaseAfter_behind, underscore_mem_head?_snakeCaseAfter]
    | true =>
      -- No separator is a letter, so the letter comes neither first nor second in a pair.
      have hcapital : separator ≠ c := h.ne_of_isAlphanum (isAlphanum_of_isUpper hc)
      have hsmall : separator ≠ c.toLower :=
        h.ne_of_isAlphanum (IsSmall.isAlphanum (.inl (small_form_of_isUpper hc).1))
      have hsecond : c.toLower ≠ '_' := toLower_ne_underscore hc
      rw [snakeCaseAfter_cons_of_upper hc]
      split <;> simp [List.infix_cons_iff, hcapital, hsmall, hsecond.symm, ih]

private theorem underscore_notMem_camelCaseTail (raised : Bool) (text : List Char) :
    '_' ∉ camelCaseTail raised text := by
  induction text generalizing raised with
  | nil => simp [camelCaseTail]
  | cons c rest ih =>
    rw [camelCaseTail]
    split
    · exact ih true
    · next hc =>
      rw [List.mem_cons, not_or]
      refine ⟨?_, ih false⟩
      split
      · exact (toUpper_ne_underscore hc).symm
      · exact Ne.symm hc

private theorem underscore_notMem_tail_camelCase (name : String) :
    '_' ∉ (camelCase name).toList.tail := by
  rw [toList_camelCase]
  cases name.toList with
  | nil => exact List.not_mem_nil
  | cons c rest => exact underscore_notMem_camelCaseTail false rest

/-- Camel case leaves a name alone exactly if it has no underscore behind its first character. -/
theorem camelCase_eq_self_iff (name : String) :
    camelCase name = name ↔ '_' ∉ name.toList.tail := by
  constructor
  · intro h
    rw [← h]
    exact underscore_notMem_tail_camelCase name
  · intro h
    rw [← String.toList_inj, toList_camelCase]
    cases ht : name.toList with
    | nil => rfl
    | cons c rest =>
      rw [ht] at h
      simpa [camelCaseOf, camelCaseTail] using camelCaseTail_append h []

/-- A name in snake case has no capitals and but for underscores it is the name in small letters. It
begins with an underscore, and has one behind another one or behind a dot, exactly if the name does. In
camel case there is an underscore at the beginning at most. Both styles leave a styled name as it
is. -/
theorem styled_normal_form (name : String) :
    (∀ c ∈ (snakeCase name).toList, c.isUpper = false) ∧
      (snakeCase name).toList.filter (· ≠ '_') = name.toLower.toList.filter (· ≠ '_') ∧
      ('_' ∈ (snakeCase name).toList.head? ↔ '_' ∈ name.toList.head?) ∧
      ("__".toList <:+: (snakeCase name).toList ↔ "__".toList <:+: name.toList) ∧
      ("._".toList <:+: (snakeCase name).toList ↔ "._".toList <:+: name.toList) ∧
      snakeCase (snakeCase name) = snakeCase name ∧
      camelCase (camelCase name) = camelCase name ∧
      '_' ∉ (camelCase name).toList.tail := by
  have hsmall : ∀ c ∈ (snakeCase name).toList, c.isUpper = false := by
    rw [toList_snakeCase]
    exact isUpper_eq_false_of_mem_snakeCaseAfter
  have hcamel := underscore_notMem_tail_camelCase name
  refine ⟨hsmall, ?_, ?_, ?_, ?_, ?_, ?_, hcamel⟩
  · rw [toList_snakeCase, filter_snakeCaseAfter, ← String.toList_map]
    rfl
  · rw [toList_snakeCase, underscore_mem_head?_snakeCaseAfter]
  · rw [toList_snakeCase]
    exact IsSeparator.infix_snakeCaseAfter_iff (.inr rfl) none name.toList
  · rw [toList_snakeCase]
    exact IsSeparator.infix_snakeCaseAfter_iff (.inl rfl) none name.toList
  · exact (snakeCase_eq_self_iff _).mpr hsmall
  · exact (camelCase_eq_self_iff _).mpr hcamel

/-- A private part behind a dot keeps its underscore in snake case, and an acronym gets none inside. -/
theorem styled_normal_form_private_part :
    let name := "_HTTPStatus._idÄX"
    snakeCase name = "_http_status._idÄ_x" ∧ 'x' ∈ (snakeCase name).toList ∧ Char.isUpper 'x' = false ∧
      "._".toList <:+: (snakeCase name).toList ∧ ¬ "__".toList <:+: (snakeCase name).toList := by
  intro name
  obtain ⟨hsmall, -, -, hdouble, hdot, -⟩ := styled_normal_form name
  exact ⟨by decide, by decide, hsmall 'x' (by decide), hdot.mpr (by decide), mt hdouble.mp (by decide)⟩

end BoundSql.Text
