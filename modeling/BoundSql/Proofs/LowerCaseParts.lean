import BoundSql.Proofs.TypeNames

/-!
# Lower case of parts of a text

The case rules look past a character only while they ignore it, and no further than to the next cased
letter. At a character that is neither of them, such as a blank or a bracket, a text can be cut: both
parts have the lower case that they have by themselves. So it makes no difference whether blanks are
trimmed before or after, and what is seen of brackets in the lower case is there in the text.
-/

namespace BoundSql.Text

/-- A character at which the case rules stop. -/
def isBreak (c : Char) : Bool :=
  !isCased c && !isCaseIgnorable c

section Break

variable {c : Char} (hc : isBreak c = true)

include hc

private theorem not_cased_of_isBreak : isCased c = false ∧ isCaseIgnorable c = false := by
  simpa [isBreak] using hc

private theorem continuesWord_cons_of_isBreak (rest : List Char) :
    continuesWord (c :: rest) = false := by
  obtain ⟨hcased, hignorable⟩ := not_cased_of_isBreak hc
  rw [continuesWord, List.dropWhile_cons_of_neg (by simp [hignorable])]
  exact hcased

private theorem continuesWord_append_of_isBreak (text rest : List Char) :
    continuesWord (text ++ c :: rest) = continuesWord text := by
  induction text with
  | nil => exact continuesWord_cons_of_isBreak hc rest
  | cons d text ih =>
    rw [continuesWord] at ih ⊢
    by_cases hd : isCaseIgnorable d = true
    · rw [List.cons_append, List.dropWhile_cons_of_pos hd, ih, continuesWord,
        continuesWord, List.dropWhile_cons_of_pos hd]
    · rw [List.cons_append, List.dropWhile_cons_of_neg hd, continuesWord,
        List.dropWhile_cons_of_neg hd]

private theorem lowerCaseAfter_append_of_isBreak (near far text : List Char) :
    lowerCaseAfter (near ++ c :: far) text = lowerCaseAfter near text := by
  induction text generalizing near with
  | nil => rfl
  | cons d text ih =>
    have hn : lowerCaseAfter (d :: (near ++ c :: far)) text = lowerCaseAfter (d :: near) text :=
      ih (d :: near)
    rw [lowerCaseAfter, lowerCaseAfter, continuesWord_append_of_isBreak hc, hn]

private theorem lowerCaseAfter_cut (before front back : List Char) :
    lowerCaseAfter before (front ++ c :: back) =
      lowerCaseAfter before front ++ (lowerChar c ++ lowerCase back) := by
  induction front generalizing before with
  | nil =>
    have hs : (c == 'Σ') = false := by
      apply beq_eq_false_iff_ne.mpr
      rintro rfl
      exact absurd hc (by decide)
    have hb : lowerCaseAfter (c :: before) back = lowerCase back :=
      lowerCaseAfter_append_of_isBreak hc [] before back
    rw [List.nil_append, lowerCaseAfter, lowerCaseAfter, hb, hs]
    rfl
  | cons d front ih =>
    rw [List.cons_append, lowerCaseAfter, lowerCaseAfter, continuesWord_append_of_isBreak hc, ih,
      List.append_assoc]

/-- A text is put in lower case on both sides of a break by itself. -/
theorem lowerCase_cut (front back : List Char) :
    lowerCase (front ++ c :: back) = lowerCase front ++ (lowerChar c ++ lowerCase back) :=
  lowerCaseAfter_cut hc [] front back

end Break

private theorem blankRanges_break : ∀ range ∈ blankRanges, ∀ offset ≤ range.2 - range.1,
    casedRanges.covers (range.1 + offset) = false ∧
      caseIgnorableRanges.covers (range.1 + offset) = false := by
  decide +kernel

theorem isBreak_of_isBlank {c : Char} (h : isBlank c = true) : isBreak c = true := by
  obtain ⟨range, hm, hf, hl⟩ := exists_range_of_covers h
  have hr := blankRanges_break range hm (c.toNat - range.1) (by omega)
  rw [Nat.add_sub_cancel' hf] at hr
  simp [isBreak, isCased, isCaseIgnorable, hr]

private theorem lowerCase_of_blank {text : List Char} (h : ∀ c ∈ text, isBlank c = true) :
    lowerCase text = text :=
  lowerCaseAfter_of_lowerChar fun c hc => lowerChar_of_isBlank (h c hc)

/-- Blanks around a text do not change and do not change it. -/
theorem lowerCase_between {before core after : List Char} (hb : ∀ c ∈ before, isBlank c = true)
    (ha : ∀ c ∈ after, isBlank c = true) :
    lowerCase (before ++ core ++ after) = before ++ lowerCase core ++ after := by
  have hfront : lowerCase (before ++ core) = before ++ lowerCase core := by
    induction before with
    | nil => rfl
    | cons c before ih =>
      have hc : isBlank c = true := hb c (.head _)
      have hcut := lowerCase_cut (isBreak_of_isBlank hc) [] (before ++ core)
      rw [ih fun d hd => hb d (.tail _ hd), lowerChar_of_isBlank hc] at hcut
      exact hcut
  cases after with
  | nil => simp [hfront]
  | cons c after =>
    have hc : isBlank c = true := ha c (.head _)
    have hafter : lowerCase after = after := lowerCase_of_blank fun d hd => ha d (.tail _ hd)
    rw [lowerCase_cut (isBreak_of_isBlank hc), hfront, hafter, lowerChar_of_isBlank hc]
    rfl

/-- Blanks are the lower case of blanks only. -/
theorem isBlank_of_mem_lowerChar {c d : Char} (h : d ∈ lowerChar c) : isBlank d = isBlank c := by
  by_cases hi : c = 'İ'
  · subst hi
    have hd : d = 'i' ∨ d = '\u0307' := by simpa [lowerChar] using h
    rcases hd with rfl | rfl <;> decide
  · by_cases hp : isPlain c = true
    · rw [lowerChar_of_isPlain hp, List.mem_singleton] at h
      rw [h, isBlank_toLower]
    · have hc : isBlank c = false := by
        rw [isPlain, Bool.or_eq_true, not_or] at hp
        simpa using hp.2
      rw [hc, ← Bool.not_eq_true]
      intro hd
      apply hp
      apply isPlain_of_lowerChar
      intro e he
      rw [lowerChar_of_ne hi, List.mem_singleton] at h he
      rw [he, ← h]
      exact isNameChar_of_isBlank hd

/-- What a character becomes in a text: its own lower case, or the final form of a sigma. -/
def LowersTo (c : Char) (piece : List Char) : Prop :=
  piece = lowerChar c ∨ c = 'Σ' ∧ piece = ['ς']

namespace LowersTo

variable {c d : Char} {piece : List Char} (h : LowersTo c piece)

include h

theorem ne_nil : piece ≠ [] := by
  rcases h with rfl | ⟨-, rfl⟩
  · unfold lowerChar
    split <;> simp
  · simp

private theorem isBlank_eq (hd : d ∈ piece) : isBlank d = isBlank c := by
  rcases h with rfl | ⟨rfl, rfl⟩
  · exact isBlank_of_mem_lowerChar hd
  · rw [List.mem_singleton.mp hd]
    decide

/-- Of characters in type names other than `i`, only ASCII letters in the other case become one. -/
theorem eq_singleton (hm : d ∈ piece) (hd : isNameChar d = true) (hi : d ≠ 'i') :
    piece = [d] ∧ c.toLower = d := by
  rcases h with rfl | ⟨-, rfl⟩
  · by_cases hc : c = 'İ'
    · subst hc
      have he : d = 'i' ∨ d = '\u0307' := by simpa [lowerChar] using hm
      rcases he with he | rfl
      · exact absurd he hi
      · exact absurd hd (by decide)
    · have hs := lowerChar_of_ne hc
      rw [hs, List.mem_singleton] at hm
      rw [← hm] at hs
      have hp : isPlain c = true := by
        apply isPlain_of_lowerChar
        intro e he
        rw [hs, List.mem_singleton] at he
        rwa [he]
      rw [lowerChar_of_isPlain hp] at hs ⊢
      exact ⟨hs, List.singleton_inj.mp hs⟩
  · rw [List.mem_singleton.mp hm] at hd
    exact absurd hd (by decide)

end LowersTo

theorem exists_first_piece (before : List Char) (c : Char) (rest : List Char) :
    ∃ piece, LowersTo c piece ∧
      lowerCaseAfter before (c :: rest) = piece ++ lowerCaseAfter (c :: before) rest := by
  rw [lowerCaseAfter]
  split
  · next hs =>
    have hc : c = 'Σ' := by
      rw [Bool.and_assoc, Bool.and_eq_true, beq_iff_eq] at hs
      exact hs.1
    exact ⟨_, .inr ⟨hc, rfl⟩, rfl⟩
  · exact ⟨_, .inl rfl, rfl⟩

theorem exists_last_piece (before text : List Char) (c : Char) :
    ∃ front piece, LowersTo c piece ∧ lowerCaseAfter before (text ++ [c]) = front ++ piece := by
  induction text generalizing before with
  | nil =>
    obtain ⟨piece, hp, he⟩ := exists_first_piece before c []
    exact ⟨[], piece, hp, by rw [List.nil_append, he, lowerCaseAfter, List.append_nil, List.nil_append]⟩
  | cons d text ih =>
    obtain ⟨first, -, he⟩ := exists_first_piece before d (text ++ [c])
    obtain ⟨front, piece, hp, hl⟩ := ih (d :: before)
    exact ⟨first ++ front, piece, hp, by rw [List.cons_append, he, hl, List.append_assoc]⟩

/-- Characters of type names at the front of the lower case are there in the text, in either case. -/
theorem exists_front_of_lowerCaseAfter {before text front rest : List Char}
    (hn : ∀ d ∈ front, isNameChar d = true) (hi : 'i' ∉ front)
    (h : lowerCaseAfter before text = front ++ rest) :
    ∃ opening tail, text = opening ++ tail ∧ opening.map Char.toLower = front := by
  induction front generalizing before text with
  | nil => exact ⟨[], text, rfl, rfl⟩
  | cons d front ih =>
    cases text with
    | nil => cases h
    | cons c text =>
      obtain ⟨hd, hfront⟩ := List.forall_mem_cons.mp hn
      obtain ⟨hne, hrest⟩ := List.ne_and_not_mem_of_not_mem_cons hi
      obtain ⟨piece, hp, he⟩ := exists_first_piece before c text
      rw [he] at h
      obtain ⟨e, piece, rfl⟩ := List.exists_cons_of_ne_nil hp.ne_nil
      obtain ⟨rfl, ht⟩ := List.cons.inj h
      obtain ⟨hs, hc⟩ := hp.eq_singleton (.head _) hd hne.symm
      obtain ⟨-, rfl⟩ := List.cons.inj hs
      obtain ⟨opening, tail, rfl, hm⟩ := ih hfront hrest ht
      exact ⟨c :: opening, tail, rfl, by rw [List.map_cons, hc, hm]⟩

private theorem head?_dropWhile_any_isBlank (text : List Char) :
    (text.dropWhile isBlank).head?.any isBlank = false := by
  have hn := List.head?_dropWhile_not isBlank text
  cases hh : (text.dropWhile isBlank).head? with
  | none => rfl
  | some c => simpa [hh] using hn

theorem tight_trim (text : List Char) : Tight (trim text) := by
  let rest := text.dropWhile isBlank
  constructor
  · -- the second trimming takes off the end only, and not all of a text that starts with no blank
    rw [trim, List.head?_reverse]
    cases hr : rest.reverse.dropWhile isBlank with
    | nil => rfl
    | cons c more =>
      have hl : (c :: more).getLast? = rest.head? := by
        have hs := List.takeWhile_append_dropWhile (p := isBlank) (l := rest.reverse)
        rw [← List.getLast?_reverse, ← hs, hr, List.getLast?_append, List.getLast?_cons, Option.some_or]
      rw [hl]
      exact head?_dropWhile_any_isBlank text
  · rw [trim, List.getLast?_reverse]
    exact head?_dropWhile_any_isBlank rest.reverse

private theorem head?_lowerCase_any_isBlank (text : List Char) :
    (lowerCase text).head?.any isBlank = text.head?.any isBlank := by
  cases text with
  | nil => rfl
  | cons c rest =>
    obtain ⟨piece, hp, he⟩ := exists_first_piece [] c rest
    obtain ⟨d, more, rfl⟩ := List.exists_cons_of_ne_nil hp.ne_nil
    rw [lowerCase, he]
    exact hp.isBlank_eq (.head _)

private theorem getLast?_lowerCase_any_isBlank (text : List Char) :
    (lowerCase text).getLast?.any isBlank = text.getLast?.any isBlank := by
  rcases List.eq_nil_or_concat text with rfl | ⟨init, last, rfl⟩
  · rfl
  · obtain ⟨front, piece, hp, he⟩ := exists_last_piece [] init last
    rcases List.eq_nil_or_concat piece with rfl | ⟨more, d, rfl⟩
    · exact absurd rfl hp.ne_nil
    · rw [List.concat_eq_append] at he hp ⊢
      rw [lowerCase, he, ← List.append_assoc, List.getLast?_concat, List.getLast?_concat]
      exact hp.isBlank_eq (by simp)

theorem tight_lowerCase_iff (text : List Char) : Tight (lowerCase text) ↔ Tight text := by
  rw [Tight, head?_lowerCase_any_isBlank, getLast?_lowerCase_any_isBlank, ← Tight]

/-- A text can be trimmed before or after it is put in lower case. -/
theorem trim_lowerCase (text : List Char) : trim (lowerCase text) = lowerCase (trim text) := by
  obtain ⟨before, after, ht, hb, ha⟩ := exists_blanks_around_trim text
  by_cases hn : trim text = []
  · have hblank : ∀ c ∈ text, isBlank c = true := by
      rw [ht, hn]
      simp only [List.append_nil, List.forall_mem_append]
      exact ⟨hb, ha⟩
    rw [lowerCase_of_blank hblank, hn]
    rfl
  · have hne : lowerCase (trim text) ≠ [] := by
      obtain ⟨c, rest, hc⟩ := List.exists_cons_of_ne_nil hn
      obtain ⟨piece, hp, he⟩ := exists_first_piece [] c rest
      rw [hc, lowerCase, he]
      exact List.append_ne_nil_of_left_ne_nil hp.ne_nil _
    have hl : lowerCase text = before ++ lowerCase (trim text) ++ after := by
      rw [← lowerCase_between hb ha, ← ht]
    rw [hl]
    exact trim_between hb ha hne ((tight_lowerCase_iff _).mpr (tight_trim text))

end BoundSql.Text
