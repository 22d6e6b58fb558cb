import BoundSql.Text.Characters
import BoundSql.Text.LowerCase

/-!
# Lower case of names

A text in lower case never changes again, nor does any part of it. Of all characters only ASCII
capitals and the Kelvin sign have an ASCII lower case, and none has a blank. So a text whose lower case
is made of blanks and of ASCII without `k` was made of blanks and ASCII, and there lower case is that of
ASCII, character by character, whatever stands around.
-/

namespace BoundSql.Text

/-- A code that has a lower case stands in a row. -/
theorem exists_row_of_lowerCaseShift_ne_zero {code : Nat} {rows : List (Nat × Nat × Nat × Int)}
    (h : lowerCaseShift code rows ≠ 0) :
    ∃ first last stride, (first, last, stride, lowerCaseShift code rows) ∈ rows ∧
      first ≤ code ∧ code ≤ last ∧ (code - first) % stride = 0 := by
  induction rows with
  | nil => exact absurd rfl h
  | cons row rest ih =>
    obtain ⟨first, last, stride, shift⟩ := row
    rw [lowerCaseShift] at h ⊢
    by_cases hf : code < first
    · simp [hf] at h
    · by_cases hl : code ≤ last
      · by_cases hs : (code - first) % stride = 0
        · simp only [hf, hl, hs, if_true, if_false]
          exact ⟨first, last, stride, .head _, Nat.le_of_not_lt hf, hl, hs⟩
        · simp [hf, hl, hs] at h
      · simp only [hf, hl, if_false] at h ⊢
        obtain ⟨f, l, s, hm, hr⟩ := ih h
        exact ⟨f, l, s, .tail _ hm, hr⟩

/-- Whether the codes from `low` up to `high` in steps of `stride` have no lower case: rows stand beside
them, or hold every second code and miss them. -/
def spares (low high stride : Nat) : List (Nat × Nat × Nat × Int) → Bool
  | [] => true
  | (first, last, step, _) :: rest =>
    if last < low then spares low high stride rest
    else
      high < first ||
        step == 2 && (stride == 2 || low == high) && low % 2 != first % 2 && spares low high stride rest

private theorem lowerCaseShift_of_spares {low high stride : Nat} {rows : List (Nat × Nat × Nat × Int)}
    (h : spares low high stride rows = true) {code : Nat} (hl : low ≤ code) (hh : code ≤ high)
    (hs : (code - low) % stride = 0) : lowerCaseShift code rows = 0 := by
  induction rows with
  | nil => rfl
  | cons row rest ih =>
    obtain ⟨first, last, step, shift⟩ := row
    rw [spares] at h
    rw [lowerCaseShift]
    by_cases hlow : last < low
    · rw [if_pos hlow] at h
      have hlast : ¬ code ≤ last := by omega
      simp only [hlast, if_false, ih h, ite_self]
    · simp only [hlow, if_false, Bool.or_eq_true, decide_eq_true_eq, Bool.and_eq_true, beq_iff_eq,
        bne_iff_ne] at h
      rcases h with hb | ⟨⟨⟨rfl, hp⟩, hm⟩, hr⟩
      · rw [if_pos (by omega)]
      · have hodd : first ≤ code → (code - first) % 2 ≠ 0 := by
          intro hf
          rcases hp with rfl | rfl <;> omega
        by_cases hf : code < first
        · rw [if_pos hf]
        · simp only [hf, hodd (Nat.le_of_not_lt hf), if_false, ih hr, ite_self]

private theorem lowerCaseRows_spared : ∀ row ∈ lowerCaseRows, 0 ≤ row.1 + row.2.2.2 ∧
    spares (row.1 + row.2.2.2).toNat (row.2.1 + row.2.2.2).toNat row.2.2.1 lowerCaseRows = true := by
  decide +kernel

/-- A code that was shifted stays where it is. -/
theorem lowerCaseShift_shifted (code : Nat) :
    lowerCaseShift (code + lowerCaseShift code lowerCaseRows).toNat lowerCaseRows = 0 := by
  by_cases h : lowerCaseShift code lowerCaseRows = 0
  · rw [h, Int.add_zero, Int.toNat_natCast, h]
  · obtain ⟨first, last, stride, hm, hf, hl, hs⟩ := exists_row_of_lowerCaseShift_ne_zero h
    obtain ⟨hz, hr⟩ := lowerCaseRows_spared _ hm
    have hd : (code + lowerCaseShift code lowerCaseRows).toNat -
        (first + lowerCaseShift code lowerCaseRows).toNat = code - first := by
      simp only at hz
      omega
    apply lowerCaseShift_of_spares hr
    · simp only
      omega
    · simp only
      omega
    · rw [hd]
      exact hs

theorem lowerChar_of_ne {c : Char} (h : c ≠ 'İ') :
    lowerChar c = [Char.ofNat (c.toNat + lowerCaseShift c.toNat lowerCaseRows).toNat] :=
  if_neg h

private theorem lowerChar_of_shift_eq_zero {c : Char} (hi : c ≠ 'İ')
    (h : lowerCaseShift c.toNat lowerCaseRows = 0) : lowerChar c = [c] := by
  rw [lowerChar_of_ne hi, h, Int.add_zero, Int.toNat_natCast, Char.ofNat_toNat]

private theorem toNat_ofNat_of_isValidChar {n : Nat} (h : n.isValidChar) :
    (Char.ofNat n).toNat = n := by
  rw [Char.ofNat, dif_pos h]
  rfl

private theorem ofNat_of_not_isValidChar {n : Nat} (h : ¬ n.isValidChar) : Char.ofNat n = '\x00' := by
  rw [Char.ofNat, dif_neg h]
  rfl

/-- No row leads to the dotted capital I, whose lower case is not in the table. -/
theorem lowerCaseRows_not_dotted : ∀ row ∈ lowerCaseRows,
    row.2.1 + row.2.2.2 < 0x130 ∨ 0x130 < row.1 + row.2.2.2 ∨
      (0x130 - (row.1 + row.2.2.2)) % row.2.2.1 ≠ 0 := by
  decide +kernel

private theorem add_lowerCaseShift_ne_dotted {code : Nat} (h : code ≠ 0x130) :
    code + lowerCaseShift code lowerCaseRows ≠ 0x130 := by
  by_cases hz : lowerCaseShift code lowerCaseRows = 0
  · rw [hz]
    omega
  · obtain ⟨first, last, stride, hm, hf, hl, hs⟩ := exists_row_of_lowerCaseShift_ne_zero hz
    intro he
    rcases lowerCaseRows_not_dotted _ hm with hr | hr | hr
    · simp only at hr
      omega
    · simp only at hr
      omega
    · apply hr
      have hd : (0x130 - (first + lowerCaseShift code lowerCaseRows) : Int) = (code - first : Nat) := by
        omega
      simp only [hd]
      exact_mod_cast hs

/-- What is in lower case stays as it is. -/
theorem lowerChar_of_mem_lowerChar {c d : Char} (h : d ∈ lowerChar c) : lowerChar d = [d] := by
  by_cases hi : c = 'İ'
  · subst hi
    have hd : d = 'i' ∨ d = '\u0307' := by simpa [lowerChar] using h
    rcases hd with rfl | rfl <;> decide
  · rw [lowerChar_of_ne hi, List.mem_singleton] at h
    subst h
    by_cases hv : (c.toNat + lowerCaseShift c.toNat lowerCaseRows).toNat.isValidChar
    · have hn := toNat_ofNat_of_isValidChar hv
      apply lowerChar_of_shift_eq_zero
      · intro he
        have hc : c.toNat ≠ 0x130 := fun hc => hi (Char.toNat_inj.mp hc)
        have hd := congrArg Char.toNat he
        rw [hn] at hd
        have hs := add_lowerCaseShift_ne_dotted hc
        have ht : (c.toNat + lowerCaseShift c.toNat lowerCaseRows).toNat = 0x130 := hd
        omega
      · rw [hn]
        exact lowerCaseShift_shifted c.toNat
    · rw [ofNat_of_not_isValidChar hv]
      decide

private theorem lowerChar_of_mem_lowerCaseAfter {before text : List Char} {c : Char}
    (h : c ∈ lowerCaseAfter before text) : lowerChar c = [c] := by
  induction text generalizing before with
  | nil => cases h
  | cons d rest ih =>
    rw [lowerCaseAfter] at h
    rcases List.mem_append.mp h with h | h
    · split at h
      · rw [List.mem_singleton.mp h]
        decide
      · exact lowerChar_of_mem_lowerChar h
    · exact ih h

/-- The capital sigma apart, lower case is taken character by character. -/
theorem lowerCaseAfter_eq_map {f : Char → Char} {before text : List Char}
    (hs : ∀ c ∈ text, c ≠ 'Σ') (h : ∀ c ∈ text, lowerChar c = [f c]) :
    lowerCaseAfter before text = text.map f := by
  induction text generalizing before with
  | nil => rfl
  | cons c rest ih =>
    have hc : (c == 'Σ') = false := beq_eq_false_iff_ne.mpr (hs c (.head _))
    rw [lowerCaseAfter, hc, h c (.head _),
      ih (fun d hd => hs d (.tail _ hd)) fun d hd => h d (.tail _ hd)]
    rfl

theorem lowerCaseAfter_of_lowerChar {before text : List Char} (h : ∀ c ∈ text, lowerChar c = [c]) :
    lowerCaseAfter before text = text := by
  have hs : ∀ c ∈ text, c ≠ 'Σ' := by
    rintro c hc rfl
    exact absurd (h _ hc) (by decide)
  simpa using lowerCaseAfter_eq_map (f := id) hs h

/-- Any part of a text in lower case is in lower case by itself. -/
theorem lowerCase_of_subset {text part : List Char} (h : part ⊆ lowerCase text) :
    lowerCase part = part :=
  lowerCaseAfter_of_lowerChar fun _ hc => lowerChar_of_mem_lowerCaseAfter (h hc)

/-- ASCII characters and blanks: all that a type name is made of. -/
def isPlain (c : Char) : Bool :=
  c.toNat < 128 || isBlank c

/-- A plain character that is not the lower case of the Kelvin sign. -/
def isNameChar (c : Char) : Bool :=
  isPlain c && c != 'k'

private theorem isNameChar_iff {c : Char} : isNameChar c = true ↔ isPlain c = true ∧ c ≠ 'k' := by
  simp [isNameChar]

theorem isPlain_of_isNameChar {c : Char} (h : isNameChar c = true) : isPlain c = true :=
  (isNameChar_iff.mp h).1

theorem isPlain_of_isBlank {c : Char} (h : isBlank c = true) : isPlain c = true := by
  simp [isPlain, h]

theorem isNameChar_of_isBlank {c : Char} (h : isBlank c = true) : isNameChar c = true := by
  refine isNameChar_iff.mpr ⟨isPlain_of_isBlank h, ?_⟩
  rintro rfl
  exact absurd h (by decide)

theorem exists_range_of_covers {ranges : CodeRanges} {code : Nat} (h : ranges.covers code = true) :
    ∃ range ∈ ranges, range.1 ≤ code ∧ code ≤ range.2 := by
  induction ranges with
  | nil => cases h
  | cons range rest ih =>
    obtain ⟨first, last⟩ := range
    rw [CodeRanges.covers] at h
    split at h
    · cases h
    · next hf =>
      split at h
      · next hl => exact ⟨_, .head _, Nat.le_of_not_lt hf, hl⟩
      · obtain ⟨range, hm, hr⟩ := ih h
        exact ⟨range, .tail _ hm, hr⟩

private theorem blankRanges_spared :
    ∀ range ∈ blankRanges, spares range.1 range.2 1 lowerCaseRows = true := by
  decide +kernel

theorem lowerChar_of_isBlank {c : Char} (h : isBlank c = true) : lowerChar c = [c] := by
  obtain ⟨range, hm, hf, hl⟩ := exists_range_of_covers h
  apply lowerChar_of_shift_eq_zero
  · rintro rfl
    exact absurd h (by decide)
  · exact lowerCaseShift_of_spares (blankRanges_spared range hm) hf hl (Nat.mod_one _)

theorem toLower_of_le {c : Char} (h : 128 ≤ c.toNat) : c.toLower = c := by
  apply dif_neg
  rintro ⟨-, hz⟩
  have hz : c.toNat ≤ 90 := UInt32.le_iff_toNat_le.mp hz
  omega

private theorem lowerChar_ascii :
    ∀ code < 128, lowerChar (Char.ofNat code) = [(Char.ofNat code).toLower] := by
  decide +kernel

theorem isBlank_toLower (c : Char) : isBlank c.toLower = isBlank c := by
  have ha : ∀ code < 128, isBlank (Char.ofNat code).toLower = isBlank (Char.ofNat code) := by decide
  by_cases hc : c.toNat < 128
  · have hl := ha c.toNat hc
    rwa [Char.ofNat_toNat] at hl
  · rw [toLower_of_le (Nat.le_of_not_lt hc)]

theorem lowerChar_of_isPlain {c : Char} (h : isPlain c = true) : lowerChar c = [c.toLower] := by
  by_cases hc : c.toNat < 128
  · have hl := lowerChar_ascii c.toNat hc
    rwa [Char.ofNat_toNat] at hl
  · have hb : isBlank c = true := by simpa [isPlain, hc] using h
    rw [lowerChar_of_isBlank hb, toLower_of_le (Nat.le_of_not_lt hc)]

/-- Outside ASCII no row but that of the Kelvin sign leads to ASCII, and none leads to a blank. -/
theorem lowerCaseRows_not_plain : ∀ row ∈ lowerCaseRows,
    row.2.1 < 128 ∨ row.1 = 0x212A ∧ row.2.1 = 0x212A ∨
      128 ≤ row.1 + row.2.2.2 ∧
        (row.2.1 + row.2.2.2 < 0xD800 ∨ 0xE000 ≤ row.1 + row.2.2.2 ∧ row.2.1 + row.2.2.2 < 0x110000) ∧
        ∀ range ∈ blankRanges,
          row.2.1 + row.2.2.2 < range.1 ∨ range.2 < row.1 + row.2.2.2 := by
  decide +kernel

/-- The Kelvin sign apart, only plain characters have a plain lower case. -/
theorem isPlain_of_lowerChar {c : Char} (h : ∀ d ∈ lowerChar c, isNameChar d = true) :
    isPlain c = true := by
  by_cases hi : c = 'İ'
  · subst hi
    exact absurd (h '\u0307' (by decide)) (by decide)
  · by_cases hz : lowerCaseShift c.toNat lowerCaseRows = 0
    · exact isPlain_of_isNameChar (h c (by simp [lowerChar_of_shift_eq_zero hi hz]))
    · obtain ⟨first, last, stride, hm, hf, hl, -⟩ := exists_row_of_lowerCaseShift_ne_zero hz
      obtain ⟨hp, hk⟩ := isNameChar_iff.mp
        (h (Char.ofNat (c.toNat + lowerCaseShift c.toNat lowerCaseRows).toNat)
          (by simp [lowerChar_of_ne hi]))
      rcases lowerCaseRows_not_plain _ hm with ha | ⟨hfirst, hlast⟩ | ⟨ha, hv, hb⟩
      · have hc : c.toNat < 128 := Nat.lt_of_le_of_lt hl ha
        simp [isPlain, hc]
      · have hc : c = '\u212A' := by
          apply Char.toNat_inj.mp
          have hv : '\u212A'.toNat = 0x212A := rfl
          simp only at hfirst hlast
          omega
        subst hc
        exact absurd (by decide) hk
      · have hn : (Char.ofNat (c.toNat + lowerCaseShift c.toNat lowerCaseRows).toNat).toNat =
            (c.toNat + lowerCaseShift c.toNat lowerCaseRows).toNat := by
          apply toNat_ofNat_of_isValidChar
          simp only [Nat.isValidChar] at hv ⊢
          omega
        rcases Bool.or_eq_true_iff.mp hp with hd | hd
        · have hd := of_decide_eq_true hd
          rw [hn] at hd
          simp only at ha
          omega
        · obtain ⟨range, hr, hlow, hhigh⟩ := exists_range_of_covers hd
          rw [hn] at hlow hhigh
          have := hb range hr
          simp only at this ha
          omega

/-- The lower case of a plain text is that of ASCII, whatever stands before it. -/
theorem lowerCaseAfter_of_isPlain {before text : List Char} (h : ∀ c ∈ text, isPlain c = true) :
    lowerCaseAfter before text = text.map Char.toLower := by
  have hs : ∀ c ∈ text, c ≠ 'Σ' := by
    rintro c hc rfl
    exact absurd (h _ hc) (by decide)
  exact lowerCaseAfter_eq_map hs fun c hc => lowerChar_of_isPlain (h c hc)

theorem isPlain_of_lowerCaseAfter {before text : List Char}
    (h : ∀ d ∈ lowerCaseAfter before text, isNameChar d = true) :
    ∀ c ∈ text, isPlain c = true := by
  induction text generalizing before with
  | nil => simp
  | cons c rest ih =>
    rw [lowerCaseAfter, List.forall_mem_append] at h
    obtain ⟨hc, hr⟩ := h
    rw [List.forall_mem_cons]
    refine ⟨?_, ih hr⟩
    split at hc
    · exact absurd (hc 'ς' (by simp)) (by decide)
    · exact isPlain_of_lowerChar hc

end BoundSql.Text
