import Mathlib.Data.List.Chain
import BoundSql.Proofs.QualifiedNames

/-!
# From one style to the other and back

Snake case puts an underscore in front of every capital that opens a word, and of the underscore camel case
makes the capital again; any other capital is a small letter from then on. In the same way an
underscore is lost where the capital that camel case makes of it opens no word: that is behind a word of
one letter that is a capital itself, unless a letter comes second. A name comes back from the other
style exactly if this never happens in it.
-/

namespace BoundSql.Text

section Letters

variable {c : Char}

private theorem isUpper_iff_toNat : c.isUpper = true ↔ 65 ≤ c.toNat ∧ c.toNat ≤ 90 :=
  decide_eq_true_iff

private theorem isLower_iff_toNat : c.isLower = true ↔ 97 ≤ c.toNat ∧ c.toNat ≤ 122 :=
  Bool.and_eq_true_iff.trans (and_congr decide_eq_true_iff decide_eq_true_iff)

private theorem isDigit_iff_toNat : c.isDigit = true ↔ 48 ≤ c.toNat ∧ c.toNat ≤ 57 :=
  Char.isDigit_iff_toNat

private theorem isAlphanum_iff :
    c.isAlphanum = true ↔ (c.isUpper = true ∨ c.isLower = true) ∨ c.isDigit = true :=
  Bool.or_eq_true_iff.trans (or_congr_left Bool.or_eq_true_iff)

theorem isUpper_eq_false_of_isLower (h : c.isLower = true) : c.isUpper = false := by
  rw [isLower_iff_toNat] at h
  rw [← Bool.not_eq_true, isUpper_iff_toNat]
  omega

theorem isLower_eq_false_of_isUpper (h : c.isUpper = true) : c.isLower = false := by
  rw [← Bool.not_eq_true]
  intro hl
  rw [isUpper_eq_false_of_isLower hl] at h
  cases h

theorem toUpper_eq_self (h : c.isLower = false) : c.toUpper = c :=
  dif_neg (mt isLower_iff_toNat.mpr (Bool.eq_false_iff.mp h))

theorem toLower_eq_self (h : c.isUpper = false) : c.toLower = c :=
  dif_neg (mt isUpper_iff_toNat.mpr (Bool.eq_false_iff.mp h))

/-- Every letter has two forms, and each is told by the other one. -/
private theorem forms_of_letters : ∀ code < 128,
    ((Char.ofNat code).isUpper = true → (Char.ofNat code).toLower.isLower = true ∧
      (Char.ofNat code).toLower.toUpper = Char.ofNat code) ∧
    ((Char.ofNat code).isLower = true → (Char.ofNat code).toUpper.isUpper = true ∧
      (Char.ofNat code).toUpper.toLower = Char.ofNat code) := by
  decide

theorem small_form_of_isUpper (h : c.isUpper = true) :
    c.toLower.isLower = true ∧ c.toLower.toUpper = c := by
  have hc : c.toNat < 128 := by
    rw [isUpper_iff_toNat] at h
    omega
  have hf := (forms_of_letters c.toNat hc).1
  rw [Char.ofNat_toNat] at hf
  exact hf h

theorem capital_form_of_isLower (h : c.isLower = true) :
    c.toUpper.isUpper = true ∧ c.toUpper.toLower = c := by
  have hc : c.toNat < 128 := by
    rw [isLower_iff_toNat] at h
    omega
  have hf := (forms_of_letters c.toNat hc).2
  rw [Char.ofNat_toNat] at hf
  exact hf h

theorem isAlphanum_of_isUpper (h : c.isUpper = true) : c.isAlphanum = true :=
  isAlphanum_iff.mpr (.inl (.inl h))

end Letters

theorem toLower_ne_underscore {c : Char} (h : c.isUpper = true) : c.toLower ≠ '_' := by
  have hl := (small_form_of_isUpper h).1
  intro he
  rw [he] at hl
  cases hl

private theorem toLower_ne_self {c : Char} (h : c.isUpper = true) : c.toLower ≠ c := by
  intro he
  have hl := isUpper_eq_false_of_isLower (small_form_of_isUpper h).1
  rw [he, h] at hl
  cases hl

theorem opensWord_iff {before after : Option Char} :
    opensWord before after = true ↔
      ∃ p ∈ before, p ≠ '.' ∧ p ≠ '_' ∧ (p.isUpper = false ∨ ∃ n ∈ after, n.isLower = true) := by
  unfold opensWord
  split
  · simp
  · simp
  · simp
  · next p hdot hunderscore =>
    have hd : p ≠ '.' := hdot
    have hu : p ≠ '_' := hunderscore
    cases hp : p.isUpper <;> simp [hd, hu, hp, Option.any_eq_true]

/-- A capital between two texts opens a word: it follows a character other than a dot, and that one is
no capital or a small letter comes next. -/
def OpensBetween (front back : List Char) : Prop :=
  ∃ p ∈ front.getLast?, p ≠ '.' ∧ (p.isUpper = false ∨ ∃ n ∈ back.head?, n.isLower = true)

/-- Every capital of the name opens a word. -/
def CapitalsOpenWords (name : String) : Prop :=
  ∀ front c back, name.toList = front ++ c :: back → c.isUpper = true → OpensBetween front back

/-- Every capital of a text opens a word where the text stands behind another one. -/
def CapitalsOpenBehind (front text : List Char) : Prop :=
  ∀ middle c back, text = middle ++ c :: back → c.isUpper = true → OpensBetween (front ++ middle) back

theorem capitalsOpenWords_iff (name : String) :
    CapitalsOpenWords name ↔ CapitalsOpenBehind [] name.toList := Iff.rfl

private theorem capitalsOpenBehind_nil (front : List Char) : CapitalsOpenBehind front [] := by
  intro middle c back he
  simp at he

private theorem capitalsOpenBehind_cons {front : List Char} {c : Char} {rest : List Char} :
    CapitalsOpenBehind front (c :: rest) ↔
      (c.isUpper = true → OpensBetween front rest) ∧ CapitalsOpenBehind (front ++ [c]) rest := by
  constructor
  · intro h
    refine ⟨fun hc => by simpa using h [] c rest rfl hc, fun middle d back he hd => ?_⟩
    simpa using h (c :: middle) d back (by rw [he, List.cons_append]) hd
  · rintro ⟨hc, hr⟩ middle d back he hd
    cases middle with
    | nil =>
      cases he
      simpa using hc hd
    | cons e middle =>
      obtain ⟨rfl, ht⟩ : c = e ∧ rest = middle ++ d :: back := List.cons_eq_cons.mp he
      simpa using hr middle d back ht hd

-- The options are searched. Found by itself, the instance would go through all characters there are.
instance (front back : List Char) : Decidable (OpensBetween front back) :=
  have (p : Char) : Decidable (p ≠ '.' ∧ (p.isUpper = false ∨ ∃ n ∈ back.head?, n.isLower = true)) :=
    have := Option.decidableExistsMem (p := fun n => Char.isLower n = true) back.head?
    inferInstance
  Option.decidableExistsMem front.getLast?

instance decidableCapitalsOpenBehind : ∀ front text, Decidable (CapitalsOpenBehind front text)
  | front, [] => isTrue (capitalsOpenBehind_nil front)
  | front, c :: rest =>
    have := decidableCapitalsOpenBehind (front ++ [c]) rest
    decidable_of_iff' _ capitalsOpenBehind_cons

instance (name : String) : Decidable (CapitalsOpenWords name) :=
  decidable_of_iff' _ (capitalsOpenWords_iff name)

private theorem opensWord_iff_opensBetween {front : List Char} (h : '_' ∉ front) (back : List Char) :
    opensWord front.getLast? back.head? = true ↔ OpensBetween front back := by
  rw [opensWord_iff, OpensBetween]
  refine exists_congr fun p => and_congr_right fun hp => and_congr_right fun _ => ?_
  have hu : p ≠ '_' := by
    rintro rfl
    exact h (List.mem_of_getLast? hp)
  exact and_iff_right hu

/-- What becomes of a character in both styles: a capital stays one if it opens a word. -/
def lowerUnless (opens : Bool) (c : Char) : Char :=
  if c.isUpper && !opens then c.toLower else c

private theorem lowerUnless_eq_self_iff {opens : Bool} {c : Char} :
    lowerUnless opens c = c ↔ (c.isUpper = true → opens = true) := by
  unfold lowerUnless
  cases hu : c.isUpper with
  | false => simp
  | true => cases opens <;> simp [toLower_ne_self hu]

private theorem camelCaseOf_snakeCaseAfter_cons (c : Char) (rest : List Char) :
    camelCaseOf (snakeCaseAfter none (c :: rest)) =
      lowerUnless (opensWord none rest.head?) c :: camelCaseTail false (snakeCaseAfter (some c) rest) := by
  cases hu : c.isUpper <;> simp [snakeCaseAfter, lowerUnless, opensWord, camelCaseOf, hu]

private theorem camelCaseTail_snakeCaseAfter_cons {c : Char} (hc : c ≠ '_') (before : Option Char)
    (rest : List Char) :
    camelCaseTail false (snakeCaseAfter before (c :: rest)) =
      lowerUnless (opensWord before rest.head?) c :: camelCaseTail false (snakeCaseAfter (some c) rest) := by
  cases hu : c.isUpper with
  | false => simp [snakeCaseAfter, lowerUnless, hu, camelCaseTail_of_ne hc]
  | true =>
    have hl := toLower_ne_underscore hu
    cases ho : opensWord before rest.head? with
    | false => simp [snakeCaseAfter, lowerUnless, hu, ho, camelCaseTail_of_ne hl]
    | true => simp [snakeCaseAfter, lowerUnless, hu, ho, camelCaseTail, hl, small_form_of_isUpper hu]

private theorem camelCaseTail_snakeCaseAfter_eq_iff (front : List Char) {text : List Char}
    (hf : '_' ∉ front) (ht : '_' ∉ text) :
    camelCaseTail false (snakeCaseAfter front.getLast? text) = text ↔ CapitalsOpenBehind front text := by
  -- No underscore is left over from one character to the next, so both styles take them one by one.
  induction text generalizing front with
  | nil => exact iff_of_true rfl (capitalsOpenBehind_nil front)
  | cons c rest ih =>
    obtain ⟨hc, hr⟩ := List.ne_and_not_mem_of_not_mem_cons ht
    have hi := ih (front ++ [c]) (by simp [hf, hc]) hr
    rw [List.getLast?_concat] at hi
    rw [camelCaseTail_snakeCaseAfter_cons hc.symm, List.cons_eq_cons, lowerUnless_eq_self_iff,
      opensWord_iff_opensBetween hf, hi, capitalsOpenBehind_cons]

/-- A name without underscores comes back from snake case exactly if all its capitals open words. -/
theorem camelCase_snakeCase_eq_iff {name : String} (h : '_' ∉ name.toList) :
    camelCase (snakeCase name) = name ↔ CapitalsOpenWords name := by
  rw [← String.toList_inj, toList_camelCase, toList_snakeCase, capitalsOpenWords_iff]
  cases ht : name.toList with
  | nil => exact iff_of_true rfl (capitalsOpenBehind_nil [])
  | cons c rest =>
    rw [ht] at h
    obtain ⟨hc, hr⟩ := List.ne_and_not_mem_of_not_mem_cons h
    have hfirst : opensWord none rest.head? = true ↔ OpensBetween [] rest :=
      opensWord_iff_opensBetween List.not_mem_nil rest
    have hrest : camelCaseTail false (snakeCaseAfter (some c) rest) = rest ↔
        CapitalsOpenBehind [c] rest :=
      camelCaseTail_snakeCaseAfter_eq_iff [c] (by simpa using hc) hr
    rw [camelCaseOf_snakeCaseAfter_cons, List.cons_eq_cons, lowerUnless_eq_self_iff, hfirst, hrest,
      capitalsOpenBehind_cons, List.nil_append]

/-- A name without underscores comes back from snake case exactly if each of its capitals opens a word.
So different names of this kind are different in snake case. -/
theorem camelCase_snakeCase_iff :
    (∀ name : String, '_' ∉ name.toList →
      (camelCase (snakeCase name) = name ↔ CapitalsOpenWords name)) ∧
    ∀ name other : String, '_' ∉ name.toList → '_' ∉ other.toList → CapitalsOpenWords name →
      CapitalsOpenWords other → name ≠ other → snakeCase name ≠ snakeCase other := by
  refine ⟨fun name h => camelCase_snakeCase_eq_iff h, ?_⟩
  intro name other h ho hc hco hne he
  apply hne
  calc
    name = camelCase (snakeCase name) := ((camelCase_snakeCase_eq_iff h).mpr hc).symm
    _ = camelCase (snakeCase other) := by rw [he]
    _ = other := (camelCase_snakeCase_eq_iff ho).mpr hco

/-- A capital between a capital and a small letter opens a word, and so does one behind a letter that is
not ASCII or a digit. The last capital of a name does not open a word behind another one. -/
theorem camelCase_snakeCase_of_capitals :
    CapitalsOpenWords "aBCd.größeÜ2X" ∧ camelCase (snakeCase "aBCd.größeÜ2X") = "aBCd.größeÜ2X" ∧
      CapitalsOpenWords "userId" ∧ snakeCase "aBCd.größeÜ2X" ≠ snakeCase "userId" ∧
      ¬ CapitalsOpenWords "userID" ∧ camelCase (snakeCase "userID") ≠ "userID" := by
  have hcapitals : CapitalsOpenWords "aBCd.größeÜ2X" := by decide
  have huser : CapitalsOpenWords "userId" := by decide
  have hacronym : ¬ CapitalsOpenWords "userID" := by decide
  refine ⟨hcapitals, ?_, huser, ?_, hacronym, ?_⟩
  · exact (camelCase_snakeCase_iff.1 _ (by decide)).mpr hcapitals
  · exact camelCase_snakeCase_iff.2 _ _ (by decide) (by decide) hcapitals huser (by decide)
  · exact mt (camelCase_snakeCase_iff.1 _ (by decide)).mp hacronym

/-- A small letter or a digit. -/
def IsSmall (c : Char) : Prop :=
  c.isLower = true ∨ c.isDigit = true

namespace IsSmall

variable {c : Char} (h : IsSmall c)

include h

theorem isAlphanum : c.isAlphanum = true := by
  rw [isAlphanum_iff]
  exact h.imp_left .inr

private theorem isUpper_eq_false : c.isUpper = false := by
  rcases h with h | h
  · exact isUpper_eq_false_of_isLower h
  · rw [isDigit_iff_toNat] at h
    rw [← Bool.not_eq_true, isUpper_iff_toNat]
    omega

private theorem isLower_iff : c.isLower = true ↔ c.isDigit = false := by
  rw [← Bool.not_eq_true, isDigit_iff_toNat, isLower_iff_toNat]
  rw [IsSmall, isLower_iff_toNat, isDigit_iff_toNat] at h
  omega

end IsSmall

theorem ne_separator_of_isAlphanum {c : Char} (h : c.isAlphanum = true) : c ≠ '.' ∧ c ≠ '_' := by
  constructor <;> rintro rfl <;> exact absurd h (by decide)

/-- A word of a name in snake case: small letters and digits, a letter first. -/
@[mk_iff]
structure SmallWord (word : List Char) : Prop where
  first : ∃ c ∈ word.head?, c.isLower = true
  small : ∀ c ∈ word, IsSmall c

instance (word : List Char) : Decidable (SmallWord word) :=
  have (c : Char) : Decidable (IsSmall c) :=
    inferInstanceAs (Decidable (c.isLower = true ∨ c.isDigit = true))
  have := Option.decidableExistsMem (p := fun c => Char.isLower c = true) word.head?
  have := List.decidableBAll IsSmall word
  decidable_of_iff' _ (smallWord_iff word)

theorem SmallWord.exists_cons {word : List Char} (h : SmallWord word) :
    ∃ c rest, word = c :: rest ∧ c.isLower = true ∧ ∀ d ∈ rest, IsSmall d := by
  obtain ⟨c, hc, hl⟩ := h.first
  obtain ⟨rest, rfl⟩ := List.head?_eq_some_iff.mp (Option.mem_def.mp hc)
  exact ⟨c, rest, rfl, hl, fun d hd => h.small d (.tail _ hd)⟩

/-- Behind a capital, a word shows where it begins if its second character is a letter. -/
def Legible (word : List Char) : Prop :=
  ∃ c ∈ word[1]?, c.isDigit = false

private theorem underscore_notMem {text : List Char} (h : ∀ c ∈ text, IsSmall c) : '_' ∉ text :=
  fun hm => (ne_separator_of_isAlphanum (h _ hm).isAlphanum).2 rfl

theorem camelCaseTail_append {text : List Char} (h : '_' ∉ text) (rest : List Char) :
    camelCaseTail false (text ++ rest) = text ++ camelCaseTail false rest := by
  induction text with
  | nil => rfl
  | cons c text ih =>
    obtain ⟨hc, ht⟩ := List.ne_and_not_mem_of_not_mem_cons h
    rw [List.cons_append, camelCaseTail_of_ne hc.symm, ih ht, List.cons_append]

/-- An underscore in front of a word is dropped, and the word is raised. -/
theorem camelCaseTail_underscores {words : List (List Char)} (h : ∀ word ∈ words, SmallWord word) :
    camelCaseTail false (words.flatMap ('_' :: ·)) = words.flatMap raise := by
  induction words with
  | nil => rfl
  | cons word words ih =>
    obtain ⟨hword, hwords⟩ := List.forall_mem_cons.mp h
    obtain ⟨c, rest, rfl, hc, hr⟩ := hword.exists_cons
    obtain ⟨-, hne⟩ := ne_separator_of_isAlphanum (IsSmall.isAlphanum (.inl hc))
    simp [camelCaseTail, hne, camelCaseTail_append (underscore_notMem hr), ih hwords, raise]

theorem snakeCaseAfter_append_of_not_upper {text : List Char} (h : ∀ c ∈ text, c.isUpper = false)
    (before : Option Char) (rest : List Char) :
    snakeCaseAfter before (text ++ rest) = text ++ snakeCaseAfter (text.getLast?.or before) rest := by
  induction text generalizing before with
  | nil => simp
  | cons c text ih =>
    obtain ⟨hc, ht⟩ := List.forall_mem_cons.mp h
    have hlast : (c :: text).getLast?.or before = text.getLast?.or (some c) := by
      rw [List.getLast?_cons]
      cases text.getLast? <;> rfl
    simp [snakeCaseAfter, hc, ih ht, hlast]

section Raised

variable {c : Char} {rest : List Char} (hc : c.isLower = true) (hr : ∀ d ∈ rest, IsSmall d)

include hc hr

private theorem snakeCaseAfter_raise (before : Option Char) (text : List Char) :
    snakeCaseAfter before (raise (c :: rest) ++ text) =
      (if opensWord before (rest ++ text).head? then ['_'] else []) ++
        c :: rest ++ snakeCaseAfter (some (rest.getLast?.getD c.toUpper)) text := by
  have hlast : rest.getLast?.or (some c.toUpper) = some (rest.getLast?.getD c.toUpper) := by
    cases rest.getLast? <;> rfl
  have hrest := snakeCaseAfter_append_of_not_upper (fun d hd => (hr d hd).isUpper_eq_false)
    (some c.toUpper) text
  have hraise : raise (c :: rest) ++ text = c.toUpper :: (rest ++ text) := rfl
  rw [hraise, snakeCaseAfter, hrest, hlast]
  simp only [capital_form_of_isLower hc, if_true]
  split <;> simp

/-- A raised word ends in a capital only if that is all of it. -/
theorem isUpper_last_iff : (rest.getLast?.getD c.toUpper).isUpper = true ↔ rest = [] := by
  cases hl : rest.getLast? with
  | none => exact iff_of_true (capital_form_of_isLower hc).1 (List.getLast?_eq_none_iff.mp hl)
  | some d =>
    have hd := hr d (List.mem_of_getLast? hl)
    have hne : rest ≠ [] := List.ne_nil_of_mem (List.mem_of_getLast? hl)
    simp [hd.isUpper_eq_false, hne]

private theorem isAlphanum_last : (rest.getLast?.getD c.toUpper).isAlphanum = true := by
  cases hl : rest.getLast? with
  | none => exact isAlphanum_of_isUpper (capital_form_of_isLower hc).1
  | some d => exact (hr d (List.mem_of_getLast? hl)).isAlphanum

end Raised

private theorem isLower_head?_raised {words : List (List Char)} (h : ∀ word ∈ words, SmallWord word) :
    ∀ c ∈ (words.flatMap raise).head?, c.isLower = false := by
  intro c hm
  cases words with
  | nil => simp at hm
  | cons word words =>
    obtain ⟨d, rest, rfl, hd, -⟩ := (h word (.head _)).exists_cons
    obtain rfl : d.toUpper = c := by simpa [raise] using hm
    exact isLower_eq_false_of_isUpper (capital_form_of_isLower hd).1

/-- The capital of a raised word opens it except behind another capital, if no letter follows. -/
theorem opensWord_raised_iff {b c : Char} (hb : b.isAlphanum = true) {rest : List Char}
    (hr : ∀ d ∈ rest, IsSmall d) {words : List (List Char)} (h : ∀ word ∈ words, SmallWord word) :
    opensWord (some b) (rest ++ words.flatMap raise).head? = true ↔
      (b.isUpper = true → Legible (c :: rest)) := by
  obtain ⟨hdot, hunderscore⟩ := ne_separator_of_isAlphanum hb
  have hlegible : (∃ n ∈ (rest ++ words.flatMap raise).head?, n.isLower = true) ↔ Legible (c :: rest) := by
    cases rest with
    | nil =>
      have hw := isLower_head?_raised h
      refine iff_of_false ?_ (by simp [Legible])
      rintro ⟨n, hn, hl⟩
      rw [hw n hn] at hl
      cases hl
    | cons d rest => simpa [Legible] using (hr d (.head _)).isLower_iff
  rw [opensWord_iff, ← hlegible]
  cases hu : b.isUpper <;> simp [hdot, hunderscore, hu]

/-- Raised words come back as they were exactly if each of them that follows a capital shows where it
begins. -/
theorem snakeCaseAfter_raised_eq_iff {words : List (List Char)} (h : ∀ word ∈ words, SmallWord word)
    {b : Char} (hb : b.isAlphanum = true) :
    snakeCaseAfter (some b) (words.flatMap raise) = words.flatMap ('_' :: ·) ↔
      (b.isUpper = true → ∀ word ∈ words.head?, Legible word) ∧
        words.IsChain fun word next => word.length = 1 → Legible next := by
  -- All that a word knows of the one in front of it is the character that ends it.
  induction words generalizing b with
  | nil => simp [snakeCaseAfter]
  | cons word words ih =>
    obtain ⟨hword, hwords⟩ := List.forall_mem_cons.mp h
    obtain ⟨c, rest, rfl, hc, hr⟩ := hword.exists_cons
    have hi := ih hwords (isAlphanum_last hc hr)
    rw [isUpper_last_iff hc hr] at hi
    have hopens := opensWord_raised_iff (c := c) hb hr hwords
    rw [List.flatMap_cons, List.flatMap_cons, snakeCaseAfter_raise hc hr, List.isChain_cons]
    by_cases ho : b.isUpper = true → Legible (c :: rest)
    · rw [if_pos (hopens.mpr ho)]
      have hfirst : b.isUpper = true → ∀ word ∈ ((c :: rest) :: words).head?, Legible word := by
        simpa using ho
      have hlone : (c :: rest).length = 1 ↔ rest = [] := by simp
      have hcancel : ∀ s t, ['_'] ++ c :: rest ++ s = '_' :: c :: rest ++ t ↔ s = t :=
        fun s t => List.append_right_inj ('_' :: c :: rest)
      rw [hcancel, hi, and_iff_right hfirst, hlone]
      exact and_congr_left fun _ => ⟨fun hl next hn hr => hl hr next hn, fun hl hr next hn => hl next hn hr⟩
    · rw [if_neg (fun hn => ho (hopens.mp hn))]
      obtain ⟨-, hne⟩ := ne_separator_of_isAlphanum (IsSmall.isAlphanum (.inl hc))
      refine iff_of_false (by simp [hne]) ?_
      rintro ⟨hl, -⟩
      exact ho fun hu => hl hu _ rfl

instance (word : List Char) : Decidable (Legible word) :=
  Option.decidableExistsMem word[1]?

theorem not_legible_iff {word : List Char} : ¬ Legible word ↔ ∀ c ∈ word[1]?, c.isDigit = true := by
  simp [Legible]

private theorem toList_intercalate_underscore (word : String) (words : List String) :
    (String.intercalate "_" (word :: words)).toList =
      word.toList ++ (words.map String.toList).flatMap ('_' :: ·) := by
  induction words generalizing word with
  | nil => simp
  | cons next words ih =>
    rw [String.intercalate_cons_cons, String.toList_append, String.toList_append, ih]
    simp

/-- A name of small words comes back from camel case exactly if a word behind a raised word of one letter
always shows where it begins. -/
theorem snakeCase_camelCase_eq_iff {words : List String}
    (h : ∀ word ∈ words, SmallWord word.toList) :
    let name := String.intercalate "_" words
    snakeCase (camelCase name) = name ↔
      (words.tail.map String.toList).IsChain fun word next => word.length = 1 → Legible next := by
  intro name
  cases words with
  | nil => simp [name, snakeCase, camelCase, snakeCaseAfter]
  | cons word words =>
    obtain ⟨hword, hwords⟩ := List.forall_mem_cons.mp h
    obtain ⟨c, rest, ht, hc, hr⟩ := hword.exists_cons
    have hraised : ∀ word ∈ words.map String.toList, SmallWord word := List.forall_mem_map.mpr hwords
    have hnot : ∀ d ∈ word.toList, d.isUpper = false := fun d hd => (hword.small d hd).isUpper_eq_false
    have hto : (camelCase name).toList = word.toList ++ (words.map String.toList).flatMap raise := by
      rw [toList_camelCase, toList_intercalate_underscore, ht, List.cons_append, camelCaseOf,
        camelCaseTail_append (underscore_notMem hr), camelCaseTail_underscores hraised, List.cons_append]
    have hlast : word.toList.getLast?.or none = some (rest.getLast?.getD c) := by
      rw [ht, List.getLast?_cons, Option.or_none]
    have hb : IsSmall (rest.getLast?.getD c) :=
      hword.small _ (List.mem_of_getLast? (by rw [ht, List.getLast?_cons]))
    rw [← String.toList_inj, toList_snakeCase, hto, snakeCaseAfter_append_of_not_upper hnot,
      toList_intercalate_underscore, hlast, List.append_right_inj,
      snakeCaseAfter_raised_eq_iff hraised hb.isAlphanum, hb.isUpper_eq_false]
    simp

/-- A name of small words comes back from camel case exactly if no word of one letter but the first has a
word behind it that has no second character or a digit there. -/
theorem snakeCase_camelCase_iff {words : List String} (h : ∀ word ∈ words, SmallWord word.toList) :
    let name := String.intercalate "_" words
    snakeCase (camelCase name) = name ↔
      ¬ ∃ (index : Nat) (word next : String),
        words[index + 1]? = some word ∧ words[index + 2]? = some next ∧ word.length = 1 ∧
          ∀ c ∈ next.toList[1]?, c.isDigit = true := by
  intro name
  refine (snakeCase_camelCase_eq_iff h).trans ?_
  rw [List.isChain_map, List.isChain_iff_getElem]
  constructor
  · rintro hchain ⟨index, word, next, hw, hn, hl, hd⟩
    rw [← List.getElem?_tail] at hw hn
    obtain ⟨_, rfl⟩ := List.getElem?_eq_some_iff.mp hw
    obtain ⟨hlt, rfl⟩ := List.getElem?_eq_some_iff.mp hn
    exact not_legible_iff.mpr hd (hchain index hlt hl)
  · intro hnone index hlt hl
    by_contra hd
    have hw : words[index + 1]? = some words.tail[index] := by
      rw [← List.getElem?_tail, List.getElem?_eq_getElem]
    have hn : words[index + 2]? = some words.tail[index + 1] := by
      rw [← List.getElem?_tail, List.getElem?_eq_getElem]
    exact hnone ⟨index, _, _, hw, hn, hl, not_legible_iff.mp hd⟩

/-- Behind a word of one letter a word is lost if a digit comes second in it, and kept if a letter does. -/
theorem snakeCase_camelCase_of_letters :
    (∀ word ∈ ["a", "b", "cd", "x2"], SmallWord word.toList) ∧
      snakeCase (camelCase "a_b_cd_x2") = "a_b_cd_x2" ∧
      (∀ word ∈ ["a", "b", "c2"], SmallWord word.toList) ∧
      snakeCase (camelCase "a_b_c2") ≠ "a_b_c2" := by
  have hletter : ∀ word ∈ ["a", "b", "cd", "x2"], SmallWord word.toList := by decide
  have hdigit : ∀ word ∈ ["a", "b", "c2"], SmallWord word.toList := by decide
  have hkept : String.intercalate "_" ["a", "b", "cd", "x2"] = "a_b_cd_x2" := by decide
  have hlost : String.intercalate "_" ["a", "b", "c2"] = "a_b_c2" := by decide
  refine ⟨hletter, ?_, hdigit, ?_⟩
  · rw [← hkept]
    apply (snakeCase_camelCase_iff hletter).mpr
    rintro ⟨index, word, next, hw, hn, hl, hd⟩
    match index with
    | 0 =>
      cases hn
      exact not_legible_iff.mpr hd (by decide)
    | 1 =>
      cases hw
      exact absurd hl (by decide)
    | index + 2 => simp at hn
  · rw [← hlost]
    intro he
    exact (snakeCase_camelCase_iff hdigit).mp he
      ⟨0, "b", "c2", rfl, rfl, rfl, not_legible_iff.mp (by decide)⟩

end BoundSql.Text
