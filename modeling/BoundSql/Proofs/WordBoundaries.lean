import BoundSql.Text.Words

/-!
# Cutting a text at its word boundaries

The cut of a text is decided locally: between two texts that do not join in a word the cuts stand
side by side, and replacing characters between words leaves the words as they are.
-/

namespace BoundSql.Text

def startsInWord (text : List Char) : Bool :=
  text.head?.any isWordChar

def endsInWord (text : List Char) : Bool :=
  text.getLast?.any isWordChar

/-- Whether the last character of one text and the first one of the next are of one word. -/
def Apart (s t : List Char) : Prop :=
  endsInWord s = false ∨ startsInWord t = false

private theorem Apart.of_cons_cons {c d : Char} {s t : List Char} (h : Apart (c :: d :: s) t) :
    Apart (d :: s) t := h

@[simp] theorem wordRuns_nil : wordRuns [] = [] := rfl

@[simp] theorem wordRuns_singleton (c : Char) : wordRuns [c] = [[c]] := rfl

theorem wordRuns_cons (c : Char) (text : List Char) :
    wordRuns (c :: text) = consRun c (wordRuns text) := rfl

/-- The first run starts with the first character. -/
theorem wordRuns_cons_eq (c : Char) (text : List Char) :
    ∃ run runs, wordRuns (c :: text) = (c :: run) :: runs := by
  rw [wordRuns_cons]
  unfold consRun
  split
  · next d run runs _ =>
    by_cases h : (isWordChar c && isWordChar d) = true
    · exact ⟨d :: run, runs, if_pos h⟩
    · exact ⟨[], (d :: run) :: runs, if_neg h⟩
  · exact ⟨[], _, rfl⟩

private theorem consRun_append (c : Char) (run : List Char) (runs more : List (List Char)) :
    consRun c ((run :: runs) ++ more) = consRun c (run :: runs) ++ more := by
  cases run with
  | nil => rfl
  | cons d run =>
    simp only [consRun, List.cons_append]
    split <;> rfl

theorem consRun_of_apart {c : Char} {text : List Char} (h : Apart [c] text) :
    consRun c (wordRuns text) = [c] :: wordRuns text := by
  cases text with
  | nil => rfl
  | cons d rest =>
    obtain ⟨run, runs, hr⟩ := wordRuns_cons_eq d rest
    have hcd : (isWordChar c && isWordChar d) = false := Bool.and_eq_false_iff.mpr h
    rw [hr, consRun, hcd]
    rfl

theorem wordRuns_append {s t : List Char} (h : Apart s t) :
    wordRuns (s ++ t) = wordRuns s ++ wordRuns t := by
  induction s with
  | nil => rfl
  | cons c rest ih =>
    cases rest with
    | nil => exact consRun_of_apart h
    | cons d rest =>
      obtain ⟨run, runs, hr⟩ := wordRuns_cons_eq d rest
      rw [List.cons_append, wordRuns_cons, ih h.of_cons_cons, wordRuns_cons c, hr, consRun_append]

theorem endsInWord_of_not_word {text : List Char} (h : ∀ c ∈ text, isWordChar c = false) :
    endsInWord text = false := by
  cases hl : text.getLast? with
  | none => simp [endsInWord, hl]
  | some c => simp [endsInWord, hl, h c (List.mem_of_getLast? hl)]

theorem wordRuns_of_not_word {text : List Char} (h : ∀ c ∈ text, isWordChar c = false) :
    wordRuns text = text.map ([·]) := by
  induction text with
  | nil => rfl
  | cons c rest ih =>
    have hc : Apart [c] rest := .inl (by simpa [endsInWord] using h c (by simp))
    rw [wordRuns_cons, consRun_of_apart hc, ih fun d hd => h d (by simp [hd])]
    rfl

/-- The runs of a text that is longer by one character. -/
theorem mem_wordRuns_cons {c : Char} {text run : List Char} (h : run ∈ wordRuns (c :: text)) :
    run = [c] ∨ run ∈ wordRuns text ∨
      isWordChar c = true ∧ ∃ rest ∈ wordRuns text, startsInWord rest = true ∧ run = c :: rest := by
  cases text with
  | nil => exact .inl (List.mem_singleton.mp h)
  | cons d text =>
    obtain ⟨rest, runs, hr⟩ := wordRuns_cons_eq d text
    rw [wordRuns_cons, hr, consRun] at h
    rw [hr]
    split at h
    · next hw =>
      obtain ⟨hc, hd⟩ := Bool.and_eq_true_iff.mp hw
      rcases List.mem_cons.mp h with rfl | h
      · exact .inr (.inr ⟨hc, d :: rest, by simp, by simpa [startsInWord] using hd, rfl⟩)
      · exact .inr (.inl (List.mem_cons_of_mem _ h))
    · rcases List.mem_cons.mp h with rfl | h
      · exact .inl rfl
      · exact .inr (.inl h)

/-- A run that starts in a word is all of one word. -/
theorem isWordChar_of_mem_wordRuns {text run : List Char} (hr : run ∈ wordRuns text)
    (hs : startsInWord run = true) : ∀ c ∈ run, isWordChar c = true := by
  induction text generalizing run with
  | nil => simp at hr
  | cons c text ih =>
    rcases mem_wordRuns_cons hr with rfl | hr | ⟨hc, rest, hm, hw, rfl⟩
    · simpa [startsInWord] using hs
    · exact ih hr hs
    · simpa [hc] using ih hm hw

private theorem consRun_of_word {c d : Char} (hc : isWordChar c = true) (hd : isWordChar d = true)
    (run : List Char) (runs : List (List Char)) :
    consRun c ((d :: run) :: runs) = (c :: d :: run) :: runs := by
  simp [consRun, hc, hd]

theorem wordRuns_of_word {run : List Char} (hn : run ≠ [])
    (hw : ∀ c ∈ run, isWordChar c = true) : wordRuns run = [run] := by
  induction run with
  | nil => exact absurd rfl hn
  | cons c rest ih =>
    cases rest with
    | nil => rfl
    | cons d rest =>
      have hr : wordRuns (d :: rest) = [d :: rest] := ih (by simp) fun e he => hw e (.tail _ he)
      rw [wordRuns_cons, hr, consRun_of_word (hw c (by simp)) (hw d (by simp))]

private theorem startsInWord_dropWhile (text : List Char) :
    startsInWord (text.dropWhile isWordChar) = false := by
  have h := List.head?_dropWhile_not isWordChar text
  cases hd : (text.dropWhile isWordChar).head? with
  | none => simp [startsInWord, hd]
  | some c =>
    rw [hd] at h
    simpa [startsInWord, hd] using h

/-- A text is empty, or begins with a character between words, or begins with a whole word. -/
theorem word_induction {motive : List Char → Prop} (nil : motive [])
    (between : ∀ c rest, isWordChar c = false → motive rest → motive (c :: rest))
    (word : ∀ run rest, run ≠ [] → (∀ c ∈ run, isWordChar c = true) → startsInWord rest = false →
      motive rest → motive (run ++ rest)) : ∀ text, motive text
  | [] => nil
  | c :: rest => by
    have hlt : (rest.dropWhile isWordChar).length < (c :: rest).length :=
      Nat.lt_succ_of_le (List.dropWhile_suffix isWordChar).length_le
    cases hc : isWordChar c with
    | false => exact between c rest hc (word_induction nil between word rest)
    | true =>
      have hw : ∀ d ∈ c :: rest.takeWhile isWordChar, isWordChar d = true := by
        intro d hd
        rcases List.mem_cons.mp hd with rfl | hd
        · exact hc
        · exact List.all_eq_true.mp List.all_takeWhile d hd
      have hm := word (c :: rest.takeWhile isWordChar) (rest.dropWhile isWordChar) (by simp) hw
        (startsInWord_dropWhile rest) (word_induction nil between word _)
      rwa [List.cons_append, List.takeWhile_append_dropWhile] at hm
termination_by text => text.length
decreasing_by
  · exact Nat.lt_succ_self rest.length
  · exact hlt

/-- The function leaves word characters alone, and puts for any other one a text that has none. -/
structure KeepsWords (replace : Char → List Char) : Prop where
  word : ∀ c, isWordChar c = true → replace c = [c]
  ne_nil : ∀ c, replace c ≠ []
  between : ∀ c, isWordChar c = false → ∀ d ∈ replace c, isWordChar d = false

/-- What becomes of a run when the characters between words are replaced. -/
def replaceRun (replace : Char → List Char) (run : List Char) : List (List Char) :=
  if startsInWord run then [run] else (run.flatMap replace).map ([·])

private theorem startsInWord_flatMap {replace : Char → List Char} (h : KeepsWords replace)
    (text : List Char) : startsInWord (text.flatMap replace) = startsInWord text := by
  cases text with
  | nil => rfl
  | cons c rest =>
    cases hc : isWordChar c with
    | true => simp [h.word c hc, startsInWord]
    | false =>
      obtain ⟨d, more, hd⟩ := List.exists_cons_of_ne_nil (h.ne_nil c)
      have hw := h.between c hc d (by simp [hd])
      simp [hd, startsInWord, hc, hw]

theorem wordRuns_flatMap {replace : Char → List Char} (h : KeepsWords replace)
    (text : List Char) :
    wordRuns (text.flatMap replace) = (wordRuns text).flatMap (replaceRun replace) := by
  induction text with
  | nil => rfl
  | cons c rest ih =>
    by_cases ha : Apart [c] rest
    · -- The first character is a run by itself, before and after the replacement.
      have hr : Apart (replace c) (rest.flatMap replace) := by
        rw [Apart, startsInWord_flatMap h]
        refine ha.imp_left fun hc => endsInWord_of_not_word (h.between c ?_)
        simpa [endsInWord] using hc
      rw [List.flatMap_cons, wordRuns_append hr, ih, wordRuns_cons, consRun_of_apart ha,
        List.flatMap_cons]
      congr 1
      cases hc : isWordChar c with
      | true => simp [h.word c hc, replaceRun, startsInWord, hc]
      | false => simp [replaceRun, startsInWord, hc, wordRuns_of_not_word (h.between c hc)]
    · -- The first character goes in front of the first run, which is a word and stays.
      simp only [Apart, not_or, Bool.not_eq_false] at ha
      have hc : isWordChar c = true := by simpa [endsInWord] using ha.1
      obtain ⟨d, rest, rfl⟩ := List.exists_cons_of_ne_nil (l := rest) (by
        rintro rfl
        cases ha.2)
      have hd : isWordChar d = true := by simpa [startsInWord] using ha.2
      obtain ⟨run, runs, hr⟩ := wordRuns_cons_eq d rest
      have hw : ∀ e run, isWordChar e = true → replaceRun replace (e :: run) = [e :: run] :=
        fun e run he => if_pos (by simpa [startsInWord] using he)
      have hi : wordRuns ((d :: rest).flatMap replace) =
          (d :: run) :: runs.flatMap (replaceRun replace) := by
        rw [ih, hr, List.flatMap_cons, hw d run hd, List.singleton_append]
      calc
        wordRuns ((c :: d :: rest).flatMap replace)
          = consRun c (wordRuns ((d :: rest).flatMap replace)) := by
            rw [List.flatMap_cons, h.word c hc, List.singleton_append, wordRuns_cons]
        _ = (c :: d :: run) :: runs.flatMap (replaceRun replace) := by
            rw [hi, consRun_of_word hc hd]
        _ = (wordRuns (c :: d :: rest)).flatMap (replaceRun replace) := by
            rw [wordRuns_cons c, hr, consRun_of_word hc hd, List.flatMap_cons, hw c _ hc,
              List.singleton_append]

end BoundSql.Text
