import BoundSql.Proofs.NameReading
import BoundSql.Text.Names

/-!
# Styles of qualified names

Snake case decides about a letter by its two neighbours, and a dot or an underscore next to it counts
as the end of the name. So names joined by one are styled one by one, and a qualified name is quoted
part by part. Camel case goes on behind a dot as inside a name: a part loses the underscores in front
of it, which it keeps where it stands alone.
-/

namespace BoundSql.Text

theorem toList_snakeCase (name : String) :
    (snakeCase name).toList = snakeCaseAfter none name.toList :=
  String.toList_ofList

/-- A character that parts words by itself: a capital behind it is not set apart. -/
def IsSeparator (c : Char) : Prop :=
  c = '.' ∨ c = '_'

namespace IsSeparator

variable {separator : Char} (h : IsSeparator separator)

include h

private theorem opensWord_before (before : Option Char) :
    opensWord before (some separator) = opensWord before none := by
  have hl : separator.isLower = false := by
    rcases h with rfl | rfl <;> rfl
  unfold opensWord
  simp only [Option.any, hl]

private theorem opensWord_behind (after : Option Char) :
    opensWord (some separator) after = opensWord none after := by
  rcases h with rfl | rfl <;> rfl

theorem snakeCaseAfter_behind (text : List Char) :
    snakeCaseAfter (some separator) text = snakeCaseAfter none text := by
  cases text with
  | nil => rfl
  | cons c rest => simp only [snakeCaseAfter, h.opensWord_behind]

/-- A separator stays, and what stands on its two sides is styled as if it were not there. -/
theorem snakeCaseAfter_append (before : Option Char) (front back : List Char) :
    snakeCaseAfter before (front ++ separator :: back) =
      snakeCaseAfter before front ++ separator :: snakeCaseAfter none back := by
  induction front generalizing before with
  | nil =>
    have hu : separator.isUpper = false := by
      rcases h with rfl | rfl <;> rfl
    simp [snakeCaseAfter, hu, h.snakeCaseAfter_behind]
  | cons c rest ih =>
    -- Only the last character of the front has the separator next to it.
    have hhead : opensWord before (rest ++ separator :: back).head? = opensWord before rest.head? := by
      cases rest with
      | nil => exact h.opensWord_before before
      | cons d rest => rfl
    simp only [List.cons_append, snakeCaseAfter, hhead, ih, List.append_assoc]

theorem snakeCase_append (front back : String) :
    snakeCase (front ++ String.singleton separator ++ back) =
      snakeCase front ++ String.singleton separator ++ snakeCase back := by
  rw [← String.toList_inj]
  simp [toList_snakeCase, h.snakeCaseAfter_append]

end IsSeparator

/-- Camel case of a text. -/
def camelCaseOf : List Char → List Char
  | [] => []
  | c :: rest => c :: camelCaseTail false rest

theorem toList_camelCase (name : String) : (camelCase name).toList = camelCaseOf name.toList := by
  unfold camelCase
  cases name.toList with
  | nil => rfl
  | cons c rest => exact String.toList_ofList

theorem camelCaseTail_of_ne {c : Char} (h : c ≠ '_') (rest : List Char) :
    camelCaseTail false (c :: rest) = c :: camelCaseTail false rest := by
  simp [camelCaseTail, h]

private theorem camelCaseTail_append_dot (raised : Bool) (front back : List Char) :
    camelCaseTail raised (front ++ '.' :: back) =
      camelCaseTail raised front ++ '.' :: camelCaseTail false back := by
  induction front generalizing raised with
  | nil => cases raised <;> rfl
  | cons c rest ih =>
    by_cases hc : c = '_'
    · simp only [List.cons_append, camelCaseTail, if_pos hc, ih]
    · simp only [List.cons_append, camelCaseTail, if_neg hc, ih]

private theorem camelCaseOf_append_dot (front back : List Char) :
    camelCaseOf (front ++ '.' :: back) = camelCaseOf front ++ '.' :: camelCaseTail false back := by
  cases front with
  | nil => rfl
  | cons c rest => exact congrArg (c :: ·) (camelCaseTail_append_dot false rest back)

/-- A text with its first letter as a capital. -/
def raise (text : List Char) : List Char :=
  text.modifyHead Char.toUpper

/-- After an underscore more underscores are dropped, and the next letter is raised. -/
theorem camelCaseTail_true (text : List Char) :
    camelCaseTail true text = raise (camelCaseOf (text.dropWhile (· == '_'))) := by
  induction text with
  | nil => rfl
  | cons c rest ih =>
    by_cases hc : c = '_'
    · simpa [camelCaseTail, hc] using ih
    · simp [camelCaseTail, hc, camelCaseOf, raise]

/-- Camel case of a part behind a dot. The underscores in front of it are dropped, and its first letter
is raised for them. -/
def camelCasePart (part : String) : String :=
  if '_' ∈ part.toList.head? then
    .ofList (raise (camelCaseOf (part.toList.dropWhile (· == '_'))))
  else camelCase part

private theorem toList_camelCasePart (part : String) :
    (camelCasePart part).toList = camelCaseTail false part.toList := by
  unfold camelCasePart
  split
  · next h =>
    obtain ⟨rest, hr⟩ := List.head?_eq_some_iff.mp (Option.mem_def.mp h)
    have ht : camelCaseTail false ('_' :: rest) = camelCaseTail true rest := rfl
    rw [String.toList_ofList, hr, ht, camelCaseTail_true, List.dropWhile_cons_of_pos rfl]
  · next h =>
    rw [toList_camelCase]
    cases ht : part.toList with
    | nil => rfl
    | cons c rest =>
      have hc : c ≠ '_' := by simpa [ht] using h
      rw [camelCaseTail_of_ne hc, camelCaseOf]

theorem camelCase_append_dot (front back : String) :
    camelCase (front ++ "." ++ back) = camelCase front ++ "." ++ camelCasePart back := by
  rw [← String.toList_inj]
  simp [toList_camelCase, toList_camelCasePart, camelCaseOf_append_dot]

private theorem length_camelCaseTail_true (text : List Char) :
    (camelCaseTail true text).length = (camelCaseTail false text).length := by
  cases text with
  | nil => rfl
  | cons c rest =>
    by_cases hc : c = '_'
    · simp only [camelCaseTail, if_pos hc]
    · simp only [camelCaseTail, if_neg hc, List.length_cons]

/-- A part that begins with an underscore comes out shorter behind a dot. -/
theorem camelCasePart_eq_iff (part : String) :
    camelCasePart part = camelCase part ↔ '_' ∉ part.toList.head? := by
  constructor
  · intro he hm
    obtain ⟨rest, hr⟩ := List.head?_eq_some_iff.mp (Option.mem_def.mp hm)
    have ht : camelCaseTail true rest = '_' :: camelCaseTail false rest := by
      have hl := congrArg String.toList he
      rwa [toList_camelCasePart, toList_camelCase, hr] at hl
    have hlength := congrArg List.length ht
    rw [length_camelCaseTail_true, List.length_cons] at hlength
    omega
  · exact fun h => if_neg h

/-- Camel case styles what stands in front of a dot by itself, and behind the dot it goes on. That is
how the part behind the dot is styled by itself, too, exactly if it does not begin with an underscore. -/
theorem camelCase_qualified (front back : String) :
    camelCase (front ++ "." ++ back) = camelCase front ++ "." ++ camelCasePart back ∧
      (camelCase (front ++ "." ++ back) = camelCase front ++ "." ++ camelCase back ↔
        '_' ∉ back.toList.head?) := by
  have hq := camelCase_append_dot front back
  refine ⟨hq, ?_⟩
  rw [hq, String.append_right_inj]
  exact camelCasePart_eq_iff back

/-- A private part of a qualified name is not styled as it is by itself. -/
theorem camelCase_private_part :
    ¬ ∀ front back : String,
      camelCase (front ++ "." ++ back) = camelCase front ++ "." ++ camelCase back := by
  intro h
  exact absurd (h "users" "_private") (by decide)

theorem intercalate_nameParts (name : String) : String.intercalate "." (nameParts name) = name := by
  rw [← String.toList_inj, String.toList_intercalate, nameParts, List.map_map]
  have hm : (String.toList ∘ String.ofList) = id := funext fun _ => String.toList_ofList
  rw [hm, List.map_id]
  exact List.intercalate_splitOn '.'

/-- What treats the two sides of every dot one by one treats the parts of a name one by one. -/
theorem eq_intercalate_nameParts {style : String → String}
    (h : ∀ front back, style (front ++ "." ++ back) = style front ++ "." ++ style back)
    (name : String) : style name = String.intercalate "." ((nameParts name).map style) := by
  have hparts : ∀ part rest, style (String.intercalate "." (part :: rest)) =
      String.intercalate "." ((part :: rest).map style) := by
    intro part rest
    induction rest generalizing part with
    | nil => simp
    | cons next rest ih => simp only [String.intercalate_cons_cons, List.map_cons, h, ih]
  have hn : nameParts name ≠ [] := by simp [nameParts, List.splitOn_ne_nil]
  obtain ⟨part, rest, hs⟩ := List.exists_cons_of_ne_nil hn
  calc
    style name = style (String.intercalate "." (nameParts name)) := by rw [intercalate_nameParts]
    _ = String.intercalate "." ((nameParts name).map style) := by rw [hs, hparts]

theorem quoteName_append_dot {delimiter : Char} (hd : delimiter ≠ '.') (front back : String) :
    quoteName delimiter (front ++ "." ++ back) =
      quoteName delimiter front ++ "." ++ quoteName delimiter back := by
  have hq : quotedNameChar delimiter '.' = [delimiter, '.', delimiter] := by
    simp [quotedNameChar, hd.symm]
  rw [← String.toList_inj]
  simp [quoteName, hq]

end BoundSql.Text

namespace BoundSql

open Text

theorem Dialect.quoteName_snakeCase_append_dot (verbatim : Bool) (front back : String) :
    let quote := (Dialect.googleSql (some snakeCase)).quoteName verbatim
    quote (front ++ "." ++ back) = quote front ++ "." ++ quote back := by
  intro quote
  have hq : ∀ name, quote name = Text.quoteName '\x60' (if verbatim then name else snakeCase name) :=
    fun name => Dialect.quoteName_googleSql (some snakeCase) verbatim name
  have hd : '\x60' ≠ '.' := by decide
  cases verbatim with
  | true => exact quoteName_append_dot hd front back
  | false =>
    have hs : snakeCase (front ++ "." ++ back) = snakeCase front ++ "." ++ snakeCase back :=
      IsSeparator.snakeCase_append (.inl rfl) front back
    simp only [hq, Bool.false_eq_true, if_false, hs, quoteName_append_dot hd]

/-- Names joined by a dot or an underscore are put in snake case one by one. So a dialect with this
style quotes a qualified name part by part, and one that quotes names as they are given does, too. -/
theorem snakeCase_part_by_part :
    (∀ front back : String,
      snakeCase (front ++ "." ++ back) = snakeCase front ++ "." ++ snakeCase back ∧
        snakeCase (front ++ "_" ++ back) = snakeCase front ++ "_" ++ snakeCase back) ∧
    ∀ (verbatim : Bool) (name : String),
      let quote := (Dialect.googleSql (some snakeCase)).quoteName verbatim
      quote name = String.intercalate "." ((nameParts name).map quote) := by
  constructor
  · intro front back
    exact ⟨IsSeparator.snakeCase_append (.inl rfl) front back,
      IsSeparator.snakeCase_append (.inr rfl) front back⟩
  · intro verbatim name
    exact eq_intercalate_nameParts (Dialect.quoteName_snakeCase_append_dot verbatim) name

end BoundSql
