import BoundSql.Dialect

/-!
# Reading quoted names back

A reader goes through a text from the left: it takes one part between delimiters after the other as
long as a dot stands between them, and inside a part a doubled delimiter for one. Applied to a quoted
name it ends exactly where the quotation ends and finds the parts of the name, whatever follows. So
nothing breaks out of a quotation and nothing is lost in it.
-/

namespace BoundSql.Text

/-- Reads on inside a part: what it says from here on, and what follows the delimiter that ends it. -/
def readInside (delimiter : Char) : List Char → Option (List Char × List Char)
  | [] => none
  | c :: rest =>
    if c = delimiter then
      match rest with
      | [] => some ([], [])
      | d :: more =>
        if d = delimiter then (readInside delimiter more).map fun (part, after) => (d :: part, after)
        else some ([], d :: more)
    else (readInside delimiter rest).map fun (part, after) => (c :: part, after)

section Inside

variable {delimiter : Char}

private theorem readInside_of_ne {c : Char} (hc : c ≠ delimiter) (rest : List Char) :
    readInside delimiter (c :: rest) =
      (readInside delimiter rest).map fun (part, after) => (c :: part, after) := by
  cases rest <;> simp [readInside, hc]

private theorem readInside_delimiter_delimiter (rest : List Char) :
    readInside delimiter (delimiter :: delimiter :: rest) =
      (readInside delimiter rest).map fun (part, after) => (delimiter :: part, after) := by
  simp [readInside]

private theorem readInside_delimiter {after : List Char} (h : delimiter ∉ after.head?) :
    readInside delimiter (delimiter :: after) = some ([], after) := by
  cases after with
  | nil => simp [readInside]
  | cons c rest =>
    have hc : c ≠ delimiter := by simpa using h
    simp [readInside, hc]

private theorem length_lt_of_readInside {text part after : List Char}
    (h : readInside delimiter text = some (part, after)) : after.length < text.length := by
  fun_induction readInside delimiter text generalizing part after with
  | case1 => cases h
  | case2 => cases h; simp
  | case3 rest ih =>
    obtain ⟨⟨part', after'⟩, hr, he⟩ := Option.map_eq_some_iff.mp h
    cases he
    have := ih hr
    simp only [List.length_cons]
    omega
  | case4 => cases h; simp
  | case5 c rest hc ih =>
    obtain ⟨⟨part', after'⟩, hr, he⟩ := Option.map_eq_some_iff.mp h
    cases he
    have := ih hr
    simp only [List.length_cons]
    omega

end Inside

/-- Reads quoted parts with dots between them: the parts, and what follows the last one. -/
def readParts (delimiter : Char) (text : List Char) : Option (List (List Char) × List Char) :=
  match text with
  | [] => none
  | c :: inside =>
    if c = delimiter then
      match _h : readInside delimiter inside with
      | none => none
      | some (part, '.' :: more) =>
        (readParts delimiter more).map fun (parts, after) => (part :: parts, after)
      | some (part, after) => some ([part], after)
    else none
termination_by text.length
decreasing_by
  have := length_lt_of_readInside _h
  simp only [List.length_cons] at this ⊢
  omega

section Steps

variable {delimiter : Char} {inside part : List Char}

private theorem readParts_of_dot {more : List Char}
    (h : readInside delimiter inside = some (part, '.' :: more)) :
    readParts delimiter (delimiter :: inside) =
      (readParts delimiter more).map fun (parts, after) => (part :: parts, after) := by
  rw [readParts, if_pos rfl]
  split
  · next hn => rw [hn] at h; cases h
  · next hs => rw [hs] at h; cases h; rfl
  · next hne hs =>
    rw [hs] at h
    cases h
    exact (hne _ rfl).elim

private theorem readParts_of_ne_dot {after : List Char}
    (h : readInside delimiter inside = some (part, after))
    (ha : '.' ∉ after.head?) : readParts delimiter (delimiter :: inside) = some ([part], after) := by
  rw [readParts, if_pos rfl]
  split
  · next hn => rw [hn] at h; cases h
  · next hs => rw [hs] at h; cases h; simp at ha
  · next hs => rw [hs] at h; cases h; rfl

end Steps

/-- Reads a quoted name from the front of a text. -/
def readName (delimiter : Char) (text : String) : Option (List String × String) :=
  (readParts delimiter text.toList).map fun (parts, after) =>
    (parts.map String.ofList, String.ofList after)

/-- The parts of a qualified name. -/
def nameParts (name : String) : List String :=
  (name.toList.splitOn '.').map String.ofList

def doubled (delimiter c : Char) : List Char :=
  if c = delimiter then [delimiter, delimiter] else [c]

def quotePart (delimiter : Char) (part : List Char) : List Char :=
  delimiter :: part.flatMap (doubled delimiter) ++ [delimiter]

/-- A part is read up to the delimiter that ends it, if what follows does not double that one. -/
theorem readInside_flatMap_doubled {delimiter : Char} {after : List Char}
    (h : delimiter ∉ after.head?) (part : List Char) :
    readInside delimiter (part.flatMap (doubled delimiter) ++ delimiter :: after) =
      some (part, after) := by
  induction part with
  | nil => exact readInside_delimiter h
  | cons c rest ih =>
    by_cases hc : c = delimiter
    · subst hc
      simp [doubled, readInside_delimiter_delimiter, ih]
    · simp [doubled, hc, readInside_of_ne hc, ih]

/-- Each part quoted by itself, with dots between them. -/
def quoteParts (delimiter : Char) (parts : List (List Char)) : List Char :=
  List.intercalate ['.'] (parts.map (quotePart delimiter))

section Parts

variable {delimiter : Char}

private theorem quoteParts_cons_cons (part next : List Char) (rest : List (List Char)) :
    quoteParts delimiter (part :: next :: rest) =
      quotePart delimiter part ++ '.' :: quoteParts delimiter (next :: rest) := by
  simp [quoteParts, List.intercalate_cons_cons]

/-- A character in front of the first part is a character in front of what that part quotes. -/
theorem quoteParts_modifyHead_cons (delimiter c : Char) (part : List Char) (rest : List (List Char)) :
    ∃ inside, quoteParts delimiter (part :: rest) = delimiter :: inside ∧
      quoteParts delimiter ((c :: part) :: rest) = delimiter :: doubled delimiter c ++ inside := by
  cases rest with
  | nil =>
    refine ⟨part.flatMap (doubled delimiter) ++ [delimiter], ?_, ?_⟩ <;> simp [quoteParts, quotePart]
  | cons next rest =>
    refine ⟨part.flatMap (doubled delimiter) ++
      delimiter :: '.' :: quoteParts delimiter (next :: rest), ?_, ?_⟩ <;>
      simp [quoteParts_cons_cons, quotePart]

variable (hd : delimiter ≠ '.')

include hd

private theorem readParts_quoteParts {after : List Char}
    (ha : ∀ c ∈ after.head?, c ≠ delimiter ∧ c ≠ '.')
    {parts : List (List Char)} (hn : parts ≠ []) :
    readParts delimiter (quoteParts delimiter parts ++ after) = some (parts, after) := by
  induction parts with
  | nil => exact absurd rfl hn
  | cons part rest ih =>
    cases rest with
    | nil =>
      have hdelimiter : delimiter ∉ after.head? := fun h => (ha _ h).1 rfl
      have hdot : '.' ∉ after.head? := fun h => (ha _ h).2 rfl
      have hr := readParts_of_ne_dot (readInside_flatMap_doubled hdelimiter part) hdot
      simpa [quoteParts, quotePart] using hr
    | cons next rest =>
      let more := quoteParts delimiter (next :: rest) ++ after
      have hdelimiter : delimiter ∉ ('.' :: more).head? := by simpa using hd.symm
      have hr := readParts_of_dot (readInside_flatMap_doubled hdelimiter part)
      rw [ih (by simp)] at hr
      simpa [quoteParts_cons_cons, quotePart, more] using hr

/-- Quoting a name quotes the parts between its dots one by one. -/
theorem quoteParts_splitOn (name : List Char) :
    quoteParts delimiter (name.splitOn '.') =
      delimiter :: name.flatMap (quotedNameChar delimiter) ++ [delimiter] := by
  induction name with
  | nil => simp [quoteParts, quotePart]
  | cons c rest ih =>
    obtain ⟨part, parts, hs⟩ := List.exists_cons_of_ne_nil (List.splitOn_ne_nil '.' rest)
    rw [hs] at ih
    by_cases hc : c = '.'
    · subst hc
      have hq : quotedNameChar delimiter '.' = [delimiter, '.', delimiter] := by
        simp [quotedNameChar, hd.symm]
      simp [List.splitOn_cons_eq_if_modifyHead, hs, quoteParts_cons_cons, ih, hq, quotePart]
    · have hq : quotedNameChar delimiter c = doubled delimiter c := by
        simp [quotedNameChar, doubled, hc]
      obtain ⟨inside, hi, hm⟩ := quoteParts_modifyHead_cons delimiter c part parts
      have hinside : inside = rest.flatMap (quotedNameChar delimiter) ++ [delimiter] := by
        simpa [hi] using ih
      simp [List.splitOn_cons_eq_if_modifyHead, hs, hc, hm, hinside, hq]

/-- A quoted name is read back with all its parts, and nothing behind it is touched. -/
theorem readName_quoteName_append (name rest : String)
    (hr : ∀ c ∈ rest.toList.head?, c ≠ delimiter ∧ c ≠ '.') :
    readName delimiter (quoteName delimiter name ++ rest) = some (nameParts name, rest) := by
  have hp := readParts_quoteParts hd hr (List.splitOn_ne_nil '.' name.toList)
  have ht : (quoteName delimiter name ++ rest).toList =
      quoteParts delimiter (name.toList.splitOn '.') ++ rest.toList := by
    simp [quoteParts_splitOn hd, quoteName]
  simp [readName, ht, hp, nameParts]

end Parts

theorem nameParts_inj {name other : String} (h : nameParts name = nameParts other) : name = other := by
  have hs : name.toList.splitOn '.' = other.toList.splitOn '.' :=
    (List.map_inj_right fun _ _ => String.ofList_inj.mp).mp h
  have hi := congrArg (List.intercalate ['.']) hs
  rwa [List.intercalate_splitOn, List.intercalate_splitOn, String.toList_inj] at hi

theorem quoteName_inj {delimiter : Char} (hd : delimiter ≠ '.') {name other : String}
    (h : quoteName delimiter name = quoteName delimiter other) : name = other := by
  have hn := readName_quoteName_append hd name "" (by simp)
  rw [h, readName_quoteName_append hd other "" (by simp)] at hn
  exact nameParts_inj (congrArg Prod.fst (Option.some.inj hn)).symm

end BoundSql.Text

namespace BoundSql

open Text

theorem Dialect.quoteName_googleSql (style : Option (String → String)) (verbatim : Bool)
    (name : String) :
    (Dialect.googleSql style).quoteName verbatim name =
      Text.quoteName '\x60' (if verbatim then name else style.elim name (· name)) := by
  cases verbatim <;> cases style <;> rfl

/-- A quotation holds exactly the name that was quoted. Whatever delimiter there is but a dot, and
whatever follows but a delimiter or a dot, reading a quoted name consumes the quotation and gives the
parts of the name, so that different names are quoted differently. In GoogleSQL this is the name in
its style, unless names are quoted as they are given. -/
theorem readName_quoteName :
    (∀ delimiter, delimiter ≠ '.' →
      (∀ name rest : String, (∀ c ∈ rest.toList.head?, c ≠ delimiter ∧ c ≠ '.') →
        readName delimiter (Text.quoteName delimiter name ++ rest) = some (nameParts name, rest)) ∧
      ∀ name other, name ≠ other → Text.quoteName delimiter name ≠ Text.quoteName delimiter other) ∧
    ∀ (style : Option (String → String)) (verbatim : Bool),
      let quote := (Dialect.googleSql style).quoteName verbatim
      let shown name := if verbatim then name else style.elim name (· name)
      (∀ name rest : String, (∀ c ∈ rest.toList.head?, c ≠ '\x60' ∧ c ≠ '.') →
        readName '\x60' (quote name ++ rest) = some (nameParts (shown name), rest)) ∧
      ∀ name other, shown name ≠ shown other → quote name ≠ quote other := by
  refine ⟨fun delimiter hd => ⟨fun name rest hr => ?_, fun name other hne h => ?_⟩, ?_⟩
  · exact readName_quoteName_append hd name rest hr
  · exact hne (quoteName_inj hd h)
  · intro style verbatim quote shown
    have hq : ∀ name, quote name = Text.quoteName '\x60' (shown name) :=
      Dialect.quoteName_googleSql style verbatim
    have hd : '\x60' ≠ '.' := by decide
    constructor
    · intro name rest hr
      rw [hq]
      exact readName_quoteName_append hd (shown name) rest hr
    · intro name other hne h
      rw [hq, hq] at h
      exact hne (quoteName_inj hd h)

/-- Six delimiters stand around the dot of a name that is a dot and a delimiter. Delimiters around a
dot of the name itself do not look like those that the quoting puts there. -/
theorem readName_quoteName_of_delimiters :
    let marked : String → String := fun name => name ++ "\x60."
    let quote := (Dialect.googleSql (some marked)).quoteName false
    Text.quoteName '\x60' ".\x60" = "\x60\x60.\x60\x60\x60\x60" ∧
      readName '\x60' "\x60\x60.\x60\x60\x60\x60 AS t" = some (["", "\x60"], " AS t") ∧
      Text.quoteName '\x60' "a.b" ≠ Text.quoteName '\x60' "a\x60.\x60b" ∧
      readName '\x60' (quote "a" ++ "(") = some (["a\x60", ""], "(") ∧
      quote "a.b" ≠ quote "a\x60.\x60b" := by
  intro marked quote
  have hd := readName_quoteName.1 '\x60' (by decide)
  have hs := readName_quoteName.2 (some marked) false
  have hq : Text.quoteName '\x60' ".\x60" = "\x60\x60.\x60\x60\x60\x60" := by decide
  have hn := hd.1 ".\x60" " AS t" (by simp)
  have hp : nameParts ".\x60" = ["", "\x60"] := by decide
  have hm : nameParts (marked "a") = ["a\x60", ""] := by decide
  rw [hq, hp] at hn
  refine ⟨hq, hn, hd.2 _ _ (by decide), ?_, hs.2 _ _ (by decide)⟩
  rw [← hm]
  exact hs.1 "a" "(" (by simp)

end BoundSql
