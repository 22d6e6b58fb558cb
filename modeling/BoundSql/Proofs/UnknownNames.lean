import BoundSql.Proofs.LowerCaseParts

/-!
# Names that are unknown

A name that is read as no type is reported by the part at which reading stops: the name itself, or what
stands inside so many layers of `array<…>`. The name itself is reported as it is written. Inside brackets
the part is reported in lower case, because lower case was taken of everything around it, and so the
report may be text that nobody wrote.
-/

namespace BoundSql

namespace Text

def lowered (text : String) : String :=
  String.ofList (lowerCase text.toList)

theorem toList_lowered (text : String) : (lowered text).toList = lowerCase text.toList :=
  String.toList_ofList

end Text

namespace WireType

open Text

section Opening

variable {opening inner : List Char} (ho : opening.map Char.toLower = "array<".toList)

include ho

private theorem lowerCase_opening_append (tail : List Char) :
    lowerCase (opening ++ tail) = "array<".toList ++ lowerCase tail := by
  have hs : "array<".toList = "array".toList ++ ['<'] := by decide
  rw [hs] at ho
  obtain ⟨shell, bracket, rfl, hshell, hbracket⟩ := List.map_eq_append_iff.mp ho
  obtain ⟨c, rfl, hc⟩ := List.map_eq_singleton_iff.mp hbracket
  have hc : c = '<' := eq_of_toLower_eq rfl hc
  have hp : ∀ d ∈ shell, isPlain d = true := by
    apply isPlain_of_map_toLower
    rw [hshell]
    exact List.all_eq_true.mp (by decide)
  have hl : lowerCase shell = "array".toList := by
    rw [lowerCase, lowerCaseAfter_of_isPlain hp, hshell]
  rw [hc, List.append_assoc, List.singleton_append, lowerCase_cut (by decide), hl]
  rfl

private theorem tight_brackets : Tight (opening ++ inner ++ ['>']) := by
  obtain ⟨c, rest, rfl, hc, -⟩ := List.map_eq_cons_iff.mp ho
  constructor
  · change isBlank c = false
    rw [← isBlank_toLower, hc]
    decide
  · rw [List.getLast?_concat]
    rfl

end Opening

private theorem lowerCase_append_bracket (inner : List Char) :
    lowerCase (inner ++ ['>']) = lowerCase inner ++ ['>'] :=
  lowerCase_cut (by decide) inner []

/-- A text whose lower case ends in a bracket ends in that bracket. -/
theorem exists_append_bracket {text body : List Char} (h : lowerCase text = body ++ ['>']) :
    ∃ inner, text = inner ++ ['>'] ∧ body = lowerCase inner := by
  rcases List.eq_nil_or_concat text with rfl | ⟨inner, c, rfl⟩
  · exact absurd h (by simp [lowerCase, lowerCaseAfter])
  · rw [List.concat_eq_append] at h ⊢
    obtain ⟨front, piece, hp, he⟩ := exists_last_piece [] inner c
    have hm : '>' ∈ piece := by
      have hl := congrArg List.getLast? (he.symm.trans h)
      rw [List.getLast?_concat, List.getLast?_append, List.getLast?_eq_some_getLast hp.ne_nil,
        Option.some_or, Option.some_inj] at hl
      rw [← hl]
      exact List.getLast_mem hp.ne_nil
    have hc : c = '>' := eq_of_toLower_eq rfl (hp.eq_singleton hm (by decide) (by decide)).2
    rw [hc, lowerCase_append_bracket] at h
    exact ⟨inner, by rw [hc], (List.append_cancel_right h).symm⟩

/-- Brackets are seen in the lower case of a text exactly if they are in the text, and what is seen
between them is the lower case of what is between them. -/
theorem arrayBody?_lowerCase_eq_some_iff {text body : List Char} :
    arrayBody? (lowerCase text) = some body ↔
      ∃ opening inner, text = opening ++ inner ++ ['>'] ∧
        opening.map Char.toLower = "array<".toList ∧ body = lowerCase inner := by
  rw [arrayBody?_eq_some_iff, List.append_assoc]
  constructor
  · intro h
    have hn : ∀ d ∈ "array<".toList, isNameChar d = true := List.all_eq_true.mp (by decide)
    obtain ⟨opening, tail, rfl, ho⟩ := exists_front_of_lowerCaseAfter hn (by decide) h
    rw [lowerCase_opening_append ho] at h
    obtain ⟨inner, rfl, hb⟩ := exists_append_bracket (List.append_cancel_left h)
    exact ⟨opening, inner, (List.append_assoc ..).symm, ho, hb⟩
  · rintro ⟨opening, inner, rfl, ho, rfl⟩
    rw [List.append_assoc, lowerCase_opening_append ho, lowerCase_append_bracket]

/-- The name is `array<…>` around the inner text, in any case of ASCII letters and between blanks. -/
def Brackets (name inner : String) : Prop :=
  ∃ before opening after, name = before ++ (opening ++ inner ++ ">") ++ after ∧ Blank before ∧
    Blank after ∧ SameLetters opening "array<"

theorem elementName?_eq_some_iff {name body : String} :
    elementName? name = some body ↔ ∃ inner, Brackets name inner ∧ body = lowered inner := by
  rw [elementName?, Option.map_eq_some_iff]
  simp only [arrayBody?_lowerCase_eq_some_iff]
  constructor
  · rintro ⟨_, ⟨opening, inner, ht, ho, rfl⟩, rfl⟩
    obtain ⟨before, after, hn, hb, ha⟩ := exists_blanks_around_trim name.toList
    refine ⟨.ofList inner, ⟨.ofList before, .ofList opening, .ofList after, ?_, ?_, ?_, ?_⟩, ?_⟩
    · rw [← String.toList_inj, hn, ht]
      simp
    · simpa [Blank] using hb
    · simpa [Blank] using ha
    · rw [SameLetters, String.toList_ofList, ho]
      rfl
    · rw [lowered, String.toList_ofList]
  · rintro ⟨inner, ⟨before, opening, after, rfl, hb, ha, ho⟩, rfl⟩
    have ho : opening.toList.map Char.toLower = "array<".toList := ho
    refine ⟨_, ⟨opening.toList, inner.toList, ?_, ho, rfl⟩, rfl⟩
    simp only [String.toList_append]
    exact trim_between hb ha (by simp) (tight_brackets ho)

theorem Brackets.length_lt {name inner : String} (h : Brackets name inner) :
    inner.length < name.length := by
  obtain ⟨before, opening, after, rfl, -⟩ := h
  have hb : ">".length = 1 := rfl
  simp only [String.length_append, hb]
  omega

theorem Brackets.occurs {name inner : String} (h : Brackets name inner) :
    inner.toList <:+: name.toList := by
  obtain ⟨before, opening, after, rfl, -⟩ := h
  refine ⟨before.toList ++ opening.toList, '>' :: after.toList, ?_⟩
  simp

/-- The text stands inside so many layers of brackets. -/
inductive Nests : Nat → String → String → Prop
  | bare (text : String) : Nests 0 text text
  | array {depth : Nat} {name inner text : String} : Brackets name inner → Nests depth inner text →
      Nests (depth + 1) name text

theorem Nests.occurs {depth : Nat} {name text : String} (h : Nests depth name text) :
    text.toList <:+: name.toList := by
  induction h with
  | bare text => exact List.infix_refl _
  | array hb _ ih => exact ih.trans hb.occurs

/-- The text is neither brackets around another one nor read as a type. -/
def Unread (text : String) : Prop :=
  (∀ inner, ¬ Brackets text inner) ∧ ∀ type, ofName text ≠ .ok type

theorem elementName?_eq_none_iff {text : String} :
    elementName? text = none ↔ ∀ inner, ¬ Brackets text inner := by
  rw [Option.eq_none_iff_forall_ne_some]
  constructor
  · intro h inner hi
    exact h _ (elementName?_eq_some_iff.mpr ⟨inner, hi, rfl⟩)
  · intro h body hs
    obtain ⟨inner, hi, -⟩ := elementName?_eq_some_iff.mp hs
    exact h inner hi

theorem unread_iff {text : String} :
    Unread text ↔ elementName? text = none ∧
      scalarNames.lookup (String.ofList (lowerCase (trim text.toList))) = none := by
  rw [Unread, ← elementName?_eq_none_iff]
  refine and_congr_right fun hn => ?_
  rw [ofName_eq, hn]
  cases scalarNames.lookup (String.ofList (lowerCase (trim text.toList))) <;> simp

theorem ofName_of_unread {text : String} (h : Unread text) :
    ofName text = .error (.unknownName text) := by
  obtain ⟨hn, hl⟩ := unread_iff.mp h
  rw [ofName_eq, hn, hl]

private theorem lowerCase_trim_lowered (text : String) :
    lowerCase (trim (lowered text).toList) = lowerCase (trim text.toList) := by
  rw [toList_lowered, trim_lowerCase, lowerCase_of_subset (List.Subset.refl _)]

private theorem elementName?_lowered (text : String) :
    elementName? (lowered text) = elementName? text := by
  rw [elementName?, lowerCase_trim_lowered, elementName?]

theorem ofName_lowered_eq_ok_iff {text : String} {type : WireType} :
    ofName (lowered text) = .ok type ↔ ofName text = .ok type := by
  rw [ofName, lowerCase_trim_lowered, ofLowered_ok_congr _ text.toList, ofName]

theorem unread_lowered_iff {text : String} : Unread (lowered text) ↔ Unread text := by
  rw [unread_iff, unread_iff, elementName?_lowered, lowerCase_trim_lowered]

/-- Inside brackets reading goes on in lower case. -/
theorem ofName_of_brackets {name inner : String} (h : Brackets name inner) :
    ofName name = (ofName (lowered inner)).map array := by
  rw [ofName_eq, elementName?_eq_some_iff.mpr ⟨inner, h, rfl⟩]

private theorem ofName_lowered_of_brackets {name inner : String} (h : Brackets name inner) :
    ofName (lowered name) = (ofName (lowered inner)).map array := by
  rw [ofName_eq, elementName?_lowered, elementName?_eq_some_iff.mpr ⟨inner, h, rfl⟩]

/-- In lower case a name is reported by the lower case of the part at which reading stops. -/
theorem Nests.ofName_lowered {depth : Nat} {name text : String} (h : Nests depth name text)
    (hu : Unread text) : ofName (lowered name) = .error (.unknownName (lowered text)) := by
  induction h with
  | bare text => exact ofName_of_unread (unread_lowered_iff.mpr hu)
  | array hb _ ih =>
    rw [ofName_lowered_of_brackets hb, ih hu]
    rfl

theorem Nests.ofName_eq {depth : Nat} {name text : String} (h : Nests depth name text)
    (hu : Unread text) :
    ofName name = .error (.unknownName (if depth = 0 then text else lowered text)) := by
  cases h with
  | bare => exact ofName_of_unread hu
  | array hb hi =>
    rw [ofName_of_brackets hb, hi.ofName_lowered hu]
    rfl

/-- Reading stops somewhere in every name that is read as no type. -/
theorem exists_nests_of_not_ok {name : String} (h : ∀ type, ofName name ≠ .ok type) :
    ∃ depth text, Nests depth name text ∧ Unread text := by
  -- on the name as it is written: what is inside its brackets is shorter, and it is not read either
  induction name using (measure String.length).wf.induction with
  | h name ih =>
    by_cases hb : ∃ inner, Brackets name inner
    · obtain ⟨inner, hi⟩ := hb
      have hinner : ∀ type, ofName inner ≠ .ok type := by
        intro type ht
        apply h type.array
        rw [ofName_of_brackets hi, ofName_lowered_eq_ok_iff.mpr ht]
        rfl
      obtain ⟨depth, text, hn, hu⟩ := ih inner hi.length_lt hinner
      exact ⟨depth + 1, text, .array hi hn, hu⟩
    · exact ⟨0, name, .bare name, not_exists.mp hb, h⟩

theorem ofName_eq_error_iff {name shown : String} :
    ofName name = .error (.unknownName shown) ↔
      ∃ depth text, Nests depth name text ∧ Unread text ∧
        shown = if depth = 0 then text else lowered text := by
  constructor
  · intro h
    have hr : ∀ type, ofName name ≠ .ok type := by
      intro type ht
      rw [h] at ht
      cases ht
    obtain ⟨depth, text, hn, hu⟩ := exists_nests_of_not_ok hr
    rw [hn.ofName_eq hu] at h
    cases h
    exact ⟨depth, text, hn, hu, rfl⟩
  · rintro ⟨depth, text, hn, hu, rfl⟩
    exact hn.ofName_eq hu

/-- A name is reported as unknown exactly if reading stops somewhere in it, and then the report is the
part where it stops: the name itself as it is written, and a part inside brackets in lower case. So the
part is reported as it is written exactly if no brackets are around it or it is in lower case already,
and a name that is in lower case or has no brackets is reported by text that occurs in it. -/
theorem ofName_reports_part (name shown : String) :
    (ofName name = .error (.unknownName shown) ↔
      ∃ depth text, Nests depth name text ∧ Unread text ∧
        shown = if depth = 0 then text else lowered text) ∧
    (∀ depth text, Nests depth name text → Unread text →
      ofName name = .error (.unknownName shown) →
        text.toList <:+: name.toList ∧ (shown = text ↔ depth = 0 ∨ lowered text = text)) ∧
    ((∀ inner, ¬ Brackets name inner) ∨ lowered name = name →
      ofName name = .error (.unknownName shown) → shown.toList <:+: name.toList) := by
  refine ⟨ofName_eq_error_iff, ?part, ?verbatim⟩
  case part =>
    intro depth text hn hu h
    rw [hn.ofName_eq hu] at h
    cases h
    refine ⟨hn.occurs, ?_⟩
    by_cases hd : depth = 0 <;> simp [hd]
  case verbatim =>
    rintro hl h
    obtain ⟨depth, text, hn, hu, rfl⟩ := ofName_eq_error_iff.mp h
    split
    · exact hn.occurs
    · next hd =>
      rcases hl with hb | hl
      · cases hn with
        | bare => exact absurd rfl hd
        | array hi => exact absurd hi (hb _)
      · have hs : text.toList ⊆ lowerCase name.toList := by
          rw [← toList_lowered, hl]
          exact hn.occurs.subset
        rw [toList_lowered, lowerCase_of_subset hs]
        exact hn.occurs

/-- Two layers of brackets with blanks between them, first in capitals and then in lower case. -/
theorem ofName_reports_part_inside :
    Nests 2 "ARRAY< array<Int 32>\t>" "Int 32" ∧ Unread "Int 32" ∧ lowered "Int 32" ≠ "Int 32" ∧
      ofName "ARRAY< array<Int 32>\t>" = .error (.unknownName "int 32") ∧
      ("Int 32".toList <:+: "ARRAY< array<Int 32>\t>".toList) ∧
      ofName "array< array<int 32>\t>" = .error (.unknownName "int 32") ∧
      ("int 32".toList <:+: "array< array<int 32>\t>".toList) := by
  have hinner : Brackets " array<Int 32>\t" "Int 32" :=
    ⟨" ", "array<", "\t", by decide, by decide, by decide, by decide⟩
  have hname : Brackets "ARRAY< array<Int 32>\t>" " array<Int 32>\t" :=
    ⟨"", "ARRAY<", "", by decide, by decide, by decide, by decide⟩
  have hn : Nests 2 "ARRAY< array<Int 32>\t>" "Int 32" := .array hname (.array hinner (.bare _))
  have hu : Unread "Int 32" := unread_iff.mpr (by decide +kernel)
  have hpart : lowered "Int 32" = "int 32" := by decide +kernel
  have hsmall : lowered "ARRAY< array<Int 32>\t>" = "array< array<int 32>\t>" := by decide +kernel
  have hl : lowered "array< array<int 32>\t>" = "array< array<int 32>\t>" := by decide +kernel
  have hr : ofName "ARRAY< array<Int 32>\t>" = .error (.unknownName "int 32") :=
    (ofName_reports_part _ _).1.mpr ⟨2, _, hn, hu, hpart.symm⟩
  have hrl : ofName "array< array<int 32>\t>" = .error (.unknownName "int 32") := by
    rw [← hsmall, hn.ofName_lowered hu, hpart]
  obtain ⟨hi, hwritten⟩ := (ofName_reports_part _ _).2.1 2 _ hn hu hr
  refine ⟨hn, hu, fun h => ?_, hr, hi, hrl, (ofName_reports_part _ _).2.2 (.inr hl) hrl⟩
  exact absurd (hwritten.mpr (.inr h)) (by decide)

/-- Inside brackets a capital is reported as a small letter, and that text is not in the name. -/
theorem ofName_reports_lowered :
    ofName "array<Foo>" = .error (.unknownName "foo") ∧ ¬ "foo".toList <:+: "array<Foo>".toList := by
  have hb : Brackets "array<Foo>" "Foo" :=
    ⟨"", "array<", "", by decide, by decide, by decide, by decide⟩
  have hu : Unread "Foo" := unread_iff.mpr (by decide +kernel)
  have hl : lowered "Foo" = "foo" := by decide +kernel
  refine ⟨?_, fun h => ?_⟩
  · rw [(Nests.array hb (.bare _)).ofName_eq hu, if_neg (by decide), hl]
  · have hf : 'f' ∈ "array<Foo>".toList := h.subset (by decide)
    exact absurd hf (by decide)

end WireType

end BoundSql
