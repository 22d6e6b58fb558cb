import BoundSql.Proofs.ReadableTypes

/-!
# Texts of types

Every type has a text of its own, well formed or not: the name of a code ends at the first bracket, and
what follows is the text of the element type. A text has no blanks, so reading takes it level by level as
it was written and finds the type of that text or none. It stops exactly at the levels that are not well
formed, because there is no name for an array without an element type, nor for any other code with one.
-/

namespace BoundSql

private theorem Text.trim_of_tight {text : List Char} (h : Tight text) : trim text = text := by
  have hl : text.reverse.head?.any isBlank = false := by
    rw [List.head?_reverse]
    exact h.2
  rw [trim, dropWhile_of_tight h.1, dropWhile_of_tight hl, List.reverse_reverse]

private theorem Text.tight_of_not_blank {text : List Char} (h : ∀ c ∈ text, isBlank c = false) :
    Tight text := by
  constructor
  · cases hc : text.head? with
    | none => rfl
    | some c => exact h c (List.mem_of_head? hc)
  · cases hc : text.getLast? with
    | none => rfl
    | some c => exact h c (List.mem_of_getLast? hc)

/-- A separator that is in neither front part tells where they end. -/
theorem append_cons_inj_of_notMem_front {α : Type} {mark : α} {front other back rest : List α}
    (hf : mark ∉ front) (ho : mark ∉ other) (h : front ++ mark :: back = other ++ mark :: rest) :
    front = other ∧ back = rest := by
  induction front generalizing other with
  | nil =>
    cases other with
    | nil => exact ⟨rfl, (List.cons.inj h).2⟩
    | cons d ds =>
      have hd : mark = d := (List.cons.inj h).1
      exact absurd (hd ▸ List.mem_cons_self) ho
  | cons c cs ih =>
    cases other with
    | nil =>
      have hc : c = mark := (List.cons.inj h).1
      exact absurd (hc ▸ List.mem_cons_self) hf
    | cons d ds =>
      obtain ⟨rfl, ht⟩ := List.cons.inj h
      obtain ⟨rfl, hb⟩ := ih (List.not_mem_of_not_mem_cons hf) (List.not_mem_of_not_mem_cons ho) ht
      exact ⟨rfl, hb⟩

namespace TypeCode

private theorem mem_all (code : TypeCode) : code ∈ all := by
  cases code <;> decide

/-- The name in small letters, as a reader sees it. -/
def smallName (code : TypeCode) : List Char :=
  code.name.toList.map Char.toLower

theorem smallName_inj {code other : TypeCode} (h : code.smallName = other.smallName) :
    code = other := by
  have ha : ∀ c ∈ all, ∀ d ∈ all, c.smallName = d.smallName → c = d := by decide
  exact ha code code.mem_all other other.mem_all h

private theorem bracket_notMem_smallName (code : TypeCode) : '<' ∉ code.smallName := by
  cases code <;> decide

end TypeCode

namespace WireType

open Text

/-- The text in small letters, as a reader sees it. -/
def smallText (type : WireType) : List Char :=
  type.text.toList.map Char.toLower

@[simp] theorem smallText_plain (code : TypeCode) : smallText (.plain code) = code.smallName := rfl

@[simp] theorem smallText_holding (code : TypeCode) (element : WireType) :
    smallText (.holding code element) = code.smallName ++ '<' :: (element.smallText ++ ['>']) := by
  simp [smallText, text, TypeCode.smallName]

/-- Types differ in their texts, even when the case of letters is looked past. -/
theorem smallText_inj {type other : WireType} (h : type.smallText = other.smallText) :
    type = other := by
  induction type generalizing other with
  | plain code =>
    cases other with
    | plain code' => rw [TypeCode.smallName_inj h]
    | holding code' element' =>
      apply absurd _ code.bracket_notMem_smallName
      rw [smallText_plain, smallText_holding] at h
      simp [h]
  | holding code element ih =>
    cases other with
    | plain code' =>
      apply absurd _ code'.bracket_notMem_smallName
      rw [smallText_plain, smallText_holding] at h
      simp [← h]
    | holding code' element' =>
      rw [smallText_holding, smallText_holding] at h
      obtain ⟨hc, he⟩ := append_cons_inj_of_notMem_front code.bracket_notMem_smallName
        code'.bracket_notMem_smallName h
      rw [TypeCode.smallName_inj hc, ih (List.append_cancel_right he)]

private theorem isBlank_of_mem_smallText (type : WireType) :
    ∀ c ∈ type.smallText, isBlank c = false := by
  have hn : ∀ code : TypeCode, ∀ c ∈ code.smallName, isBlank c = false := by
    intro code c hc
    have ha : (code.smallName.all fun c => !isBlank c) = true := by
      cases code <;> decide
    simpa using List.all_eq_true.mp ha c hc
  induction type with
  | plain code => exact hn code
  | holding code element ih =>
    simp only [smallText_holding, List.forall_mem_append, List.forall_mem_cons]
    exact ⟨hn code, by decide, ih, by decide, by simp⟩

/-- A name without blanks is read only as the type of which it is the text. -/
theorem smallText_of_ofLowered {shown lowered : List Char} {type : WireType}
    (hb : ∀ c ∈ lowered, isBlank c = false) (h : ofLowered shown lowered = .ok type) :
    type.smallText = lowered := by
  revert hb
  refine ofLowered_induction
    (motive := fun lowered type => (∀ c ∈ lowered, isBlank c = false) → type.smallText = lowered)
    ?scalar ?array h
  case scalar =>
    intro code _ _
    exact smallText_plain code
  case array =>
    intro body element ih hb
    simp only [List.forall_mem_append] at hb
    have ht : trim body = body := trim_of_tight (tight_of_not_blank hb.1.2)
    rw [ht] at ih
    rw [array, smallText_holding, ih hb.1.2]
    simp only [List.append_assoc]
    rfl

/-- A text is read as its own type or not at all. -/
theorem eq_of_ofName_text {type other : WireType} (h : ofName type.text = .ok other) :
    other = type := by
  obtain ⟨-, hl⟩ := (ofName_eq_ok_iff []).mp h
  have hb := type.isBlank_of_mem_smallText
  have ht : trim (type.text.toList.map Char.toLower) = type.smallText :=
    trim_of_tight (tight_of_not_blank hb)
  rw [ht] at hl
  exact smallText_inj (smallText_of_ofLowered hb hl)

theorem ofName_text_eq_ok_iff {type other : WireType} :
    ofName type.text = .ok other ↔ other = type ∧ type.WellFormed := by
  constructor
  · intro h
    have he := eq_of_ofName_text h
    exact ⟨he, he ▸ wellFormed_of_ofName h⟩
  · rintro ⟨rfl, hw⟩
    exact ofName_text hw

/-- No two types have the same text. The text of a type is read back as that type exactly if the type is
well formed; otherwise the text is no name of a type, neither of this one nor of another. -/
theorem text_eq_text_iff_and_read_back (type other : WireType) :
    (type.text = other.text ↔ type = other) ∧
      (ofName type.text = .ok other ↔ other = type ∧ type.WellFormed) ∧
      ((∃ shown, ofName type.text = .error (.unknownName shown)) ↔ ¬ type.WellFormed) := by
  refine ⟨⟨fun h => ?same, congrArg text⟩, ofName_text_eq_ok_iff, ?refused, fun hw => ?unread⟩
  case same =>
    apply smallText_inj
    rw [smallText, smallText, h]
  case refused =>
    rintro ⟨shown, hs⟩ hw
    rw [ofName_text hw] at hs
    cases hs
  case unread =>
    rcases ofName_ok_or_error type.text with ⟨read, hr⟩ | hs
    · exact absurd (ofName_text_eq_ok_iff.mp hr).2 hw
    · exact hs

end WireType

end BoundSql
