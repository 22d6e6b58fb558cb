import BoundSql.Proofs.LowerCasing
import BoundSql.WireType

/-!
# Names that are read as types

A name is read exactly if it spells a type: the name of a scalar type or `array<…>`, in any case of
ASCII letters and with blanks around it, where the text between the brackets is itself such a name. Lower
case is taken of the whole name before it is taken apart, and yet every level is read as if it were a
name by itself.
-/

namespace BoundSql

namespace Text

theorem exists_blanks_around_trim (text : List Char) :
    ∃ before after, text = before ++ trim text ++ after ∧ (∀ c ∈ before, isBlank c = true) ∧
      ∀ c ∈ after, isBlank c = true := by
  let rest := text.dropWhile isBlank
  have hr : rest.reverse.takeWhile isBlank ++ (trim text).reverse = rest.reverse := by
    rw [trim, List.reverse_reverse, List.takeWhile_append_dropWhile]
  refine ⟨text.takeWhile isBlank, (rest.reverse.takeWhile isBlank).reverse, ?_, ?_, ?_⟩
  · have hs : rest = trim text ++ (rest.reverse.takeWhile isBlank).reverse := by
      rw [← List.reverse_inj, List.reverse_append, List.reverse_reverse]
      exact hr.symm
    rw [List.append_assoc, ← hs, List.takeWhile_append_dropWhile]
  · exact fun c hc => List.all_eq_true.mp List.all_takeWhile c hc
  · intro c hc
    exact List.all_eq_true.mp List.all_takeWhile c (List.mem_reverse.mp hc)

private theorem trim_subset (text : List Char) : trim text ⊆ text := by
  obtain ⟨before, after, ht, -⟩ := exists_blanks_around_trim text
  intro c hc
  rw [ht]
  simp [hc]

/-- What holds of blanks holds of a text as soon as it holds of the trimmed one. -/
theorem forall_mem_of_trim {P : Char → Prop} (hb : ∀ c, isBlank c = true → P c) {text : List Char}
    (h : ∀ c ∈ trim text, P c) : ∀ c ∈ text, P c := by
  obtain ⟨before, after, ht, hbefore, hafter⟩ := exists_blanks_around_trim text
  rw [ht]
  simp only [List.forall_mem_append]
  exact ⟨⟨fun c hc => hb c (hbefore c hc), h⟩, fun c hc => hb c (hafter c hc)⟩

/-- The text has no blank at either end. -/
def Tight (text : List Char) : Prop :=
  text.head?.any isBlank = false ∧ text.getLast?.any isBlank = false

theorem dropWhile_of_tight {text : List Char} (h : text.head?.any isBlank = false) :
    text.dropWhile isBlank = text := by
  cases text with
  | nil => rfl
  | cons c rest =>
    have hc : isBlank c = false := h
    rw [List.dropWhile_cons, hc]
    rfl

/-- Blanks around a tight text are what is trimmed. -/
theorem trim_between {before core after : List Char} (hb : ∀ c ∈ before, isBlank c = true)
    (ha : ∀ c ∈ after, isBlank c = true) (hn : core ≠ []) (ht : Tight core) :
    trim (before ++ core ++ after) = core := by
  have hh : (core ++ after).head?.any isBlank = false := by
    obtain ⟨c, rest, rfl⟩ := List.exists_cons_of_ne_nil hn
    exact ht.1
  have hl : core.reverse.head?.any isBlank = false := by
    rw [List.head?_reverse]
    exact ht.2
  have har : ∀ c ∈ after.reverse, isBlank c = true := fun c hc => ha c (List.mem_reverse.mp hc)
  rw [trim, List.append_assoc, List.dropWhile_append_of_pos hb, dropWhile_of_tight hh,
    List.reverse_append, List.dropWhile_append_of_pos har, dropWhile_of_tight hl,
    List.reverse_reverse]

private theorem trim_map {f : Char → Char} (h : ∀ c, isBlank (f c) = isBlank c) (text : List Char) :
    trim (text.map f) = (trim text).map f := by
  have hf : isBlank ∘ f = isBlank := funext h
  simp only [trim, List.dropWhile_map, hf, ← List.map_reverse]

def Blank (s : String) : Prop :=
  ∀ c ∈ s.toList, isBlank c = true

instance (s : String) : Decidable (Blank s) :=
  List.decidableBAll (fun c => isBlank c = true) s.toList

private theorem tight_map_iff {f : Char → Char} (h : ∀ c, isBlank (f c) = isBlank c)
    (text : List Char) :
    Tight (text.map f) ↔ Tight text := by
  simp only [Tight, List.head?_map, List.getLast?_map, Option.any_map, h]

end Text

namespace WireType

open Text

theorem arrayBody?_eq_some_iff {name body : List Char} :
    arrayBody? name = some body ↔ name = "array<".toList ++ body ++ ['>'] := by
  constructor
  · intro h
    unfold arrayBody? at h
    split at h
    · next hc =>
      obtain ⟨hp, hl⟩ := Bool.and_eq_true_iff.mp hc
      obtain ⟨rest, rfl⟩ := List.isPrefixOf_iff_prefix.mp hp
      rcases List.eq_nil_or_concat rest with rfl | ⟨inner, last, rfl⟩
      · exact absurd hl (by decide)
      · rw [List.concat_eq_append, ← List.append_assoc, List.getLast?_concat] at hl
        have hb : (inner.concat last).dropLast = body := Option.some.inj h
        rw [List.concat_eq_append, List.dropLast_concat] at hb
        rw [List.concat_eq_append, hb, Option.some.inj (beq_iff_eq.mp hl), List.append_assoc]
    · cases h
  · rintro rfl
    have hc : ("array<".toList.isPrefixOf ("array<".toList ++ body ++ ['>']) &&
        ("array<".toList ++ body ++ ['>']).getLast? == some '>') = true := by
      rw [Bool.and_eq_true, List.isPrefixOf_iff_prefix, List.getLast?_concat, List.append_assoc]
      exact ⟨List.prefix_append _ _, rfl⟩
    rw [arrayBody?, if_pos hc]
    exact congrArg some List.dropLast_concat

theorem ofLowered_of_some {shown lowered body : List Char} (h : arrayBody? lowered = some body) :
    ofLowered shown lowered = (ofLowered body (trim body)).map array := by
  rw [ofLowered]
  split
  · next inner hi =>
    rw [h] at hi
    cases hi
    rfl
  · next hn =>
    rw [h] at hn
    cases hn

theorem ofLowered_of_none {shown lowered : List Char} (h : arrayBody? lowered = none) :
    ofLowered shown lowered =
      match scalarNames.lookup (String.ofList lowered) with
      | some code => .ok (.plain code)
      | none => .error (.unknownName (String.ofList shown)) := by
  rw [ofLowered]
  split
  · next inner hi =>
    rw [h] at hi
    cases hi
  · rfl

private theorem lookup_scalarNames_iff {lowered : List Char} {code : TypeCode} :
    scalarNames.lookup (String.ofList lowered) = some code ↔
      code ≠ .array ∧ lowered = code.name.toList.map Char.toLower := by
  have hn : ∀ entry ∈ scalarNames,
      entry.2 ≠ .array ∧ entry.1.toList = entry.2.name.toList.map Char.toLower := by decide
  constructor
  · intro h
    obtain ⟨before, after, hs, -⟩ := List.lookup_eq_some_iff.mp h
    have hm : (String.ofList lowered, code) ∈ scalarNames := by simp [hs]
    simpa using hn _ hm
  · rintro ⟨hc, rfl⟩
    cases code with
    | array => exact absurd rfl hc
    | _ => rfl

private theorem arrayBody?_lowered_name (code : TypeCode) :
    arrayBody? (code.name.toList.map Char.toLower) = none := by
  cases code <;> decide

/-- A name in lower case is read if it is that of a scalar type, or if what stands between the brackets
of an array is read. -/
theorem ofLowered_eq_ok_iff {shown lowered : List Char} {type : WireType} :
    ofLowered shown lowered = .ok type ↔
      (∃ code, code ≠ .array ∧ lowered = code.name.toList.map Char.toLower ∧ type = .plain code) ∨
        ∃ body element, lowered = "array<".toList ++ body ++ ['>'] ∧
          ofLowered body (trim body) = .ok element ∧ type = element.array := by
  cases hb : arrayBody? lowered with
  | some body =>
    rw [ofLowered_of_some hb]
    have hl := arrayBody?_eq_some_iff.mp hb
    constructor
    · intro h
      cases he : ofLowered body (trim body) with
      | error _ =>
        rw [he] at h
        cases h
      | ok element =>
        rw [he] at h
        cases h
        exact .inr ⟨body, element, hl, he, rfl⟩
    · rintro (⟨code, hc, hn, rfl⟩ | ⟨inner, element, hi, he, rfl⟩)
      · rw [hn, arrayBody?_lowered_name] at hb
        cases hb
      · rw [arrayBody?_eq_some_iff.mpr hi] at hb
        cases hb
        rw [he]
        rfl
  | none =>
    rw [ofLowered_of_none hb]
    constructor
    · intro h
      cases hs : scalarNames.lookup (String.ofList lowered) with
      | none =>
        rw [hs] at h
        cases h
      | some code =>
        rw [hs] at h
        cases h
        obtain ⟨hc, hn⟩ := lookup_scalarNames_iff.mp hs
        exact .inl ⟨code, hc, hn, rfl⟩
    · rintro (⟨code, hc, hn, rfl⟩ | ⟨body, element, hi, -⟩)
      · rw [lookup_scalarNames_iff.mpr ⟨hc, hn⟩]
      · rw [arrayBody?_eq_some_iff.mpr hi] at hb
        cases hb

/-- How an unknown name is shown does not matter to a name that is read. -/
theorem ofLowered_ok_congr (shown other : List Char) {lowered : List Char} {type : WireType} :
    ofLowered shown lowered = .ok type ↔ ofLowered other lowered = .ok type := by
  rw [ofLowered_eq_ok_iff, ofLowered_eq_ok_iff]

/-- Names that are read are those of scalar types, and brackets around what is read once it is trimmed. -/
theorem ofLowered_induction {motive : List Char → WireType → Prop}
    (scalar : ∀ code, code ≠ .array → motive (code.name.toList.map Char.toLower) (.plain code))
    (array : ∀ body element, motive (trim body) element →
      motive ("array<".toList ++ body ++ ['>']) element.array)
    {shown lowered : List Char} {type : WireType} (h : ofLowered shown lowered = .ok type) :
    motive lowered type := by
  induction type generalizing shown lowered with
  | plain code =>
    rcases ofLowered_eq_ok_iff.mp h with ⟨other, hc, rfl, ht⟩ | ⟨body, element, -, -, ht⟩
    · cases ht
      exact scalar code hc
    · cases ht
  | holding code element ih =>
    rcases ofLowered_eq_ok_iff.mp h with ⟨other, -, -, ht⟩ | ⟨body, inner, rfl, hi, ht⟩
    · cases ht
    · cases ht
      exact array body element (ih hi)

/-- A name that is read is plain and has no `k`, at any depth. -/
theorem isNameChar_of_ofLowered {shown lowered : List Char} {type : WireType}
    (h : ofLowered shown lowered = .ok type) : ∀ c ∈ lowered, isNameChar c = true := by
  refine ofLowered_induction (motive := fun lowered _ => ∀ c ∈ lowered, isNameChar c = true)
    ?scalar ?array h
  case scalar =>
    intro code _
    apply List.all_eq_true.mp
    cases code <;> decide
  case array =>
    intro body _ ih
    have hopening : ∀ c ∈ "array<".toList, isNameChar c = true := List.all_eq_true.mp (by decide)
    have hclosing : ∀ c ∈ ['>'], isNameChar c = true := List.all_eq_true.mp (by decide)
    simp only [List.forall_mem_append]
    exact ⟨⟨hopening, forall_mem_of_trim (fun _ => isNameChar_of_isBlank) ih⟩, hclosing⟩

/-- A name that is read is not empty and has no blank at either end. -/
theorem tight_of_ofLowered {shown lowered : List Char} {type : WireType}
    (h : ofLowered shown lowered = .ok type) : lowered ≠ [] ∧ Tight lowered := by
  refine ofLowered_induction (motive := fun lowered _ => lowered ≠ [] ∧ Tight lowered)
    ?scalar ?array h
  case scalar =>
    intro code _
    cases code <;> exact ⟨by decide, rfl, rfl⟩
  case array =>
    intro body _ _
    refine ⟨by simp, rfl, ?_⟩
    rw [List.getLast?_concat]
    rfl

/-- A name that is read is plain, and then only the case of ASCII letters is looked past. -/
theorem ofName_eq_ok_iff {name : String} {type : WireType} (shown : List Char) :
    ofName name = .ok type ↔ (∀ c ∈ name.toList, isPlain c = true) ∧
      ofLowered shown (trim (name.toList.map Char.toLower)) = .ok type := by
  rw [ofName, ofLowered_ok_congr name.toList shown, trim_map isBlank_toLower]
  constructor
  · intro h
    have hp := isPlain_of_lowerCaseAfter (isNameChar_of_ofLowered h)
    rw [lowerCase, lowerCaseAfter_of_isPlain hp] at h
    exact ⟨forall_mem_of_trim (fun _ => isPlain_of_isBlank) hp, h⟩
  · rintro ⟨hp, h⟩
    rwa [lowerCase, lowerCaseAfter_of_isPlain fun c hc => hp c (trim_subset _ hc)]

/-- The texts differ at most in the case of ASCII letters. -/
def SameLetters (s t : String) : Prop :=
  s.toList.map Char.toLower = t.toList.map Char.toLower

instance (s t : String) : Decidable (SameLetters s t) :=
  inferInstanceAs (Decidable (s.toList.map Char.toLower = t.toList.map Char.toLower))

/-- What is no small letter is the lower case of itself only. -/
theorem eq_of_toLower_eq {c d : Char} (hd : d.isLower = false) (h : c.toLower = d) : c = d := by
  have ha : ∀ code < 128, (Char.ofNat code).toLower.isLower = false →
      (Char.ofNat code).toLower = Char.ofNat code := by decide
  subst h
  by_cases hc : c.toNat < 128
  · have hl := ha c.toNat hc
    rw [Char.ofNat_toNat] at hl
    exact (hl hd).symm
  · exact (toLower_of_le (Nat.le_of_not_lt hc)).symm

theorem isPlain_of_map_toLower {text : List Char}
    (h : ∀ c ∈ text.map Char.toLower, isNameChar c = true) : ∀ c ∈ text, isPlain c = true := by
  intro c hc
  by_cases ha : c.toNat < 128
  · simp [isPlain, ha]
  · have hl := isPlain_of_isNameChar (h _ (List.mem_map_of_mem hc))
    rwa [toLower_of_le (Nat.le_of_not_lt ha)] at hl

private theorem isPlain_of_blank {s : String} (h : Blank s) : ∀ c ∈ s.toList, isPlain c = true :=
  fun c hc => isPlain_of_isBlank (h c hc)

/-- Blanks around a name are looked past, if the lower case of what they enclose is read. -/
theorem ofName_between {before core after : String} {type : WireType} (hb : Blank before)
    (ha : Blank after) {shown lowered : List Char} (hl : core.toList.map Char.toLower = lowered)
    (ho : ofLowered shown lowered = .ok type) : ofName (before ++ core ++ after) = .ok type := by
  subst hl
  obtain ⟨hn, ht⟩ := tight_of_ofLowered ho
  have hcore : trim (before ++ core ++ after).toList = core.toList := by
    simp only [String.toList_append]
    exact trim_between hb ha (by simpa using hn) ((tight_map_iff isBlank_toLower _).mp ht)
  have hp : ∀ c ∈ core.toList, isPlain c = true := isPlain_of_map_toLower (isNameChar_of_ofLowered ho)
  rw [ofName_eq_ok_iff shown, trim_map isBlank_toLower, hcore]
  refine ⟨?_, ho⟩
  simp only [String.toList_append, List.forall_mem_append]
  exact ⟨⟨isPlain_of_blank hb, hp⟩, isPlain_of_blank ha⟩

theorem ofName_scalar {before core after : String} {code : TypeCode} (hb : Blank before)
    (ha : Blank after) (hc : code ≠ .array) (hs : SameLetters core code.name) :
    ofName (before ++ core ++ after) = .ok (.plain code) := by
  have ho : ofLowered [] (code.name.toList.map Char.toLower) = .ok (.plain code) :=
    ofLowered_eq_ok_iff.mpr (.inl ⟨code, hc, rfl, rfl⟩)
  exact ofName_between hb ha hs ho

theorem ofName_array {before opening inner after : String} {element : WireType} (hb : Blank before)
    (ha : Blank after) (hs : SameLetters opening "array<") (hi : ofName inner = .ok element) :
    ofName (before ++ (opening ++ inner ++ ">") ++ after) = .ok element.array := by
  let body := inner.toList.map Char.toLower
  obtain ⟨-, hbody⟩ := (ofName_eq_ok_iff body).mp hi
  have hl : (opening ++ inner ++ ">").toList.map Char.toLower = "array<".toList ++ body ++ ['>'] := by
    simp only [String.toList_append, List.map_append]
    rw [show opening.toList.map Char.toLower = "array<".toList from hs]
    rfl
  have ho : ofLowered [] ("array<".toList ++ body ++ ['>']) = .ok element.array :=
    ofLowered_eq_ok_iff.mpr (.inr ⟨body, element, rfl, hbody, rfl⟩)
  exact ofName_between hb ha hl ho

/-- A name that is read is that of a scalar type or of an array of what is read between its brackets. -/
theorem exists_parts_of_ofName {name : String} {type : WireType} (h : ofName name = .ok type) :
    ∃ before core after, name = before ++ core ++ after ∧ Blank before ∧ Blank after ∧
      ((∃ code, code ≠ .array ∧ SameLetters core code.name ∧ type = .plain code) ∨
        ∃ opening inner element, core = opening ++ inner ++ ">" ∧ SameLetters opening "array<" ∧
          ofName inner = .ok element ∧ type = element.array) := by
  obtain ⟨hp, hl⟩ := (ofName_eq_ok_iff []).mp h
  rw [trim_map isBlank_toLower] at hl
  obtain ⟨before, after, hn, hb, ha⟩ := exists_blanks_around_trim name.toList
  refine ⟨.ofList before, .ofList (trim name.toList), .ofList after, ?_, ?_, ?_, ?_⟩
  · rw [← String.toList_inj]
    simpa using hn
  · simpa [Blank] using hb
  · simpa [Blank] using ha
  · rcases ofLowered_eq_ok_iff.mp hl with ⟨code, hc, hs, ht⟩ | ⟨body, element, hs, ho, ht⟩
    · refine .inl ⟨code, hc, ?_, ht⟩
      rw [SameLetters, String.toList_ofList, hs]
    · obtain ⟨shell, closing, hcore, hshell, hclosing⟩ := List.map_eq_append_iff.mp hs
      obtain ⟨opening, inner, rfl, hopening, hinner⟩ := List.map_eq_append_iff.mp hshell
      obtain ⟨c, rfl, hbracket⟩ := List.map_eq_singleton_iff.mp hclosing
      have hc : c = '>' := eq_of_toLower_eq rfl hbracket
      have hsub : inner ⊆ name.toList := by
        intro d hd
        rw [hn, hcore]
        simp [hd]
      refine .inr ⟨.ofList opening, .ofList inner, element, ?_, ?_, ?_, ht⟩
      · rw [hcore, hc, String.ofList_append, String.ofList_append]
      · rw [SameLetters, String.toList_ofList, hopening]
        rfl
      · rw [ofName_eq_ok_iff body, String.toList_ofList, hinner]
        exact ⟨fun d hd => hp d (hsub hd), ho⟩

/-- The name that reading goes on with: what stands between the brackets, in lower case already. -/
def elementName? (name : String) : Option String :=
  (arrayBody? (lowerCase (trim name.toList))).map String.ofList

/-- What is between the brackets has its lower case already. -/
theorem lowerCase_trim_of_arrayBody? {text body : List Char}
    (h : arrayBody? (lowerCase text) = some body) : lowerCase (trim body) = trim body := by
  have hs : trim body ⊆ lowerCase text := by
    rw [arrayBody?_eq_some_iff.mp h]
    intro c hc
    simp [trim_subset body hc]
  exact lowerCase_of_subset hs

/-- A name is read level by level: the inner name is trimmed, put in lower case and read by itself, and
it is the one that is reported if it is unknown. -/
theorem ofName_eq (name : String) :
    ofName name =
      match elementName? name with
      | some inner => (ofName inner).map array
      | none =>
        match scalarNames.lookup (String.ofList (lowerCase (trim name.toList))) with
        | some code => .ok (.plain code)
        | none => .error (.unknownName name) := by
  rw [elementName?]
  cases hb : arrayBody? (lowerCase (trim name.toList)) with
  | none =>
    rw [ofName, ofLowered_of_none hb, String.ofList_toList]
    rfl
  | some body =>
    simp only [Option.map_some]
    rw [ofName, ofLowered_of_some hb, ofName, String.toList_ofList, lowerCase_trim_of_arrayBody? hb]

/-- The inner name is shorter than the lower case of the outer one, and it has no other lower case. -/
theorem wellFounded_elementName? : WellFounded fun inner outer => elementName? outer = some inner := by
  let size := fun name : String => (lowerCase (trim name.toList)).length
  refine Subrelation.wf (r := InvImage (· < ·) size) ?_ (InvImage.wf size Nat.lt_wfRel.wf)
  intro inner outer h
  obtain ⟨body, hb, rfl⟩ := Option.map_eq_some_iff.mp h
  calc size (String.ofList body) = (trim body).length := by
        simp only [size, String.toList_ofList, lowerCase_trim_of_arrayBody? hb]
    _ ≤ body.length := length_trim_le body
    _ < size outer := length_lt_of_arrayBody? hb

theorem ofName_ok_or_error (name : String) :
    (∃ type, ofName name = .ok type) ∨ ∃ shown, ofName name = .error (.unknownName shown) := by
  induction name using wellFounded_elementName?.induction with
  | h name ih =>
    rw [ofName_eq]
    cases hi : elementName? name with
    | some inner =>
      rcases ih inner hi with ⟨type, ht⟩ | ⟨shown, hs⟩
      · exact .inl ⟨type.array, congrArg (Except.map array) ht⟩
      · exact .inr ⟨shown, congrArg (Except.map array) hs⟩
    | none =>
      cases hs : scalarNames.lookup (String.ofList (lowerCase (trim name.toList))) with
      | some code => exact .inl ⟨.plain code, rfl⟩
      | none => exact .inr ⟨name, rfl⟩

/-- A name is read as a type exactly if it is, between blanks and in any case of ASCII letters, the name
of that scalar type, or `array<`, a name that is read as the element type, and `>`. Every other name is
reported as unknown. Reading goes on with the inner name as with a name by itself, and so it ends. -/
theorem ofName_eq_ok_iff_spelled (name : String) (type : WireType) :
    (ofName name = .ok type ↔
        ∃ before core after, name = before ++ core ++ after ∧ Blank before ∧ Blank after ∧
          ((∃ code, code ≠ .array ∧ SameLetters core code.name ∧ type = .plain code) ∨
            ∃ opening inner element, core = opening ++ inner ++ ">" ∧ SameLetters opening "array<" ∧
              ofName inner = .ok element ∧ type = element.array)) ∧
      ((∃ other, ofName name = .ok other) ∨ ∃ shown, ofName name = .error (.unknownName shown)) ∧
      (∀ inner, elementName? name = some inner → ofName name = (ofName inner).map array) ∧
      WellFounded fun inner outer => elementName? outer = some inner := by
  refine ⟨⟨exists_parts_of_ofName, ?spelled⟩, ofName_ok_or_error name, ?inner,
    wellFounded_elementName?⟩
  case spelled =>
    rintro ⟨before, core, after, rfl, hb, ha, h⟩
    rcases h with ⟨code, hc, hs, rfl⟩ | ⟨opening, inner, element, rfl, hs, hi, rfl⟩
    · exact ofName_scalar hb ha hc hs
    · exact ofName_array hb ha hs hi
  case inner =>
    intro inner hi
    rw [ofName_eq, hi]

/-- Blanks stand around the inner name too, and the letters are in either case at both levels. -/
theorem ofName_eq_ok_iff_spelled_inside :
    ofName "\tArray< aRRAY<Int64>\u00A0>\u3000" = .ok (.array (.array (.plain .int64))) ∧
      ofName "\tArray< aRRAY<Int64>\u00A0>\u3000" = (ofName " array<int64>\u00A0").map array := by
  have hs : ofName "Int64" = .ok (.plain .int64) := by
    apply (ofName_eq_ok_iff_spelled _ _).1.mpr
    exact ⟨"", "Int64", "", rfl, by decide, by decide, .inl ⟨.int64, by decide, by decide, rfl⟩⟩
  have hi : ofName " aRRAY<Int64>\u00A0" = .ok (.array (.plain .int64)) := by
    apply (ofName_eq_ok_iff_spelled _ _).1.mpr
    refine ⟨" ", "aRRAY<Int64>", "\u00A0", by decide, by decide, by decide, .inr ?_⟩
    exact ⟨"aRRAY<", "Int64", .plain .int64, by decide, by decide, hs, rfl⟩
  constructor
  · apply (ofName_eq_ok_iff_spelled _ _).1.mpr
    refine ⟨"\t", "Array< aRRAY<Int64>\u00A0>", "\u3000", by decide, by decide, by decide, .inr ?_⟩
    exact ⟨"Array<", " aRRAY<Int64>\u00A0", .array (.plain .int64), by decide, by decide, hi, rfl⟩
  · exact (ofName_eq_ok_iff_spelled _ (.plain .int64)).2.2.1 _ rfl

end WireType

end BoundSql
