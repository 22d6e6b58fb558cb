import BoundSql.Proofs.NameReading
import BoundSql.Proofs.QuotedText

/-!
# Reading quoted strings back

A reader takes a quoted string from the front of a text: a doubled quote inside is one quote, and a
quote by itself ends the string. It reads a text exactly if a quotation stands there and no quote
behind it. So the path in a JSON call ends where the call goes on, whatever quotes are in the path.
-/

namespace BoundSql

namespace Text

/-- Reads a quoted string from the front of a text: what it says, and what follows it. -/
def readString (text : String) : Option (String × String) :=
  match text.toList with
  | [] => none
  | c :: inside =>
    if c = '\x27' then
      (readInside '\x27' inside).map fun (said, after) => (String.ofList said, String.ofList after)
    else none

/-- A part is read exactly from the text that says it with delimiters doubled. The delimiter that ends
it is the last of its run. -/
theorem readInside_eq_some_iff {delimiter : Char} {text part after : List Char} :
    readInside delimiter text = some (part, after) ↔
      text = part.flatMap (doubled delimiter) ++ delimiter :: after ∧ delimiter ∉ after.head? := by
  constructor
  · intro h
    fun_induction readInside delimiter text generalizing part after with
    | case1 => cases h
    | case2 =>
      cases h
      simp
    | case3 rest ih =>
      obtain ⟨⟨part', after'⟩, hr, he⟩ := Option.map_eq_some_iff.mp h
      cases he
      obtain ⟨rfl, ha⟩ := ih hr
      exact ⟨by simp [doubled], ha⟩
    | case4 d more hd =>
      cases h
      exact ⟨rfl, by simpa using hd⟩
    | case5 c rest hc ih =>
      obtain ⟨⟨part', after'⟩, hr, he⟩ := Option.map_eq_some_iff.mp h
      cases he
      obtain ⟨rfl, ha⟩ := ih hr
      exact ⟨by simp [doubled, hc], ha⟩
  · rintro ⟨rfl, ha⟩
    exact readInside_flatMap_doubled ha part

private theorem toList_quoteString (text : String) :
    (quoteString text).toList = '\x27' :: text.toList.flatMap (doubled '\x27') ++ ['\x27'] := by
  rw [quoteString, String.toList_ofList]
  rfl

/-- What is read is a quotation, and the quote that ends it is not doubled by what follows. -/
theorem readString_eq_some_iff {text said after : String} :
    readString text = some (said, after) ↔
      text = quoteString said ++ after ∧ '\x27' ∉ after.toList.head? := by
  have hq : text = quoteString said ++ after ↔
      text.toList = '\x27' :: (said.toList.flatMap (doubled '\x27') ++ '\x27' :: after.toList) := by
    rw [← String.toList_inj, String.toList_append, toList_quoteString]
    simp
  rw [hq, readString]
  cases text.toList with
  | nil => simp
  | cons c inside =>
    by_cases hc : c = '\x27'
    · subst hc
      simp only [if_true, List.cons_inj_right, ← readInside_eq_some_iff, Option.map_eq_some_iff]
      constructor
      · rintro ⟨⟨part, rest⟩, hr, he⟩
        cases he
        simpa using hr
      · intro hr
        exact ⟨_, hr, by simp⟩
    · simp [hc]

/-- A quotation is read up to its end, whatever follows but a quote. -/
theorem readString_quoteString_append (text : String) {rest : String}
    (h : '\x27' ∉ rest.toList.head?) : readString (quoteString text ++ rest) = some (text, rest) :=
  readString_eq_some_iff.mpr ⟨rfl, h⟩

theorem quoteString_inj {text other : String} (h : quoteString text = quoteString other) :
    text = other := by
  have hr : ∀ said, readString (quoteString said ++ "") = some (said, "") :=
    fun said => readString_quoteString_append said (by simp)
  have ht := hr text
  rw [h, hr other] at ht
  exact (congrArg Prod.fst (Option.some.inj ht)).symm

end Text

private theorem Template.text_beq_text (text other : String) :
    (([.text text] : Template) == [.text other]) = (text == other) := by
  have hs : (Piece.text text == .text other) = (text == other) := by
    change Piece.same _ _ = _
    rw [Piece.same]
  rw [List.cons_beq_cons, hs, List.nil_beq_eq, List.isEmpty_nil, Bool.and_true]

namespace GoogleSql.JsonCall

open Text

theorem template_eq (call : JsonCall) (expression path : String) :
    call.template expression path =
      [.text (call.opening expression ++ quoteString path ++ call.closing)] := by
  cases call <;> rfl

private theorem quote_notMem_head?_closing (call : JsonCall) (rest : String) :
    '\x27' ∉ (call.closing ++ rest).toList.head? := by
  cases call <;> simp [closing]

/-- A call is its own text around the expression and one quotation. Read from its first quote on, the
quotation says the path and ends exactly where the text of the call goes on, whatever stands behind the
call. So calls on one expression are equal only if they have the same path. -/
theorem path_read_back (call : JsonCall) (expression path : String) :
    ∃ quotation,
      call.template expression path =
          [.text (call.opening expression ++ quotation ++ call.closing)] ∧
        (∀ rest, readString (quotation ++ (call.closing ++ rest)) = some (path, call.closing ++ rest)) ∧
        ∀ other, call.template expression path == call.template expression other ↔ path = other := by
  refine ⟨quoteString path, call.template_eq expression path, fun rest => ?_, fun other => ?_⟩
  · exact readString_quoteString_append path (call.quote_notMem_head?_closing rest)
  · rw [template_eq, template_eq, Template.text_beq_text, beq_iff_eq, String.append_left_inj,
      String.append_right_inj]
    exact ⟨quoteString_inj, congrArg quoteString⟩

/-- The quotes of a path stand beside those around it, at both ends. -/
example : readString "\x27\x27\x27a\x27\x27\x27\x27\x27), FALSE)" = some ("\x27a\x27\x27", "), FALSE)") := by
  cbv

end GoogleSql.JsonCall

end BoundSql
