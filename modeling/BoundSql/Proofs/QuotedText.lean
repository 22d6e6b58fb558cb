import BoundSql.GoogleSql
import BoundSql.Proofs.GatheredTypes
import BoundSql.Proofs.KeywordRewriting

/-!
# The keyword between quotes

A compiled statement holds a quoted name or a quoted path with its own text rewritten, whatever stands
around it. So it holds the quotation as it was made exactly when `RETURNING` is not a word of the
quoted text.
-/

namespace BoundSql.GoogleSql

open Text

private theorem graveAccent_not_word : isWordChar '\x60' = false := by decide

private theorem apostrophe_not_word : isWordChar '\x27' = false := by decide

theorem ne_of_isWordChar {c d : Char} (hc : isWordChar c = true) (hd : isWordChar d = false) :
    c ≠ d := by
  rintro rfl
  rw [hc] at hd
  cases hd

private theorem mem_quotedNameChar {delimiter c d : Char} (h : d ∈ quotedNameChar delimiter c) :
    d = delimiter ∨ d = c := by
  unfold quotedNameChar at h
  split at h
  · exact .inl (by simpa using h)
  · split at h
    · next hp =>
      subst hp
      simp only [List.mem_cons, List.not_mem_nil, or_false] at h
      rcases h with h | h | h
      · exact .inl h
      · exact .inr h
      · exact .inl h
    · exact .inr (by simpa using h)

private theorem keepsWords_quotedNameChar {delimiter : Char} (hd : isWordChar delimiter = false) :
    KeepsWords (quotedNameChar delimiter) where
  word c hc := by
    have hdot : c ≠ '.' := ne_of_isWordChar hc (by decide)
    simp [quotedNameChar, ne_of_isWordChar hc hd, hdot]
  ne_nil c := by
    unfold quotedNameChar
    split
    · simp
    · split <;> simp
  between c hc d hm := by
    rcases mem_quotedNameChar hm with rfl | rfl
    · exact hd
    · exact hc

private theorem keepsWords_quotedStringChar :
    KeepsWords fun c => if c = '\x27' then ['\x27', '\x27'] else [c] where
  word c hc := if_neg (ne_of_isWordChar hc apostrophe_not_word)
  ne_nil c := by split <;> simp
  between c hc d hm := by
    split at hm
    · have hd : d = '\x27' := by simpa using hm
      rw [hd, apostrophe_not_word]
    · rwa [List.mem_singleton.mp hm]

theorem thenReturn_quoteName (name : String) :
    thenReturn (quoteName '\x60' name) = quoteName '\x60' (thenReturn name) :=
  thenReturn_enquote (keepsWords_quotedNameChar graveAccent_not_word) rfl graveAccent_not_word name

theorem hasReturning_quoteName (name : String) :
    hasReturning (quoteName '\x60' name) = hasReturning name :=
  hasReturning_enquote (keepsWords_quotedNameChar graveAccent_not_word) graveAccent_not_word name

theorem thenReturn_quoteString (text : String) :
    thenReturn (quoteString text) = quoteString (thenReturn text) :=
  thenReturn_enquote keepsWords_quotedStringChar rfl apostrophe_not_word text

theorem hasReturning_quoteString (text : String) :
    hasReturning (quoteString text) = hasReturning text :=
  hasReturning_enquote keepsWords_quotedStringChar apostrophe_not_word text

/-- The text begins and ends between words, so that it never joins what stands around it. -/
structure Enclosed (text : String) : Prop where
  first : ∃ c ∈ text.toList.head?, isWordChar c = false
  last : ∃ c ∈ text.toList.getLast?, isWordChar c = false

namespace Enclosed

variable {quoted : String} (h : Enclosed quoted)

include h

theorem apart_left (front back : String) : Apart front.toList (quoted ++ back).toList := by
  obtain ⟨c, hm, hc⟩ := h.first
  apply Or.inr
  simp [startsInWord, List.head?_append, Option.mem_def.mp hm, hc]

theorem apart_right (back : String) : Apart quoted.toList back.toList := by
  obtain ⟨c, hm, hc⟩ := h.last
  apply Or.inl
  simp [endsInWord, Option.mem_def.mp hm, hc]

/-- The text around a quotation and the quotation are rewritten side by side. -/
theorem thenReturn_append_append (front back : String) :
    thenReturn (front ++ quoted ++ back) = thenReturn front ++ thenReturn quoted ++ thenReturn back := by
  have hl := thenReturn_append (h.apart_left front back)
  have hr := thenReturn_append (h.apart_right back)
  rw [String.append_assoc, hl, hr, String.append_assoc]

theorem kept_iff (front back : String) :
    thenReturn (front ++ quoted ++ back) = thenReturn front ++ quoted ++ thenReturn back ↔
      hasReturning quoted = false := by
  rw [h.thenReturn_append_append, String.append_left_inj, String.append_right_inj,
    thenReturn_eq_self_iff]

end Enclosed

private theorem enclosed_enquote {quote : Char} (hq : isWordChar quote = false)
    (replace : Char → List Char) (text : String) : Enclosed (enquote quote replace text) where
  first := ⟨quote, by simp [enquote], hq⟩
  last := ⟨quote, by simp [enquote, List.getLast?_cons], hq⟩

private theorem enclosed_quoteString (text : String) : Enclosed (quoteString text) :=
  enclosed_enquote apostrophe_not_word _ text

private theorem enclosed_tuple (texts : List String) : Enclosed (tuple texts) where
  first := ⟨'(', by simp [tuple], by decide⟩
  last := ⟨')', by simp [tuple, List.getLast?_cons], by decide⟩

/-- Names with commas between them. -/
def nameList (names : List String) : Template :=
  List.intersperse (.text ", ") (names.map .name)

/-- A call that reads the value at a quoted path, or tells whether there is one. -/
inductive JsonCall where
  | value
  | query
  | existence

namespace JsonCall

def template : JsonCall → String → String → Template
  | .value => jsonValue
  | .query => jsonQuery
  | .existence => jsonExists

/-- The text of a call in front of its path. -/
def opening (expression : String) : JsonCall → String
  | .value => "JSON_VALUE(" ++ expression ++ ", "
  | .query => "JSON_QUERY(" ++ expression ++ ", "
  | .existence => "IFNULL(JSON_EXISTS(" ++ expression ++ ", "

def closing : JsonCall → String
  | .value | .query => ")"
  | .existence => "), FALSE)"

private theorem items_template (call : JsonCall) (expression path : String) :
    (call.template expression path).items =
      [.text (call.opening expression ++ quoteString path ++ call.closing)] := by
  cases call <;> rfl

end JsonCall

private theorem separates_comma_blank : Separates ", " := .of_any (by decide) (by decide)

private theorem write_nameList (spelling : Spelling) (count : Nat) (names : List String) :
    Item.write spelling count (nameList names).items =
      String.intercalate ", " (names.map spelling.name) := by
  induction names with
  | nil => rfl
  | cons name rest ih =>
    cases rest with
    | nil => exact String.append_empty
    | cons next rest =>
      have hi : (nameList (name :: next :: rest)).items =
          .name name :: .text ", " :: (nameList (next :: rest)).items := rfl
      rw [hi, Item.write, Item.write, ih]
      simp only [List.map_cons, String.intercalate_cons_cons, String.append_assoc]

namespace Compiler

variable (compiler : Compiler) (options : RenderOptions)

/-- A name as it is put between quotes. -/
def styled (name : String) : String :=
  compiler.renderer.dialect.styleName (options.verbatimNames || compiler.verbatimNames) name

theorem name_spelling (name : String) :
    (compiler.spelling options).name name = quoteName '\x60' (compiler.styled options name) := rfl

/-- All that a compiler adds to the spelling is how names are styled. -/
theorem spelling_eq :
    compiler.spelling options =
      ⟨fun name => quoteName '\x60' (compiler.styled options name),
        placeholderText (.googleSql none) options.placeholder, "VALUES", "RETURNING"⟩ := by
  have hp : placeholderText compiler.renderer.dialect options.placeholder =
      placeholderText (.googleSql none) options.placeholder := by
    cases options.placeholder <;> rfl
  rw [← hp]
  rfl

private theorem map_thenReturn_names (names : List String) :
    (names.map (compiler.spelling options).name).map thenReturn =
      names.map fun name => quoteName '\x60' (thenReturn (compiler.styled options name)) := by
  rw [List.map_map]
  exact List.map_congr_left fun name _ => thenReturn_quoteName _

private theorem any_hasReturning_names (names : List String) :
    (names.map (compiler.spelling options).name).any hasReturning = false ↔
      ∀ name ∈ names, hasReturning (compiler.styled options name) = false := by
  simp [List.any_eq_false, name_spelling, hasReturning_quoteName]

theorem sql_compile_nameList (names : List String) :
    (compiler.compile (nameList names) options).sql =
      thenReturn (String.intercalate ", " (names.map (compiler.spelling options).name)) := by
  rw [compile_eq, write_nameList]

section Around

variable {template : Template} {before after : List Item}

/-- What stands around items at any depth is written before and after them. -/
theorem sql_compile_around {middle : List Item}
    (h : template.items = before ++ middle ++ after) :
    (compiler.compile template options).sql =
      let write := Item.write (compiler.spelling options)
      let count := (boundValues before).length
      thenReturn (write 0 before ++ write count middle ++
        write (count + (boundValues middle).length) after) := by
  simp only [compile_eq, h, Item.write_append, boundValues_append, List.length_append, Nat.zero_add]

theorem sql_compile_insert {records : List Record}
    (h : template.items = before ++ RecordForm.items (.insert records) ++ after) :
    (compiler.compile template options).sql =
      let write := Item.write (compiler.spelling options)
      thenReturn (write 0 before ++
        tuple ((Record.sharedColumns records).map (compiler.spelling options).name) ++
        write (boundValues before).length
          (.text " VALUES " :: Item.rows (Record.rows records) ++ after)) := by
  have hi : template.items = before ++ Item.columnList (Record.sharedColumns records) ++
      (.text " VALUES " :: Item.rows (Record.rows records) ++ after) := by
    simp [h, RecordForm.items]
  have ha := sql_compile_around compiler options hi
  simpa only [Item.write_columnList, boundValues_columnList, List.length_nil, Nat.add_zero] using ha

theorem sql_compile_jsonCall {call : JsonCall} {expression path : String}
    (h : template.items = before ++ (call.template expression path).items ++ after) :
    (compiler.compile template options).sql =
      let write := Item.write (compiler.spelling options)
      thenReturn (write 0 before ++ call.opening expression ++ quoteString path ++
        (call.closing ++ write (boundValues before).length after)) := by
  have ha := sql_compile_around compiler options h
  simp only [JsonCall.items_template, Item.write, boundValues_text, boundValues_nil, List.length_nil,
    Nat.add_zero, String.append_empty] at ha
  simp only [ha, String.append_assoc]

end Around

/-- The keyword is rewritten between quotes too. A list of names, the columns of an insert at any
depth and the path of a call at any depth are compiled with the text between their quotes rewritten.
They keep their quotations exactly when `RETURNING` is not a word of a name as it is quoted, or of
the path. -/
theorem compile_quotations :
    (∀ names,
      let sql := (compiler.compile (nameList names) options).sql
      sql = String.intercalate ", " (names.map fun name =>
          quoteName '\x60' (thenReturn (compiler.styled options name))) ∧
        (sql = String.intercalate ", " (names.map (compiler.spelling options).name) ↔
          ∀ name ∈ names, hasReturning (compiler.styled options name) = false)) ∧
    (∀ template before records after,
      Template.items template = before ++ RecordForm.items (.insert records) ++ after →
      let sql := (compiler.compile template options).sql
      let write := Item.write (compiler.spelling options)
      let columns := Record.sharedColumns records
      let front := thenReturn (write 0 before)
      let back := thenReturn (write (boundValues before).length
        (.text " VALUES " :: Item.rows (Record.rows records) ++ after))
      sql = front ++ tuple (columns.map fun column =>
          quoteName '\x60' (thenReturn (compiler.styled options column))) ++ back ∧
        (sql = front ++ tuple (columns.map (compiler.spelling options).name) ++ back ↔
          ∀ column ∈ columns, hasReturning (compiler.styled options column) = false)) ∧
    ∀ template before call expression path after,
      Template.items template =
        before ++ Template.items (JsonCall.template call expression path) ++ after →
      let sql := (compiler.compile template options).sql
      let write := Item.write (compiler.spelling options)
      let front := thenReturn (write 0 before ++ call.opening expression)
      let back := thenReturn (call.closing ++ write (boundValues before).length after)
      sql = front ++ quoteString (thenReturn path) ++ back ∧
        (sql = front ++ quoteString path ++ back ↔ hasReturning path = false) := by
  refine ⟨?names, ?columns, ?path⟩
  case names =>
    intro names sql
    have hs : sql = _ := sql_compile_nameList compiler options names
    constructor
    · rw [hs, thenReturn_intercalate separates_comma_blank, map_thenReturn_names]
    · rw [hs, thenReturn_eq_self_iff, hasReturning_intercalate separates_comma_blank,
        any_hasReturning_names]
  case columns =>
    intro template before records after h sql write columns front back
    have hs : sql = _ := sql_compile_insert compiler options h
    have he := enclosed_tuple (columns.map (compiler.spelling options).name)
    constructor
    · rw [hs, he.thenReturn_append_append, thenReturn_tuple, map_thenReturn_names]
    · rw [hs, he.kept_iff, hasReturning_tuple, any_hasReturning_names]
  case path =>
    intro template before call expression path after h sql write front back
    have hs : sql = _ := sql_compile_jsonCall compiler options h
    have he := enclosed_quoteString path
    constructor
    · rw [hs, he.thenReturn_append_append, thenReturn_quoteString]
    · rw [hs, he.kept_iff, hasReturning_quoteString]

/-- A name loses itself in a list, a column where one insert hands back another, and a path. -/
theorem compile_quotations_of_keyword :
    let compiler : Compiler := {}
    let sql template := (compiler.compile template {}).sql
    let insert : RecordForm := .insert [Record.ofList [("RETURNING", (7 : Int64))]]
    hasReturning "RETURNING" = true ∧
      sql (nameList ["id", "RETURNING"]) = "\x60id\x60, \x60THEN RETURN\x60" ∧
      sql [.text "INSERT INTO t ", .record insert (.pieces [.record insert .nothing])] =
        "INSERT INTO t (\x60THEN RETURN\x60) VALUES (@param1) THEN RETURN " ++
          "(\x60THEN RETURN\x60) VALUES (@param2)" ∧
      sql (.text "SELECT " :: JsonCall.template .query "doc" "$.RETURNING") =
        "SELECT JSON_QUERY(doc, \x27$.THEN RETURN\x27)" := by
  intro compiler sql insert
  have h := compile_quotations compiler {}
  have hr : Template.items [.text "INSERT INTO t ", .record insert (.pieces [.record insert .nothing])] =
      (.text "INSERT INTO t " :: insert.items ++ Item.returning []) ++ insert.items ++ [] := rfl
  have hj : Template.items (.text "SELECT " :: JsonCall.template .query "doc" "$.RETURNING") =
      [.text "SELECT "] ++ (JsonCall.template .query "doc" "$.RETURNING").items ++ [] := rfl
  simp only [thenReturn_eq] at h
  refine ⟨?_, (h.1 _).1.trans (by decide), (h.2.1 _ _ _ _ hr).1.trans (by decide +kernel), ?_⟩
  · rw [hasReturning_eq]
    decide
  · exact (h.2.2 _ _ _ _ _ _ hj).1.trans (by decide)

/-- Names are not always compiled as they are quoted. -/
theorem nameList_not_kept :
    ¬ ∀ (compiler : Compiler) (options : RenderOptions) (names : List String),
      (compiler.compile (nameList names) options).sql =
        String.intercalate ", " (names.map (compiler.spelling options).name) := by
  intro h
  have hk := h {} {} ["RETURNING"]
  rw [sql_compile_nameList, thenReturn_eq_self_iff, hasReturning_intercalate separates_comma_blank,
    any_hasReturning_names] at hk
  have hn : hasReturning "RETURNING" = false := hk "RETURNING" (.head _)
  rw [hasReturning_eq] at hn
  exact absurd hn (by decide)

end Compiler

end BoundSql.GoogleSql
