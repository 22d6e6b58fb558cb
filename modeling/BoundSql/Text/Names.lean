/-!
# Quoted text and styles of names

A name is quoted part by part, and it may be put in snake case or in camel case before. Both styles
change ASCII letters only.
-/

namespace BoundSql.Text

/-- What stands for one character inside a quoted name. The delimiter is doubled; a dot closes the
quotes and opens them again, so that each part of a qualified name is quoted by itself. -/
def quotedNameChar (delimiter c : Char) : List Char :=
  if c = delimiter then [delimiter, delimiter]
  else if c = '.' then [delimiter, '.', delimiter]
  else [c]

def quoteName (delimiter : Char) (name : String) : String :=
  String.ofList (delimiter :: name.toList.flatMap (quotedNameChar delimiter) ++ [delimiter])

/-- A single-quoted string, in which a quote is doubled. -/
def quoteString (text : String) : String :=
  let quote := '\x27'
  String.ofList (quote ::
    text.toList.flatMap (fun c => if c = quote then [quote, quote] else [c]) ++ [quote])

/-- Whether a capital opens a new word after `before`. In a run of capitals only the last one does,
and only if a small letter follows it. -/
def opensWord (before after : Option Char) : Bool :=
  match before with
  | none | some '.' | some '_' => false
  | some c => if c.isUpper then after.any Char.isLower else true

def snakeCaseAfter (before : Option Char) : List Char → List Char
  | [] => []
  | c :: rest =>
    let small :=
      if c.isUpper then
        if opensWord before rest.head? then ['_', c.toLower] else [c.toLower]
      else [c]
    small ++ snakeCaseAfter (some c) rest

/-- Snake case: `userID` becomes `user_id` and `HTTPStatus` becomes `http_status`. -/
def snakeCase (name : String) : String :=
  String.ofList (snakeCaseAfter none name.toList)

/-- The rest of a name in camel case, once a character is written. `raised` tells that an underscore
was dropped since the last one. -/
def camelCaseTail (raised : Bool) : List Char → List Char
  | [] => []
  | c :: rest =>
    if c = '_' then camelCaseTail true rest
    else (if raised then c.toUpper else c) :: camelCaseTail false rest

/-- Camel case: `user_id` becomes `userId`, and the first character stays as it is. -/
def camelCase (name : String) : String :=
  match name.toList with
  | [] => ""
  | c :: rest => String.ofList (c :: camelCaseTail false rest)

end BoundSql.Text
