import Tracepoint.Toml.Trivia
/-!
The four kinds of string: basic strings have escapes and literal strings have none, and each may
stand on one line or span several between triple quotes.
-/

namespace Tracepoint.Toml

def isBasicChar (c : Char) : Bool := isCommentChar c && c != '"' && c != '\\'

def isLiteralChar (c : Char) : Bool := isCommentChar c && c != '\''

def codePoint? (width : Nat) (text : List Char) : Option Char :=
  let digits := text.take width
  let point := ofDigits 16 digits
  if digits.length = width ∧ digits.all isHexDigit ∧ point.isValidChar then some (Char.ofNat point)
  else none

def escape? : List Char → Option (Char × Nat)
  | 'b' :: _ => some ('\x08', 1)
  | 'f' :: _ => some ('\x0c', 1)
  | 'n' :: _ => some ('\n', 1)
  | 'r' :: _ => some ('\r', 1)
  | 't' :: _ => some ('\t', 1)
  | '"' :: _ => some ('"', 1)
  | '\\' :: _ => some ('\\', 1)
  | 'u' :: rest => (codePoint? 4 rest).map (·, 5)
  | 'U' :: rest => (codePoint? 8 rest).map (·, 9)
  | _ => none

/-- The length of a line end after a backslash, with the blank space that follows it; zero when
the line does not end there. -/
def foldedLineWidth (text : List Char) : Nat :=
  let blanks := (text.takeWhile isBlank).length
  match lineBreakWidth (text.drop blanks) with
  | 0 => 0
  | width => blanks + width + blankSpaceWidth (text.drop (blanks + width))

/-- The content of a basic string up to its closing quote, after the reversed `content`. -/
def basicContent? (content text : List Char) : Option (List Char × List Char) :=
  match text with
  | [] => none
  | c :: rest =>
    if c == '"' then some (content.reverse, rest)
    else if c == '\\' then
      match escape? rest with
      | some (meaning, width) => basicContent? (meaning :: content) (rest.drop width)
      | none => none
    else if isBasicChar c then basicContent? (c :: content) rest
    else none
termination_by text.length
decreasing_by all_goals simp only [List.length_drop, List.length_cons]; omega

/-- What follows the first three quotes of a closing run: up to two more belong to the content. -/
def afterClosing (quote : Char) (content rest : List Char) : List Char × List Char :=
  let extra := ((rest.take 2).takeWhile (· == quote)).length
  (content.reverse ++ List.replicate extra quote, rest.drop extra)

def closes (quote : Char) (text : List Char) : Bool := [quote, quote, quote].isPrefixOf text

def basicLines? (content text : List Char) : Option (List Char × List Char) :=
  if closes '"' text then some (afterClosing '"' content (text.drop 3))
  else
    match text with
    | [] => none
    | c :: rest =>
      if c == '\\' then
        match foldedLineWidth rest with
        | 0 =>
          match escape? rest with
          | some (meaning, width) => basicLines? (meaning :: content) (rest.drop width)
          | none => none
        | width => basicLines? content (rest.drop width)
      else if c == '"' || isBasicChar c then basicLines? (c :: content) rest
      else
        match lineBreakWidth text with
        | 0 => none
        | width => basicLines? ('\n' :: content) (rest.drop (width - 1))
termination_by text.length
decreasing_by all_goals simp only [List.length_drop, List.length_cons]; omega

def literalLines? (content text : List Char) : Option (List Char × List Char) :=
  if closes '\'' text then some (afterClosing '\'' content (text.drop 3))
  else
    match text with
    | [] => none
    | c :: rest =>
      if c == '\'' || isLiteralChar c then literalLines? (c :: content) rest
      else
        match lineBreakWidth text with
        | 0 => none
        | width => literalLines? ('\n' :: content) (rest.drop (width - 1))
termination_by text.length
decreasing_by all_goals simp only [List.length_drop, List.length_cons]; omega

namespace Reader

def basicString : Reader String := do
  char '"'
  String.ofList <$> basicContent? []

def literalString : Reader String := do
  char '\''
  let content ← charsWhile isLiteralChar
  char '\''
  return String.ofList content

/-- A line break right after the opening quotes is no part of the content. -/
def basicLines : Reader String := do
  exactly "\"\"\""
  skip (lineBreakWidth (← rest))
  String.ofList <$> basicLines? []

def literalLines : Reader String := do
  exactly "'''"
  skip (lineBreakWidth (← rest))
  String.ofList <$> literalLines? []

def string : Reader String := basicLines <|> basicString <|> literalLines <|> literalString

end Reader

end Tracepoint.Toml
