import Tracepoint.Toml.Reader
/-!
What stands between the values of a document: blanks, line breaks and comments.
-/

namespace Tracepoint.Toml

def isBlank (c : Char) : Bool := c == ' ' || c == '\t'

/-- Characters of a comment: the tab, but no other control of ASCII. -/
def isCommentChar (c : Char) : Bool :=
  c == '\t' || (0x20 ≤ c.toNat && c.toNat ≤ 0x7E) || 0x80 ≤ c.toNat

def lineBreakWidth : List Char → Nat
  | '\n' :: _ => 1
  | '\r' :: '\n' :: _ => 2
  | _ => 0

def blankSpaceWidth : List Char → Nat
  | '\r' :: '\n' :: rest => blankSpaceWidth rest + 2
  | c :: rest => if c == '\n' || isBlank c then blankSpaceWidth rest + 1 else 0
  | [] => 0

def afterFiller (text : List Char) : List Char :=
  match _ : text.drop (blankSpaceWidth text) with
  | '#' :: rest => afterFiller (rest.dropWhile isCommentChar)
  | rest => rest
termination_by text.length
decreasing_by
  rename_i found
  have shorter := (List.dropWhile_sublist (l := rest) isCommentChar).length_le
  have longer := congrArg List.length found
  simp only [List.length_drop, List.length_cons] at longer
  omega

namespace Reader

def blanks : Reader Unit := discard (charsWhile isBlank)

def lineBreak : Reader Unit := do
  let width := lineBreakWidth (← rest)
  guard (width != 0)
  skip width

def comment : Reader Unit := do
  char '#'
  discard (charsWhile isCommentChar)

/-- What may follow a value or a header on its line, and the end of the line or of the text. -/
def endOfLine : Reader Unit := do
  blanks
  discard (optional comment)
  if (← next?).isSome then lineBreak

def filler : Reader Unit := modify afterFiller

end Reader

end Tracepoint.Toml
