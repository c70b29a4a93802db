import Tracepoint.Keyword.Table
import Tracepoint.Template.Part
/-!
The tokens that a template is read in, and the parts that they come to.  Three characters can begin
something other than literal text, and a backslash gives some characters another meaning.  Runs of
literal characters make one text part: `assemble`.
-/

namespace Tracepoint.Template

def isTrigger (c : Char) : Bool := c == '\\' || c == '$' || c == '{'

def controlEscape? : Char → Option Char
  | 'a' => some '\x07'
  | 'b' => some '\x08'
  | 'f' => some '\x0c'
  | 'n' => some '\n'
  | 'r' => some '\r'
  | 't' => some '\t'
  | 'v' => some '\x0b'
  | _ => none

/-- What a backslash and a character after it stand for; none when the backslash is inert. -/
def escaped? (c : Char) : Option Char := if isTrigger c then some c else controlEscape? c

inductive Token
  | escape (letter meaning : Char)
  | keyword (found : Keyword)
  | expression (source : List Char)
  | literal (c : Char)
  deriving DecidableEq, Repr

namespace Token

def source : Token → List Char
  | .escape letter _ => ['\\', letter]
  | .keyword found => '$' :: found.name.toList
  | .expression source => '{' :: source ++ ['}']
  | .literal c => [c]

def char? : Token → Option Char
  | .escape _ meaning => some meaning
  | .literal c => some c
  | .keyword _ | .expression _ => none

def keyword? : Token → Option Keyword
  | .keyword found => some found
  | _ => none

def part : Token → Part
  | .escape _ meaning => .text (String.singleton meaning)
  | .literal c => .text (String.singleton c)
  | .keyword found => .ofKeyword found
  | .expression source => .expression (String.ofList source)

theorem source_ne_nil (token : Token) : token.source ≠ [] := by
  cases token <;> simp [source]

end Token

/-- Puts a part before others; two texts that meet become one. -/
def Part.joinTo : Part → List Part → List Part
  | .text front, .text back :: parts => .text (front ++ back) :: parts
  | part, parts => part :: parts

def assemble (tokens : List Token) : List Part := (tokens.map Token.part).foldr Part.joinTo []

end Tracepoint.Template
