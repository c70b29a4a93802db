import Tracepoint.Template.Token
/-!
Writing templates.  A piece is a part together with the spelling that a keyword part does not keep;
the template of a sequence of pieces compiles to their parts, as long as no text continues the name
of the keyword before it.
-/

namespace Tracepoint.Template

inductive Piece
  | text (content : List Char)
  | keyword (found : Keyword)
  | expression (source : List Char)
  deriving DecidableEq, Repr

def escapeText (content : List Char) : List Char :=
  content.flatMap fun c => if isTrigger c then ['\\', c] else [c]

namespace Piece

def part : Piece → Part
  | .text content => .text (String.ofList content)
  | .keyword found => .ofKeyword found
  | .expression source => .expression (String.ofList source)

def written : Piece → List Char
  | .text content => escapeText content
  | .keyword found => '$' :: found.name.toList
  | .expression source => '{' :: source ++ ['}']

end Piece

/-- The pieces of a sequence of parts, with a keyword for each part that stands for one. -/
def spell : List Part → List Keyword → List Piece
  | .text content :: parts, keywords => .text content.toList :: spell parts keywords
  | .expression source :: parts, keywords => .expression source.toList :: spell parts keywords
  | .numbered _ _ :: parts, found :: keywords => .keyword found :: spell parts keywords
  | .plain _ :: parts, found :: keywords => .keyword found :: spell parts keywords
  | _, _ => []

def ofPieces (pieces : List Piece) : String := String.ofList (pieces.flatMap Piece.written)

end Tracepoint.Template
