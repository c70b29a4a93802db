import Tracepoint.Text.Unprintable
/-!
Quoted text for listings and logs.  A quoted text stays on one line and shows every character that
a terminal would hide or attach to its neighbour.
-/

namespace Tracepoint.Text

def codePointEscape (c : Char) : List Char :=
  ['\\', 'u', '{'] ++ Nat.toDigits 16 c.toNat ++ ['}']

/-- The halfwidth sound marks extend the character before them, and yet stand in a cell of their
own. -/
def isHalfwidthSoundMark (c : Char) : Bool := c == '\uFF9E' || c == '\uFF9F'

def attaches (c : Char) : Bool := GraphemeExtend.contains c && !isHalfwidthSoundMark c

def isUnseen (c : Char) : Bool := Unprintable.contains c || DefaultIgnorable.contains c

def quotedChar (c : Char) : List Char :=
  match c with
  | '\x00' => ['\\', '0']
  | '\t' => ['\\', 't']
  | '\n' => ['\\', 'n']
  | '\r' => ['\\', 'r']
  | '"' => ['\\', '"']
  | '\\' => ['\\', '\\']
  | c => if attaches c || isUnseen c then codePointEscape c else [c]

def quoted (text : String) : String :=
  String.ofList ('"' :: text.toList.flatMap quotedChar ++ ['"'])

end Tracepoint.Text
