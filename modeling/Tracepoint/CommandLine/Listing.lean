import Tracepoint.CommandLine.Terminal
import Tracepoint.Keyword.Legend
import Tracepoint.Template.Part
/-!
What the commands print: the parts of a template and the legend of the keywords, as lists for a
reader or as JSON.
-/

namespace Tracepoint.CommandLine

open Template (Part)

def unlines (lines : List String) : String := String.join (lines.map (· ++ "\n"))

def partLine (color : Bool) (part : Part) : String :=
  match part with
  | .text _ => part.listing
  | .expression _ => Style.magenta.paint color part.listing
  | .numbered .. | .plain _ => Style.cyan.paint color part.listing

def partListing (color : Bool) (parts : List Part) : String :=
  if parts.isEmpty then unlines [Style.yellow.paint color "!" ++ " Template is empty"]
  else unlines (parts.map (partLine color))

def partJson (parts : List Part) : String :=
  unlines [Json.recordsText (parts.map (·.record))]

def padRight (width : Nat) (text : String) : String :=
  text ++ String.ofList (List.replicate (width - text.length) ' ')

def padLeft (width : Nat) (text : String) : String :=
  String.ofList (List.replicate (width - text.length) ' ') ++ text

/-- The length of the longest of some texts, in bytes. -/
def widest (texts : List String) : Nat := (texts.map (·.utf8ByteSize)).foldl max 0

def legendLine (color : Bool) (keywordWidth kindWidth : Nat) (entry : Keyword.LegendEntry) :
    String :=
  let argument := (entry.argument.map (·.toNat.repr)).getD "-"
  "  ".intercalate
    [Style.bold.paint color (padRight keywordWidth entry.keyword),
      Style.cyan.paint color (padRight kindWidth entry.kind.name),
      padLeft 3 argument, entry.description]

def legendListing (color : Bool) (legend : List Keyword.LegendEntry) : String :=
  let keywordWidth := widest (legend.map (·.keyword))
  let kindWidth := widest (legend.map (·.kind.name))
  unlines (legend.map (legendLine color keywordWidth kindWidth))

def legendJson (legend : List Keyword.LegendEntry) : String :=
  unlines [Json.recordsText (legend.map (·.record))]

end Tracepoint.CommandLine
