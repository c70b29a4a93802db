import Tracepoint.CommandLine.Arguments
import Tracepoint.CommandLine.Listing
/-!
What the program says of itself: a page of help for the program and one for each command, without
styles.
-/

namespace Tracepoint.CommandLine

structure HelpPage where
  about : String
  usage : String
  /-- Titles, each with what stands under it and what that means. -/
  sections : List (String × List (String × String))

namespace HelpPage

def sectionLines (title : String) (rows : List (String × String)) : List String :=
  let width := widest (rows.map (·.1))
  "" :: (title ++ ":") :: rows.map fun (name, meaning) =>
    "  " ++ padRight width name ++ "  " ++ meaning

def text (page : HelpPage) : String :=
  unlines (page.about :: "" :: ("Usage: " ++ page.usage) ::
    page.sections.flatMap fun (title, rows) => sectionLines title rows)

def verboseRow : String × String := ("-v, --verbose", "")

def helpRow : String × String := ("-h, --help", "Print help")

def jsonRow : String × String := ("    --json", "Output as JSON")

def program : HelpPage where
  about := "Compile and preview debugger tracepoint message templates"
  usage := "tracemsg [OPTIONS] <COMMAND>"
  sections :=
    [("Commands",
      [("compile", "Compile a template and list its parts"),
        ("keywords", "List the recognised $KEYWORDS"),
        ("preview", "Render a template against a sample context file"),
        ("help", "Print this message or the help of the given subcommand(s)")]),
      ("Options", [verboseRow, helpRow, ("-V, --version", "Print version")])]

def compile : HelpPage where
  about := "Compile a template and list its parts"
  usage := "tracemsg compile [OPTIONS] <TEMPLATE>"
  sections :=
    [("Arguments", [("<TEMPLATE>", "Template text, e.g. 'Thread $TID hit \x7bcond\x7d'")]),
      ("Options", [jsonRow, verboseRow, helpRow])]

def keywords : HelpPage where
  about := "List the recognised $KEYWORDS"
  usage := "tracemsg keywords [OPTIONS]"
  sections := [("Options", [jsonRow, verboseRow, helpRow])]

def preview (contextPath : Option String) : HelpPage where
  about := "Render a template against a sample context file"
  usage := "tracemsg preview [OPTIONS] --context <CONTEXT> <TEMPLATE>"
  sections :=
    [("Arguments", [("<TEMPLATE>", "Template text")]),
      ("Options",
        [("-c, --context <CONTEXT>",
          "TOML file describing the process, thread, frames and expression values " ++
            "[env: TRACEMSG_CONTEXT=" ++ contextPath.getD "" ++ "]"),
          verboseRow, helpRow])]

def help : HelpPage where
  about := "Print this message or the help of the given subcommand(s)"
  usage := "tracemsg help [COMMAND]..."
  sections := [("Arguments", [("[COMMAND]...", "Print help for the subcommand(s)")])]

end HelpPage

def HelpTopic.page (contextPath : Option String) : HelpTopic → HelpPage
  | .program => .program
  | .compile => .compile
  | .keywords => .keywords
  | .preview => .preview contextPath
  | .help => .help

def versionText : String := "tracemsg 0.1.0\n"

end Tracepoint.CommandLine
