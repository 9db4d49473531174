import PageExtract.CommandLine.Command

/-! # Help

The text about the program or one of its commands: what it is for, how it is written, and what each
operand and flag means.
-/
namespace PageExtract.CommandLine

def programName : String := "pluck"

def version : String := "0.3.0"

namespace Topic

def summary : Topic → String
  | program => "Pluck: check and run content-extraction rules against HTML"
  | verb .check => "Check a rule for errors and print its canonical form"
  | verb .extract => "Run one rule against an HTML file and print the result"
  | verb .content => "Run a domain's title, content, and thumbnail rules and print JSON"
  | help => "Print this message or the help of the given subcommand(s)"

def usage : Topic → String
  | program => programName ++ " [OPTIONS] <COMMAND>"
  | verb .check => programName ++ " check [OPTIONS] <RULE>"
  | verb .extract => programName ++ " extract [OPTIONS] <RULE> <PATH>"
  | verb .content => programName ++ " content [OPTIONS] --rules <RULES> <PATH>"
  | help => programName ++ " help [COMMAND]..."

def sections : Topic → List (String × List String)
  | program =>
    [("Commands:",
      ["check    Check a rule for errors and print its canonical form",
        "extract  Run one rule against an HTML file and print the result",
        "content  Run a domain's title, content, and thumbnail rules and print JSON",
        "help     Print this message or the help of the given subcommand(s)"]),
      ("Options:",
        ["-v, --verbose  Log rule misses and fallbacks",
          "-h, --help     Print help",
          "-V, --version  Print version"])]
  | verb .check =>
    [("Arguments:", ["<RULE>  Rule source, e.g. \"D'h1'# ? D'title'#\""]),
      ("Options:",
        ["-v, --verbose  Log rule misses and fallbacks", "-h, --help     Print help"])]
  | verb .extract =>
    [("Arguments:", ["<RULE>  Rule source", "<PATH>  Input .html file"]),
      ("Options:",
        ["-v, --verbose  Log rule misses and fallbacks", "-h, --help     Print help"])]
  | verb .content =>
    [("Arguments:", ["<PATH>  Input .html file"]),
      ("Options:",
        ["-r, --rules <RULES>  JSON file with \x7b domain, title, content, thumbnail \x7d",
          "-v, --verbose        Log rule misses and fallbacks",
          "-h, --help           Print help"])]
  | help => [("Arguments:", ["[COMMAND]...  Print help for the subcommand(s)"])]

def sectionText (part : String × List String) : String :=
  "\n" ++ part.1 ++ "\n" ++ String.join (part.2.map fun line => "  " ++ line ++ "\n")

def text (t : Topic) : String :=
  t.summary ++ "\n\nUsage: " ++ t.usage ++ "\n" ++ String.join (t.sections.map sectionText)

end Topic

end PageExtract.CommandLine
