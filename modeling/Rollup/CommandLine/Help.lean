import Rollup.CommandLine.Arguments
/-!
Help texts. The short form has one line an option; the long form, which only the program as a whole
has, gives every option lines of its own.
-/
namespace Rollup.CommandLine

/-- The name under which the program is started. -/
def programName : String := "analytica-cli"

def versionText : String := "analytica 0.1.0\n"

def padTo (width : Nat) (s : String) : String :=
  s ++ String.ofList (List.replicate (width - s.length) ' ')

namespace Opt

def about : Opt → String
  | apiUrl => "API server URL"
  | format => "Output format (table, json, csv)"
  | timeColumn => "Column a time range filters on when there is no time dimension"
  | output => "Output path (default: stdout)"

/-- The name of the value. -/
def valueName (o : Opt) : String :=
  String.ofList (o.long.toList.map fun c => if c = '-' then '_' else c.toUpper)

end Opt

/-- An entry of a list of options or arguments. -/
structure Entry where
  usage : String
  about : String
  default : Option String := none
  deriving Repr, DecidableEq

/-- An option's usage, with room for a letter where there is none. -/
def usageText (short? : Option Char) (rest : String) : String :=
  (match short? with
    | some c => "-" ++ c.toString ++ ", "
    | none => "    ") ++ "--" ++ rest

def Opt.entry (o : Opt) : Entry :=
  ⟨usageText o.short? (o.long ++ " <" ++ o.valueName ++ ">"), o.about, o.default?⟩

def helpEntry (about : String) : Entry := ⟨usageText (some 'h') "help", about, none⟩

def versionEntry : Entry := ⟨usageText (some 'V') "version", "Print version", none⟩

/-- Entries on one line each, with the descriptions in a column of their own. -/
def shortList (entries : List Entry) : String :=
  let width := entries.foldl (fun w e => max w e.usage.length) 0
  String.join (entries.map fun e =>
    "  " ++ padTo width e.usage ++ "  " ++ e.about ++
      (match e.default with
        | some d => " [default: " ++ d ++ "]"
        | none => "") ++ "\n")

/-- Entries with their descriptions on lines of their own. -/
def longList (entries : List Entry) : String :=
  let indent := "          "
  "\n".intercalate (entries.map fun e =>
    "  " ++ e.usage ++ "\n" ++ indent ++ e.about ++ "\n" ++
      (match e.default with
        | some d => indent ++ "\n" ++ indent ++ "[default: " ++ d ++ "]\n"
        | none => ""))

def CommandName.about : CommandName → String
  | compile => "Compile a request file to SQL without running it"
  | query => "Send a request to the server and print the rows"
  | config => "Generate default config file"

def helpCommandAbout : String := "Print this message or the help of the given subcommand(s)"

/-- The commands of the program. -/
def commandEntries : List Entry :=
  (CommandName.all.map fun c => ⟨c.text, c.about, none⟩) ++ [⟨"help", helpCommandAbout, none⟩]

def titled (title body : String) : String := "\n" ++ title ++ ":\n" ++ body

def programHelp (short : Bool) : String :=
  let options := sharedOptions.map Opt.entry
  (if short then "Compile and run declarative analytics requests\n"
    else "Analytica turns JSON analytics requests into parameterized SQL.\n" ++
      "Compile requests locally or send them to a running server.\n") ++
  "\nUsage: " ++ programName ++ " [OPTIONS] <COMMAND>\n" ++
  titled "Commands" (shortList commandEntries) ++
  titled "Options" (if short then
      shortList (options ++ [helpEntry "Print help (see more with '--help')", versionEntry])
    else longList (options ++ [helpEntry "Print help (see a summary with '-h')", versionEntry]))

def commandHelp (c : CommandName) : String :=
  c.about ++ "\n\nUsage: " ++ programName ++ " " ++ c.text ++ " [OPTIONS]" ++
  (if c.operands = 0 then "\n"
    else " <INPUT>\n" ++
      titled "Arguments" (shortList [⟨"<INPUT>", "Request JSON file, or - for stdin", none⟩])) ++
  titled "Options" (shortList ((Level.behind c).options.map Opt.entry ++ [helpEntry "Print help"]))

def helpHelp : String :=
  helpCommandAbout ++ "\n\nUsage: " ++ programName ++ " help [COMMAND]...\n" ++
  titled "Arguments" (shortList [⟨"[COMMAND]...", "Print help for the subcommand(s)", none⟩])

def Topic.text (short : Bool) : Topic → String
  | .program => programHelp short
  | .command c => commandHelp c
  | .help => helpHelp

end Rollup.CommandLine
