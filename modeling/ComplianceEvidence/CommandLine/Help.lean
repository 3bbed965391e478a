import ComplianceEvidence.CommandLine.Arguments
import ComplianceEvidence.Text.Terminal

/-!
Contract: what the program tells about itself.

Owns: the layout of help with its styles and words, the version, and the words for a refused command
line. Help shows its styles where the environment asks for them; elsewhere it loses them together
with all other controls.
-/

set_option autoImplicit false

namespace ComplianceEvidence.CommandLine

open Text.Terminal (Span plain strong heading)

def programName : String := "compass"

def version : String := "0.1.0"

def variableName : String := "COMPASS_CONFIG"

/-! ## Layout -/

def spaces (count : Nat) : String :=
  String.ofList (List.replicate count ' ')

/-- A text with spaces behind each of its line breaks. -/
def indented (width : Nat) (text : String) : String :=
  String.ofList <| text.toList.flatMap fun character =>
    if character = '\n' then '\n' :: List.replicate width ' ' else [character]

/-- The first column of a row, and the text of the second one. -/
abbrev Row := List Span × String

/-- Rows of two columns. The second column starts behind the widest first one, on every line. -/
def rows (entries : List Row) : List Span :=
  let width := (entries.map fun entry => Text.Terminal.width entry.1).foldl max 0
  entries.flatMap fun (left, right) =>
    plain "  " ++ left ++
      plain (spaces (width - Text.Terminal.width left + 2) ++ indented (width + 4) right ++ "\n")

def paragraph (title : String) (body : List Span) : List Span :=
  plain "\n" ++ heading (title ++ ":") ++ plain "\n" ++ body

/-- What a command is about, how it is called, and what it takes. -/
def page (about call takes : String) (body : List Span) : List Span :=
  plain (about ++ "\n\n") ++ heading "Usage:" ++ plain " " ++ strong call ++
    plain (" " ++ takes ++ "\n") ++ body

/-! ## Words -/

namespace Choice

def valueName? : Choice → Option String
  | configuration => some "CONFIG"
  | catalog => some "CATALOGS"
  | input => some "INPUT"
  | _ => none

def form (choice : Choice) : List Span :=
  let start :=
    match choice.short? with
    | some letter => strong ("-" ++ String.singleton letter) ++ plain ", "
    | none => plain "    "
  let value :=
    match choice.valueName? with
    | some name => plain (" <" ++ name ++ ">")
    | none => []
  start ++ strong ("--" ++ choice.long) ++ value

def about (ambient : Option String) : Choice → String
  | configuration =>
      "Configuration file path [env: " ++ variableName ++ "=" ++ ambient.getD "" ++ "]"
  | catalog => "Catalog file, replacing the configured list (repeatable)"
  | verbose => "Enable verbose logging"
  | input => "Evidence file, or `-` for stdin [default: -]"
  | help => "Print help"
  | version => "Print version"

end Choice

def Verb.about : Verb → String
  | check => "Load configuration, catalogs and plans, then print a summary"
  | enrich => "Enrich newline-delimited JSON evidence records"

def programAbout : String :=
  "Resolve policy evaluation evidence to compliance controls"

def helpAbout : String :=
  "Print this message or the help of the given subcommand(s)"

def optionRows (ambient : Option String) (choices : List Choice) : List Span :=
  rows (choices.map fun choice => (choice.form, choice.about ambient))

def commandRows : List Span :=
  rows ((Verb.all.map fun verb => (strong verb.name, verb.about)) ++
    [(strong helpWord, helpAbout)])

def helpSpans (ambient : Option String) : Topic → List Span
  | .program =>
      page programAbout programName "<COMMAND>"
        (paragraph "Commands" commandRows ++
          paragraph "Options" (optionRows ambient programChoices))
  | .verb verb =>
      page verb.about (programName ++ " " ++ verb.name) "[OPTIONS]"
        (paragraph "Options" (optionRows ambient verb.choices))
  | .help =>
      page helpAbout (programName ++ " " ++ helpWord) "[COMMAND]..."
        (paragraph "Arguments"
          (rows [(plain "[COMMAND]...", "Print help for the subcommand(s)")]))

def helpText (isStyled : Bool) (ambient : Option String) (topic : Topic) : String :=
  let text := Text.Terminal.marked (helpSpans ambient topic)
  if isStyled then text else Text.Terminal.shown text

def variableNames : List String :=
  [variableName, "NO_COLOR", "CLICOLOR_FORCE", "CLICOLOR", "TERM", "CI"]

/-- Styles are shown unless the environment forbids it, if it asks for them or a terminal that can
show them is there. -/
def showsStyles (isTerminal : Bool) (setting : String → Option String) : Bool :=
  if (setting "NO_COLOR").getD "" ≠ "" then false
  else if (setting "CLICOLOR_FORCE").getD "0" ≠ "0" then true
  else if setting "CLICOLOR" = some "0" then false
  else
    isTerminal &&
      ((setting "TERM").getD "dumb" ≠ "dumb" || (setting "CLICOLOR").isSome ||
        (setting "CI").isSome)

def versionText : Topic → String
  | .verb verb => programName ++ "-" ++ verb.name ++ " " ++ version ++ "\n"
  | _ => programName ++ " " ++ version ++ "\n"

def Refusal.complaint : Refusal → String
  | commandMissing => "a command is missing"
  | unknownCommand => "unrecognized subcommand"
  | unknownArgument => "unexpected argument found"
  | valueRefused => "a value is required for an option but none was supplied"
  | valueUnneeded => "unexpected value for an option found; no more were expected"
  | repeated => "an option cannot be used multiple times"
  | _ => ""

def refusalText (refusal : Refusal) : String :=
  "error: " ++ refusal.complaint ++ "\n\nFor more information, try '--help'.\n"

end ComplianceEvidence.CommandLine
