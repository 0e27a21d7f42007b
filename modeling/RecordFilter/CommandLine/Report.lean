import RecordFilter.CommandLine.Arguments
import RecordFilter.FilterText
import RecordFilter.Json.Decoding
import RecordFilter.Json.Encoding
import RecordFilter.Json.Printer
import RecordFilter.Json.Reader

/-!
# Reports

What the program writes: the groups of a filter as a table or as JSON, or why there
are none. An error is told together with what lies behind it.
-/

namespace RecordFilter.CommandLine

/-- What the program writes and the code it ends with. -/
structure Report where
  code : Nat := 0
  /-- What is written to the standard output. -/
  output : String := ""
  /-- What is written to the standard error. -/
  errors : String := ""

/-! ## The table -/

/-- The widths of the columns of the table but the last. -/
def columnWidths : List Nat :=
  [4, 6, 24, 12, 8, 16]

/-- A text with spaces behind it up to a width. -/
def padded (width : Nat) (text : String) : String :=
  text.pushn ' ' (width - text.length)

/-- A line of the table. -/
def lineText (cells : List String) (last : String) : String :=
  String.join (List.zipWith (fun width cell => padded width cell ++ " ") columnWidths cells) ++
    last ++ "\n"

/-- The first line of the table. -/
def headText : String :=
  lineText ["#", "JOINER", "SUBJECT", "OPERATOR", "NEGATED", "PREDICATE"] "VALUES"

/-- The operator of the predicate that a term becomes. -/
def predicateText (t : Term) : String :=
  match t.operator.resolve t.negated with
  | (op, true) => "NOT(" ++ op.text ++ ")"
  | (op, false) => op.text

/-- The line of a group. -/
def groupText (index : Nat) (g : Group) : String :=
  let joiner := if g.joiner = .start then "-" else g.joiner.text
  let cells :=
    [toString index, joiner, g.term.subject.text, g.term.operator.text,
     if g.term.negated then "true" else "false", predicateText g.term]
  lineText cells ("[" ++ Operand.listText g.term.values ++ "]")

/-- Groups as a table. -/
def tableText (groups : List Group) : String :=
  headText ++ String.join (groups.mapIdx groupText)

/-! ## Errors -/

/-- A text with spaces after each line end in it. -/
def hanging (indent : Nat) (text : String) : String :=
  text.replace "\n" ("\n".pushn ' ' indent)

/-- What lies behind an error, one cause on a line; several are numbered. -/
def causesText : List String → String
  | [] => ""
  | [cause] => "\n\nCaused by:\n    " ++ hanging 4 cause
  | causes =>
    "\n\nCaused by:" ++
      String.join (causes.mapIdx fun i cause =>
        let number := toString i
        "\n" ++ "".pushn ' ' (5 - number.length) ++ number ++ ": " ++ hanging 7 cause)

/-- An error and what lies behind it. -/
def errorText (message : String) (causes : List String) : String :=
  "Error: " ++ message ++ causesText causes ++ "\n"

/-- The report of an error. -/
def failure (message : String) (causes : List String) : Report where
  code := 1
  errors := errorText message causes

/-! ## The program -/

/-- How the program is called. -/
def usageText : String :=
  "Usage: filterql [OPTIONS] <EXPRESSION>\n"

/-- What the program does and how it is called. -/
def helpText : String :=
  "Flatten a SQL-style filter expression into joined terms\n\n" ++ usageText ++
  "\nArguments:\n" ++
  "  <EXPRESSION>  Filter expression, e.g. \"qty > 5 AND name LIKE 'A%'\"\n" ++
  "\nOptions:\n" ++
  "  -j, --json             Print the flattened groups as JSON\n" ++
  "  -d, --debug            Enable debug logging\n" ++
  "  -c, --config <CONFIG>  JSON file with a filter configuration\n" ++
  "  -h, --help             Print help\n" ++
  "  -V, --version          Print version\n"

/-- The report on arguments that ask for no groups. -/
def Stop.report : Stop → Report
  | .version => { output := "filterql 0.1.0\n" }
  | .help => { output := helpText }
  | .wrong cause =>
    { code := 2, errors := "error: " ++ cause.message ++ "\n\n" ++ usageText }

/-- The report on a filter. -/
def filterReport (arguments : Arguments) (config : Config) : Report :=
  match Group.ofText config arguments.expression with
  | .error cause =>
    failure ("Failed to parse filter '" ++ arguments.expression ++ "'")
      (cause.message :: cause.causes)
  | .ok groups =>
    if arguments.json then { output := (Group.listToJson groups).indentedText ++ "\n" }
    else { output := tableText groups }

/-- The report on arguments, given the text of the file with the settings, if there
    is such a file. -/
def Arguments.report (arguments : Arguments) (settings : Option String) : Report :=
  match arguments.config, settings with
  | none, _ => filterReport arguments {}
  | some path, none => failure ("Failed to read config file " ++ path) []
  | some path, some text =>
    match (Json.ofText? text).bind Config.ofJson? with
    | none => failure ("Invalid config file " ++ path) []
    | some config => filterReport arguments config

end RecordFilter.CommandLine
