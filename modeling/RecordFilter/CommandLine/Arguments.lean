/-!
# Arguments

What is asked for on the command line: the text of a filter, and options. The
arguments are read from left to right (`Arguments.ofList`), and reading stops at the
first one that is wrong or that asks for the version or for help.

An argument that begins with a hyphen is an option, unless it is a lone hyphen or
comes after `--`. Options of one letter may be gathered behind one hyphen. None may
be given twice.
-/

namespace RecordFilter.CommandLine

/-! ## Options -/

/-- An option. -/
inductive OptionName
  | json | debug | config | help | version
  deriving DecidableEq, Repr

namespace OptionName

/-- The option of a letter. -/
def ofLetter? : Char → Option OptionName
  | 'j' => some .json
  | 'd' => some .debug
  | 'c' => some .config
  | 'h' => some .help
  | 'V' => some .version
  | _ => none

/-- The option of a word. -/
def ofWord? : String → Option OptionName
  | "json" => some .json
  | "debug" => some .debug
  | "config" => some .config
  | "help" => some .help
  | "version" => some .version
  | _ => none

/-- The word of an option. -/
def word : OptionName → String
  | .json => "json"
  | .debug => "debug"
  | .config => "config"
  | .help => "help"
  | .version => "version"

end OptionName

/-! ## Errors -/

/-- What is wrong with arguments. -/
inductive ArgumentError
  | unexpected (argument : String)
  | repeated (option : OptionName)
  /-- A value is given to an option that takes none. -/
  | unwantedValue (option : OptionName)
  | missingValue (option : OptionName)
  | noExpression
  deriving DecidableEq, Repr

/-- What is wrong, in words. -/
def ArgumentError.message : ArgumentError → String
  | .unexpected argument => "unexpected argument '" ++ argument ++ "'"
  | .repeated option => "the option '--" ++ option.word ++ "' is given twice"
  | .unwantedValue option => "the option '--" ++ option.word ++ "' takes no value"
  | .missingValue option => "the option '--" ++ option.word ++ "' needs a value"
  | .noExpression => "the filter expression is missing"

/-- Why arguments are not read to their end. -/
inductive Stop
  | version
  | help
  | wrong (cause : ArgumentError)
  deriving DecidableEq, Repr

/-! ## Reading -/

/-- What has been read of the arguments. -/
structure Progress where
  expression : Option String := none
  json : Bool := false
  debug : Bool := false
  config : Option String := none
  /-- Whether the next argument is the file with the settings. -/
  configNext : Bool := false
  /-- Whether no options follow. -/
  noOptions : Bool := false

namespace Progress

/-- Sets an option that takes no value. -/
def setFlag (p : Progress) (option : OptionName) : Except Stop Progress :=
  match option with
  | .json => if p.json then .error (.wrong (.repeated .json)) else .ok { p with json := true }
  | .debug => if p.debug then .error (.wrong (.repeated .debug)) else .ok { p with debug := true }
  | .config => .error (.wrong (.missingValue .config))
  | .help => .error .help
  | .version => .error .version

/-- Sets the file with the settings. -/
def setConfig (p : Progress) (path : String) : Except Stop Progress :=
  if p.config.isSome then .error (.wrong (.repeated .config))
  else if path.isEmpty then .error (.wrong (.missingValue .config))
  else .ok { p with config := some path, configNext := false }

/-- Sets the expression. -/
def setExpression (p : Progress) (text : String) : Except Stop Progress :=
  if p.expression.isSome then .error (.wrong (.unexpected text))
  else .ok { p with expression := some text }

/-- Reads an option that is written as a word, after its hyphens. -/
def readWord (p : Progress) (text : List Char) : Except Stop Progress :=
  let word := String.ofList (text.takeWhile (· ≠ '='))
  match OptionName.ofWord? word, text.dropWhile (· ≠ '=') with
  | none, _ => .error (.wrong (.unexpected ("--" ++ word)))
  | some .config, [] => .ok { p with configNext := true }
  | some .config, _ :: value => p.setConfig (String.ofList value)
  | some option, [] => p.setFlag option
  | some option, _ :: _ => .error (.wrong (.unwantedValue option))

/-- Reads options that are written as letters, after their hyphen. -/
def readLetters (p : Progress) : List Char → Except Stop Progress
  | [] => .ok p
  | c :: rest =>
    match OptionName.ofLetter? c, rest with
    | none, _ => .error (.wrong (.unexpected ("-" ++ c.toString)))
    | some .config, [] => .ok { p with configNext := true }
    | some .config, '=' :: value => p.setConfig (String.ofList value)
    | some .config, value => p.setConfig (String.ofList value)
    | some option, rest =>
      match p.setFlag option with
      | .ok p => readLetters p rest
      | .error stop => .error stop

/-- Reads an argument that is no option. -/
def readPlain (p : Progress) (argument : String) : Except Stop Progress :=
  if p.configNext then p.setConfig argument else p.setExpression argument

/-- Reads an argument that begins with a hyphen and more. If it had to be the file with
    the settings, that one is missing. -/
def readOption (p : Progress) (letters : List Char) : Except Stop Progress :=
  if p.configNext then .error (.wrong (.missingValue .config))
  else
    match letters with
    | ['-'] => .ok { p with noOptions := true }
    | '-' :: word => p.readWord word
    | letters => p.readLetters letters

/-- Reads an argument. -/
def read (p : Progress) (argument : String) : Except Stop Progress :=
  match argument.toList with
  | '-' :: c :: rest => if p.noOptions then p.readPlain argument else p.readOption (c :: rest)
  | _ => p.readPlain argument

end Progress

/-- What is asked for. -/
structure Arguments where
  /-- The text of the filter. -/
  expression : String
  /-- Whether the groups are written as JSON. -/
  json : Bool
  /-- Whether a log is wanted. It is accepted, but there is nothing to log. -/
  debug : Bool
  /-- The file with the settings. -/
  config : Option String
  deriving DecidableEq, Repr

namespace Arguments

/-- What has been asked for at the end. -/
def ofProgress (p : Progress) : Except Stop Arguments :=
  if p.configNext then .error (.wrong (.missingValue .config))
  else
    match p.expression with
    | some expression => .ok ⟨expression, p.json, p.debug, p.config⟩
    | none => .error (.wrong .noExpression)

/-- What arguments ask for. -/
def ofList (arguments : List String) : Except Stop Arguments := do
  ofProgress (← arguments.foldlM Progress.read {})

end Arguments

end RecordFilter.CommandLine
