/-! The arguments of the command line. -/

namespace Kindred

/-- What the program is asked to do with families. -/
inductive Command where
  | classify (file a b : String) (format reportFile : Option String)
  | parse (phrase : String) (format familyFile : Option String)
  | validate (file : String)
  | init (file : String)
deriving DecidableEq, Repr

/-- The commands by name. -/
inductive CommandName where
  | classify
  | parse
  | validate
  | init
deriving DecidableEq, Repr

/-- A command and what holds for all of them. -/
structure Invocation where
  command : Command
  settingsFile : Option String
  logLevel : Option String
deriving DecidableEq, Repr

/-- What the arguments ask for. The help is that of one command, or of the program. -/
inductive Request where
  | help (command : Option CommandName)
  | version
  | run (invocation : Invocation)
deriving DecidableEq, Repr

/-- Why arguments ask for nothing. -/
inductive UsageError where
  | unknownOption (argument : String)
  | unknownCommand (word : String)
  | missingCommand
  | missingOption (name : String)
  | missingValue (name : String)
  | repeatedOption (name : String)
  | extraWord (word : String)
deriving DecidableEq, Repr

/-- The message of an error. -/
def UsageError.message : UsageError → String
  | .unknownOption argument => s!"unexpected argument '{argument}' found"
  | .unknownCommand word => s!"unrecognized subcommand '{word}'"
  | .missingCommand => "a subcommand is required but one was not provided"
  | .missingOption name => s!"the required argument '{name}' was not provided"
  | .missingValue name => s!"a value is required for '{name}' but none was supplied"
  | .repeatedOption name => s!"the argument '{name}' cannot be used multiple times"
  | .extraWord word => s!"unexpected argument '{word}' found"

/-- An option with a value. -/
structure OptionSpec where
  short : Char
  long : String
  /-- The value is a path, which has at least one character. -/
  isPath : Bool := false
  isRequired : Bool := false
  /-- What takes the value's place in the help. -/
  placeholder : String
  purpose : String
deriving DecidableEq, Repr

/-- A word that must follow the options. -/
structure WordSpec where
  placeholder : String
  purpose : String
deriving DecidableEq, Repr

namespace CommandName

/-- All commands, in the order of the help. -/
def all : List CommandName :=
  [classify, parse, validate, init]

/-- The word for a command. -/
def word : CommandName → String
  | classify => "classify"
  | parse => "parse"
  | validate => "validate"
  | init => "init"

/-- The command that a word means. -/
def ofWord? (word : String) : Option CommandName :=
  all.find? fun name => name.word = word

/-- What a command does. -/
def purpose : CommandName → String
  | classify => "Classify how two persons of a family file are related"
  | parse => "Compile a kinship phrase and classify Он against Она"
  | validate => "Check a family file: schema, cycles and statistics"
  | init => "Initialize configuration file"

/-- The family file that a command reads. -/
def familyFile : OptionSpec :=
  { short := 'f', long := "file", isPath := true, isRequired := true, placeholder := "FILE",
    purpose := "Family file in interchange format" }

/-- The format of the report that a command makes. -/
def reportFormat : OptionSpec :=
  { short := 'o', long := "output", placeholder := "OUTPUT",
    purpose := "Output format (json, markdown, text)" }

/-- The options of a command. -/
def options : CommandName → List OptionSpec
  | classify =>
    [familyFile,
      { short := 'a', long := "a", isRequired := true, placeholder := "A",
        purpose := "First person (id or exact name)" },
      { short := 'b', long := "b", isRequired := true, placeholder := "B",
        purpose := "Second person (id or exact name)" },
      reportFormat,
      { short := 'O', long := "output-file", isPath := true, placeholder := "OUTPUT_FILE",
        purpose := "Output file path (defaults to stdout)" }]
  | parse =>
    [reportFormat,
      { short := 'e', long := "export", isPath := true, placeholder := "EXPORT",
        purpose := "Write the compiled graph to this family file" }]
  | validate => [familyFile]
  | init =>
    [{ short := 'c', long := "config-file", isPath := true, placeholder := "CONFIG_FILE",
        purpose := "Configuration file path [default: kinship.yml]" }]

/-- The words of a command. -/
def words : CommandName → List WordSpec
  | parse => [⟨"PHRASE", "Phrase such as \"его мать — младшая сестра её отца\""⟩]
  | _ => []

end CommandName

/-- The options in front of the command. -/
def programOptions : List OptionSpec :=
  [{ short := 'l', long := "log-level", placeholder := "LOG_LEVEL",
      purpose := "Log level (overrides the configured one)" },
    { short := 'c', long := "config", isPath := true, placeholder := "CONFIG",
      purpose := "Configuration file path" }]

/-- Which options may stand at a place, besides the one for help. -/
structure Grammar where
  options : List OptionSpec
  hasVersion : Bool := false

/-- The options and words that have been read. -/
structure Given where
  /-- The values by the long names of their options. -/
  values : List (String × String) := []
  words : List String := []
deriving DecidableEq, Repr

/-- What one argument is. -/
inductive Argument where
  | long (name : List Char) (value : Option (List Char))
  | short (letter : Char) (value : Option (List Char))
  /-- All that follows are words. -/
  | separator
  | word
deriving DecidableEq, Repr

namespace Argument

/-- The value after an equals sign, if there is a sign. -/
def attached (text : List Char) : Option (List Char) :=
  match text.dropWhile (· ≠ '=') with
  | _ :: value => some value
  | [] => none

/-- The value that follows a letter in the same argument, with an equals sign in front or without one. -/
def following : List Char → Option (List Char)
  | [] => none
  | '=' :: value => some value
  | value => some value

/-- What an argument is. A dash alone is a word. -/
def ofText : List Char → Argument
  | ['-', '-'] => .separator
  | '-' :: '-' :: text => .long (text.takeWhile (· ≠ '=')) (attached text)
  | '-' :: letter :: text => .short letter (following text)
  | _ => .word

/-- The argument begins like an option, so that it is no value of the one before it. -/
def isDashed (argument : String) : Bool :=
  ofText argument.toList ≠ .word

end Argument

/-- What an option asks for. -/
inductive OptionMeaning where
  | takesValue (spec : OptionSpec)
  | help
  | version
  | unknown

namespace Grammar

/-- What a long option means. -/
def long (grammar : Grammar) (name : String) : OptionMeaning :=
  match grammar.options.find? fun spec => spec.long = name with
  | some spec => .takesValue spec
  | none =>
    if name = "help" then .help
    else if name = "version" ∧ grammar.hasVersion then .version
    else .unknown

/-- What a letter means. -/
def short (grammar : Grammar) (letter : Char) : OptionMeaning :=
  match grammar.options.find? fun spec => spec.short = letter with
  | some spec => .takesValue spec
  | none =>
    if letter = 'h' then .help
    else if letter = 'V' ∧ grammar.hasVersion then .version
    else .unknown

end Grammar

/-- Why the reading of options stops before its end. -/
inductive Stop where
  | error (error : UsageError)
  | help
  | version

namespace Given

/-- The value of an option. -/
def value? (given : Given) (name : String) : Option String :=
  given.values.lookup name

/-- Takes the value of an option, which may be given once. -/
def take (given : Given) (spec : OptionSpec) (value : String) : Except Stop Given :=
  if (given.value? spec.long).isSome then .error (.error (.repeatedOption spec.long))
  else if spec.isPath ∧ value = "" then .error (.error (.missingValue spec.long))
  else .ok { given with values := (spec.long, value) :: given.values }

/-- What to do with an option: its value may be the argument after it. -/
inductive Step where
  | done (given : Given)
  | needsNext (spec : OptionSpec)

/-- Reads an option that is written with a value or without one. -/
def option (given : Given) (meaning : OptionMeaning) (argument : String) (value : Option (List Char)) :
    Except Stop Step :=
  match meaning, value with
  | .unknown, _ => .error (.error (.unknownOption argument))
  | .help, none => .error .help
  | .version, none => .error .version
  | .help, some _ => .error (.error (.unknownOption argument))
  | .version, some _ => .error (.error (.unknownOption argument))
  | .takesValue spec, some value => do return .done (← given.take spec (String.ofList value))
  | .takesValue spec, none => .ok (.needsNext spec)

/-- Reads one argument. Nothing is told of a word. -/
def next? (given : Given) (grammar : Grammar) (argument : String) : Except Stop (Option Step) :=
  match Argument.ofText argument.toList with
  | .long name value => do
    return some (← given.option (grammar.long (String.ofList name)) argument value)
  | .short letter value =>
    match grammar.short letter with
    -- Letters without a value may stand together, and the first one decides.
    | .help => .error .help
    | .version => .error .version
    | meaning => do return some (← given.option meaning argument value)
  | .separator | .word => .ok none

/-- Reads options up to the first word. Tells what was given, and the arguments from that word on. -/
def optionsOf (grammar : Grammar) (given : Given) : List String → Except Stop (Given × List String)
  | [] => .ok (given, [])
  | [argument] => do
    match ← given.next? grammar argument with
    | some (.done given) => return (given, [])
    | some (.needsNext spec) => throw (.error (.missingValue spec.long))
    | none => return (given, [argument])
  | argument :: following :: rest => do
    match ← given.next? grammar argument with
    | some (.done given) => optionsOf grammar given (following :: rest)
    | some (.needsNext spec) =>
      if Argument.isDashed following then throw (.error (.missingValue spec.long))
      else optionsOf grammar (← given.take spec following) rest
    | none => return (given, argument :: following :: rest)

/-- Takes a word, if one more is wanted. -/
def takeWord (given : Given) (wanted : Nat) (word : String) : Except Stop Given :=
  if given.words.length < wanted then .ok { given with words := given.words ++ [word] }
  else .error (.error (.extraWord word))

/-- Reads options and words in any order, at most that many words. -/
def allOf (grammar : Grammar) (wanted : Nat) (given : Given) : List String → Except Stop Given
  | [] => .ok given
  | [argument] => do
    match ← given.next? grammar argument with
    | some (.done given) => return given
    | some (.needsNext spec) => throw (.error (.missingValue spec.long))
    | none => if argument = "--" then return given else given.takeWord wanted argument
  | argument :: following :: rest => do
    match ← given.next? grammar argument with
    | some (.done given) => allOf grammar wanted given (following :: rest)
    | some (.needsNext spec) =>
      if Argument.isDashed following then throw (.error (.missingValue spec.long))
      else allOf grammar wanted (← given.take spec following) rest
    | none =>
      if argument = "--" then (following :: rest).foldlM (fun given word => given.takeWord wanted word) given
      else allOf grammar wanted (← given.takeWord wanted argument) (following :: rest)

end Given

namespace CommandName

/-- The value of an option that must be given. -/
def required (given : Given) (name : String) : Except Stop String :=
  match given.value? name with
  | some value => .ok value
  | none => .error (.error (.missingOption name))

/-- The command with what was given to it. -/
def command (name : CommandName) (given : Given) : Except Stop Command :=
  match name with
  | classify => do
    return .classify (← required given "file") (← required given "a") (← required given "b")
      (given.value? "output") (given.value? "output-file")
  | parse =>
    match given.words with
    | phrase :: _ => .ok (.parse phrase (given.value? "output") (given.value? "export"))
    | [] => .error (.error (.missingOption "PHRASE"))
  | validate => do return .validate (← required given "file")
  | init => .ok (.init ((given.value? "config-file").getD "kinship.yml"))

end CommandName

namespace Request

/-- What a request for help in words asks for. -/
def ofHelpWords : List String → Except UsageError Request
  | [] => .ok (.help none)
  | ["help"] => .ok (.help none)
  | [word] =>
    match CommandName.ofWord? word with
    | some name => .ok (.help (some name))
    | none => .error (.unknownCommand word)
  | word :: next :: _ => .error (.unknownCommand (if (CommandName.ofWord? word).isSome then next else word))

/-- What a stop of the reading means, inside a command or in front of it. -/
def ofStop (command : Option CommandName) : Stop → Except UsageError Request
  | .error error => .error error
  | .help => .ok (.help command)
  | .version => .ok .version

/-- Reads a command and its arguments. -/
def ofCommand (given : Given) (name : CommandName) (rest : List String) : Except UsageError Request :=
  let read : Except Stop Command := do
    name.command (← Given.allOf ⟨name.options, false⟩ name.words.length {} rest)
  match read with
  | .error stop => ofStop (some name) stop
  | .ok command => .ok (.run ⟨command, given.value? "config", given.value? "log-level"⟩)

/-- What a list of arguments asks for. -/
def ofArguments (arguments : List String) : Except UsageError Request :=
  match Given.optionsOf ⟨programOptions, true⟩ {} arguments with
  | .error stop => ofStop none stop
  | .ok (_, []) => .error .missingCommand
  | .ok (given, word :: rest) =>
    if word = "help" then ofHelpWords rest
    else
      match CommandName.ofWord? word with
      | some name => ofCommand given name rest
      | none => .error (if word = "--" ∧ rest = [] then .missingCommand else .unknownCommand word)

end Request

end Kindred
