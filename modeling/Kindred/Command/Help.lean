import Kindred.Command.Arguments

/-! The help of the command line. -/

namespace Kindred

namespace Help

/-- Spaces that bring a text to a width. -/
def padded (width : Nat) (text : String) : String :=
  text ++ String.ofList (List.replicate (width - text.length) ' ')

/-- Rows of two columns, under a heading. -/
def table (heading : String) (rows : List (String × String)) : List String :=
  let width := (rows.map fun row => row.1.length).foldl max 0
  "" :: heading :: rows.map fun (left, right) => "  " ++ padded width left ++ "  " ++ right

/-- The row of an option. -/
def optionRow (spec : OptionSpec) : String × String :=
  (s!"-{spec.short}, --{spec.long} <{spec.placeholder}>", spec.purpose)

/-- The row of the option for help. -/
def helpRow : String × String :=
  ("-h, --help", "Print help")

/-- How an option that must be given stands in the line of usage. -/
def requiredOption (spec : OptionSpec) : String :=
  s!" --{spec.long} <{spec.placeholder}>"

/-- The line of usage of a command. -/
def usage (name : CommandName) : String :=
  let optional := if name.options.all OptionSpec.isRequired then "" else " [OPTIONS]"
  "Usage: kinship " ++ name.word ++ optional ++
    String.join ((name.options.filter OptionSpec.isRequired).map requiredOption) ++
    String.join (name.words.map fun word => " <" ++ word.placeholder ++ ">")

/-- The help of one command. -/
def ofCommand (name : CommandName) : List String :=
  [name.purpose, "", usage name] ++
    (if name.words.isEmpty then []
      else table "Arguments:" (name.words.map fun word => ("<" ++ word.placeholder ++ ">", word.purpose))) ++
    table "Options:" (name.options.map optionRow ++ [helpRow])

/-- The help of the program. -/
def ofProgram : List String :=
  ["Kinship inference over family graphs and Russian kinship phrases", "",
    "Usage: kinship [OPTIONS] <COMMAND>"] ++
    table "Commands:" (CommandName.all.map (fun name => (name.word, name.purpose)) ++
      [("help", "Print this message or the help of the given subcommand(s)")]) ++
    table "Options:" (programOptions.map optionRow ++ [helpRow, ("-V, --version", "Print version")])

/-- The help of a command or of the program. -/
def text (command : Option CommandName) : String :=
  String.join (((command.map ofCommand).getD ofProgram).map (· ++ "\n"))

end Help

/-- The line that tells the version. -/
def versionText : String :=
  "kinship 0.1.0\n"

end Kindred
