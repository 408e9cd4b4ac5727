import SmartScale.Cli.Options
import SmartScale.Number.Rendering

/-!
# Help pages

What a user who asks for help is shown: what the program or a command does, how it is called, and a
section for each kind of argument, with the descriptions in one column.
-/

namespace SmartScale

namespace Help

/-- A part of a page: a title, and what can be written with what it means. -/
structure Section where
  title : String
  rows : List (String × String)
  deriving DecidableEq, Repr

/-- The lines of a section; the marks are as wide as the widest of them. -/
def Section.lines (s : Section) : List String :=
  let width := (s.rows.map fun row => row.1.length).foldl max 0
  (s.title ++ ":") :: s.rows.map fun row => "  " ++ padRight width row.1 ++ "  " ++ row.2

/-- A page: what is described, how it is called, and the sections, with empty lines between. -/
def page (about usage : String) (sections : List Section) : String :=
  let blocks := [about] :: ["Usage: " ++ usage] :: sections.map Section.lines
  String.intercalate "\n" (blocks.map fun block => String.join (block.map (· ++ "\n")))

/-- An option as it is called. -/
def call (spec : OptionSpec) : String :=
  match spec.value with
  | some value => "--" ++ spec.name ++ " <" ++ value.label ++ ">"
  | none => "--" ++ spec.name

/-- The options of a call: required ones in full, and one word for all others. -/
def usage (options : List OptionSpec) : String :=
  let others := if options.all (·.required) then [] else ["[OPTIONS]"]
  String.join ((others ++ (options.filter (·.required)).map call).map (" " ++ ·))

/-- The row of an option, behind the place for a letter. -/
def row (spec : OptionSpec) : String × String := ("    " ++ call spec, spec.about)

def helpRow : String × String := ("-h, --help", "Print help")

def versionRow : String × String := ("-V, --version", "Print version")

def commandPage (program : String) (spec : CommandSpec) : String :=
  page spec.about (program ++ " " ++ spec.name ++ usage spec.options)
    [⟨"Options", spec.options.map row ++ [helpRow]⟩]

def helpCommand : CommandSpec :=
  ⟨"help", "Print this message or the help of the given subcommand(s)", []⟩

def helpPage (program : String) : String :=
  page helpCommand.about (program ++ " " ++ helpCommand.name ++ " [COMMAND]...")
    [⟨"Arguments", [("[COMMAND]...", "Print help for the subcommand(s)")]⟩]

def programPage (program about : String) (options : List OptionSpec)
    (commands : List CommandSpec) : String :=
  page about (program ++ usage options ++ " <COMMAND>")
    [⟨"Commands", (commands ++ [helpCommand]).map fun spec => (spec.name, spec.about)⟩,
      ⟨"Options", options.map row ++ [helpRow, versionRow]⟩]

end Help

end SmartScale
