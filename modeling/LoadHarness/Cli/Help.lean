import LoadHarness.Cli.Arguments

/-!
# Usage and help texts

Texts are laid out for a width of 78 columns.

A usage line is `usage: `, the parser's name, the options in brackets, then
the positional parameters.  When it does not fit, the options are wrapped
onto lines indented to just after the parser's name, and the positional
parameters start a line of their own.

A help text is the usage line, the description if there is one, then the
positional parameters and the options, one per row.  A row's description
starts at a common column: two past the longest invocation (counting its
indentation), but no further than column 24; an invocation too long for its
column puts its description on the next line.
-/

namespace LoadHarness

namespace Cli

/-- The width texts are laid out for. -/
def textWidth : Nat := 78

/-- The furthest column where descriptions of rows start. -/
def maxHelpColumn : Nat := 24

/-- Spaces. -/
def spaces (count : Nat) : String := String.ofList (List.replicate count ' ')

/-- Parts joined by spaces into lines that fit the width, the first line
starting after `lead` characters and later ones after `indent`; the lines are
given without their indentation. -/
def fillLines (parts : List String) (indent : String) (lead : Nat) : List String :=
  let (lines, current, _) := parts.foldl (fun (state : List String × List String × Nat) part =>
    let (lines, current, length) := state
    if length + 1 + part.length > textWidth && !current.isEmpty then
      (lines ++ [" ".intercalate current], [part], indent.length - 1 + part.length + 1)
    else (lines, current ++ [part], length + part.length + 1)) ([], [], lead - 1)
  if current.isEmpty then lines else lines ++ [" ".intercalate current]

/-- The usage text of a parser named `prog` with these option and positional
parts, without a final line feed. -/
def usageText (prog : String) (optionParts positionalParts : List String) : String :=
  let lead := "usage: "
  let whole := " ".intercalate (prog :: optionParts ++ positionalParts)
  if lead.length + whole.length ≤ textWidth then lead ++ whole
  else
    let indent := spaces (lead.length + prog.length + 1)
    let indented (lines : List String) : List String :=
      match lines with
      | first :: rest => first :: rest.map (indent ++ ·)
      | [] => []
    let lines :=
      if optionParts.isEmpty then indented (fillLines (prog :: positionalParts) indent lead.length)
      else
        indented (fillLines (prog :: optionParts) indent lead.length) ++
          (fillLines positionalParts indent indent.length).map (indent ++ ·)
    lead ++ "\n".intercalate lines

/-- A row of a help text: its indentation, invocation and description. -/
structure HelpRow where
  indent : Nat
  invocation : String
  description : Option String := none

namespace HelpRow

/-- The column after the row's invocation. -/
def reach (row : HelpRow) : Nat := row.indent + row.invocation.length

/-- The row laid out with descriptions starting at `column`. -/
def render (column : Nat) (row : HelpRow) : String :=
  let width := column - row.indent - 2
  match row.description with
  | none => spaces row.indent ++ row.invocation ++ "\n"
  | some text =>
      if row.invocation.length ≤ width then
        spaces row.indent ++ row.invocation ++ spaces (width - row.invocation.length) ++ "  " ++ text ++ "\n"
      else spaces row.indent ++ row.invocation ++ "\n" ++ spaces column ++ text ++ "\n"

end HelpRow

/-- The row of the help option. -/
def helpRow : HelpRow := ⟨2, "-h, --help", some "show this help message and exit"⟩

/-- A help text: usage, description, and the two sections of rows. -/
def helpText (usage : String) (description : Option String)
    (positionalRows optionRows : List HelpRow) : String :=
  let rows := positionalRows ++ optionRows
  let column := min (rows.foldl (fun longest row => max longest row.reach) 0 + 2) maxHelpColumn
  let block (title : String) (rows : List HelpRow) : List String :=
    if rows.isEmpty then [] else [title ++ ":\n" ++ String.join (rows.map (HelpRow.render column))]
  let blocks := [usage ++ "\n"] ++ (description.map fun text => [text ++ "\n"]).getD [] ++
    block "positional arguments" positionalRows ++ block "options" optionRows
  "\n".intercalate blocks

/-- The option parts of a parser's usage: help first. -/
def optionParts (options : List Param) : List String := "[-h]" :: options.map Param.usagePart

namespace Command

/-- The name of a command's parser under the program `program`. -/
def prog (command : Command) (program : String) : String := program ++ " " ++ command.name

/-- The usage text of a command. -/
def usage (command : Command) (program : String) : String :=
  usageText (command.prog program) (optionParts command.options) (command.positionals.map Param.usagePart)

/-- The help text of a command. -/
def help (command : Command) (program : String) : String :=
  helpText (command.usage program) none
    (command.positionals.map fun param => ⟨2, param.invocation, none⟩)
    (helpRow :: command.options.map fun param => ⟨2, param.invocation, none⟩)

end Command

namespace Program

/-- The placeholder of the command: the commands in braces. -/
def commandChoice (program : Program) : String :=
  "\x7b" ++ ",".intercalate (program.commands.map Command.name) ++ "\x7d"

/-- The usage text of the program. -/
def usage (program : Program) : String :=
  usageText program.name (optionParts program.options) [program.commandChoice ++ " ..."]

/-- The help text of the program. -/
def help (program : Program) : String :=
  helpText program.usage (some program.description)
    (⟨2, program.commandChoice, none⟩ :: program.commands.map fun command => ⟨4, command.name, some command.summary⟩)
    (helpRow :: program.options.map fun param => ⟨2, param.invocation, none⟩)

end Program

end Cli

end LoadHarness
