import LoadHarness.Cli.Numeral
import LoadHarness.Value.Show

/-!
# Command-line arguments

A program takes a few options of its own and then a command; each command
takes positional parameters that may be left out and options, every option
with one argument.  Every parser also knows `-h`/`--help`.

## Reading one argument

A parser first decides, for all its arguments at once, what each one is:

* the first `--` is a marker, and every argument after it a value;
* an argument that does not start with `-`, and a lone `-`, is a value;
* an option the parser knows, written in full, or in full followed by `=` and
  a value, is that option; a name that is the start of exactly one option
  (`--se` for `--seed`) is that option too, and `-h` may have more letters run
  into it;
* a name that starts several options is an error, reported before anything
  else is read;
* what is left is a value when it looks like a negative number (a minus and
  digits, possibly with a point) or holds a space, and an unknown option
  otherwise.

## Reading a parser's arguments

Reading alternates between values and options, from left to right.  The first
time values come (before an option, or at the end), every positional
parameter takes its share at once: each takes the next value if there is
one, and the parameters that find none keep their defaults.  Values nobody
takes and unknown options are left over.  An option takes the value attached
to it, or the next argument, which must be a value.  Values are converted as
they are taken, so the first bad value is the one reported; help is shown as
soon as its option is read.

The program's own parser takes the command as its positional parameter: it
takes the rest of the arguments, the first naming the command, and the
command's parser reads the others.  What both parsers leave over is refused
together, the program's first.
-/

namespace LoadHarness

namespace Cli

/-- How the text of an argument is converted. -/
inductive ArgType where
  | text
  | integer
  | decimal
  deriving Inhabited, BEq

namespace ArgType

/-- The name of the type in messages. -/
def name : ArgType → String
  | .text => "str"
  | .integer => "int"
  | .decimal => "float"

end ArgType

/-- The value of a parameter. -/
inductive ArgValue where
  | none
  | text (value : String)
  | integer (value : Int)
  | decimal (value : Float)
  deriving Inhabited

/-- A parameter: an option when its name starts with `--`, otherwise a
positional parameter that may be left out. -/
structure Param where
  name : String
  type : ArgType := .text
  default : ArgValue := .none
  deriving Inhabited

namespace Param

/-- Whether the parameter is an option. -/
def isOption (param : Param) : Bool := param.name.startsWith "--"

/-- The key the parameter's value is stored under: the name without leading
dashes, other dashes turned into underscores. -/
def dest (param : Param) : String :=
  String.ofList ((param.name.toList.dropWhile (· == '-')).map fun c => if c == '-' then '_' else c)

/-- The placeholder of an option's argument: the key in capitals. -/
def metavar (param : Param) : String := String.ofList (param.dest.toList.map Char.toUpper)

/-- How the parameter is invoked: an option with its placeholder, or the name. -/
def invocation (param : Param) : String :=
  if param.isOption then param.name ++ " " ++ param.metavar else param.name

/-- The parameter in a usage line. -/
def usagePart (param : Param) : String := "[" ++ param.invocation ++ "]"

end Param

/-- A command: its name, the line that describes it, and its parameters. -/
structure Command where
  name : String
  summary : String
  params : List Param
  deriving Inhabited

namespace Command

/-- The positional parameters. -/
def positionals (command : Command) : List Param := command.params.filter fun param => !param.isOption

/-- The options. -/
def options (command : Command) : List Param := command.params.filter Param.isOption

end Command

/-- A program: its name, description, own options and commands. -/
structure Program where
  name : String
  description : String
  options : List Param
  commands : List Command
  deriving Inhabited

/-- What an option does: show help, or set a parameter. -/
inductive Target where
  | help
  | param (param : Param)
  deriving Inhabited

/-- The name of an option in messages. -/
def Target.title : Target → String
  | .help => "-h/--help"
  | .param setting => setting.name

/-- What a parser makes of one argument. -/
inductive Piece where
  /-- The first `--`. -/
  | marker
  /-- A value. -/
  | plain
  /-- An option the parser knows, with the name it was read as and the value
  written in the same argument: after `=`, or right after a one-letter
  option. -/
  | option (target : Target) (written : String) (attached : Option String)
  /-- Something written as an option that the parser does not know. -/
  | unknown
  deriving Inhabited

namespace Piece

/-- Whether the piece is an option, known or not. -/
def isOption : Piece → Bool
  | .option .. => true
  | .unknown => true
  | _ => false

/-- Whether the piece is the marker. -/
def isMarker : Piece → Bool
  | .marker => true
  | _ => false

/-- Whether the piece is a value. -/
def isPlain : Piece → Bool
  | .plain => true
  | _ => false

/-- The name an option was read as. -/
def written : Piece → String
  | .option _ name _ => name
  | _ => ""

end Piece

/-- An argument and what the parser makes of it. -/
abbrev Arg := String × Piece

/-- The options a parser knows, by name: help first, in both spellings. -/
def knownOptions (options : List Param) : List (String × Target) :=
  ("-h", .help) :: ("--help", .help) :: options.map fun param => (param.name, .param param)

/-- Whether an argument looks like a negative number: a minus and digits, or a
minus, digits, a point and digits, with at least one digit after the point;
digits of any script count, and one final line feed may follow. -/
def looksNegative (chars : List Char) : Bool :=
  let core := if chars.getLast? == some '\n' then chars.dropLast else chars
  match core with
  | '-' :: body =>
      match body.span Numeral.isDigit with
      | (whole, []) => !whole.isEmpty
      | (_, '.' :: fraction) => !fraction.isEmpty && fraction.all Numeral.isDigit
      | _ => false
  | _ => false

/-- The options an argument starting with `-` may stand for.  With two dashes,
the name before any `=` may be the start of an option's name.  With one dash,
an option named by the first two characters takes the rest as attached, and
an option whose name starts with the whole argument is also a candidate. -/
def candidates (known : List (String × Target)) (arg : String) : List Piece :=
  let chars := arg.toList
  match chars with
  | '-' :: '-' :: _ =>
      let (stem, attached) : String × Option String :=
        match chars.span (· != '=') with
        | (front, _ :: rest) => (String.ofList front, some (String.ofList rest))
        | (front, []) => (String.ofList front, none)
      known.filterMap fun (name, target) =>
        if name.startsWith stem then some (.option target name attached) else none
  | _ =>
      let letter := String.ofList (chars.take 2)
      let rest := String.ofList (chars.drop 2)
      known.filterMap fun (name, target) =>
        if name == letter then some (.option target name (some rest))
        else if name.startsWith arg then some (.option target name none)
        else none

/-- What a parser with `options` makes of an argument that does not follow
`--`, or the error of a name that starts several options. -/
def classify (options : List Param) (arg : String) : Except String Piece :=
  let known := knownOptions options
  let chars := arg.toList
  match chars with
  | '-' :: _ :: _ =>
      match List.lookup arg known with
      | some target => .ok (.option target arg none)
      | none =>
          let beforeEquals : Option Piece :=
            match chars.span (· != '=') with
            | (front, _ :: rest) =>
                (List.lookup (String.ofList front) known).map fun target =>
                  .option target (String.ofList front) (some (String.ofList rest))
            | (_, []) => none
          match beforeEquals with
          | some piece => .ok piece
          | none =>
              match candidates known arg with
              | [one] => .ok one
              | [] => .ok (if looksNegative chars || chars.contains ' ' then .plain else .unknown)
              | several =>
                  .error ("ambiguous option: " ++ arg ++ " could match " ++
                    ", ".intercalate (several.map Piece.written))
  | _ => .ok .plain

/-- What a parser makes of all its arguments: after the first `--`, which is
the marker, everything is a value.  The first argument that starts several
options is an error. -/
def pieces (options : List Param) : List String → Except String (List Arg)
  | [] => .ok []
  | "--" :: rest => .ok (("--", .marker) :: rest.map fun text => (text, .plain))
  | arg :: rest => do
      let piece ← classify options arg
      let others ← pieces options rest
      pure ((arg, piece) :: others)

/-- Why reading stopped early: help was asked for, or an error. -/
inductive Stop where
  | help
  | error (message : String)
  deriving Inhabited

/-- The value of an argument for `param`, or the error of one that its type
cannot read. -/
def convert (param : Param) (text : String) : Except Stop ArgValue :=
  let refuse : Except Stop ArgValue :=
    .error (.error ("argument " ++ param.name ++ ": invalid " ++ param.type.name ++ " value: " ++
      Quoted.quote text))
  match param.type with
  | .text => .ok (.text text)
  | .integer =>
      match Numeral.readWhole text with
      | some n => .ok (.integer n)
      | none => refuse
  | .decimal =>
      match Numeral.readDouble text with
      | some x => .ok (.decimal x)
      | none => refuse

/-- What a parser has read: values by key, the positional parameters still
waiting for their share, and the arguments left over. -/
structure Reading where
  values : List (String × ArgValue)
  waiting : List Param
  leftover : List String

namespace Reading

/-- Nothing read yet: every parameter at its default, the positional ones waiting. -/
def start (params : List Param) : Reading :=
  ⟨params.map (fun param => (param.dest, param.default)), params.filter (fun param => !param.isOption), []⟩

/-- The reading with `param` set to `value`. -/
def set (reading : Reading) (param : Param) (value : ArgValue) : Reading :=
  { reading with values := reading.values.map fun (key, old) => if key == param.dest then (key, value) else (key, old) }

/-- The value stored under a key. -/
def get (reading : Reading) (key : String) : ArgValue :=
  ((reading.values.find? (·.1 == key)).map (·.2)).getD .none

/-- The reading with more arguments left over. -/
def leave (reading : Reading) (texts : List String) : Reading :=
  { reading with leftover := reading.leftover ++ texts }

end Reading

/-- One positional parameter's share of the arguments at the front: the
markers there, the next value if there is one, and the markers after it; with
the arguments that remain. -/
def share (args : List Arg) : List String × List Arg :=
  let (lead, rest) := args.span (·.2.isMarker)
  let (value, rest) : List String × List Arg :=
    match rest with
    | (text, .plain) :: more => ([text], more)
    | _ => ([], rest)
  let (trail, rest) := rest.span (·.2.isMarker)
  (lead.map (·.1) ++ value ++ trail.map (·.1), rest)

/-- Give every waiting positional parameter its share, in order, converting
each value (a share without one, once its first `--` is dropped, leaves the
default); with the arguments that remain. -/
def fillPositionals (reading : Reading) (args : List Arg) : Except Stop (Reading × List Arg) :=
  let rec go (reading : Reading) (args : List Arg) : List Param → Except Stop (Reading × List Arg)
    | [] => .ok (reading, args)
    | param :: others =>
        let (texts, rest) := share args
        match texts.erase "--" with
        | [] => go reading rest others
        | text :: _ => do
            let value ← convert param text
            go (reading.set param value) rest others
  go { reading with waiting := [] } args reading.waiting

/-- The refusal of a value attached to help, which takes none. -/
def ignoredArgument (value : String) : Stop :=
  .error ("argument -h/--help: ignored explicit argument " ++ Quoted.quote value)

/-- Help written `-h` with the characters `attached` run into it: each
further `h` is help again, and whatever else follows is refused as a value
that help cannot take. -/
def helpRun : List Char → Stop
  | ['h'] => .help
  | 'h' :: more => helpRun more
  | attached => ignoredArgument (String.ofList attached)

/-- Read an option that starts `args`, given the arguments after it: the
reading with its value set and the arguments that remain, or why reading
stops. -/
def readOption (reading : Reading) (target : Target) (written : String) (attached : Option String)
    (rest : List Arg) : Except Stop (Reading × List Arg) :=
  match target, attached with
  | .help, none => .error .help
  | .help, some given =>
      if written.startsWith "--" then .error (ignoredArgument given)
      else .error (helpRun given.toList)
  | .param param, some given => do
      let value ← convert param given
      pure (reading.set param value, rest)
  | .param param, none =>
      match rest with
      | (text, .plain) :: more => do
          let value ← convert param text
          pure (reading.set param value, more)
      | _ => .error (.error ("argument " ++ target.title ++ ": expected one argument"))

/-- Read a command's arguments; `fuel` bounds the steps. -/
def readArgs : Nat → List Arg → Reading → Except Stop Reading
  | 0, _, reading => .ok reading
  | fuel + 1, args, reading =>
      match args.span fun arg => !arg.2.isOption with
      | (before, []) => do
          let (reading, rest) ← fillPositionals reading before
          pure (reading.leave (rest.map (·.1)))
      | (before, (text, piece) :: after) =>
          if !before.isEmpty && !reading.waiting.isEmpty then do
            let (reading, rest) ← fillPositionals reading args
            readArgs fuel rest reading
          else
            let reading := reading.leave (before.map (·.1))
            match piece with
            | .option target written attached => do
                let (reading, rest) ← readOption reading target written attached after
                readArgs fuel rest reading
            | _ => readArgs fuel after (reading.leave [text])

/-- Read the arguments of a command. -/
def Command.read (command : Command) (args : List String) : Except Stop Reading :=
  match pieces command.options args with
  | .error message => .error (.error message)
  | .ok parsed => readArgs (parsed.length + 1) parsed (Reading.start command.params)

/-- Why reading the program's arguments stopped early, and in which parser:
the program's own (`none`) or the named command's. -/
structure Halt where
  command : Option Command
  stop : Stop
  deriving Inhabited

/-- The program's arguments as read: its own options, the command, what the
command read, and everything left over, the program's first. -/
structure Invocation where
  own : Reading
  command : Command
  reading : Reading
  leftover : List String

/-- The command named by the first of `texts`, reading the others. -/
def Program.runCommand (program : Program) (texts : List String) : Except Halt (Command × Reading) :=
  let name := texts.headD ""
  match program.commands.find? (·.name == name) with
  | none =>
      .error ⟨none, .error ("argument command: invalid choice: " ++ Quoted.quote name ++ " (choose from " ++
        ", ".intercalate (program.commands.map fun command => Quoted.quote command.name) ++ ")")⟩
  | some command =>
      match command.read texts.tail with
      | .ok reading => .ok (command, reading)
      | .error stop => .error ⟨some command, stop⟩

/-- Whether the command can take the arguments: after any markers, a value. -/
def startsCommand (args : List Arg) : Bool :=
  match args.dropWhile (·.2.isMarker) with
  | (_, .plain) :: _ => true
  | _ => false

/-- Read the program's own arguments; `chosen` is the command once it has
taken the rest; `fuel` bounds the steps. -/
def Program.readOwn (program : Program) :
    Nat → List Arg → Reading → Option (Command × Reading) → Except Halt (Reading × Option (Command × Reading))
  | 0, _, own, chosen => .ok (own, chosen)
  | fuel + 1, args, own, chosen =>
      let takeCommand := chosen.isNone && startsCommand args
      match args.span fun arg => !arg.2.isOption with
      | (before, []) =>
          if takeCommand then do
            let picked ← program.runCommand (args.map (·.1))
            pure (own, some picked)
          else .ok (own.leave (before.map (·.1)), chosen)
      | (before, (text, piece) :: after) =>
          if !before.isEmpty && takeCommand then do
            let picked ← program.runCommand (args.map (·.1))
            pure (own, some picked)
          else
            let own := own.leave (before.map (·.1))
            match piece with
            | .option target written attached =>
                match readOption own target written attached after with
                | .ok (own, rest) => program.readOwn fuel rest own chosen
                | .error stop => .error ⟨none, stop⟩
            | _ => program.readOwn fuel after (own.leave [text]) chosen

/-- Read the program's arguments: its own options, then the command, which
is required. -/
def Program.read (program : Program) (args : List String) : Except Halt Invocation := do
  let parsed ← (pieces program.options args).mapError fun message => (⟨none, .error message⟩ : Halt)
  let (own, chosen) ← program.readOwn (parsed.length + 1) parsed (Reading.start program.options) none
  match chosen with
  | none => .error ⟨none, .error "the following arguments are required: command"⟩
  | some (command, reading) => pure ⟨own, command, reading, own.leftover ++ reading.leftover⟩

end Cli

end LoadHarness
