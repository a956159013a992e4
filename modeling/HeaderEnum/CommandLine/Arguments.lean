import HeaderEnum.CommandLine.Flag

/-!
# Arguments of a run

What a command line asks for: the help text, or a run with the given values. A flag given again
replaces its value or adds to its list. Flags are used from left to right, so the first fault
counts, and the help text is shown as soon as its flag is reached. Two hyphens attached to a flag are
dropped, and an empty list stands there in place of a text: it is no value, yet the flag was given.
-/

namespace HeaderEnum.CommandLine

/-- The values given on a command line. -/
structure Arguments where
  /-- The header to scan. -/
  input : Option String := none
  /-- The file to write. -/
  output : Option String := none
  /-- The name of the enum. -/
  enumName : Option String := none
  /-- The pattern that selects constants. -/
  pattern : Option String := none
  /-- Prefixes to drop. -/
  prefixes : Option (List String) := none
  /-- Suffixes to drop. -/
  suffixes : Option (List String) := none
  /-- The case style. -/
  caseStyle : Option String := none
  /-- The access level. -/
  access : Option String := none
  /-- Modules to import. -/
  imports : Option (List String) := none
  /-- The config file. -/
  config : Option String := none
  /-- Write the extension instead of the markers. -/
  expand : Bool := false
  /-- Log everything. -/
  verbose : Bool := false
  /-- Flags that hold an empty list where a text should be. -/
  hollow : List Flag := []
  deriving DecidableEq, Repr

/-- A list with one more value at its end. -/
def extended (values : Option (List String)) (value : String) : Option (List String) :=
  some (values.getD [] ++ [value])

/-- A value for a flag replaces an empty list, unless the flag repeats. -/
def Arguments.filled (arguments : Arguments) (flag : Flag) : Arguments :=
  { arguments with hollow := arguments.hollow.filter fun other => other ≠ flag || flag.repeats }

/-- Take in the text of a flag. -/
def Arguments.give (arguments : Arguments) (flag : Flag) (value : String) : Arguments :=
  let arguments := arguments.filled flag
  match flag with
  | .input => { arguments with input := some value }
  | .output => { arguments with output := some value }
  | .enumName => { arguments with enumName := some value }
  | .pattern => { arguments with pattern := some value }
  | .dropPrefix => { arguments with prefixes := extended arguments.prefixes value }
  | .dropSuffix => { arguments with suffixes := extended arguments.suffixes value }
  | .caseStyle => { arguments with caseStyle := some value }
  | .access => { arguments with access := some value }
  | .imports => { arguments with imports := extended arguments.imports value }
  | .config => { arguments with config := some value }
  | .help => arguments
  | .expand => arguments
  | .verbose => arguments

/-- The text of an empty list. -/
def emptyListText : String := "[]"

/-- Take in an empty list in place of a flag's text. It counts as no path, no name and no config file;
a case style or an access level that it stands for is looked up by its text. -/
def Arguments.giveHollow (arguments : Arguments) (flag : Flag) : Arguments :=
  let arguments := { arguments with hollow := flag :: arguments.hollow }
  match flag with
  | .input => { arguments with input := none }
  | .output => { arguments with output := none }
  | .enumName => { arguments with enumName := none }
  | .config => { arguments with config := none }
  | .caseStyle => { arguments with caseStyle := some emptyListText }
  | .access => { arguments with access := some emptyListText }
  | _ => arguments

/-- Take in the value attached to a flag. -/
def Arguments.takeIn (arguments : Arguments) (flag : Flag) (value : String) : Arguments :=
  if value = "--" then arguments.giveHollow flag else arguments.give flag value

/-- Take in a flag without a value. -/
def Arguments.turnOn (arguments : Arguments) (flag : Flag) : Arguments :=
  match flag with
  | .expand => { arguments with expand := true }
  | .verbose => { arguments with verbose := true }
  | _ => arguments

/-- What a command line asks for. -/
inductive Request where
  /-- The help text. -/
  | help
  /-- A run. -/
  | run (arguments : Arguments)
  deriving DecidableEq, Repr

/-- The flags of one argument that holds several letters after a hyphen. -/
def lettersFrom (flag : Flag) : List Char → Except Fault (List Flag)
  | [] => .ok [flag]
  | c :: rest =>
    match Flag.ofSpelling? (String.ofList ['-', c]) with
    | some next => (lettersFrom next rest).map (flag :: ·)
    | none => .error (.ignoredValue flag (String.ofList (c :: rest)))

/-- The flags of an argument without values: a value attached to a letter is more letters, also behind
an equals sign, and one attached to a long spelling is a fault. Later releases than the one whose
rules are followed refuse the equals sign and take an unknown letter for an unknown flag. -/
def switches (flag : Flag) (spelling : String) (attached : Option String) :
    Except Fault (List Flag) :=
  match attached with
  | none => .ok [flag]
  | some value =>
    if value = "" || spelling.toList.take 2 = ['-', '-'] then .error (.ignoredValue flag value)
    else lettersFrom flag value.toList

/-- Use arguments from left to right, given the values and the unused arguments so far. -/
def use : Arguments → List String → List (String × Shape) → Except Fault Request
  | arguments, unused, [] =>
    if unused.isEmpty then .ok (.run arguments) else .error (.unrecognized unused)
  | arguments, unused, (argument, shape) :: rest =>
    match shape with
    | .flag flag spelling attached =>
      if flag.takesValue then
        match attached, rest with
        | some value, rest => use (arguments.takeIn flag value) unused rest
        | none, (value, .plain) :: rest => use (arguments.give flag value) unused rest
        | none, _ => .error (.expectedValue flag)
      else
        match switches flag spelling attached with
        | .error fault => .error fault
        | .ok flags =>
          if flags.contains .help then .ok .help
          else use (flags.foldl Arguments.turnOn arguments) unused rest
    | _ => use arguments (unused ++ [argument]) rest

/-- What a command line asks for. -/
def parse (commandLine : List String) : Except Fault Request :=
  match shapesOf commandLine with
  | .error fault => .error fault
  | .ok shapes => use {} [] shapes

end HeaderEnum.CommandLine
