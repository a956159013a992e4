import HeaderEnum.Text.Quoted
import HeaderEnum.Text.Split

/-!
# Flags of the command line

The flags with their spellings, and what each argument of a command line looks like. An argument
that looks like a flag is one, unless it is a negative number or holds a space; a long flag may be
cut short as long as it stays clear which one is meant. Every argument is looked at before any is
used. The rules are those of release 3.11.2 of the argument parser, and letters behind one hyphen are
read in another way from its release 3.11.9 on.
-/

namespace HeaderEnum.CommandLine

/-- A flag of the command line. -/
inductive Flag where
  /-- Show the help text. -/
  | help
  /-- The header to scan. -/
  | input
  /-- The file to write. -/
  | output
  /-- The name of the enum. -/
  | enumName
  /-- The pattern that selects constants. -/
  | pattern
  /-- A prefix to drop. -/
  | dropPrefix
  /-- A suffix to drop. -/
  | dropSuffix
  /-- The case style. -/
  | caseStyle
  /-- The access level. -/
  | access
  /-- A module to import. -/
  | imports
  /-- The config file. -/
  | config
  /-- Write the extension instead of the markers. -/
  | expand
  /-- Log everything. -/
  | verbose
  deriving DecidableEq, Repr

namespace Flag

/-- All flags in the order of the help text. -/
def all : List Flag :=
  [help, input, output, enumName, pattern, dropPrefix, dropSuffix, caseStyle, access, imports,
    config, expand, verbose]

/-- The spellings of a flag. -/
def spellings : Flag → List String
  | help => ["-h", "--help"]
  | input => ["--input"]
  | output => ["--output"]
  | enumName => ["--enum"]
  | pattern => ["--match"]
  | dropPrefix => ["--drop-prefix"]
  | dropSuffix => ["--drop-suffix"]
  | caseStyle => ["--case-style"]
  | access => ["--access"]
  | imports => ["--import"]
  | config => ["--config"]
  | expand => ["--expand"]
  | verbose => ["--verbose", "-v"]

/-- The flag is followed by a value. -/
def takesValue : Flag → Bool
  | help => false
  | expand => false
  | verbose => false
  | _ => true

/-- The flag may be given again to add another value. -/
def repeats : Flag → Bool
  | dropPrefix => true
  | dropSuffix => true
  | imports => true
  | _ => false

/-- A flag as a message names it. -/
def title (flag : Flag) : String := Text.joinWith "/" flag.spellings

/-- Every spelling with its flag. -/
def table : List (String × Flag) :=
  all.flatMap fun flag => flag.spellings.map fun spelling => (spelling, flag)

/-- The flag with exactly this spelling. -/
def ofSpelling? (spelling : String) : Option Flag := table.lookup spelling

end Flag

/-- What is wrong with a command line. -/
inductive Fault where
  /-- A flag cut too short. -/
  | ambiguous (argument : String) (spellings : List String)
  /-- A flag without its value. -/
  | expectedValue (flag : Flag)
  /-- A value for a flag that takes none. -/
  | ignoredValue (flag : Flag) (value : String)
  /-- Arguments that nothing uses. -/
  | unrecognized (arguments : List String)
  deriving DecidableEq, Repr

/-- The wording of a fault. -/
def Fault.message [Platform] : Fault → String
  | .ambiguous argument spellings =>
    "ambiguous option: " ++ argument ++ " could match " ++ Text.joinWith ", " spellings
  | .expectedValue flag => "argument " ++ flag.title ++ ": expected one argument"
  | .ignoredValue flag value =>
    "argument " ++ flag.title ++ ": ignored explicit argument " ++ Text.quoted value
  | .unrecognized arguments =>
    "unrecognized arguments: " ++ Text.joinWith " " arguments

/-- What an argument looks like. -/
inductive Shape where
  /-- A value, or nothing in particular. -/
  | plain
  /-- The end of all flags. -/
  | separator
  /-- A flag as it was meant, with the value attached to it. -/
  | flag (flag : Flag) (spelling : String) (attached : Option String)
  /-- A flag that there is not. -/
  | unknown
  deriving DecidableEq, Repr

/-- A whole number of decimal digits. -/
def isDigits (text : List Char) : Bool := !text.isEmpty && text.all Letter.isDecimal

/-- A negative number, with or without a point; a line feed may follow it. -/
def isNegativeNumber (argument : List Char) : Bool :=
  match argument with
  | '-' :: rest =>
    let number := if rest.getLast? = some '\n' then rest.dropLast else rest
    isDigits number ||
      match number.dropWhile Letter.isDecimal with
      | '.' :: fraction => isDigits fraction
      | _ => false
  | _ => false

/-- The parts before and after the first equals sign. -/
def splitAtEquals (argument : List Char) : List Char × Option (List Char) :=
  let name := argument.takeWhile (· ≠ '=')
  match argument.drop name.length with
  | _ :: value => (name, some value)
  | [] => (name, none)

/-- All flags that an argument may mean when it is no exact spelling, each with its spelling and the
value attached to it. After two hyphens the argument may be cut short; after one, its second
character is the flag and the rest a value. -/
def candidates (argument : List Char) : List (Flag × String × Option String) :=
  match argument with
  | '-' :: '-' :: _ =>
    let (name, value) := splitAtEquals argument
    Flag.table.filterMap fun (spelling, flag) =>
      if name.isPrefixOf spelling.toList then some (flag, spelling, value.map String.ofList)
      else none
  | '-' :: c :: value =>
    Flag.table.filterMap fun (spelling, flag) =>
      if spelling.toList = ['-', c] then some (flag, spelling, some (String.ofList value))
      else if argument.isPrefixOf spelling.toList then some (flag, spelling, none)
      else none
  | _ => []

/-- The flag before an equals sign, if it is spelled exactly. -/
def exactWithValue? (argument : List Char) : Option Shape :=
  match splitAtEquals argument with
  | (name, some value) =>
    (Flag.ofSpelling? (String.ofList name)).map fun flag =>
      .flag flag (String.ofList name) (some (String.ofList value))
  | (_, none) => none

/-- What an argument looks like by itself. -/
def shapeOf (argument : String) : Except Fault Shape :=
  match argument.toList with
  | '-' :: _ :: _ =>
    match Flag.ofSpelling? argument with
    | some flag => .ok (.flag flag argument none)
    | none =>
      match exactWithValue? argument.toList with
      | some shape => .ok shape
      | none =>
        match candidates argument.toList with
        | [(flag, spelling, attached)] => .ok (.flag flag spelling attached)
        | [] =>
          if isNegativeNumber argument.toList || argument.toList.contains ' ' then .ok .plain
          else .ok .unknown
        | several => .error (.ambiguous argument (several.map fun (_, spelling, _) => spelling))
  | _ => .ok .plain

/-- What all arguments look like; those after the separator are plain. -/
def shapesOf : List String → Except Fault (List (String × Shape))
  | [] => .ok []
  | argument :: rest =>
    if argument = "--" then
      .ok ((argument, .separator) :: rest.map fun argument => (argument, .plain))
    else
      match shapeOf argument with
      | .error fault => .error fault
      | .ok shape => (shapesOf rest).map ((argument, shape) :: ·)

end HeaderEnum.CommandLine
