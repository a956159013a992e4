import HeaderEnum.CommandLine.Arguments
import HeaderEnum.Disk.TextFile
import HeaderEnum.Generation
import HeaderEnum.Pattern.Match
import HeaderEnum.Settings.ConfigFile

/-!
# Settings of a run

The config file's values come first and those of the command line replace them; lists are joined
instead. Paths of the config file are read from its directory and paths of the command line from the
working directory. An empty path or enum name on the command line counts as absent. What is missing
is reported before a bad pattern, and a bad pattern before a bad access level. An empty list in place
of a pattern crashes where the pattern is needed, and one in place of a list's text at the very end.
-/

namespace HeaderEnum.Settings

/-- Why there are no settings. -/
inductive Fault where
  /-- The config file cannot be read. -/
  | unreadable (path : Path) (fault : Disk.FileFault)
  /-- The config file is no JSON text. -/
  | malformed (path : Path) (fault : Json.Fault)
  /-- The config file holds another value than an object. -/
  | notObject (path : Path)
  /-- A member of the config file is wrong. -/
  | badMember (path : Path) (fault : MemberFault)
  /-- There is no such case style; the source says where it was given. -/
  | unknownStyle (source style : String)
  /-- A value is needed that nothing gives. -/
  | missing (spelling : String)
  /-- The pattern is none. -/
  | badPattern (text : String) (fault : Pattern.Fault)
  /-- There is no such access level. -/
  | unknownAccess (access : String)
  deriving DecidableEq, Repr

/-- The wording of a fault. -/
def Fault.message [Platform] : Fault → String
  | .unreadable path fault => "Cannot read config " ++ path.toText ++ ": " ++ fault.message
  | .malformed path fault => "Invalid JSON in config " ++ path.toText ++ ": " ++ fault.message
  | .notObject path => "Config " ++ path.toText ++ " must contain a JSON object"
  | .badMember path fault => "Invalid config " ++ path.toText ++ ": " ++ fault.message
  | .unknownStyle source style => "Invalid " ++ source ++ ": " ++ style
  | .missing spelling => "Missing required " ++ spelling
  | .badPattern text fault =>
    "Invalid --match pattern '" ++ text ++ "': " ++ fault.message text
  | .unknownAccess access => "Invalid --access: " ++ access

/-- The config file that a fault concerns as a file. -/
def Fault.file? : Fault → Option Path
  | .unreadable path _ => some path
  | .malformed path _ => some path
  | .badMember path _ => some path
  | _ => none

/-- The config file at a path, given its bytes or why there are none. -/
def ConfigFile.load [Platform] (path : Path) (bytes : Except (Halt Disk.FileFault) ByteArray) :
    Except (Halt Fault) ConfigFile :=
  match Disk.textOfRead bytes with
  | .error halt => .error (halt.map (.unreadable path))
  | .ok text =>
    match Json.parse text with
    | .error halt => .error (halt.map (.malformed path))
    | .ok (.object members) => (ConfigFile.ofMembers members).mapError (.fault ∘ .badMember path)
    | .ok _ => .error (.fault (.notObject path))

/-- Values as they are known before all of them have been given. -/
structure Draft where
  /-- The header to scan. -/
  input : Option Path := none
  /-- The file to write. -/
  output : Option Path := none
  /-- The name of the enum. -/
  enumName : Option String := none
  /-- The pattern that selects constants. -/
  pattern : Option String := none
  /-- Prefixes to drop. -/
  prefixes : List String := []
  /-- Suffixes to drop. -/
  suffixes : List String := []
  /-- The case style. -/
  style : Naming.CaseStyle := .lowerCamel
  /-- The access level. -/
  access : Option String := none
  /-- Modules to import. -/
  imports : List String := []
  /-- Write the extension instead of the markers. -/
  expand : Bool := false
  /-- Flags that hold an empty list where a text should be. -/
  hollow : List CommandLine.Flag := []
  deriving DecidableEq, Repr

/-- The case style of a label, or the given one without a label. -/
def styleOf (source : String) (label : Option String) (otherwise : Naming.CaseStyle) :
    Except (Halt Fault) Naming.CaseStyle :=
  match label with
  | none => .ok otherwise
  | some label =>
    match Naming.CaseStyle.ofLabel? label with
    | some style => .ok style
    | none => .error (.fault (.unknownStyle source label))

/-- The values of the config file at a path. -/
def Draft.ofConfig (path : Path) (file : ConfigFile) : Except (Halt Fault) Draft :=
  match styleOf "caseStyle in config" file.caseStyle .lowerCamel with
  | .error fault => .error fault
  | .ok style => .ok {
      input := file.input.map (Path.resolve · path.parent)
      output := file.output.map (Path.resolve · path.parent)
      enumName := file.enumName
      pattern := file.pattern
      prefixes := file.prefixes.getD []
      suffixes := file.suffixes.getD []
      style := style
      access := file.access
      imports := file.imports.getD []
      expand := file.expand.getD false }

/-- A text that is not empty. -/
def nonEmpty (text : Option String) : Option String := text.filter (· ≠ "")

/-- The values of a draft, replaced and joined by those of the command line. -/
def Draft.override (draft : Draft) (arguments : CommandLine.Arguments) (cwd : Path) :
    Except (Halt Fault) Draft :=
  match styleOf "--case-style" arguments.caseStyle draft.style with
  | .error fault => .error fault
  | .ok style => .ok {
      input := ((nonEmpty arguments.input).map (Path.resolve · cwd)).or draft.input
      output := ((nonEmpty arguments.output).map (Path.resolve · cwd)).or draft.output
      enumName := (nonEmpty arguments.enumName).or draft.enumName
      pattern := arguments.pattern.or draft.pattern
      prefixes := draft.prefixes ++ arguments.prefixes.getD []
      suffixes := draft.suffixes ++ arguments.suffixes.getD []
      style := style
      access := arguments.access.or draft.access
      imports := draft.imports ++ arguments.imports.getD []
      expand := draft.expand || arguments.expand
      hollow := draft.hollow ++ arguments.hollow }

end HeaderEnum.Settings

namespace HeaderEnum

/-- Everything that a run needs to know. -/
structure Settings where
  /-- The header to scan. -/
  input : Path
  /-- The file to write. -/
  output : Path
  /-- The name of the enum. -/
  enumName : String
  /-- The pattern that selects constants. -/
  pattern : Option Pattern
  /-- Prefixes to drop. -/
  prefixes : List String
  /-- Suffixes to drop. -/
  suffixes : List String
  /-- The case style. -/
  style : Naming.CaseStyle
  /-- The access level. -/
  access : Option String
  /-- Modules to import. -/
  imports : List String
  /-- Write the extension instead of the markers. -/
  expand : Bool
  deriving Repr

namespace Settings

/-- The access levels that a case or an enum can have. -/
def accessLevels : List String := ["public", "internal", "package", "fileprivate", "private"]

/-- The pattern of a text, or none without a text. -/
def patternOf [Platform] (text : Option String) : Except (Halt Fault) (Option Pattern) :=
  match text with
  | none => .ok none
  | some text =>
    match Pattern.compile text with
    | .ok pattern => .ok (some pattern)
    | .error halt => .error (halt.map (.badPattern text))

/-- The access level, if it is one. -/
def accessOf (access : Option String) : Except (Halt Fault) (Option String) :=
  match access with
  | none => .ok none
  | some level =>
    if accessLevels.contains level then .ok (some level)
    else .error (.fault (.unknownAccess level))

/-- Crash over an empty list that some flags hold. -/
def Draft.refuseHollow (draft : Draft) (concerns : CommandLine.Flag → Bool) :
    Except (Halt Fault) Unit :=
  if draft.hollow.any concerns then .error (.crash .hollowValue) else .ok ()

/-- Settings without anything missing. -/
def Draft.finish [Platform] (draft : Draft) : Except (Halt Fault) Settings := do
  let some input := draft.input | .error (.fault (.missing "--input"))
  let some output := draft.output | .error (.fault (.missing "--output"))
  let some enumName := nonEmpty draft.enumName | .error (.fault (.missing "--enum"))
  draft.refuseHollow (· = .pattern)
  let pattern ← patternOf draft.pattern
  let access ← accessOf draft.access
  draft.refuseHollow (·.repeats)
  return {
    input, output, enumName, pattern, access
    prefixes := draft.prefixes
    suffixes := draft.suffixes
    style := draft.style
    imports := draft.imports
    expand := draft.expand }

/-- The notices about the pattern of a draft. It is not looked at while something else is missing. -/
def Draft.notices [Platform] (draft : Draft) : List Pattern.Notice :=
  let isReached := draft.input.isSome && draft.output.isSome && (nonEmpty draft.enumName).isSome
    && !draft.hollow.contains .pattern
  if isReached then draft.pattern.elim [] Pattern.noticesOf else []

/-- The config file that a command line names, read from the working directory. -/
def configPath? (arguments : CommandLine.Arguments) (cwd : Path) : Option Path :=
  (nonEmpty arguments.config).map (Path.resolve · cwd)

/-- The values of a command line and of the config file that it names. -/
def draftOf [Platform] (arguments : CommandLine.Arguments) (cwd : Path)
    (config : Option (Path × Except (Halt Disk.FileFault) ByteArray)) :
    Except (Halt Fault) Draft := do
  let draft ← match config with
    | none => pure {}
    | some (path, bytes) => Draft.ofConfig path (← ConfigFile.load path bytes)
  draft.override arguments cwd

/-- The settings of a command line and of the config file that it names. -/
def resolve [Platform] (arguments : CommandLine.Arguments) (cwd : Path)
    (config : Option (Path × Except (Halt Disk.FileFault) ByteArray)) :
    Except (Halt Fault) Settings := do
  (← draftOf arguments cwd config).finish

/-- The notices that come with the settings, whether there are any or not. -/
def noticesOf [Platform] (arguments : CommandLine.Arguments) (cwd : Path)
    (config : Option (Path × Except (Halt Disk.FileFault) ByteArray)) : List Pattern.Notice :=
  match draftOf arguments cwd config with
  | .ok draft => draft.notices
  | .error _ => []

/-- The rules for names that the settings contain. -/
def rules (settings : Settings) : Naming.Rules where
  selects := match settings.pattern with
    | none => fun _ => true
    | some pattern => pattern.occursIn
  prefixes := settings.prefixes
  suffixes := settings.suffixes
  style := settings.style

/-- The layout of the file that the settings ask for. -/
def layout (settings : Settings) (supportModule : String) : Swift.Layout where
  enumName := settings.enumName
  access := settings.access
  imports := settings.imports
  supportModule := supportModule
  expand := settings.expand

end Settings

end HeaderEnum
