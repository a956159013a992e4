import HeaderEnum.CommandLine.Help
import HeaderEnum.Disk.Replace
import HeaderEnum.Log
import HeaderEnum.Settings.Settings
import HeaderEnum.Swift.Keyword

/-!
# A run of the program

From the arguments of a command line to an exit code, printed texts and a changed disk. Nothing is
written unless every stage before succeeds. A fault is told with the warnings before it. A crash is
not handled: nothing of this is told, and what the platform says about it is not told here. The disk
is reached through two operations, so that a run has the same meaning over a tree in memory as over
real files.
-/

namespace HeaderEnum

/-- How a run reaches files. -/
structure FileAccess (m : Type → Type) where
  /-- The bytes of a file. -/
  read : Path → m (Except (Halt Disk.FileFault) ByteArray)
  /-- Replace a file by a text. -/
  replace : Path → String → m (Except (Halt Disk.FileFault) Unit)

/-- What the surroundings of a run set. -/
structure Surroundings where
  /-- The name of the least log level to show. -/
  logLevel : String := "WARNING"
  /-- The module that defines the markers. -/
  supportModule : String := "CEnumMacros"
  /-- The tags that are drawn for a scratch file. -/
  tags : Nat → Disk.Tag := Disk.Tag.ofNumber

/-- Why a run fails. -/
inductive RunFault where
  /-- The command line is wrong. -/
  | commandLine (fault : CommandLine.Fault)
  /-- There are no settings. -/
  | settings (fault : Settings.Fault)
  /-- The header gives no file. -/
  | generation (fault : GenerationFault)
  /-- The header cannot be read. -/
  | unreadable (path : Path) (fault : Disk.FileFault)
  /-- The file cannot be written. -/
  | unwritable (path : Path) (fault : Disk.FileFault)
  deriving DecidableEq, Repr

/-- The wording of a generation's fault. -/
def GenerationFault.message : GenerationFault → String
  | .collision clash => clash.message
  | .declaration diagnostic => diagnostic.message

/-- The wording of a failure to do something with a file. -/
def fileFailure (action : String) (path : Path) (fault : Disk.FileFault) : String :=
  "Failed to " ++ action ++ " " ++ path.toText ++ ": " ++ fault.message

/-- The wording of a fault. -/
def RunFault.message [Platform] : RunFault → String
  | .commandLine fault => fault.message
  | .settings fault => fault.message
  | .generation fault => fault.message
  | .unreadable path fault => fileFailure "read" path fault
  | .unwritable path fault => fileFailure "write" path fault

/-- What a run has to say when it is over. -/
structure Report where
  /-- The notices about the pattern. -/
  notices : List Pattern.Notice := []
  /-- All log lines in order. -/
  log : List Log.Line := []
  /-- All warnings in order. -/
  warnings : List Warning := []
  /-- The fault or the crash that ended the run. -/
  halt : Option (Halt RunFault) := none
  deriving DecidableEq, Repr

/-- A run that stops at a fault, with the warnings before it, or at a crash. -/
def Report.stopped (log : List Log.Line) (warnings : List Warning) (halt : Halt RunFault) :
    Report where
  log := log
  warnings := warnings
  halt := some halt

/-- The first line of a run's log. -/
def startLine (settings : Settings) : Log.Line :=
  ⟨.info, .running, "Generating " ++ settings.enumName ++ " from " ++ settings.input.toText⟩

/-- The last line of a run's log. -/
def endLine (settings : Settings) (generated : Generated) : Log.Line :=
  ⟨.info, .running,
    "Wrote " ++ toString generated.entries.length ++ " cases to " ++ settings.output.toText⟩

section

variable {m : Type → Type} [Monad m] [Platform]

/-- Scan the header that the settings name and write the file. -/
def Settings.run (settings : Settings) (files : FileAccess m) (supportModule : String) :
    m Report := do
  let start := [startLine settings]
  match Disk.textOfRead (← files.read settings.input) with
  | .error halt => return .stopped start [] (halt.map (.unreadable settings.input))
  | .ok header =>
    let result := generate settings.rules Swift.reservedWords (settings.layout supportModule) header
    let log := start ++ Log.ofGeneration settings.enumName header result
    match result with
    | .error failure =>
      return .stopped log failure.warnings (.fault (.generation failure.fault))
    | .ok generated =>
      match ← files.replace settings.output generated.text with
      | .error halt =>
        return .stopped log generated.warnings (halt.map (.unwritable settings.output))
      | .ok () =>
        return { log := log ++ [endLine settings generated], warnings := generated.warnings }

/-- The config file that a command line names, with its bytes. -/
def readConfig (files : FileAccess m) (arguments : CommandLine.Arguments) (cwd : Path) :
    m (Option (Path × Except (Halt Disk.FileFault) ByteArray)) :=
  match Settings.configPath? arguments cwd with
  | none => return none
  | some path => return some (path, ← files.read path)

/-- A run with the values of a command line. -/
def runArguments (files : FileAccess m) (arguments : CommandLine.Arguments) (cwd : Path)
    (supportModule : String) : m Report := do
  let config ← readConfig files arguments cwd
  let notices := Settings.noticesOf arguments cwd config
  match Settings.resolve arguments cwd config with
  | .error halt => return { Report.stopped [] [] (halt.map .settings) with notices }
  | .ok settings => return { ← settings.run files supportModule with notices }

end

/-- What a run leaves behind apart from the disk. -/
structure Outcome where
  /-- The exit code. -/
  exit : Nat
  /-- What is printed to the standard output. -/
  output : String
  /-- What the program prints to the standard error. -/
  errors : String
  /-- The crash that ended the run, about which the platform prints something more. -/
  crash : Option Crash := none
  deriving DecidableEq, Repr

/-- Texts as lines, each with a line feed. -/
def linesText (lines : List String) : String :=
  lines.foldr (fun line rest => line ++ "\n" ++ rest) ""

/-- The lines about warnings. -/
def warningLines (warnings : List Warning) : List String :=
  warnings.map fun warning => "warning: " ++ warning.message

/-- What is printed for the notices about a pattern. -/
def noticesText [Platform] (notices : List Pattern.Notice) : String :=
  notices.foldr (fun notice rest => Platform.noticeText notice.message ++ rest) ""

/-- What is printed line by line. -/
def printedLines [Platform] (lines : List String) : String := Text.printed (linesText lines)

/-- The outcome of a report: notices and log lines of some weight, then warnings, then the fault and
the help text. After a crash neither warnings nor a fault are told. -/
def Report.outcome [Platform] (report : Report) (threshold : Nat) : Outcome :=
  let log := (Log.shown threshold report.log).map Log.Line.render
  let lines := log ++ warningLines report.warnings
  let notices := noticesText report.notices
  match report.halt with
  | none => ⟨0, "", notices ++ printedLines lines, none⟩
  | some (.fault fault) =>
    ⟨1, "", notices ++ printedLines (lines ++ ["error: " ++ fault.message])
      ++ CommandLine.helpText, none⟩
  | some (.crash crash) => ⟨1, "", notices ++ printedLines log, some crash⟩

/-- The least weight of log lines that a run shows. -/
def thresholdFor (arguments : CommandLine.Arguments) (surroundings : Surroundings) :
    Except Crash Nat :=
  if arguments.verbose then .ok 10 else Log.thresholdOf surroundings.logLevel

section

variable [Platform]

/-- A run of the program. -/
def run {m : Type → Type} [Monad m] (files : FileAccess m) (surroundings : Surroundings)
    (commandLine : List String) (cwd : Path) : m Outcome := do
  match CommandLine.parse commandLine with
  | .error fault => return (Report.stopped [] [] (.fault (.commandLine fault))).outcome 30
  | .ok .help => return ⟨0, CommandLine.helpText, "", none⟩
  | .ok (.run arguments) =>
    match thresholdFor arguments surroundings with
    | .error crash => return (Report.stopped [] [] (.crash crash)).outcome 30
    | .ok threshold =>
      return (← runArguments files arguments cwd surroundings.supportModule).outcome threshold

/-- Files of a tree in memory, which is the state of the computation. -/
def treeAccess (tags : Nat → Disk.Tag) (cwd : Disk.Place) : FileAccess (StateM Disk.Tree) where
  read path := return (← get).read cwd path
  replace path text := fun tree =>
    let attempt := tree.replace tags cwd path text
    (attempt.result, attempt.tree)

/-- A run over a tree in memory, from a directory in it. -/
def runOnTree (surroundings : Surroundings) (commandLine : List String) (cwd : Disk.Place)
    (tree : Disk.Tree) : Outcome × Disk.Tree :=
  (run (treeAccess surroundings.tags cwd) surroundings commandLine ⟨.absolute, cwd⟩).run tree

end

end HeaderEnum
