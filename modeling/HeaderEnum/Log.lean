import HeaderEnum.Crash
import HeaderEnum.Generation
import HeaderEnum.Letter.Case

/-!
# Log lines

What a run logs about its stages, and which of it is shown. Every warning is also logged by the
stage that found it; the summary of a stage comes after its warnings.
-/

namespace HeaderEnum.Log

/-- The weight of a log line. -/
inductive Level where
  /-- Details for the search for a fault. -/
  | debug
  /-- Progress of the run. -/
  | info
  deriving DecidableEq, Repr

/-- The number of a level; greater is weightier. -/
def Level.weight : Level → Nat
  | .debug => 10
  | .info => 20

/-- The stage that logs. -/
inductive Stage where
  /-- Scanning the header. -/
  | scanning
  /-- Deriving case names. -/
  | naming
  /-- Writing the text of the file. -/
  | emitting
  /-- The run as a whole. -/
  | running
  deriving DecidableEq, Repr

/-- The name that stands before the lines of a stage. -/
def Stage.title : Stage → String
  | .scanning => "cenumgen.pipeline.scanner"
  | .naming => "cenumgen.pipeline.transform"
  | .emitting => "cenumgen.swift.emitter"
  | .running => "cenumgen.generator"

/-- One log line. -/
structure Line where
  /-- Its weight. -/
  level : Level
  /-- Where it comes from. -/
  stage : Stage
  /-- What it says. -/
  message : String
  deriving DecidableEq, Repr

/-- A line as it is printed. -/
def Line.render (line : Line) : String := line.stage.title ++ ": " ++ line.message

/-- The smallest weight that is shown, for the names of levels in capitals. -/
def thresholds : List (String × Nat) :=
  [("NOTSET", 0), ("DEBUG", 10), ("INFO", 20), ("WARNING", 30), ("WARN", 30), ("ERROR", 40),
    ("CRITICAL", 50), ("FATAL", 50)]

/-- Words in capitals that mean something else than a level to the logger. -/
def misusedWords : List String := ["BASIC_FORMAT", "_STYLES"]

/-- The smallest weight that is shown under a setting, in any letter case; an unknown name means
warnings, and some words crash. -/
def thresholdOf (setting : String) : Except Crash Nat :=
  let word := String.ofList (Letter.upper setting.toList)
  if misusedWords.contains word then .error (.misusedLevel word)
  else .ok ((thresholds.lookup word).getD 30)

/-- The lines that are shown. -/
def shown (threshold : Nat) (lines : List Line) : List Line :=
  lines.filter fun line => threshold ≤ line.level.weight

/-- The stage that finds a warning. -/
def stageOf : Warning → Stage
  | .repeated _ => .scanning
  | .emptied _ => .naming
  | .noConstants => .emitting

/-- The line of a warning. -/
def ofWarning (warning : Warning) : Line := ⟨.debug, stageOf warning, warning.message⟩

/-- The lines of the warnings of one stage. -/
def ofStage (stage : Stage) (warnings : List Warning) : List Line :=
  (warnings.filter fun warning => stageOf warning == stage).map ofWarning

/-- The lines about scanning a header. -/
def ofScan (header : String) : List Line :=
  let scan := Header.scan header
  scan.warnings.map ofWarning
    ++ [⟨.debug, .scanning,
      "Scanned " ++ toString scan.constants.length ++ " distinct #define names"⟩]

/-- The lines about a generation, from its header and its result. -/
def ofGeneration (enumName header : String) (result : Except GenerationFailure Generated) :
    List Line :=
  let count := toString (Header.scan header).constants.length
  ofScan header ++
    match result with
    | .error failure =>
      ofStage .naming failure.warnings
    | .ok generated =>
      let entries := toString generated.entries.length
      ofStage .naming generated.warnings
        ++ [⟨.info, .naming, "Transformed " ++ entries ++ " of " ++ count ++ " #define names"⟩]
        ++ ofStage .emitting generated.warnings
        ++ [⟨.info, .emitting, "Rendered enum " ++ enumName ++ " with " ++ entries ++ " cases"⟩]

end HeaderEnum.Log
