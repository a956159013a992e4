import HeaderEnum.Run

/-!
# The program

A run over the real disk: system errors become the faults of a disk, and the level of the log and
the support module come from the environment. Only system calls stand here; what a run does with
them is decided elsewhere.
-/

namespace HeaderEnum.Main

/-- The number that the system gives to an error, if it gives one. -/
def errorNumber? : IO.Error → Option UInt32
  | .alreadyExists _ number _ => some number
  | .otherError number _ => some number
  | .resourceBusy number _ => some number
  | .resourceVanished number _ => some number
  | .unsupportedOperation number _ => some number
  | .hardwareFault number _ => some number
  | .unsatisfiedConstraints number _ => some number
  | .illegalOperation number _ => some number
  | .protocolError number _ => some number
  | .timeExpired number _ => some number
  | .interrupted _ number _ => some number
  | .noFileOrDirectory _ number _ => some number
  | .invalidArgument _ number _ => some number
  | .permissionDenied _ number _ => some number
  | .resourceExhausted _ number _ => some number
  | .inappropriateType _ number _ => some number
  | .noSuchThing _ number _ => some number
  | .unexpectedEof => none
  | .userError _ => none

/-- The number of an error without its sign: some system calls give it with a minus. -/
def positive (number : UInt32) : UInt32 := if number < 0x80000000 then number else -number

/-- The fault that a system error means. -/
def faultOf (failure : IO.Error) : Disk.FileFault :=
  match (errorNumber? failure).map positive with
  | some 2 => .notFound
  | some 16 => .busy
  | some 17 => .alreadyExists
  | some 20 => .notDirectory
  | some 21 => .isDirectory
  | some 36 => .nameTooLong
  | _ => .other (toString failure)

/-- Do something with files and report a system error as a fault. -/
def attempt {α : Type} (action : IO α) : IO (Except Disk.FileFault α) := do
  match ← action.toBaseIO with
  | .ok value => return .ok value
  | .error failure => return .error (faultOf failure)

/-- A directory is where a path leads. -/
def isDirectory (path : Path) : IO Bool := do
  ((← IO.currentDir) / path.toText).isDir

/-- Make one directory, unless it is there already. -/
def makeMissing (path : Path) : IO (Except Disk.FileFault Unit) := do
  match ← attempt (IO.FS.createDir path.toText) with
  | .ok () => return .ok ()
  | .error fault =>
    if fault ≠ .notFound && (← isDirectory path) then return .ok () else return .error fault

/-- Make a directory with all missing directories above it, given its names from the last to the
first. -/
def makeAll (root : Root) : List String → IO (Except Disk.FileFault Unit)
  | [] => return .ok ()
  | name :: above => do
    let path : Path := ⟨root, (name :: above).reverse⟩
    match ← makeMissing path with
    | .error .notFound =>
      match ← makeAll root above with
      | .ok () => makeMissing path
      | .error fault => return .error fault
    | result => return result

/-- Open a new scratch file next to a file, with the first free name among so many that come from
the tags from a given number on. -/
def openScratch (path : Path) (tags : Nat → Disk.Tag) :
    Nat → Nat → IO (Except Disk.FileFault (Path × IO.FS.Handle))
  | _, 0 => return .error .noScratch
  | number, attempts + 1 => do
    let scratch : Path :=
      ⟨path.root, path.parent.names ++ [Disk.Tree.scratchName path.lastName (tags number)]⟩
    match ← attempt (IO.FS.Handle.mk scratch.toText .writeNew) with
    | .ok handle => return .ok (scratch, handle)
    | .error .alreadyExists => openScratch path tags (number + 1) attempts
    | .error fault => return .error fault

/-- Fill a new file. -/
def fill (handle : IO.FS.Handle) (bytes : ByteArray) : IO Unit := do
  handle.write bytes
  handle.flush

/-- Move a filled scratch file to the file that it replaces, or remove it again. -/
def settle (scratch path : Path) (filled : Except Disk.FileFault Unit) :
    IO (Except Disk.FileFault Unit) := do
  let moved ← match filled with
    | .ok () => attempt (IO.FS.rename scratch.toText path.toText)
    | .error fault => pure (.error fault)
  if moved matches .error _ then
    let _ ← attempt (IO.FS.removeFile scratch.toText)
  return moved

/-- Write a text through a scratch file next to the file that it replaces. -/
def replace (tags : Nat → Disk.Tag) (path : Path) (text : String) :
    IO (Except (Halt Disk.FileFault) Unit) := do
  if let some crash := path.parent.crash? then return .error (.crash crash)
  match ← makeAll path.root path.parent.names.reverse with
  | .error fault => return .error (.fault fault)
  | .ok () =>
    if let some crash := path.crash? then return .error (.crash crash)
    match ← openScratch path tags 0 Disk.Tree.scratchAttempts with
    | .error fault => return .error (.fault fault)
    | .ok (scratch, handle) =>
      match Text.encode text with
      | .error fault => return .error (.crash (.unencodable fault))
      | .ok bytes => return (← settle scratch path (← attempt (fill handle bytes))).mapError .fault

/-- The bytes of a file. -/
def read (path : Path) : IO (Except (Halt Disk.FileFault) ByteArray) := do
  match path.crash? with
  | some crash => return .error (.crash crash)
  | none => return (← attempt (IO.FS.readBinFile path.toText)).mapError .fault

/-- The real disk. -/
def realFiles (tags : Nat → Disk.Tag) : FileAccess IO where
  read := read
  replace := replace tags

/-- What the environment sets. The tags follow one that is drawn by chance. -/
def surroundings : IO Surroundings := do
  let logLevel ← IO.getEnv "CENUMGEN_LOG_LEVEL"
  let supportModule ← IO.getEnv "CENUMGEN_SUPPORT_MODULE"
  let first ← IO.rand 0 (Disk.tagLetters.length.pow Disk.tagLength)
  return {
    logLevel := logLevel.getD "WARNING"
    supportModule := supportModule.getD "CEnumMacros"
    tags := fun number => Disk.Tag.ofNumber (first + number) }

end HeaderEnum.Main

/-- Run the program on its arguments in the working directory. -/
def main (arguments : List String) : IO UInt32 := do
  let cwd := HeaderEnum.Path.ofString (← IO.currentDir).toString
  let surroundings ← HeaderEnum.Main.surroundings
  let files := HeaderEnum.Main.realFiles surroundings.tags
  let outcome ← HeaderEnum.run files surroundings arguments cwd
  IO.print outcome.output
  IO.eprint outcome.errors
  if let some crash := outcome.crash then IO.eprintln (repr crash)
  return UInt32.ofNat outcome.exit
