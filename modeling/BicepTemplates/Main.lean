import BicepTemplates.Command.Run

/-! # The program

Runs commands on the real system. The directory to stand in is part of the state; the process
itself stays where it was started.
-/

namespace BicepTemplates.RealSystem

/-- The real system, seen from a directory. -/
abbrev Standing := StateT String IO

/-- Some errors are counted below zero. -/
def errorNumber (code : UInt32) : Nat :=
  if code.toNat < 0x80000000 then code.toNat else 0x100000000 - code.toNat

def fileError : IO.Error → FileError
  | .alreadyExists _ code text
  | .interrupted _ code text
  | .noFileOrDirectory _ code text
  | .invalidArgument _ code text
  | .permissionDenied _ code text
  | .resourceExhausted _ code text
  | .inappropriateType _ code text
  | .noSuchThing _ code text
  | .otherError code text
  | .resourceBusy code text
  | .resourceVanished code text
  | .unsupportedOperation code text
  | .hardwareFault code text
  | .unsatisfiedConstraints code text
  | .illegalOperation code text
  | .protocolError code text
  | .timeExpired code text => .ofCode (errorNumber code) text
  | .unexpectedEof => .other "unexpected end of file" 0
  | .userError text => .other text 0

def attempt {α : Type} (action : IO α) : Standing (Except FileError α) := do
  match ← action.toBaseIO with
  | .ok result => return .ok result
  | .error e => return .error (fileError e)

/-- A path as the process sees it. -/
def absolute (path : String) : Standing String := do
  if path.startsWith "/" then return path else return s!"{← get}/{path}"

/-- The full path of what is there. -/
def resolve (path : String) : IO String := do
  let full ← IO.FS.realPath path
  let _ ← full.metadata
  return full.toString

def host : Host Standing where
  resolve path := do attempt (resolve (← absolute path))
  enter path := do
    match ← attempt (do (← IO.FS.realPath path).isDir) with
    | .error e => return .error e
    | .ok false => return .error .notDirectory
    | .ok true => set path; return .ok ()
  read path := do attempt (IO.FS.readBinFile (← absolute path))
  write path contents := do attempt (IO.FS.writeBinFile (← absolute path) contents)
  input := do (← IO.getStdin).readBinToEnd

def run (arguments : List String) : IO UInt32 := do
  let (report, _) ← (host.run arguments).run "."
  IO.print report.output
  IO.eprint report.errors
  return report.exit

end BicepTemplates.RealSystem

def main (arguments : List String) : IO UInt32 :=
  BicepTemplates.RealSystem.run arguments
