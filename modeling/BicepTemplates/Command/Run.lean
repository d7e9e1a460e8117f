import BicepTemplates.Command.Host
import BicepTemplates.Command.Usage
import BicepTemplates.Listing.Text
import BicepTemplates.Manifest.Template

/-! # Running commands

A command line is read as a whole before anything is done. Then the directories are entered one
after the other, and the command is run in the last of them. A template is written only once it is
complete, so a run that fails writes nothing.
-/

namespace BicepTemplates

/-- What a run leaves behind, apart from files. -/
structure Report where
  exit : UInt32 := 0
  output : String := ""
  errors : String := ""
  deriving DecidableEq, Repr

namespace Report

def unlines (lines : List String) : String :=
  String.join (lines.map fun line => line ++ "\n")

def failed (lines : List String) : Report where
  exit := 1
  errors := unlines lines

def misused (e : UsageError) : Report where
  exit := 2
  errors := unlines [s!"error: {e.message}", "", "For more information, try '--help'."]

end Report

variable {m : Type → Type} [Monad m]

namespace Host

/-- The manifest in a file, or in the input. -/
def load (host : Host m) (inputFile : Option String) : m (Except LoadError Manifest) :=
  match inputFile with
  | some path => return Manifest.ofFile (← host.read path)
  | none => return Manifest.ofBytes (← host.input)

/-- Hands a template over to a file, or to the output. -/
def deliver (host : Host m) (outputFile : Option String) (template : String) : m Report :=
  match outputFile with
  | none => return { output := template }
  | some path => do
    match ← host.write path template.toUTF8 with
    | .ok () => return {}
    | .error e => return .failed [s!"Failed to write {path}", e.message]

def runCommand (host : Host m) : Command → m Report
  | .render inputFile outputFile => do
    match Manifest.template (← host.load inputFile) with
    | .ok template => host.deliver outputFile template
    | .error e => return .failed [e.message]
  | .identifier format seeds => return { output := format.text seeds }

/-- Enters a directory, or tells why it cannot be entered. -/
def enterDirectory (host : Host m) (path : String) : ExceptT (List String) m Unit := do
  match ← host.resolve path with
  | .error e =>
    throw [s!"Failed to resolve path for -C/--directory {path}", e.message]
  | .ok full => match ← host.enter full with
    | .error e => throw [s!"Failed to set work directory to {full}", e.message]
    | .ok () => return ()

def runInvocation (host : Host m) (i : Invocation) : m Report := do
  match ← (i.directories.forM host.enterDirectory).run with
  | .error lines => return .failed lines
  | .ok () => host.runCommand i.command

def run (host : Host m) (arguments : List String) : m Report :=
  match Request.ofArguments arguments with
  | .error e => return .misused e
  | .ok .version => return { output := "bicepgen 0.1.0\n" }
  | .ok (.help topic) => return { output := topic.help }
  | .ok (.run invocation) => host.runInvocation invocation

end Host

end BicepTemplates
