import BicepTemplates.Listing.Basic

/-! # Arguments

A command line names a command and gives options and other words. Options come as a letter, with
the value behind it or in the next word, or as a name, with the value behind an equals sign or in
the next word. A word after two dashes is never an option. Arguments count in the order they are
given, so the first one that is wrong is reported, unless help or the version was asked for
before it.
-/

namespace BicepTemplates

/-- A file that is not named is the standard input or output. -/
inductive Command where
  | render (inputFile outputFile : Option String)
  | identifier (format : ListingFormat) (seeds : List String)
  deriving DecidableEq, Repr

/-- A command, and the directories to change to before it is run. -/
structure Invocation where
  directories : List String
  command : Command
  deriving DecidableEq, Repr

/-- What arguments belong to. -/
inductive Topic where
  | program
  | render
  | identifier
  deriving DecidableEq, Repr

inductive Request where
  | run (invocation : Invocation)
  | help (topic : Topic)
  | version
  deriving DecidableEq, Repr

/-- The options that take a value. -/
inductive Setting where
  | directory
  | inputFile
  | outputFile
  | outputFormat
  deriving DecidableEq, Repr

inductive UsageError where
  | missingCommand
  | unknownCommand (word : String)
  | unexpected (word : String)
  | missingValue (setting : Setting)
  | unsuitableValue (setting : Setting) (value : String)
  | repeated (setting : Setting)
  | missingSeeds
  deriving DecidableEq, Repr

def Setting.name : Setting → String
  | directory => "directory"
  | inputFile => "input-file"
  | outputFile => "output-file"
  | outputFormat => "output-format"

def Setting.letter : Setting → Char
  | directory => 'C'
  | inputFile => 'f'
  | outputFile => 'o'
  | outputFormat => 'F'

/-- The options of a command. Directories can be given anywhere. -/
def Topic.settings : Topic → List Setting
  | program => [.directory]
  | render => [.directory, .inputFile, .outputFile]
  | identifier => [.directory, .outputFormat]

def Topic.ofCommand? : String → Option Topic
  | "render" => some render
  | "identifier" => some identifier
  | "id" => some identifier
  | _ => none

def UsageError.message : UsageError → String
  | missingCommand => "a command is required"
  | unknownCommand word => s!"there is no command `{word}`"
  | unexpected word => s!"unexpected argument `{word}`"
  | missingValue setting => s!"a value is required for `--{setting.name}`"
  | unsuitableValue setting value => s!"`{value}` is no value for `--{setting.name}`"
  | repeated setting => s!"`--{setting.name}` cannot be given more than once"
  | missingSeeds => "at least one seed is required"

/-- What is answered as soon as it is asked for. -/
inductive Inquiry where
  | help
  | version
  deriving DecidableEq, Repr

/-- A word, as the command it belongs to takes it. -/
inductive Word where
  | inquiry (inquiry : Inquiry)
  | setting (setting : Setting) (value : Option String)
  | plain
  | unknown
  deriving DecidableEq, Repr

namespace Word

/-- Help can be asked for anywhere, the version only in front of the command. -/
def inquiry? (topic : Topic) (letter : Char) : Option Inquiry :=
  if letter = 'h' then some .help
  else if letter = 'V' ∧ topic = .program then some .version
  else none

/-- A value behind a letter, where an equals sign may stand between them. -/
def attached? : List Char → Option String
  | [] => none
  | '=' :: value => some (String.ofList value)
  | value => some (String.ofList value)

def ofLetter (topic : Topic) (letter : Char) (rest : List Char) : Word :=
  match inquiry? topic letter with
  | some i => inquiry i
  | none => match topic.settings.find? fun s => s.letter = letter with
    | some s => setting s (attached? rest)
    | none => unknown

def ofName (topic : Topic) (name : String) (value : Option String) : Word :=
  if name = "help" ∧ value = none then inquiry .help
  else if name = "version" ∧ value = none ∧ topic = .program then inquiry .version
  else match topic.settings.find? fun s => s.name = name with
    | some s => setting s value
    | none => unknown

/-- A single dash is no option. -/
def ofChars (topic : Topic) : List Char → Word
  | '-' :: '-' :: rest =>
    let name := String.ofList (rest.takeWhile (· ≠ '='))
    match rest.dropWhile (· ≠ '=') with
    | [] => ofName topic name none
    | _ :: value => ofName topic name (some (String.ofList value))
  | '-' :: letter :: rest => ofLetter topic letter rest
  | _ => plain

def isOption (word : String) : Bool :=
  match word.toList with
  | '-' :: _ :: _ => true
  | _ => false

end Word

/-- What the arguments up to some word have given. -/
structure Given where
  directories : List String := []
  inputFile : Option String := none
  outputFile : Option String := none
  format : Option ListingFormat := none
  seeds : List String := []

namespace Given

/-- The first value is the only one. -/
def once {α : Type} (setting : Setting) (value : α) : Option α → Except UsageError (Option α)
  | none => .ok (some value)
  | some _ => .error (.repeated setting)

def set (setting : Setting) (value : String) (g : Given) : Except UsageError Given := do
  if value.isEmpty then throw (.unsuitableValue setting value)
  match setting with
  | .directory => return { g with directories := g.directories ++ [value] }
  | .inputFile => return { g with inputFile := ← once setting value g.inputFile }
  | .outputFile => return { g with outputFile := ← once setting value g.outputFile }
  | .outputFormat => match ListingFormat.ofText? value with
    | some format => return { g with format := ← once setting format g.format }
    | none => throw (.unsuitableValue setting value)

/-- Only seeds are given without an option. -/
def add (topic : Topic) (word : String) (g : Given) : Except UsageError Given :=
  match topic with
  | .identifier => .ok { g with seeds := g.seeds ++ [word] }
  | _ => .error (.unexpected word)

/-- The command, once all arguments are known. -/
def command (topic : Topic) (g : Given) : Except UsageError Command :=
  match topic with
  | .program => .error .missingCommand
  | .render => .ok (.render g.inputFile g.outputFile)
  | .identifier =>
    if g.seeds.isEmpty then .error .missingSeeds
    else .ok (.identifier (g.format.getD .yaml) g.seeds)

end Given

namespace Request

def ofInquiry (topic : Topic) : Inquiry → Request
  | .help => help topic
  | .version => version

/-- Takes words that are no options, whatever they look like. -/
def plainWords (topic : Topic) (words : List String) (g : Given) : Except UsageError Given :=
  words.foldlM (fun g word => g.add topic word) g

/-- Directories that are given behind the command replace those in front of it. -/
def finish (topic : Topic) (directories : List String) (g : Given) : Except UsageError Request := do
  let command ← g.command topic
  return run ⟨if g.directories.isEmpty then directories else g.directories, command⟩

/-- The topic for which help is asked by a command of its own. -/
def ofHelp : List String → Except UsageError Request
  | [] => .ok (help .program)
  | ["help"] => .ok (help .program)
  | word :: rest => match Topic.ofCommand? word, rest with
    | some topic, [] => .ok (help topic)
    | some _, word :: _ => .error (.unknownCommand word)
    | none, _ => .error (.unknownCommand word)

/-- Reads the words for a topic. In front of the command, the first word that is no option names
it, and the words behind it are read for that command. -/
def read (topic : Topic) (directories : List String) (g : Given) :
    List String → Except UsageError Request
  | [] => finish topic directories g
  | "--" :: rest => do finish topic directories (← plainWords topic rest g)
  | word :: rest =>
    match Word.ofChars topic word.toList with
    | .inquiry i => .ok (ofInquiry topic i)
    | .unknown => .error (.unexpected word)
    | .plain =>
      if topic ≠ .program then do read topic directories (← g.add topic word) rest
      else if word = "help" then ofHelp rest
      else match Topic.ofCommand? word with
        | some command => read command g.directories {} rest
        | none => .error (.unknownCommand word)
    | .setting setting (some value) => do read topic directories (← g.set setting value) rest
    | .setting setting none => match rest with
      | [] => .error (.missingValue setting)
      | value :: rest =>
        if Word.isOption value then .error (.missingValue setting)
        else do read topic directories (← g.set setting value) rest

def ofArguments (arguments : List String) : Except UsageError Request :=
  read .program [] {} arguments

end Request

end BicepTemplates
