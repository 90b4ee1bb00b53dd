import AspectLoom.Path
import AspectLoom.Proxy.Names
/-!
Arguments of the command line. A setting takes a value, behind `=` or as the next argument, and a
switch takes none; each can be given once. All other arguments name aspect specifications, as do
all arguments behind `--`.
-/
namespace AspectLoom

inductive Setting where
  | target | overlay | sourceRoot | configFile | naming
deriving DecidableEq, Repr, Inhabited

inductive Switch where
  | json | debug
deriving DecidableEq, Repr, Inhabited

inductive UsageError where
  | unknownArgument (text : String)
  | repeated (name : String)
  | missingValue (name : String)
  | unwantedValue (name : String)
  | invalidValue (name value : String)
deriving DecidableEq, Repr

namespace UsageError

def message : UsageError → String
  | unknownArgument text => "unexpected argument '" ++ text ++ "' found"
  | repeated name => "the argument '" ++ name ++ "' cannot be used multiple times"
  | missingValue name => "a value is required for '" ++ name ++ "' but none was supplied"
  | unwantedValue name => "unexpected value for '" ++ name ++ "' found; no more were expected"
  | invalidValue name value => "invalid value '" ++ value ++ "' for '" ++ name ++ "'"

end UsageError

/-- What the arguments of a weave say. -/
structure Arguments where
  aspectFiles : List Path := []
  target : Option String := none
  overlay : Option Path := none
  sourceRoot : Option Path := none
  configFile : Option Path := none
  naming : Option NamingScheme := none
  json : Bool := false
  debug : Bool := false
deriving Repr, Inhabited

/-- What a command line asks for. -/
inductive Command where
  | weave (arguments : Arguments)
  | help
  | version
deriving Repr, Inhabited

namespace Setting

def name : Setting → String
  | target => "--target"
  | overlay => "--overlay"
  | sourceRoot => "--source-root"
  | configFile => "--config"
  | naming => "--naming"

def all : List Setting := [target, overlay, sourceRoot, configFile, naming]

def isGiven (arguments : Arguments) : Setting → Bool
  | target => arguments.target.isSome
  | overlay => arguments.overlay.isSome
  | sourceRoot => arguments.sourceRoot.isSome
  | configFile => arguments.configFile.isSome
  | naming => arguments.naming.isSome

end Setting

namespace Switch

def name : Switch → String
  | json => "--json"
  | debug => "--debug"

def all : List Switch := [json, debug]

end Switch

namespace Arguments

/-- A path is not empty. -/
def readPath (name value : String) : Except UsageError Path :=
  if value = "" then .error (.invalidValue name value) else .ok ⟨value⟩

def readNaming (name value : String) : Except UsageError NamingScheme :=
  match NamingScheme.ofText? value with
  | some scheme => .ok scheme
  | none => .error (.invalidValue name value)

def give (arguments : Arguments) (setting : Setting) (value : String) :
    Except UsageError Arguments := do
  if setting.isGiven arguments then throw (.repeated setting.name)
  match setting with
  | .target => return { arguments with target := some value }
  | .overlay => return { arguments with overlay := some (← readPath setting.name value) }
  | .sourceRoot => return { arguments with sourceRoot := some (← readPath setting.name value) }
  | .configFile => return { arguments with configFile := some (← readPath setting.name value) }
  | .naming => return { arguments with naming := some (← readNaming setting.name value) }

def turnOn (arguments : Arguments) (switch : Switch) : Except UsageError Arguments :=
  match switch with
  | .json =>
    if arguments.json then .error (.repeated switch.name)
    else .ok { arguments with json := true }
  | .debug =>
    if arguments.debug then .error (.repeated switch.name)
    else .ok { arguments with debug := true }

def addFile (arguments : Arguments) (text : String) : Except UsageError Arguments := do
  return { arguments with
    aspectFiles := arguments.aspectFiles ++ [← readPath "[ASPECT_FILE]..." text] }

end Arguments

namespace Command

/-- The form of one argument by itself. -/
inductive Form where
  | file (text : String)
  | setting (setting : Setting) (value : Option String)
  | switch (switch : Switch)
  | help
  | version
  /-- All that follows are files. -/
  | filesOnly
deriving DecidableEq, Repr

/-- The name and the value behind `=`, if there is one. -/
def cutValue (text : String) : String × Option String :=
  let name := text.toList.takeWhile (· ≠ '=')
  match text.toList.dropWhile (· ≠ '=') with
  | [] => (text, none)
  | _ :: value => (String.ofList name, some (String.ofList value))

def longForm (text : String) : Except UsageError Form :=
  let (name, value) := cutValue text
  match Setting.all.find? (fun setting => setting.name == name) with
  | some setting => .ok (.setting setting value)
  | none =>
    let form := if name = "--help" then some .help
      else if name = "--version" then some .version
      else (Switch.all.find? fun switch => switch.name == name).map Form.switch
    match form, value with
    | some form, none => .ok form
    | some _, some _ => .error (.unwantedValue name)
    | none, _ => .error (.unknownArgument text)

/-- A single dash alone is a file; of single letters only those for help and version are known. -/
def formOf (text : String) : Except UsageError Form :=
  match text.toList with
  | ['-', '-'] => .ok .filesOnly
  | '-' :: '-' :: _ => longForm text
  | '-' :: 'h' :: _ => .ok .help
  | '-' :: 'V' :: _ => .ok .version
  | '-' :: _ :: _ => .error (.unknownArgument text)
  | _ => .ok (.file text)

/-- The next argument as a value. What looks like an option is none. -/
def valueFor (setting : Setting) : List String → Except UsageError (String × List String)
  | [] => .error (.missingValue setting.name)
  | text :: rest =>
    if text.startsWith "-" && text != "-" then .error (.missingValue setting.name)
    else .ok (text, rest)

theorem length_valueFor {setting : Setting} {texts rest : List String} {value : String}
    (found : valueFor setting texts = .ok (value, rest)) : rest.length < texts.length := by
  cases texts with
  | nil => simp [valueFor] at found
  | cons text others =>
    simp only [valueFor] at found
    split at found
    · simp at found
    · simp_all

/-- Reads arguments from left to right. The first fault decides, and so does a request for help or
for the version. -/
def parseFrom (arguments : Arguments) (texts : List String) : Except UsageError Command := do
  match texts with
  | [] => return .weave arguments
  | text :: rest =>
    match ← formOf text with
    | .help => return .help
    | .version => return .version
    | .filesOnly => return .weave (← rest.foldlM Arguments.addFile arguments)
    | .file text => parseFrom (← arguments.addFile text) rest
    | .switch switch => parseFrom (← arguments.turnOn switch) rest
    | .setting setting (some value) => parseFrom (← arguments.give setting value) rest
    | .setting setting none =>
      match _ : valueFor setting rest with
      | .error cause => throw cause
      | .ok (value, others) => parseFrom (← arguments.give setting value) others
termination_by texts.length
decreasing_by
  all_goals simp only [List.length_cons]
  all_goals first
    | omega
    | (have shorter := length_valueFor ‹_›; omega)

def parse (texts : List String) : Except UsageError Command := parseFrom {} texts

end Command
end AspectLoom
