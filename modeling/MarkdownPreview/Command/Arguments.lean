import MarkdownPreview.Command.Request

/-!
Command lines. The command `render` has options that take a value, in the same argument or in the
next one, switches, and the name of an input.
-/

namespace MarkdownPreview.Command

/-- What a command line asks for. -/
inductive Invocation
  | help
  | renderHelp
  | version
  | render (request : Request)
  deriving DecidableEq, Repr

/-- Options that take a value. -/
inductive ValueOption
  | config | theme | output | title
  deriving DecidableEq, Repr

/-- Options that stand alone. -/
inductive Switch
  | standalone | verbose | help
  deriving DecidableEq, Repr

/-- Why a command line is not understood. -/
inductive UsageError
  | missingCommand
  | unknownCommand (name : String)
  | unknownArgument (argument : String)
  | missingValue (option : String)
  | unneededValue (option : String)
  | invalidValue (option : String)
  | repeated (option : String)
  deriving DecidableEq, Repr

def UsageError.message : UsageError → String
  | missingCommand => "a command is required"
  | unknownCommand name => "unrecognized command '" ++ name ++ "'"
  | unknownArgument argument => "unexpected argument '" ++ argument ++ "' found"
  | missingValue option => "a value is required for '" ++ option ++ "' but none was supplied"
  | unneededValue option => "unexpected value for '" ++ option ++ "' found; no more were expected"
  | invalidValue option => "invalid value for '" ++ option ++ "'"
  | repeated option => "the argument '" ++ option ++ "' cannot be used multiple times"

namespace ValueOption

def name : ValueOption → String
  | config => "--config"
  | theme => "--theme"
  | output => "--output"
  | title => "--title"

def all : List ValueOption := [config, theme, output, title]

def ofLetter? : Char → Option ValueOption
  | 'c' => some config
  | 't' => some theme
  | 'o' => some output
  | _ => none

end ValueOption

namespace Switch

def name : Switch → String
  | standalone => "--standalone"
  | verbose => "--verbose"
  | help => "--help"

def all : List Switch := [standalone, verbose, help]

def ofLetter? : Char → Option Switch
  | 'v' => some verbose
  | 'h' => some help
  | _ => none

end Switch

/-- Gives a field that has no value yet a value. -/
def fill {α : Type} (name : String) (current value : Option α) : Except UsageError (Option α) :=
  if current.isSome then .error (.repeated name)
  else if value.isNone then .error (.invalidValue name)
  else .ok value

/-- A path has at least one character. -/
def path? (text : String) : Option String := if text = "" then none else some text

namespace Request

def setValue (r : Request) (option : ValueOption) (text : String) : Except UsageError Request :=
  match option with
  | .config => return { r with config := ← fill option.name r.config (path? text) }
  | .theme => return { r with theme := ← fill option.name r.theme (Theme.parse text).toOption }
  | .output => return { r with output := ← fill option.name r.output (path? text) }
  | .title => return { r with title := ← fill option.name r.title (some text) }

def setInput (r : Request) (text : String) : Except UsageError Request :=
  if r.input.isSome then .error (.unknownArgument text)
  else return { r with input := ← fill "[INPUT]" r.input (path? text) }

end Request

/-- What is to come after an argument: the next argument, or the value of an option. -/
inductive Progress
  | help
  | next (r : Request)
  | value (r : Request) (option : ValueOption)
  deriving DecidableEq, Repr

/-- Notes a switch. -/
def setSwitch (r : Request) (switch : Switch) : Except UsageError Progress :=
  match switch with
  | .help => .ok .help
  | .standalone =>
    if r.standalone then .error (.repeated switch.name) else .ok (.next { r with standalone := true })
  | .verbose =>
    if r.verbose then .error (.repeated switch.name) else .ok (.next { r with verbose := true })

/-- Notes an option, with a value if one is attached. -/
def setOption (r : Request) (option : ValueOption) (attached : Option (List Char)) :
    Except UsageError Progress :=
  match attached with
  | none => .ok (.value r option)
  | some text => (r.setValue option (String.ofList text)).map .next

/-- What is attached to an option of one letter. -/
def attachedToLetter : List Char → Option (List Char)
  | [] => none
  | '=' :: text => some text
  | text => some text

/-- Options of one letter after a dash. Only the last one can take a value. -/
def readLetters (argument : String) (r : Request) : List Char → Except UsageError Progress
  | [] => .ok (.next r)
  | c :: rest =>
    match ValueOption.ofLetter? c, Switch.ofLetter? c with
    | some option, _ => setOption r option (attachedToLetter rest)
    | none, some switch =>
      match setSwitch r switch with
      | .ok (.next r) => readLetters argument r rest
      | result => result
    | none, none => .error (.unknownArgument argument)

/-- An option that is spelled out, with a value after an equals sign if it has one. -/
def readLong (argument : String) (r : Request) : Except UsageError Progress :=
  let (name, attached) := argument.toList.span (· != '=')
  let attached := match attached with
    | [] => none
    | _ :: text => some text
  let named (s : String) : Bool := s.toList == name
  match ValueOption.all.find? (named ·.name), Switch.all.find? (named ·.name) with
  | some option, _ => setOption r option attached
  | none, some switch =>
    if attached.isSome then .error (.unneededValue switch.name) else setSwitch r switch
  | none, none => .error (.unknownArgument argument)

/-- Arguments with a dash and more are options; a dash alone is not. -/
def isOption (argument : String) : Bool :=
  match argument.toList with
  | '-' :: _ :: _ => true
  | _ => false

def readArgument (r : Request) (argument : String) : Except UsageError Progress :=
  match argument.toList with
  | '-' :: '-' :: _ => readLong argument r
  | '-' :: c :: rest => readLetters argument r (c :: rest)
  | _ => (r.setInput argument).map .next

/-- The arguments after `--`, of which none is an option. -/
def readInputs (r : Request) : List String → Except UsageError Invocation
  | [] => .ok (.render r)
  | argument :: rest =>
    match r.setInput argument with
    | .ok r => readInputs r rest
    | .error e => .error e

/-- The arguments of `render`. -/
def readRender (r : Request) : List String → Except UsageError Invocation
  | [] => .ok (.render r)
  | "--" :: rest => readInputs r rest
  | argument :: rest =>
    match readArgument r argument with
    | .error e => .error e
    | .ok .help => .ok .renderHelp
    | .ok (.next r) => readRender r rest
    | .ok (.value r option) =>
      match rest with
      | [] => .error (.missingValue option.name)
      | text :: rest =>
        if isOption text then .error (.missingValue option.name)
        else match r.setValue option text with
          | .error e => .error e
          | .ok r => readRender r rest

/-- The arguments of `help`: the command that help is wanted for. -/
def readHelp : List String → Except UsageError Invocation
  | [] => .ok .help
  | ["render"] => .ok .renderHelp
  | ["help"] => .ok .help
  | "render" :: name :: _ | "help" :: name :: _ | name :: _ => .error (.unknownCommand name)

/-- A whole command line. -/
def readArguments : List String → Except UsageError Invocation
  | [] => .error .missingCommand
  | "render" :: rest => readRender {} rest
  | "help" :: rest => readHelp rest
  | "--help" :: _ => .ok .help
  | "--version" :: _ => .ok .version
  | argument :: _ =>
    match argument.toList with
    | '-' :: 'h' :: _ => .ok .help
    | '-' :: 'V' :: _ => .ok .version
    | '-' :: _ :: _ => .error (.unknownArgument argument)
    | _ => .error (.unknownCommand argument)

end MarkdownPreview.Command
