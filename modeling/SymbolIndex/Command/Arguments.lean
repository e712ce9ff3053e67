import SymbolIndex.Occurrence.Basic

/-!
# Command line arguments

Options are written `--name value`, `--name=value`, `-n value`, `-nvalue` or `-n=value`, switches
may be bundled behind one hyphen, and a double hyphen ends the options. The general options may
stand in front of the command or behind it; behind it they win. An option may be given once.

Arguments are read from left to right and the first fault counts, so help is only given when
nothing in front of it is wrong. A value that stands in an argument of its own is looked at when the
next argument of the same level is read: the one in front of the command waits for the whole
command.
-/

namespace SymbolIndex.Command

/-- What an option takes. -/
inductive Taking where
  | nothing
  | text
  | path
  | format
  | kind
  deriving DecidableEq, Repr

/-- An option. -/
structure Choice where
  long : String
  short : Option Char
  taking : Taking
  deriving DecidableEq, Repr

/-- Why arguments are not run as a command. -/
inductive Stop where
  | usage
  | version
  | help
  deriving DecidableEq, Repr

/-- What was found among the arguments. -/
structure Found where
  /-- Options with their values; a switch has an empty one. -/
  values : List (String × String) := []
  /-- The other arguments, newest first. -/
  positional : List String := []
  /-- An option with a value that has not been looked at. -/
  pending : Option (Choice × String) := none

/-- The forms of a report. -/
inductive Format where
  | text
  | json
  deriving DecidableEq, Repr

/-- The form that a word names. -/
def Format.parse? (word : String) : Option Format :=
  if word = "text" then some .text else if word = "json" then some .json else none

/-- What is to be done. -/
inductive Task where
  | inspect (archive sources : String) (decompiler : Option String) (format : Format)
  | query (kind : OccurrenceKind) (key archive source : String) (className : Option String)
      (format : Format)
  | owner (member archive source : String) (className : Option String)
  deriving DecidableEq, Repr

/-- A task, and the settings file to use. -/
structure Invocation where
  task : Task
  settings : Option String
  deriving DecidableEq, Repr

/-- The options that every command has. -/
def generalChoices : List Choice :=
  [⟨"config", some 'c', .path⟩, ⟨"debug", some 'd', .nothing⟩, ⟨"verbose", some 'v', .nothing⟩,
   ⟨"help", some 'h', .nothing⟩]

/-- The options in front of the command. -/
def leadingChoices : List Choice :=
  ⟨"version", some 'V', .nothing⟩ :: generalChoices

/-- The options of `inspect`. -/
def inspectChoices : List Choice :=
  [⟨"archive", some 'a', .path⟩, ⟨"sources", some 's', .path⟩, ⟨"decompiler", none, .text⟩,
   ⟨"format", some 'f', .format⟩] ++ generalChoices

/-- The options of `owner`. -/
def ownerChoices : List Choice :=
  [⟨"archive", some 'a', .path⟩, ⟨"source", some 's', .path⟩, ⟨"class", none, .text⟩]
    ++ generalChoices

/-- The options of `query`. -/
def queryChoices : List Choice :=
  ⟨"format", some 'f', .format⟩ :: ownerChoices

namespace Found

/-- The value of an option. -/
def value? (found : Found) (name : String) : Option String :=
  (found.values.find? (·.1 == name)).map (·.2)

/-- Whether an option takes the value. A path is not empty. -/
def accepts (taking : Taking) (value : String) : Bool :=
  match taking with
  | .nothing => true
  | .text => true
  | .path => !value.isEmpty
  | .format => (Format.parse? value).isSome
  | .kind => (OccurrenceKind.parse value).toOption.isSome

/-- Adds an option with a value that it takes. -/
def put (found : Found) (choice : Choice) (value : String) : Except Stop Found :=
  if (found.value? choice.long).isSome || !accepts choice.taking value then .error .usage
  else .ok { found with values := (choice.long, value) :: found.values }

/-- Adds the option that waits. -/
def settle (found : Found) : Except Stop Found :=
  match found.pending with
  | none => .ok found
  | some (choice, value) => { found with pending := none }.put choice value

/-- Adds an option with its value. -/
def add (found : Found) (choice : Choice) (value : String) : Except Stop Found := do
  let found ← found.settle
  if choice.long = "version" then .error .version
  else if choice.long = "help" then .error .help
  else found.put choice value

/-- Lets an option with its value wait. -/
def await (found : Found) (choice : Choice) (value : String) : Except Stop Found := do
  let found ← found.settle
  return { found with pending := some (choice, value) }

/-- Adds an argument that is no option. `slots` says what the arguments of this kind are, from the
first to the last. -/
def place (found : Found) (slots : List Taking) (value : String) : Except Stop Found := do
  let found ← found.settle
  match slots[found.positional.length]? with
  | some taking =>
    if accepts taking value then .ok { found with positional := value :: found.positional }
    else .error .usage
  | none => .error .usage

end Found

/-- Whether an argument is read as an option rather than as a value. -/
def isOption (argument : String) : Bool :=
  argument.startsWith "-" && argument != "-"

/-- Reads the letters behind one hyphen. The last may be an option whose value is still to come. -/
def readLetters (choices : List Choice) (found : Found) :
    List Char → Except Stop (Found × Option Choice)
  | [] => .ok (found, none)
  | letter :: rest =>
    match choices.find? (·.short == some letter) with
    | none => .error .usage
    | some choice =>
      if choice.taking = .nothing then do
        let found ← found.add choice ""
        readLetters choices found rest
      else
        match rest with
        | [] => .ok (found, some choice)
        | '=' :: value => do return (← found.add choice (String.ofList value), none)
        | value => do return (← found.add choice (String.ofList value), none)

/-- Reads a long option without its hyphens. Its value may be still to come. -/
def readLong (choices : List Choice) (found : Found) (text : String) :
    Except Stop (Found × Option Choice) :=
  let (name, attached) :=
    match Text.cutFirst '=' text with
    | some (name, value) => (name, some value)
    | none => (text, none)
  match choices.find? (·.long == name) with
  | none => .error .usage
  | some choice =>
    match choice.taking, attached with
    | .nothing, none => do return (← found.add choice "", none)
    | .nothing, some _ => .error .usage
    | _, some value => do return (← found.add choice value, none)
    | _, none => .ok (found, some choice)

/-- Reads an option with its hyphens. -/
def readOption (choices : List Choice) (found : Found) (argument : String) :
    Except Stop (Found × Option Choice) :=
  match argument.toList with
  | '-' :: '-' :: text => readLong choices found (String.ofList text)
  | '-' :: letters => readLetters choices found letters
  | _ => .error .usage

/-- Reads the arguments in front of the command, which is the first one that is no option; it and
what follows it is left. -/
def readLeading (found : Found) : List String → Except Stop (Found × List String)
  | [] => .error .usage
  | argument :: rest =>
    if argument = "--" then .error .usage
    else if isOption argument then
      match readOption leadingChoices found argument with
      | .error stop => .error stop
      | .ok (found, none) => readLeading found rest
      | .ok (found, some choice) =>
        match rest with
        | [] => .error .usage
        | value :: rest =>
          if isOption value then .error .usage
          else
            match found.await choice value with
            | .error stop => .error stop
            | .ok found => readLeading found rest
    else .ok (found, argument :: rest)

/-- Reads the arguments of a command. -/
def read (choices : List Choice) (slots : List Taking) (found : Found) :
    List String → Except Stop Found
  | [] => found.settle
  | argument :: rest =>
    if argument = "--" then do
      let found ← rest.foldlM (fun (found : Found) value => found.place slots value) found
      found.settle
    else if isOption argument then
      match readOption choices found argument with
      | .error stop => .error stop
      | .ok (found, none) => read choices slots found rest
      | .ok (found, some choice) =>
        match rest with
        | [] => .error .usage
        | value :: rest =>
          if isOption value then .error .usage
          else
            match found.await choice value with
            | .error stop => .error stop
            | .ok found => read choices slots found rest
    else
      match found.place slots argument with
      | .error stop => .error stop
      | .ok found => read choices slots found rest

/-- A value that must be given. -/
def require {α : Type} : Option α → Except Stop α
  | some value => .ok value
  | none => .error .usage

/-- The form of the report that was asked for. -/
def formatOf (found : Found) : Format :=
  ((found.value? "format").bind Format.parse?).getD .text

/-- The task of `inspect`. -/
def inspectTask (found : Found) : Except Stop Task := do
  return .inspect (← require (found.value? "archive")) (← require (found.value? "sources"))
    (found.value? "decompiler") (formatOf found)

/-- The task of `query`. -/
def queryTask (found : Found) : Except Stop Task :=
  match found.positional.reverse with
  | [kind, key] => do
    return .query (← require (OccurrenceKind.parse kind).toOption) key
      (← require (found.value? "archive")) (← require (found.value? "source"))
      (found.value? "class") (formatOf found)
  | _ => .error .usage

/-- The task of `owner`. -/
def ownerTask (found : Found) : Except Stop Task :=
  match found.positional with
  | [member] => do
    return .owner member (← require (found.value? "archive")) (← require (found.value? "source"))
      (found.value? "class")
  | _ => .error .usage

/-- The form of a command: its options, its other arguments, and how its task is read off them. -/
structure Form where
  choices : List Choice
  slots : List Taking
  task : Found → Except Stop Task

/-- The form of the command with a name. -/
def form? (name : String) : Option Form :=
  if name = "inspect" then some ⟨inspectChoices, [], inspectTask⟩
  else if name = "query" then some ⟨queryChoices, [.kind, .text], queryTask⟩
  else if name = "owner" then some ⟨ownerChoices, [.text], ownerTask⟩
  else none

/-- Whether there is help on the given names: on the program, or on one command. -/
def hasHelp : List String → Bool
  | [] => true
  | [name] => name = "help" || (form? name).isSome
  | _ => false

/-- Reads a command and what follows it, behind what was found in front of it. -/
def readCommand (leading : Found) (name : String) (rest : List String) :
    Except Stop Invocation := do
  let form ← require (form? name)
  let found ← read form.choices form.slots {} rest
  let leading ← leading.settle
  return {
    task := ← form.task found
    settings := (found.value? "config").or (leading.value? "config") }

/-- Reads the arguments of the program. -/
def parse (arguments : List String) : Except Stop Invocation := do
  match ← readLeading {} arguments with
  | (_, []) => throw .usage
  | (leading, name :: rest) =>
    if name = "help" then throw (if hasHelp rest then .help else .usage)
    else readCommand leading name rest

end SymbolIndex.Command
