import StringsAudit.Audit
import StringsAudit.Path
import StringsAudit.Text.Substring

/-!
# The command line

Arguments are read from left to right. A value that was given is taken over only when the next
option, the next positional argument or the end comes, so the first fault in that order counts.

## Main definitions

* `Command` : what can be asked for.
* `ArgumentError` : why arguments ask for nothing that can be done.
* `Command.parse` : what arguments ask for.
-/

namespace StringsAudit

/-- A request to audit a folder. -/
structure CheckCommand where
  /-- The folder, relative to the root. -/
  path : Path
  root : Path
  /-- The rules to run, and all of them if none is given. -/
  rules : List Rule
  primaryLocale? : Option String
  verbose : Bool
  deriving DecidableEq, Repr

/-- The folder to audit. -/
def CheckCommand.target (command : CheckCommand) : Path :=
  command.root.join command.path

/-- What can be asked for. -/
inductive Command where
  | check (command : CheckCommand)
  | init
  deriving DecidableEq, Repr

/-- Why arguments ask for nothing that can be done. -/
inductive ArgumentError where
  | missingArgument
  | unknownArgument
  /-- A value is missing, empty or bad. -/
  | badValue
  | unknownCommand
  | repeatedOption
  /-- A value for an option that takes none. -/
  | surplusValue
  | helpWanted
  | versionWanted
  deriving DecidableEq, Repr

namespace ArgumentError

/-- The number that tells the shell about an error. -/
def exitCode : ArgumentError → Nat
  | helpWanted | versionWanted => 0
  | _ => 2

/-- The wording of an error. -/
def message : ArgumentError → String
  | missingArgument => "a required argument was not provided"
  | unknownArgument => "unexpected argument"
  | badValue => "invalid or missing value"
  | unknownCommand => "unrecognized subcommand"
  | repeatedOption => "an option cannot be used multiple times"
  | surplusValue => "unexpected value for an option"
  | helpWanted => "help"
  | versionWanted => "version"

end ArgumentError

namespace Command

/-! ### The form of arguments -/

/-- What an argument looks like. -/
inductive Form where
  /-- What separates options from positional arguments. -/
  | separator
  /-- A long option, with the value attached to it. -/
  | long (name : String) (value? : Option String)
  /-- Short options in a row. -/
  | short (letters : List Char)
  | word
  deriving DecidableEq, Repr

/-- What an argument looks like. -/
def formOf (argument : String) : Form :=
  match argument.toList with
  | ['-', '-'] => .separator
  | '-' :: '-' :: rest =>
      match Text.breakOn? ['='] rest with
      | some (name, value) => .long (String.ofList name) (some (String.ofList value))
      | none => .long (String.ofList rest) none
  | '-' :: c :: rest => .short (c :: rest)
  | _ => .word

/-! ### Arguments of an audit -/

/-- A place that a value can be given for. -/
inductive Slot where
  | path
  | root
  | rules
  | primaryLocale
  deriving DecidableEq, Repr

/-- The slot that an option with a value fills. -/
def Slot.ofOption? (name : String) : Option Slot :=
  if name == "root" then some .root
  else if name == "rules" then some .rules
  else if name == "primary-locale" then some .primaryLocale
  else none

/-- What was read of the arguments of an audit. -/
structure Draft where
  path? : Option Path
  root? : Option Path
  rules : List Rule
  primaryLocale? : Option String
  verbose : Bool
  /-- A slot to be filled next, with its value if that was read already. -/
  pending? : Option (Slot × Option String)
  deriving DecidableEq, Repr

namespace Draft

/-- Nothing was read yet. -/
def empty : Draft :=
  ⟨none, none, [], none, false, none⟩

/-- A path that is given must not be empty. -/
def pathOf (value : String) : Except ArgumentError Path :=
  if value == "" then .error .badValue else .ok ⟨value⟩

/-- Fills a slot; only the rules can be given more than once. -/
def fill (draft : Draft) (slot : Slot) (value : String) : Except ArgumentError Draft := do
  match slot with
  | .path => return { draft with path? := some (← pathOf value) }
  | .root =>
      if draft.root?.isSome then throw .repeatedOption
      return { draft with root? := some (← pathOf value) }
  | .rules =>
      match Rule.ofName? value with
      | some rule => return { draft with rules := draft.rules ++ [rule] }
      | none => throw .badValue
  | .primaryLocale =>
      if draft.primaryLocale?.isSome then throw .repeatedOption
      return { draft with primaryLocale? := some value }

/-- Fills the slot that is pending, whose value must have been read. -/
def settle (draft : Draft) : Except ArgumentError Draft :=
  match draft.pending? with
  | none => .ok draft
  | some (slot, some value) => { draft with pending? := none }.fill slot value
  | some (_, none) => .error .badValue

/-- Whether the next argument is the value of an option, unless it looks like an option. -/
def awaitsValue (draft : Draft) : Bool :=
  match draft.pending? with
  | some (_, none) => true
  | _ => false

/-- Whether the folder was read already. -/
def hasPath (draft : Draft) : Bool :=
  draft.path?.isSome || draft.pending?.any (·.1 == .path)

/-- Sets the option for details, which must not recur. -/
def setVerbose (draft : Draft) : Except ArgumentError Draft := do
  let draft ← draft.settle
  if draft.verbose then throw .repeatedOption
  return { draft with verbose := true }

/-- Ends the reading with the help, unless what is pending is wrong. -/
def wantHelp (draft : Draft) : Except ArgumentError Draft := do
  let _ ← draft.settle
  throw .helpWanted

/-- Reads an option with a long name. -/
def readLong (draft : Draft) (name : String) (value? : Option String) :
    Except ArgumentError Draft := do
  match Slot.ofOption? name, value? with
  | some slot, some value => (← draft.settle).fill slot value
  | some slot, none => return { ← draft.settle with pending? := some (slot, none) }
  | none, _ =>
      if name == "verbose" then
        if value?.isSome then throw .surplusValue else draft.setVerbose
      else if name == "help" then
        if value?.isSome then throw .surplusValue else draft.wantHelp
      else throw .unknownArgument

/-- Reads an option with a short name. -/
def readShort (draft : Draft) (letter : Char) : Except ArgumentError Draft :=
  if letter == 'v' then draft.setVerbose
  else if letter == 'h' then draft.wantHelp
  else .error .unknownArgument

/-- Reads a positional argument; there is only one. -/
def readWord (draft : Draft) (word : String) : Except ArgumentError Draft := do
  if draft.hasPath then throw .unknownArgument
  return { ← draft.settle with pending? := some (.path, some word) }

/-- Reads one argument, which comes after the separator if `trailing` holds. -/
def readArgument (trailing : Bool) (draft : Draft) (argument : String) :
    Except ArgumentError Draft :=
  if trailing then draft.readWord argument
  else
    match formOf argument with
    | .long name value? => draft.readLong name value?
    | .short letters => letters.foldlM readShort draft
    | _ =>
        if draft.awaitsValue then
          .ok { draft with pending? := draft.pending?.map fun (slot, _) => (slot, some argument) }
        else draft.readWord argument

/-- Reads all arguments. -/
def readAll : Bool → Draft → List String → Except ArgumentError Draft
  | _, draft, [] => draft.settle
  | trailing, draft, argument :: rest => do
      if !trailing && formOf argument == .separator then readAll true draft rest
      else readAll trailing (← draft.readArgument trailing argument) rest

/-- The root that was given, or that of the environment, or the current directory. -/
def rootOf (draft : Draft) (environmentRoot? : Option String) : Except ArgumentError Path :=
  match draft.root?, environmentRoot? with
  | some root, _ => .ok root
  | none, some value => pathOf value
  | none, none => .ok ⟨"."⟩

/-- The request that was read. -/
def finish (draft : Draft) (environmentRoot? : Option String) :
    Except ArgumentError CheckCommand := do
  let root ← draft.rootOf environmentRoot?
  match draft.path? with
  | some path => return ⟨path, root, draft.rules, draft.primaryLocale?, draft.verbose⟩
  | none => throw .missingArgument

end Draft

/-! ### Other arguments -/

/-- The names of commands. -/
def names : List String :=
  ["check", "init", "help"]

/-- Reads a long option where there are none but those that show something. -/
def showLong (hasVersion : Bool) (name : String) (value? : Option String) : ArgumentError :=
  if name == "help" then if value?.isSome then .surplusValue else .helpWanted
  else if hasVersion && name == "version" then
    if value?.isSome then .surplusValue else .versionWanted
  else .unknownArgument

/-- Reads a short option where there are none but those that show something. -/
def showShort (hasVersion : Bool) (letter : Char) : ArgumentError :=
  if letter == 'h' then .helpWanted
  else if hasVersion && letter == 'V' then .versionWanted
  else .unknownArgument

/-- Reads the arguments of a command that takes none. -/
def readNone : Bool → List String → Except ArgumentError Unit
  | _, [] => .ok ()
  | trailing, argument :: rest =>
      if trailing then .error .unknownArgument
      else
        match formOf argument with
        | .separator => readNone true rest
        | .long name value? => .error (showLong false name value?)
        | .short (letter :: _) => .error (showShort false letter)
        | _ => .error .unknownArgument

/-- Reads the names of the commands to show the help of; commands have none below them. -/
def readHelp (topics : List String) : ArgumentError :=
  match topics with
  | [] => .helpWanted
  | [topic] => if names.contains topic then .helpWanted else .unknownCommand
  | _ => .unknownCommand

/-- What arguments ask for, if anything; the first of them stand before the command. -/
def readFrom (environmentRoot? : Option String) :
    Bool → List String → Except ArgumentError (Option Command)
  | _, [] => .ok none
  | true, argument :: _ =>
      .error (if names.contains argument then .unknownArgument else .unknownCommand)
  | false, argument :: rest => do
      if argument == "check" then
        let draft ← Draft.empty.readAll false rest
        return some (.check (← draft.finish environmentRoot?))
      else if argument == "init" then
        readNone false rest
        return some .init
      else if argument == "help" then throw (readHelp rest)
      else
        match formOf argument with
        | .separator => readFrom environmentRoot? true rest
        | .long name value? => throw (showLong true name value?)
        | .short (letter :: _) => throw (showShort true letter)
        | _ => throw .unknownCommand

/-- What arguments ask for, if anything. -/
def parse (environmentRoot? : Option String) (arguments : List String) :
    Except ArgumentError (Option Command) :=
  readFrom environmentRoot? false arguments

end Command
end StringsAudit
