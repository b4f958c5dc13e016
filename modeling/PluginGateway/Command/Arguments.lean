import PluginGateway.Command.Basic
import PluginGateway.Command.Usage
import PluginGateway.Config.Environment

/-!
# Reading a command line

`Invocation.ofWords` makes an invocation of the words of a command line, or says why they make none.
The words of a level are gathered from left to right. The value of an option is the next word; it is
looked at when the next flag or operand of the level is reached or the level ends, and a level of
the program ends after that of its command. At the end of a level the environment may name the
configuration if the level itself does not.
-/

namespace PluginGateway

/-- What is gathered of the words of a level. -/
structure Gathered where
  /-- The options with their values. -/
  values : List (Flag × String) := []
  /-- How often more was asked to be told, if it was. -/
  verbosity : Option Nat := none
  /-- The operands. -/
  operands : List String := []
  /-- The last option, if its value is not looked at yet, with the value where that is known. -/
  pending : Option (Flag × Option String) := none

namespace Gathered

/-- More than so much cannot be asked to be told. -/
def verbosityLimit : Nat := 255

/-- An option with its value. -/
def assign (g : Gathered) (flag : Flag) (value : String) : Except UsageFault Gathered :=
  if (g.values.lookup flag).isSome then .error .repeatedOption
  else if flag.admits value then .ok { g with values := g.values ++ [(flag, value)] }
  else .error .invalidValue

/-- Look at the value of the last option. -/
def settle (g : Gathered) : Except UsageFault Gathered :=
  match g.pending with
  | none => .ok g
  | some (_, none) => .error .invalidValue
  | some (flag, some value) => { g with pending := none }.assign flag value

/-- A flag without a value. -/
def mark (g : Gathered) (flag : Flag) : Except UsageFault Gathered := do
  let g ← g.settle
  match flag with
  | .help => throw .helpWanted
  | .version => throw .versionWanted
  | _ => return { g with verbosity := some (min (g.verbosity.getD 0 + 1) verbosityLimit) }

/-- An option whose value is the next word. -/
def await (g : Gathered) (flag : Flag) : Except UsageFault Gathered := do
  return { ← g.settle with pending := some (flag, none) }

/-- An option with a value in the same word. -/
def attach (g : Gathered) (flag : Flag) (value : String) : Except UsageFault Gathered := do
  (← g.settle).assign flag value

/-- A flag by its name, with the value behind the equals sign if there is one. -/
def long (level : Level) (g : Gathered) (name : String) (value : Option String) :
    Except UsageFault Gathered :=
  match level.named? name, value with
  | none, _ => .error .unknownArgument
  | some flag, some value =>
    if flag.takesValue then g.attach flag value else .error .unwantedValue
  | some flag, none => if flag.takesValue then g.await flag else g.mark flag

/-- Flags by their letters. What stands behind the letter of an option is its value, with or without
an equals sign in between. -/
def letters (level : Level) (g : Gathered) : List Char → Except UsageFault Gathered
  | [] => .ok g
  | c :: rest =>
    match level.lettered? c with
    | none => .error .unknownArgument
    | some flag =>
      if flag.takesValue then
        match rest with
        | [] => g.await flag
        | '=' :: value => g.attach flag (String.ofList value)
        | value => g.attach flag (String.ofList value)
      else do letters level (← g.mark flag) rest

/-- An operand; `literal` says that it stands behind two dashes. -/
def operand (level : Level) (literal : Bool) (g : Gathered) (word : String) :
    Except UsageFault Gathered :=
  if g.operands.length < level.operandCount then do
    let g ← g.settle
    return { g with operands := g.operands ++ [word] }
  else .error (level.surplus literal word)

/-- What the words behind the command for help amount to: help on one command at most. -/
def helpOn : List String → UsageFault
  | [] => .helpWanted
  | [word] => if namesCommand word then .helpWanted else .unknownCommand
  | _ => .unknownCommand

/-- The words of a level, and if they lead to a command, its verb and the words behind it. -/
def gather (level : Level) (literal : Bool) (g : Gathered) :
    List String → Except UsageFault (Gathered × Option (Verb × List String))
  | [] => .ok (g, none)
  | word :: rest =>
    if literal then do gather level true (← g.operand level true word) rest
    else
      match Word.ofText word with
      | .dashes => gather level true g rest
      | .long name value => do gather level false (← g.long level name value) rest
      | .letters letters => do gather level false (← g.letters level letters) rest
      | .plain =>
        match g.pending, level with
        | some (flag, none), _ =>
          gather level false { g with pending := some (flag, some word) } rest
        | _, .command _ => do gather level false (← g.operand level false word) rest
        | _, .program =>
          if word = helpName then .error (helpOn rest)
          else
            match Verb.ofName? word with
            | some verb => .ok (g, some (verb, rest))
            | none => do gather level false (← g.operand level false word) rest

/-- The end of a level: the value of the last option is looked at, and the configuration that the
environment names if the level names none. -/
def close (g : Gathered) (source : Option String) : Except UsageFault Gathered := do
  let g ← g.settle
  match g.values.lookup Flag.config, source with
  | none, some path => if Flag.admits .config path then return g else throw .invalidValue
  | _, _ => return g

/-- Nothing was given on the level. -/
def isBlank (g : Gathered) : Bool :=
  g.values.isEmpty && g.verbosity.isNone && g.operands.isEmpty

/-- What is said about a request. -/
def request (g : Gathered) : RequestOptions where
  method := (g.values.lookup .method).getD ({} : RequestOptions).method
  data := g.values.lookup .data

/-- The command of a verb. -/
def command (g : Gathered) (verb : Verb) : Except UsageFault Command :=
  match verb, g.operands with
  | .login, plugin :: _ => .ok (.login plugin)
  | .status, plugin :: _ => .ok (.status plugin)
  | .contact, plugin :: path :: _ => .ok (.contact plugin path g.request)
  | .device, uuid :: url :: _ => .ok (.device uuid url g.request)
  | .configPath, _ => .ok .configPath
  | _, _ => .error .missingOperand

end Gathered

namespace Invocation

/-- The variable that names the configuration. -/
def configVariable : String := "REDFLY_CONFIG"

/-- The invocation that the words of a command line make. What is said behind the name of the
command counts before what is said in front of it, and that before the environment. -/
def ofWords (env : Environment) (words : List String) : Except UsageFault Invocation := do
  let source := env.get? configVariable
  match ← Gathered.gather .program false {} words with
  | (g, none) =>
    let g ← g.close source
    throw (if g.isBlank && source.isNone then .nothingGiven else .missingCommand)
  | (g, some (verb, rest)) =>
    let (inner, _) ← Gathered.gather (.command verb) false {} rest
    let inner ← inner.close source
    let command ← inner.command verb
    let outer ← g.close source
    return {
      config := ((inner.values.lookup Flag.config).or (outer.values.lookup Flag.config)).or source
      verbosity := (inner.verbosity.or outer.verbosity).getD 0
      command := command }

end Invocation

end PluginGateway
