import PluginGateway.Text.Basic

/-!
# The form of a command line

The program is called with options, the name of a command, and more options and operands of that
command. A `Flag` is what stands behind dashes, a `Verb` is a command by its name, and a `Level` is
the program itself or one of its commands; each level has its own flags. `UsageFault` lists the ways
in which a command line makes no command, among them those that ask for help.
-/

namespace PluginGateway

/-- A reason why a command line makes no command. -/
inductive UsageFault where
  /-- Help was asked for. -/
  | helpWanted
  /-- The version was asked for. -/
  | versionWanted
  /-- Nothing at all was given. -/
  | nothingGiven
  /-- The command is missing. -/
  | missingCommand
  /-- There is no such command. -/
  | unknownCommand
  /-- An operand is missing. -/
  | missingOperand
  /-- There is no such flag, or an operand is one too many. -/
  | unknownArgument
  /-- The value of an option is missing or makes no sense. -/
  | invalidValue
  /-- An option that may be given once is given twice. -/
  | repeatedOption
  /-- A flag that takes no value is given one. -/
  | unwantedValue
  deriving DecidableEq, Repr

/-- The exit code: asking for help or for the version is no failure. -/
def UsageFault.exitCode : UsageFault → Nat
  | helpWanted | versionWanted => 0
  | _ => 2

/-- What may stand behind dashes. -/
inductive Flag where
  /-- The path of the configuration. -/
  | config
  /-- Tell more of what is going on. -/
  | verbose
  /-- The method of a request. -/
  | method
  /-- The document of a request. -/
  | data
  /-- Show help. -/
  | help
  /-- Show the version. -/
  | version
  deriving DecidableEq, Repr

namespace Flag

/-- The name behind two dashes. -/
def name : Flag → String
  | config => "config"
  | verbose => "verbose"
  | method => "method"
  | data => "data"
  | help => "help"
  | version => "version"

/-- The letter behind one dash. -/
def letter? : Flag → Option Char
  | config => none
  | verbose => some 'v'
  | method => some 'X'
  | data => some 'd'
  | help => some 'h'
  | version => some 'V'

/-- The flag is an option: a value goes with it. -/
def takesValue : Flag → Bool
  | config | method | data => true
  | verbose | help | version => false

/-- A value makes sense for the option. Only a path must not be empty. -/
def admits : Flag → String → Bool
  | config, value => !value.isEmpty
  | _, _ => true

end Flag

/-- A command by its name. -/
inductive Verb where
  | login
  | status
  | contact
  | device
  | configPath
  deriving DecidableEq, Repr

namespace Verb

/-- All verbs. -/
def all : List Verb := [login, status, contact, device, configPath]

/-- The name of a verb. -/
def name : Verb → String
  | login => "login"
  | status => "status"
  | contact => "contact"
  | device => "device"
  | configPath => "config-path"

/-- The verb of a name. -/
def ofName? (name : String) : Option Verb := all.find? fun v => v.name == name

/-- How many operands a command takes. -/
def operandCount : Verb → Nat
  | login | status => 1
  | contact | device => 2
  | configPath => 0

/-- The command makes a request. -/
def makesRequest : Verb → Bool
  | contact | device => true
  | _ => false

end Verb

/-- The name of the command that shows help. -/
def helpName : String := "help"

/-- Some word names a command. -/
def namesCommand (word : String) : Bool := word == helpName || (Verb.ofName? word).isSome

/-- The program itself or one of its commands. -/
inductive Level where
  /-- The program. -/
  | program
  /-- A command. -/
  | command (verb : Verb)
  deriving DecidableEq, Repr

namespace Level

/-- The flags of a level. -/
def flags (l : Level) : List Flag :=
  let request := match l with
    | command verb => if verb.makesRequest then [Flag.method, Flag.data] else []
    | program => []
  [.config, .verbose] ++ request ++ [.help, .version]

/-- How many operands a level takes. -/
def operandCount : Level → Nat
  | program => 0
  | command verb => verb.operandCount

/-- The flag of a name. -/
def named? (l : Level) (name : String) : Option Flag := l.flags.find? fun f => f.name == name

/-- The flag of a letter. -/
def lettered? (l : Level) (c : Char) : Option Flag := l.flags.find? fun f => f.letter? == some c

/-- What an operand too many amounts to. After two dashes the name of a command is taken for an
operand, and then it is the dashes that are at fault. -/
def surplus (l : Level) (literal : Bool) (word : String) : UsageFault :=
  match l with
  | command _ => .unknownArgument
  | program => if literal && namesCommand word then .unknownArgument else .unknownCommand

end Level

/-- A word of a command line by its form. -/
inductive Word where
  /-- Two dashes, behind which all words are operands. -/
  | dashes
  /-- A name behind two dashes, perhaps with an equals sign and a value. -/
  | long (name : String) (value : Option String)
  /-- Letters behind one dash. -/
  | letters (letters : List Char)
  /-- Any other word, a single dash among them. -/
  | plain
  deriving DecidableEq, Repr

/-- The name and the value on both sides of the first equals sign. -/
def Word.named (s : List Char) : Word :=
  match s.dropWhile (· != '=') with
  | [] => long (String.ofList s) none
  | _ :: value => long (String.ofList (s.takeWhile (· != '='))) (some (String.ofList value))

/-- The form of a word. -/
def Word.ofText (text : String) : Word :=
  match text.toList with
  | ['-', '-'] => dashes
  | '-' :: '-' :: rest => named rest
  | '-' :: c :: rest => letters (c :: rest)
  | _ => plain

end PluginGateway
