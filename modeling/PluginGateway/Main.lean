import PluginGateway.Command.Arguments
import PluginGateway.Command.Report

/-!
# The program

The command line as a process: it reads the words, the environment and the files, carries the
command out, prints, and ends with an exit code. The process has no connection to a network, so
every call that a command sends ends as unreachable.
-/

namespace PluginGateway.Main

/-- How the program is called. -/
def usage : String :=
  "Usage: redfly [--config FILE] [-v]... COMMAND\n\n" ++
  "Commands:\n" ++
  "  login PLUGIN                               create a session with a plugin\n" ++
  "  status PLUGIN                              ask a plugin whether it is alive\n" ++
  "  contact PLUGIN PATH [-X METHOD] [-d DATA]  send a request to a plugin\n" ++
  "  device UUID URL [-X METHOD] [-d DATA]      send a request to a device\n" ++
  "  config-path                                print the path of the configuration\n"

/-- What is printed when the version is asked for. -/
def versionLine : String := "redfly 0.1.0\n"

/-- What is wrong with a command line, in words. -/
def wording : UsageFault → String
  | .helpWanted | .versionWanted | .nothingGiven => ""
  | .missingCommand => "a command is missing"
  | .unknownCommand => "there is no such command"
  | .missingOperand => "an operand is missing"
  | .unknownArgument => "there is no such option, or an operand is one too many"
  | .invalidValue => "the value of an option is missing or empty"
  | .repeatedOption => "an option is given twice"
  | .unwantedValue => "a value is given to an option that takes none"

/-- A variable of the environment, as the system writes it. -/
def pairOf? (text : List Char) : Option (String × String) :=
  match text.dropWhile (· != '=') with
  | [] => none
  | _ :: value => some (String.ofList (text.takeWhile (· != '=')), String.ofList value)

/-- The environment of the process. -/
def environment : IO Environment := do
  let bytes ← IO.FS.readBinFile "/proc/self/environ"
  return (Text.split '\x00' (Text.lossy bytes).toList).filterMap pairOf?

/-- What is said of every call. -/
def unconnected (call : Call) : SendFailure :=
  .unreachable (String.ofList call.url.written) "no connection to a network"

/-- How the process answers an action. No command asks for the time. -/
def answer : (a : FlowAction) → StateT World IO a.Answer
  | .contact (.send _ call) => return .error (unconnected call)
  | .contact (.sendWithin _ _ call) => return some (.error (unconnected call))
  | .contact (.wait duration) => IO.sleep duration.toUInt32
  | a => fun w => return World.handle a w

/-- A program carried out by the process. -/
def carryOut {α : Type} : FlowProgram α → StateT World IO α
  | .done a => return a
  | .ask op next => do carryOut (next (← answer op))

/-- No network: no replies, no tokens. -/
def silence : Rehearsal := ⟨[], [], [], [], 0, 0⟩

/-- Print a report and answer the exit code. -/
def present (r : Report) : IO UInt32 := do
  (← IO.getStdout).putStr r.output
  match r.error? with
  | none => return 0
  | some e =>
    let stderr ← IO.getStderr
    stderr.putStrLn (e.code ++ ": " ++ e.message)
    match e.help? with
    | some help => stderr.putStrLn ("help: " ++ help)
    | none => return r.exitCode.toUInt32
    return r.exitCode.toUInt32

/-- Answer a command line that makes no command. -/
def refuse (f : UsageFault) : IO UInt32 := do
  match f with
  | .helpWanted => (← IO.getStdout).putStr usage
  | .versionWanted => (← IO.getStdout).putStr versionLine
  | _ => (← IO.getStderr).putStr (wording f ++ "\n" ++ usage)
  return f.exitCode.toUInt32

/-- Why a file cannot be read, in the words of the system where it is one of the common reasons. -/
def reasonOf : IO.Error → String
  | .noFileOrDirectory _ _ _ => "No such file or directory (os error 2)"
  | .permissionDenied _ _ _ => "Permission denied (os error 13)"
  | .inappropriateType _ _ _ => "Is a directory (os error 21)"
  | e => toString e

/-- The bytes of a file, or why they cannot be read. -/
def readFile (path : String) : IO (Except String ByteArray) := do
  match ← (IO.FS.readBinFile path).toBaseIO with
  | .ok bytes => return .ok bytes
  | .error e => return .error (reasonOf e)

/-- The files that an invocation needs: the configuration and the certificate that it names. -/
def filesOf (i : Invocation) (env : Environment) :
    IO (List (String × Except String ByteArray)) := do
  let path := i.location env
  let file ← readFile path
  match (Config.load file.toOption env).toOption.bind fun c => c.transport.caCert with
  | some certificate => return [(path, file), (certificate, ← readFile certificate)]
  | none => return [(path, file)]

/-- Carry out an invocation. -/
def carryOutInvocation (i : Invocation) (env : Environment) : IO UInt32 := do
  let files ← filesOf i env
  match i.plan env fun path => (files.lookup path).getD (.error "") with
  | .error e => present (.ofResult (.error e))
  | .ok (.inl text) => present (.ofResult (.ok text))
  | .ok (.inr (inventory, program)) =>
    let (result, _) ← (carryOut program).run ⟨silence, inventory, ""⟩
    present (.ofResult result)

end PluginGateway.Main

/-- The program. -/
def main (args : List String) : IO UInt32 := do
  let env ← PluginGateway.Main.environment
  match PluginGateway.Invocation.ofWords env args with
  | .error f => PluginGateway.Main.refuse f
  | .ok i => PluginGateway.Main.carryOutInvocation i env
