import PluginGateway.Command.Error
import PluginGateway.Text.Basic

/-!
# Commands

What the program can be told on its command line. An `Invocation` is a command together with what
holds for all commands alike; `RequestOptions` is what is said about a request, in the words it was
given in.
-/

namespace PluginGateway

/-! ## Invocations -/

/-- What is said about a request on the command line. -/
structure RequestOptions where
  /-- The method. -/
  method : String := "GET"
  /-- The document to send along. -/
  data : Option String := none
  deriving DecidableEq, Repr

/-- What the program is told to do. -/
inductive Command where
  /-- Create a session with a plugin. -/
  | login (plugin : String)
  /-- Ask a plugin whether it is alive. -/
  | status (plugin : String)
  /-- Send a request to a plugin. -/
  | contact (plugin path : String) (request : RequestOptions)
  /-- Send a request to a device through its plugin. -/
  | device (uuid url : String) (request : RequestOptions)
  /-- Say where the configuration is. -/
  | configPath
  deriving DecidableEq, Repr

/-- What is said about the request of a command that makes one. -/
def Command.request? : Command → Option RequestOptions
  | contact _ _ request | device _ _ request => some request
  | _ => none

/-- A command and what holds for all commands. -/
structure Invocation where
  /-- The path of the configuration, if one is given. -/
  config : Option String
  /-- How much is to be told of what is going on. -/
  verbosity : Nat
  /-- The command. -/
  command : Command
  deriving DecidableEq, Repr

/-! ## What goes into a request and what comes out

`RequestOptions.read` makes a method and a document of what is said about a request. `printed` lays
out the body of an answer for a reader.
-/

/-- The method, in capital letters, and the document of a request. A method that is none counts
before a document that is none. -/
def RequestOptions.read (o : RequestOptions) : Except CommandError (Method × Option Json) :=
  match Method.ofName? (String.ofList (Text.upperAscii o.method.toList)) with
  | none => .error (.invalidValue "method" ("'" ++ o.method ++ "' is not an HTTP method"))
  | some method =>
    match o.data with
    | none => .ok (method, none)
    | some data =>
      match Json.parse data with
      | .ok v => .ok (method, some v)
      | .error e => .error (.invalidData e.message)

/-- A body as it is printed: on lines if it is a JSON document, as it is otherwise, and a line end.
-/
def printed (body : String) : String :=
  match Json.parse body with
  | .ok v => v.pretty ++ "\n"
  | .error _ => body ++ "\n"

end PluginGateway
