import PluginGateway.Contact.Plugin
import PluginGateway.Json.Basic
import PluginGateway.Text.Utf8
import PluginGateway.Url.Basic

/-!
# Calls and responses

A `Call` is a request in the form in which it leaves for a plugin. What comes back is a `Response`,
or a `SendFailure` if the exchange broke off. A plugin that accepted a login hands out its session
token in a header of the response; `Response.authToken?` says when such a header counts.
-/

namespace PluginGateway

/-- The method of a request. -/
structure Method where
  /-- The method in writing. -/
  name : String
  deriving DecidableEq, Repr

namespace Method

/-- Reads a resource. -/
def get : Method := ⟨"GET"⟩

/-- Adds to a resource, or starts an action. -/
def post : Method := ⟨"POST"⟩

/-- Changes parts of a resource. -/
def patch : Method := ⟨"PATCH"⟩

/-- Replaces a resource. -/
def put : Method := ⟨"PUT"⟩

/-- Removes a resource. -/
def delete : Method := ⟨"DELETE"⟩

/-- A character that the name of a method may hold. -/
def isNameChar (c : Char) : Bool := c.isAlphanum || "!#$%&'*+-.^_|~\x60".toList.contains c

/-- The method of a name, which must not be empty and may hold few signs besides letters and
digits. -/
def ofName? (text : String) : Option Method :=
  if !text.isEmpty && text.toList.all isNameChar then some ⟨text⟩ else none

end Method

/-- A request as it is sent to a plugin. -/
structure Call where
  /-- The method. -/
  method : Method
  /-- The endpoint. -/
  url : Url
  /-- The path of the resource in the plugin's form, before it was made part of the endpoint. -/
  path : String
  /-- The session token. -/
  token : Option String
  /-- User name and password. -/
  basic : Option Credentials
  /-- The document sent along. -/
  body : Option Json

/-- The name of the header in which a plugin hands out a session token. -/
def authTokenHeader : String := "X-Auth-Token"

/-- What a plugin answered. -/
structure Response where
  /-- The status. -/
  status : Nat
  /-- The headers in order, each with its name. -/
  headers : List (String × ByteArray)
  /-- The body. -/
  body : ByteArray

namespace Response

/-- The response reports success: its status is 200 or 201. -/
def isSuccess (r : Response) : Bool := r.status == 200 || r.status == 201

/-- The first header of a name, in letters of any case. -/
def header? (r : Response) (name : String) : Option ByteArray :=
  (r.headers.find? fun h => Text.sameIgnoringCase h.1.toList name.toList).map Prod.snd

/-- A byte of a visible ASCII character, a space or a tab. -/
def isVisible (b : UInt8) : Bool := b == 9 || (32 ≤ b && b < 127)

/-- The session token handed out: the value of the first header for it, unless that is empty or
holds other bytes than those of visible ASCII characters, spaces and tabs. -/
def authToken? (r : Response) : Option String :=
  match r.header? authTokenHeader with
  | some value =>
    if !value.isEmpty && value.data.toList.all isVisible then
      some (String.ofList (value.data.toList.map fun b => Char.ofNat b.toNat))
    else none
  | none => none

end Response

/-- Why no complete response came back. -/
inductive SendFailure where
  /-- The call could not be carried out. -/
  | transport (cause : String)
  /-- Nobody answered at the endpoint. -/
  | unreachable (endpoint reason : String)
  /-- A response came, and its body broke off. -/
  | bodyRead (reason : String)
  deriving DecidableEq, Repr

/-- The plugin gave no sign of life. -/
def SendFailure.isSilence : SendFailure → Bool
  | transport _ | unreachable _ _ => true
  | bodyRead _ => false

end PluginGateway
