import PluginGateway.Resource.Manager
import PluginGateway.Resource.Payload

/-!
# Virtual media

Media are inserted into a device and ejected from it by actions posted below the media resource.
When an action has succeeded, the media resource is read from the device again and stored, so that a
later read finds the new state without asking the device; whether that works does not change the
answer of the action.
-/

namespace PluginGateway

/-- The action that inserts media. -/
def insertMediaAction : String := "VirtualMedia.InsertMedia"

/-- The action that ejects media. -/
def ejectMediaAction : String := "VirtualMedia.EjectMedia"

/-- The table of the media resources. -/
def virtualMediaTable : String := "VirtualMedia"

/-- The payload of an insertion. -/
def insertMediaShape : PayloadShape where
  title := "InsertMedia"
  properties :=
    [("Image", .requiredText), ("Inserted", .flag), ("WriteProtected", .flag),
     ("TransferMethod", .optionalText), ("TransferProtocolType", .optionalText),
     ("UserName", .optionalText), ("Password", .optionalText)]

/-- The document of an insertion, checked and completed. -/
def insertMediaBody : Option Json → Except FlowError Json
  | none => .error (.invalidRequest "Image field is missing")
  | some v => (Payload.check insertMediaShape v).mapError fun f => .invalidRequest f.message

/-- The text without an ending, if it ends so. -/
def withoutEnding? (ending s : List Char) : Option (List Char) :=
  if ending.isSuffixOf s then some (s.take (s.length - ending.length)) else none

/-- The media resource that the URL of an action belongs to. -/
def mediaUrl (url : String) : String :=
  let trimmed := trimSlashes url.toList
  let ending (action : String) := ("/Actions/" ++ action).toList
  String.ofList (((withoutEnding? (ending insertMediaAction) trimmed).or
    (withoutEnding? (ending ejectMediaAction) trimmed)).getD trimmed)

/-- The first text occurs in the second one. -/
def occursIn (needle : List Char) : List Char → Bool
  | [] => needle.isEmpty
  | c :: rest => needle.isPrefixOf (c :: rest) || occursIn needle rest

namespace Aggregator

/-- Read a media resource from the device again and store it. -/
def refreshMedia (g : Aggregator) (uuid url : String) : Flow Unit := do
  let text ← g.deviceText uuid url
  match Json.parse text with
  | .error e => throw (.internal ("virtual media details: " ++ e.message))
  | .ok record => Flow.storeResource virtualMediaTable url record

/-- The document to post with an action. -/
def mediaActionBody (url : String) (body : Option Json) : Except FlowError (Option Json) :=
  if occursIn insertMediaAction.toList url.toList then (insertMediaBody body).map some
  else .ok body

/-- Post a virtual media action to the device of a manager. -/
def virtualMediaAction (g : Aggregator) (managerId url : String) (body : Option Json) :
    Flow DeviceResponse := do
  let body ← ExceptT.mk (.done (mediaActionBody url body))
  let uuid ← ExceptT.mk (.done (deviceOfManager managerId))
  let response ← g.deviceRequest { uuid, url, method := .post, body }
  if response.status = 200 then
    let _ ← Flow.attempt (g.refreshMedia uuid (mediaUrl url))
  return response

end Aggregator

end PluginGateway
