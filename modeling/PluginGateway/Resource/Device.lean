import PluginGateway.Resource.Action

/-!
# Requests to devices

A device is reached through its plugin. `Aggregator.deviceRequest` looks the device and its plugin
up, authenticates with the plugin, decrypts the device's password, and posts the device's address
and credentials together with the request. In what the plugin answers, the links of the device carry
its identifier as qualifier.
-/

namespace PluginGateway

/-- A request for a resource of a device. -/
structure DeviceRequest where
  /-- The device. -/
  uuid : String
  /-- The URL in the aggregator's form. -/
  url : String
  /-- The method. -/
  method : Method := .get
  /-- The document for the device. -/
  body : Option Json := none

/-- What a device answered. -/
structure DeviceResponse where
  /-- The status. -/
  status : Nat
  /-- The body, with qualified links. -/
  body : String

/-- The answer as a document. -/
def DeviceResponse.json (r : DeviceResponse) : Except FlowError Json :=
  match Json.parse r.body with
  | .ok v => .ok v
  | .error e => .error (.internal ("device response is not valid JSON: " ++ e.message))

namespace DeviceRequest

/-- What a request with a method does, in words. -/
def operation (m : Method) : String :=
  if m = .get then "getting the details"
  else if m = .post then "posting to"
  else if m = .patch then "patching"
  else if m = .put then "replacing"
  else if m = .delete then "deleting"
  else "contacting"

/-- What was being done when a request failed. -/
def context (r : DeviceRequest) : String :=
  "error while " ++ operation r.method ++ " " ++ r.url ++ ": "

end DeviceRequest

/-- The document that a plugin gets with every request for a device. -/
def deviceInfo (t : Target) (password : String) (body : Option Json) : Json :=
  .object ([("ManagerAddress", .string t.managerAddress), ("UserName", .string t.username),
    ("Password", .string password)] ++ (body.map fun v => ("PostBody", v)).toList)

namespace Aggregator

/-- The password of a device as a text. -/
def devicePassword (g : Aggregator) (t : Target) : Except FlowError String :=
  match g.decrypt t.password with
  | .error e => .error (.decryption e.message)
  | .ok plain => (Text.decode plain).mapError fun f => .decryption f.message

/-- Carry out a request to a device. -/
def deviceRequest (g : Aggregator) (r : DeviceRequest) : Flow DeviceResponse := do
  let target ← Flow.findTarget r.uuid
  let plugin ← Flow.findPlugin target.pluginId
  let stripped := String.ofList (Path.strip r.uuid.toList r.url.toList)
  let request ← g.authorized plugin r.method stripped
  let password ← ExceptT.mk (.done (g.devicePassword target))
  let outcome ← Flow.contact (g.client.contactWithRetry r.context
    { request with body := some (deviceInfo target password r.body) })
  return ⟨outcome.status, String.ofList (Path.qualifyLinks r.uuid.toList outcome.text.toList)⟩

/-- Read a resource of a device. -/
def deviceText (g : Aggregator) (uuid url : String) : Flow String := do
  return (← g.deviceRequest { uuid, url }).body

end Aggregator

end PluginGateway
