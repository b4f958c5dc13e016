import PluginGateway.Resource.VirtualMedia

/-!
# Accounts of management controllers

A device serves its account service at `v1/AccountService`; the aggregator shows it below the
manager of the device, as its `RemoteAccountService`. Requests are moved southward on the way in,
and every path of the account service within an answer is moved back below the manager.
-/

namespace PluginGateway

/-- The name under which a manager shows the account service. -/
def remoteAccountService : String := "RemoteAccountService"

/-- The device's URL of a resource below a manager's account service. -/
def toAccountService (managerId url : String) : String :=
  let table := Path.Table.ofPairs
    [(("Managers/" ++ managerId ++ "/" ++ remoteAccountService).toList, "AccountService".toList)]
  String.ofList (table.apply url.toList)

/-- The text with every path of the device's account service moved below the manager. -/
def toRemoteAccountService (managerId text : String) : String :=
  let table := Path.Table.ofPairs
    [("v1/AccountService".toList,
      ("v1/Managers/" ++ managerId ++ "/" ++ remoteAccountService).toList)]
  String.ofList (Path.replaceRuns table.replace? text.toList)

/-- The error that names the account or role of a URL, or else the manager. -/
def accountNotFound (managerId url : String) : FlowError :=
  match (urlSegments url).dropWhile (· ≠ remoteAccountService) with
  | [_, "Accounts", id] => .notFound "Accounts" id
  | [_, "Roles", id] => .notFound "Roles" id
  | _ => .notFound "Managers" managerId

/-- The payload of a new account. -/
def createAccountShape : PayloadShape where
  title := "CreateAccount"
  properties :=
    [("UserName", .requiredText), ("Password", .requiredText), ("RoleId", .requiredText)]

/-- The payload of a change of an account. -/
def updateAccountShape : PayloadShape where
  title := "UpdateAccount"
  properties :=
    [("UserName", .optionalText), ("Password", .optionalText), ("RoleId", .optionalText)]

/-- A document checked as a payload. -/
def checkedPayload (shape : PayloadShape) (v : Json) : Except FlowError Json :=
  (Payload.check shape v).mapError fun f => .invalidRequest f.message

namespace Aggregator

/-- Read a resource of the account service from the device, with the error that names it. -/
def accountText (g : Aggregator) (managerId uuid url : String) : Flow String :=
  (g.deviceText uuid (toAccountService managerId url)).orFail fun _ => accountNotFound managerId url

/-- Read the account service below a manager, or an account or role of it. -/
def readRemoteAccount (g : Aggregator) (managerId url : String) : Flow Json := do
  let uuid ← ExceptT.mk (.done (deviceOfManager managerId))
  let text ← g.accountText managerId uuid url
  match Json.parse (toRemoteAccountService managerId text) with
  | .ok v => return v
  | .error e => throw (.internal ("remote account response is not valid JSON: " ++ e.message))

/-- Create an account. The answer has the status of a creation, whichever success the device
reported. -/
def createRemoteAccount (g : Aggregator) (managerId url : String) (body : Json) :
    Flow DeviceResponse := do
  let body ← ExceptT.mk (.done (checkedPayload createAccountShape body))
  let uuid ← ExceptT.mk (.done (deviceOfManager managerId))
  let response ← g.deviceRequest
    { uuid, url := toAccountService managerId url, method := .post, body := some body }
  return ⟨201, toRemoteAccountService managerId response.body⟩

/-- Change an account and answer its state as read from the device afterwards. -/
def updateRemoteAccount (g : Aggregator) (managerId url : String) (body : Json) :
    Flow DeviceResponse := do
  let body ← ExceptT.mk (.done (checkedPayload updateAccountShape body))
  let uuid ← ExceptT.mk (.done (deviceOfManager managerId))
  let response ← g.deviceRequest
    { uuid, url := toAccountService managerId url, method := .patch, body := some body }
  if response.status = 200 then
    return ⟨200, toRemoteAccountService managerId (← g.accountText managerId uuid url)⟩
  else return ⟨response.status, toRemoteAccountService managerId response.body⟩

/-- Delete an account. A device that answers no more than success is answered as having no content.
-/
def deleteRemoteAccount (g : Aggregator) (managerId url : String) : Flow DeviceResponse := do
  let uuid ← ExceptT.mk (.done (deviceOfManager managerId))
  let response ← g.deviceRequest
    { uuid, url := toAccountService managerId url, method := .delete }
  if response.status = 200 then return ⟨204, ""⟩ else return response

end Aggregator

end PluginGateway
