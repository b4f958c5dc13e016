import PluginGateway.Path.Run
import PluginGateway.Path.Table
import PluginGateway.Text.Basic

/-!
# Conversion between the two namespaces

The aggregator and its plugins name the same resources by different paths. A `Conversion` holds a
table for each direction: southward, from the aggregator's form of a path to the plugin's, and
northward, from the plugin's form to the aggregator's, applied to every path within a body.
-/

namespace PluginGateway.Path

/-! ## Identifiers qualified by a device

A device names its systems, managers and chassis by local identifiers; outside the device an
identifier carries the device's UUID in front, as in `Systems/6d4a:1`. `strip` removes the qualifier
from every segment of a path, `qualifyPath?` puts it before the member that follows a collection of
devices, and `qualifyLinks` does so for every path within a text.
-/

/-- The collections whose members belong to a device. -/
def deviceCollections : List (List Char) :=
  ["Systems".toList, "Managers".toList, "Chassis".toList]

/-- The segment names a collection of device members, in any letter case. -/
def isDeviceCollection (s : Segment) : Bool :=
  deviceCollections.any fun c => Text.sameIgnoringCase c s

/-- The qualifier of a device: its UUID and a colon. -/
def qualifier (uuid : List Char) : List Char := uuid ++ [':']

/-- The segment without the qualifier, if it begins with it. -/
def stripSegment (q : List Char) (s : Segment) : Segment :=
  if q.isPrefixOf s then s.drop q.length else s

/-- The URI with the device's qualifier removed from every segment of its path. -/
def strip (uuid uri : List Char) : List Char :=
  joined ((segments (beforeTail uri)).map (stripSegment (qualifier uuid))) ++ tail uri

/-- The three segments before a member: the service root, its version, and a device collection. -/
def opensMember (root version collection : Segment) : Bool :=
  root == "redfish".toList && version == "v1".toList && isDeviceCollection collection

/-- The segment that follows three others, qualified if those open a member and it is neither empty
nor qualified already. -/
def qualifySegment (q : List Char) (a b c s : Segment) : Segment :=
  if opensMember a b c && !s.isEmpty && !q.isPrefixOf s then q ++ s else s

/-- The segments behind three that are already written, each qualified where it has to be. -/
def qualifyAfter (q : List Char) : Segment → Segment → Segment → List Segment → List Segment
  | _, _, _, [] => []
  | a, b, c, s :: rest =>
    qualifySegment q a b c s :: qualifyAfter q b c (qualifySegment q a b c s) rest

/-- The segments of a path, each member of a device collection qualified. -/
def qualifySegments (q : List Char) : List Segment → List Segment
  | a :: b :: c :: rest => a :: b :: c :: qualifyAfter q a b c rest
  | path => path

/-- The URI with every device member qualified, or none if there is nothing to qualify. -/
def qualifyPath? (uuid uri : List Char) : Option (List Char) :=
  let path := segments (beforeTail uri)
  let qualified := qualifySegments (qualifier uuid) path
  if qualified = path then none else some (joined qualified ++ tail uri)

/-- The text with the device members of every path in it qualified. -/
def qualifyLinks (uuid text : List Char) : List Char := replaceRuns (qualifyPath? uuid) text

/-! ## Conversions -/

/-- The tables of the two directions. -/
structure Conversion where
  /-- From the plugin's form of a path to the aggregator's. -/
  north : Table
  /-- From the aggregator's form of a path to the plugin's. -/
  south : Table
  deriving DecidableEq

namespace Conversion

/-- The tables built from pairs of texts. -/
def ofPairs (north south : List (List Char × List Char)) : Conversion :=
  ⟨.ofPairs north, .ofPairs south⟩

/-- No conversion in either direction. -/
def identity : Conversion := ⟨.empty, .empty⟩

/-- A plugin serves under `ODIM` what the aggregator serves under `redfish`. -/
def standard : Conversion :=
  ofPairs [("ODIM".toList, "redfish".toList)] [("redfish".toList, "ODIM".toList)]

/-- The plugin's form of a path in the aggregator's form. -/
def southPath (t : Conversion) (path : List Char) : List Char := t.south.apply path

/-- The aggregator's form of a text in the plugin's form, or none if no path in it changes. -/
def northText? (t : Conversion) (text : List Char) : Option (List Char) :=
  replaceRuns? t.north.replace? text

/-- The aggregator's form of a body; a body that is no text, or in which no path changes, is kept
byte for byte. -/
def northBody (t : Conversion) (body : ByteArray) : ByteArray :=
  if t.north.isEmpty then body
  else
    match String.fromUTF8? body with
    | none => body
    | some text =>
      match t.northText? text.toList with
      | none => body
      | some out => (String.ofList out).toUTF8

/-- The plugin's form of a path that carries a device's qualifiers. -/
def devicePath (t : Conversion) (uuid uri : List Char) : List Char := t.southPath (strip uuid uri)

end Conversion

end PluginGateway.Path
