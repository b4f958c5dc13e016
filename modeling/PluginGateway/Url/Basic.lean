import PluginGateway.Url.Domain
import PluginGateway.Url.Address

/-!
# URLs and their parts

A `Url` is an absolute URL in parts, each already in the form in which it is written: the scheme in
small letters, the host normalised, dots removed from the path, and percent encoding where a part
needs it. `Url.written` puts the parts together. A `Url.Fault` is what keeps a text from being one.
-/

namespace PluginGateway.Url

/-! ## Faults of a URL

What can be wrong with a URL, with its wording.
-/

/-- A reason why a text is no absolute URL. -/
inductive Fault where
  /-- There is no host where the scheme needs one. -/
  | emptyHost
  /-- The host is no domain name. -/
  | invalidDomain
  /-- The host of a scheme unknown to the reader holds a character it may not hold. -/
  | invalidHostCharacter
  /-- The port is no number or too large. -/
  | invalidPort
  /-- The host looks like an IPv4 address and is none. -/
  | invalidIpv4
  /-- The host is bracketed and no IPv6 address. -/
  | invalidIpv6
  /-- The text does not begin with a scheme. -/
  | noScheme
  deriving DecidableEq, Repr

/-- The wording of a fault. -/
def Fault.message : Fault → String
  | emptyHost => "empty host"
  | invalidDomain => "invalid international domain name"
  | invalidHostCharacter => "invalid domain character"
  | invalidPort => "invalid port number"
  | invalidIpv4 => "invalid IPv4 address"
  | invalidIpv6 => "invalid IPv6 address"
  | noScheme => "relative URL without a base"

end PluginGateway.Url

namespace PluginGateway

/-! ## The parts of a URL -/

/-- What a scheme says about the parts of its URLs. -/
inductive Url.SchemeKind where
  /-- A scheme of the web, which needs a host. -/
  | special
  /-- The scheme of files, whose host may be empty. -/
  | file
  /-- Any other scheme. -/
  | other
  deriving DecidableEq, Repr

/-- The host of a URL. -/
inductive Url.Host where
  /-- A name. -/
  | name (s : List Char)
  /-- An IPv4 address. -/
  | ipv4 (address : Nat)
  /-- The eight pieces of an IPv6 address. -/
  | ipv6 (pieces : List Nat)
  deriving DecidableEq, Repr

/-- User information, host and port. -/
structure Url.Authority where
  /-- User name and password as written, without the sign behind them. -/
  userinfo : List Char
  /-- The host. -/
  host : Url.Host
  /-- The port, unless it is the one that the scheme implies. -/
  port : Option Nat
  deriving DecidableEq, Repr

/-- An absolute URL. -/
structure Url where
  /-- The scheme. -/
  scheme : List Char
  /-- The authority, if the URL has one. -/
  authority : Option Url.Authority
  /-- The path as written. -/
  path : List Char
  /-- The query as written, without its mark. -/
  query : Option (List Char)
  /-- The fragment as written, without its mark. -/
  fragment : Option (List Char)
  deriving DecidableEq, Repr

namespace Url

/-- The kind of a scheme. -/
def kindOf (scheme : List Char) : SchemeKind :=
  if ["http", "https", "ws", "wss", "ftp"].any fun s => s.toList == scheme then .special
  else if scheme == "file".toList then .file
  else .other

/-- The port that a scheme implies. -/
def defaultPort? (scheme : List Char) : Option Nat :=
  if scheme == "http".toList || scheme == "ws".toList then some 80
  else if scheme == "https".toList || scheme == "wss".toList then some 443
  else if scheme == "ftp".toList then some 21
  else none

/-- A host in writing. -/
def Host.written : Host → List Char
  | name s => s
  | ipv4 address => Ipv4.written address
  | ipv6 pieces => '[' :: Ipv6.written pieces ++ [']']

/-- An authority in writing. -/
def Authority.written (a : Authority) : List Char :=
  (if a.userinfo.isEmpty then [] else a.userinfo ++ ['@']) ++ a.host.written
    ++ match a.port with
      | some n => ':' :: Nat.toDigits 10 n
      | none => []

/-- A part with its mark in front, if it is there. -/
def marked (mark : Char) : Option (List Char) → List Char
  | some s => mark :: s
  | none => []

/-- What stands between the colon and the path: the authority behind two slashes, or, where a path
without one would look like an authority, a step that keeps them apart. -/
def leadWritten (u : Url) : List Char :=
  match u.authority with
  | some a => '/' :: '/' :: a.written
  | none => if "//".toList.isPrefixOf u.path then ['/', '.'] else []

/-- A URL in writing. -/
def written (u : Url) : List Char :=
  u.scheme ++ ':' :: u.leadWritten ++ u.path ++ marked '?' u.query ++ marked '#' u.fragment

end Url

end PluginGateway
