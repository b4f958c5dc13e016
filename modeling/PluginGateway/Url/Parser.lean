import PluginGateway.Url.Basic

/-!
# Reading URLs

`Url.parse` reads an absolute URL by the rules of the web: blanks and controls around it and tabs
and line breaks within it are dropped, the port that the scheme implies is left out, dots in the
path are resolved, and what a part may not hold is percent encoded. A text that is no absolute URL
is refused with the first fault met from left to right.
-/

namespace PluginGateway.Url

/-- A tab or line break, which is dropped wherever it stands. -/
def isDropped (c : Char) : Bool := c == '\t' || c == '\n' || c == '\r'

/-- A blank or control, which is dropped at either end. -/
def isTrimmed (c : Char) : Bool := c.toNat ≤ 0x20

/-- The characters of a text that count. -/
def cleaned (s : List Char) : List Char :=
  ((s.dropWhile isTrimmed).reverse.dropWhile isTrimmed).reverse.filter fun c => !isDropped c

/-- A character of a scheme. -/
def inScheme (c : Char) : Bool := c.isAlphanum || c == '+' || c == '-' || c == '.'

/-- The scheme in small letters and what stands behind its colon. -/
def splitScheme (s : List Char) : Option (List Char × List Char) :=
  match s.dropWhile inScheme with
  | ':' :: rest =>
    if s.head?.any Char.isAlpha then some ((s.takeWhile inScheme).map Char.toLower, rest) else none
  | _ => none

/-- A slash; a backslash is one where the scheme is known. -/
def isSlash (kind : SchemeKind) (c : Char) : Bool := c == '/' || (c == '\\' && kind ≠ .other)

/-- The authority ends before this character. -/
def endsAuthority (kind : SchemeKind) (c : Char) : Bool := isSlash kind c || c == '?' || c == '#'

/-! ## User information -/

/-- The texts before and behind the last occurrence of a character. -/
def splitLast (c : Char) (s : List Char) : Option (List Char × List Char) :=
  let back := s.reverse.takeWhile (· ≠ c)
  if back.length = s.length then none
  else some (s.take (s.length - back.length - 1), back.reverse)

/-- User name and password in writing; an empty password loses its colon. -/
def userinfoOf (s : List Char) : List Char :=
  let name := s.takeWhile (· ≠ ':')
  let password := (s.dropWhile (· ≠ ':')).drop 1
  encode inUserinfo name ++ if password.isEmpty then [] else ':' :: encode inUserinfo password

/-! ## Hosts -/

/-- Characters that the host of an unknown scheme may not hold. -/
def isForbiddenInHost (c : Char) : Bool :=
  ['\x00', '\t', '\n', '\r', ' ', '#', '/', ':', '<', '>', '?', '@', '[', '\\', ']', '^',
    '|'].contains c

/-- An address between brackets. -/
def bracketedHost (s : List Char) : Except Fault Host :=
  match s.getLast?, Ipv6.parse? (s.drop 1).dropLast with
  | some ']', some pieces => .ok (.ipv6 pieces)
  | _, _ => .error .invalidIpv6

/-- The host of a known scheme: an address or a domain name. -/
def domainHost (s : List Char) : Except Fault Host :=
  match (decode? s).bind Domain.toAscii? with
  | none => .error .invalidDomain
  | some [] => .error .emptyHost
  | some name =>
    if Ipv4.endsInNumber name then
      match Ipv4.parse? name with
      | some address => .ok (.ipv4 address)
      | none => .error .invalidIpv4
    else .ok (.name name)

/-- The host of an unknown scheme, taken as it is. -/
def plainHost (s : List Char) : Except Fault Host :=
  if s.any isForbiddenInHost then .error .invalidHostCharacter
  else .ok (.name (encode inControls s))

/-- The host that a text spells. -/
def hostOf (kind : SchemeKind) (s : List Char) : Except Fault Host :=
  if s.head? = some '[' then bracketedHost s
  else if kind = .other then plainHost s
  else domainHost s

/-- The texts before and behind the first colon that is not between brackets. -/
def splitHost (bracketed : Bool) : List Char → List Char × List Char
  | [] => ([], [])
  | c :: rest =>
    if c = ':' && !bracketed then ([], c :: rest)
    else
      let inside := if c = '[' then true else if c = ']' then false else bracketed
      let r := splitHost inside rest
      (c :: r.1, r.2)

/-! ## Ports -/

/-- The port that a text of digits spells; a text without digits spells none. -/
def portOf (scheme : List Char) (s : List Char) : Except Fault (Option Nat) :=
  match s.mapM fun c => if c.isDigit then some (c.toNat - '0'.toNat) else none with
  | none => .error .invalidPort
  | some digits =>
    let n := digits.foldl (fun n d => n * 10 + d) 0
    if 65535 < n then .error .invalidPort
    else if digits.isEmpty || defaultPort? scheme = some n then .ok none
    else .ok (some n)

/-! ## Authorities -/

/-- The host and port that a text spells, with the user information given, and what is left of the
text: a port ends at a backslash whether or not that is a slash. -/
def hostAndPort (kind : SchemeKind) (scheme userinfo s : List Char) :
    Except Fault (Authority × List Char) := do
  let (hostText, behind) := splitHost false s
  if kind = .special && hostText.isEmpty then throw .emptyHost
  let host ← hostOf kind hostText
  if host = .name [] && (!behind.isEmpty || !userinfo.isEmpty) then throw .emptyHost
  let port ← portOf scheme ((behind.drop 1).takeWhile (· ≠ '\\'))
  return (⟨userinfo, host, port⟩, (behind.drop 1).dropWhile (· ≠ '\\'))

/-- The authority that a text spells, and what is left of the text; `last` says that nothing follows
the text. An at sign with nothing behind it needs a user or the end of the URL in front of it. -/
def authorityOf (kind : SchemeKind) (last : Bool) (scheme s : List Char) :
    Except Fault (Authority × List Char) :=
  match splitLast '@' s with
  | none => hostAndPort kind scheme [] s
  | some (user, rest) =>
    if user.isEmpty && rest.isEmpty && !last then .error .emptyHost
    else hostAndPort kind scheme (userinfoOf user) rest

/-- The authority of a file: a host and nothing else. -/
def fileAuthorityOf (s : List Char) : Except Fault Authority :=
  if s.isEmpty then .ok ⟨[], .name [], none⟩
  else
    (hostOf .file s).map fun host =>
      ⟨[], if host = .name "localhost".toList then .name [] else host, none⟩

/-! ## Paths -/

/-- The pieces of a text between slashes. -/
def pathPieces (kind : SchemeKind) (s : List Char) : List (List Char) :=
  Text.split '/' (s.map fun c => if isSlash kind c then '/' else c)

/-- A piece that stands for the directory it is in. -/
def isSingleDot (s : List Char) : Bool :=
  s == ['.'] || s.map Char.toLower == "%2e".toList

/-- A piece that stands for the directory above. -/
def isDoubleDot (s : List Char) : Bool :=
  ["..", ".%2e", "%2e.", "%2e%2e"].any fun d => d.toList == s.map Char.toLower

/-- A piece that names a drive: a letter, and a colon or a bar. -/
def isDrive : List Char → Bool
  | [c, mark] => c.isAlpha && (mark == ':' || mark == '|')
  | _ => false

/-- The directory above the one that some pieces lead to, the last one first. There is none above a
drive, whose name may also end at a backslash. -/
def above : List (List Char) → List (List Char)
  | [] => []
  | s :: rest => if isDrive (s.takeWhile (· ≠ '\\')) then s :: rest else rest

/-- A piece as it is kept behind others: the drive that the path of a file begins with is written
with a colon. -/
def keptForm (kind : SchemeKind) (kept : List (List Char)) (s : List Char) : List Char :=
  if kind = .file && kept.isEmpty && isDrive s then s.take 1 ++ [':'] else s

/-- The pieces with the dots resolved; the pieces kept so far come last one first. -/
def resolved (kind : SchemeKind) : List (List Char) → List (List Char) → List (List Char)
  | kept, [] => kept.reverse
  | kept, s :: rest =>
    if isDoubleDot s then
      if rest.isEmpty then ([] :: above kept).reverse else resolved kind (above kept) rest
    else if isSingleDot s then
      if rest.isEmpty then ([] :: kept).reverse else resolved kind kept rest
    else resolved kind (keptForm kind kept s :: kept) rest

/-- The pieces of a path behind its first slash, in writing. -/
def piecesOf (kind : SchemeKind) (s : List Char) : List (List Char) :=
  resolved kind [] ((pathPieces kind s).map (encode inPath))

/-- A path that begins with a slash, in writing. -/
def pathOf (kind : SchemeKind) (s : List Char) : List Char :=
  '/' :: Text.join '/' (piecesOf kind s)

/-- A text without the slash that it may begin with. -/
def dropSlash (kind : SchemeKind) (s : List Char) : List Char :=
  if s.head?.any (isSlash kind) then s.drop 1 else s

/-- The path behind an authority: it begins with a slash if the scheme is known or the path is not
empty. -/
def hostPath (kind : SchemeKind) (s : List Char) : List Char :=
  if s.isEmpty && kind = .other then [] else pathOf kind (dropSlash kind s)

/-- The path of a file, in which no slash follows the first one. -/
def filePath (s : List Char) : List Char :=
  '/' :: Text.join '/' ((piecesOf .file (dropSlash .file s)).dropWhile List.isEmpty)

/-- The path of a file begins with a drive. -/
def onDrive (s : List Char) : Bool := (piecesOf .file (dropSlash .file s)).head?.any isDrive

/-! ## Whole URLs -/

/-- The path, query and fragment that a text spells. -/
def splitTail (s : List Char) : List Char × Option (List Char) × Option (List Char) :=
  let fragment :=
    match s.dropWhile (· ≠ '#') with
    | _ :: f => some f
    | [] => none
  let front := s.takeWhile (· ≠ '#')
  let query :=
    match front.dropWhile (· ≠ '?') with
    | _ :: q => some q
    | [] => none
  (front.takeWhile (· ≠ '?'), query, fragment)

/-- The URL with the scheme and authority given and the rest of its parts spelled by a text. -/
def withTail (kind : SchemeKind) (scheme : List Char) (authority : Option Authority)
    (path : List Char → List Char) (s : List Char) : Url :=
  let (p, query, fragment) := splitTail s
  { scheme, authority
    path := path p
    query := query.map (encode (if kind = .other then inQuery else inSpecialQuery))
    fragment := fragment.map (encode inFragment) }

/-- The URL with the scheme given whose authority and other parts a text spells. -/
def withAuthority (kind : SchemeKind) (scheme s : List Char) : Except Fault Url := do
  let front := s.takeWhile fun c => !endsAuthority kind c
  let behind := s.drop front.length
  let (authority, rest) ← authorityOf kind behind.isEmpty scheme front
  return withTail kind scheme (some authority) (hostPath kind) (rest ++ behind)

/-- The URL with the scheme given and no authority. -/
def withoutAuthority (scheme s : List Char) : Url :=
  withTail .other scheme none
    (fun p => if p.head? = some '/' then pathOf .other (p.drop 1) else encode inControls p) s

/-- The URL of a file with the authority given. A file on a drive has no host. -/
def fileUrl (authority : Authority) (s : List Char) : Url :=
  let host := if onDrive (splitTail s).1 then .name [] else authority.host
  withTail .file "file".toList (some ⟨authority.userinfo, host, authority.port⟩) filePath s

/-- The URL of a file whose parts a text spells. A drive is no host. -/
def fileUrlOf (s : List Char) : Except Fault Url :=
  match s with
  | a :: b :: rest =>
    if isSlash .file a && isSlash .file b then
      let front := rest.takeWhile fun c => !endsAuthority .file c
      if isDrive front then .ok (fileUrl ⟨[], .name [], none⟩ rest)
      else (fileAuthorityOf front).map fun authority => fileUrl authority (rest.drop front.length)
    else .ok (fileUrl ⟨[], .name [], none⟩ s)
  | s => .ok (fileUrl ⟨[], .name [], none⟩ s)

/-- The URL that a text spells. -/
def parse (text : List Char) : Except Fault Url :=
  match splitScheme (cleaned text) with
  | none => .error .noScheme
  | some (scheme, rest) =>
    match kindOf scheme with
    | .special => withAuthority .special scheme (rest.dropWhile (isSlash .special))
    | .file => fileUrlOf rest
    | .other =>
      if "//".toList.isPrefixOf rest then withAuthority .other scheme (rest.drop 2)
      else .ok (withoutAuthority scheme rest)

end PluginGateway.Url
