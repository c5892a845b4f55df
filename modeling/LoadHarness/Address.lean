import LoadHarness.Value.Show
import LoadHarness.Cli.Numeral
import LoadHarness.Text.Idna

/-!
# Request addresses

Before a request is built, its address is read into parts: scheme, user
information, host, port, path, query and fragment.  Reading follows the
generic syntax, `scheme:` then `//authority` then the path, `?query` and
`#fragment`, each part optional:

* a scheme is a letter followed by letters, digits, `+`, `-` and `.`; a text
  that starts with `:` has an empty scheme;
* the authority is `userinfo@host:port`, the user information running to the
  last `@`, the host either a bracketed literal or a run without `:` and `@`;
* the parts are put in canonical form: the scheme in lower case, the host
  checked and lowered (a host beyond ASCII in its IDNA form), the port read as an integer (and dropped when it is the
  scheme's default), the path freed of `.` and `..` segments when the address
  has a scheme or an authority, and the path, query and fragment
  percent-encoded, each with its own set of characters kept as they are.

An address is refused when it is longer than 65536 characters, holds an ASCII
character that is not printable, has a host that looks like an IP address but
is not one, a host beyond ASCII that is no valid internationalized name, a
port that is no integer, or a path that cannot follow what precedes it.  Each refusal has its message.

An address is absolute when it has both a scheme and a host.  A relative one
is taken relative to the empty base: its target is `/` followed by its path
(with `?` and the query) without leading slashes.
-/

namespace LoadHarness

/-- An address split into its parts, each in canonical form. -/
structure Address where
  scheme : String
  userinfo : String
  host : String
  /-- The port, absent when none is written or it is the scheme's default. -/
  port : Option Int
  path : String
  /-- The query, absent when no `?` is written. -/
  query : Option String
  /-- The fragment, absent when no `#` is written. -/
  fragment : Option String
  deriving Inhabited, Repr

namespace Address

/-- The longest address that is read. -/
def maximumLength : Nat := 65536

/-- Whether an ASCII character is printable: from space to tilde. -/
def isPrintableAscii (c : Char) : Bool := 0x20 ≤ c.toNat && c.toNat ≤ 0x7E

/-- The first ASCII character of a text that is not printable, and its position. -/
def unprintable? (chars : List Char) : Option (Char × Nat) :=
  (chars.zipIdx.find? fun (c, _) => c.toNat < 0x80 && !isPrintableAscii c)

/-- Whether a character may continue a scheme. -/
def isSchemeChar (c : Char) : Bool :=
  (c.toNat < 0x80 && (c.isAlphanum)) || c == '+' || c == '-' || c == '.'

/-- The scheme of an address and what follows its colon: a letter and scheme
characters before a colon, or nothing before a leading colon. -/
def splitScheme (chars : List Char) : Option (List Char) × List Char :=
  match chars with
  | first :: _ =>
      let name := chars.takeWhile isSchemeChar
      let after := chars.drop name.length
      if first.toNat < 0x80 && first.isAlpha && after.head? == some ':' then
        (some name, after.drop 1)
      else if first == ':' then (some [], chars.drop 1)
      else (none, chars)
  | [] => (none, [])

/-- An address's text cut at its delimiters: scheme, authority, path, query
and fragment. -/
structure Pieces where
  scheme : List Char
  authority : List Char
  path : List Char
  query : Option (List Char)
  fragment : Option (List Char)

/-- Cut an address's text at its delimiters. -/
def cut (chars : List Char) : Pieces :=
  let (scheme, rest) := splitScheme chars
  let (authority, rest) :=
    match rest with
    | '/' :: '/' :: more =>
        let authority := more.takeWhile fun c => c != '/' && c != '?' && c != '#'
        (authority, more.drop authority.length)
    | _ => ([], rest)
  let path := rest.takeWhile fun c => c != '?' && c != '#'
  let rest := rest.drop path.length
  let (query, rest) :=
    match rest with
    | '?' :: more =>
        let query := more.takeWhile (· != '#')
        (some query, more.drop query.length)
    | _ => (none, rest)
  let fragment :=
    match rest with
    | '#' :: more => some more
    | _ => none
  ⟨scheme.getD [], authority, path, query, fragment⟩

/-- The characters up to the last occurrence of `mark`, and those after it. -/
def splitAtLast (mark : Char) (chars : List Char) : Option (List Char × List Char) :=
  let tail := (chars.reverse.takeWhile (· != mark)).reverse
  if tail.length < chars.length then some (chars.take (chars.length - tail.length - 1), tail)
  else none

/-- An authority cut into user information, host and port text: the user
information runs to the last `@`; the host is a bracketed literal (to the last
`]`) or a run without `:` and `@`; one `:` may follow, and the rest is the
port. -/
def cutAuthority (authority : List Char) : List Char × List Char × List Char :=
  let (userinfo, rest) :=
    match splitAtLast '@' authority with
    | some (userinfo, rest) => (userinfo, rest)
    | none => ([], authority)
  let bracketed :=
    match rest with
    | '[' :: _ =>
        (splitAtLast ']' rest).map fun (pair : List Char × List Char) => pair.1 ++ [']']
    | _ => none
  let host := bracketed.getD (rest.takeWhile fun c => c != ':' && c != '@')
  let afterHost := rest.drop host.length
  let port :=
    match afterHost with
    | ':' :: more => more
    | more => more
  (userinfo, host, port)

/-- The characters that stay as they are in every part. -/
def isUnreserved (c : Char) : Bool :=
  (c.toNat < 0x80 && c.isAlphanum) || c == '-' || c == '.' || c == '_' || c == '~'

/-- Characters kept in a fragment: printable ASCII but space, `"`, `<`, `>`
and the backquote. -/
def fragmentSafe (c : Char) : Bool :=
  isPrintableAscii c && !" \"<>".contains c && c.toNat != 0x60

/-- Characters kept in a query: printable ASCII but space, `"`, `#`, `<` and `>`. -/
def querySafe (c : Char) : Bool :=
  isPrintableAscii c && !" \"#<>".contains c

/-- Characters kept in a path: those of a query but `?`, the backquote and
braces. -/
def pathSafe (c : Char) : Bool :=
  querySafe c && c != '?' && c.toNat != 0x60 && c.toNat != 0x7B && c.toNat != 0x7D

/-- Characters kept in user information: those of a path but `/`, `:`, `;`,
`=`, `@`, square brackets, the backslash, `^` and `|`. -/
def userinfoSafe (c : Char) : Bool :=
  pathSafe c && !"/:;=@[]^|".contains c && c != '\\'

/-- The two uppercase hexadecimal digits of a byte. -/
def hexByte (byte : UInt8) : String :=
  let digit (n : Nat) : Char := if n < 10 then Char.ofNat (48 + n) else Char.ofNat (55 + n)
  String.ofList [digit (byte.toNat / 16), digit (byte.toNat % 16)]

/-- Text with every character outside `safe` and the unreserved ones written
as `%` and two hexadecimal digits per byte of its UTF-8 encoding. -/
def percentEncoded (safe : Char → Bool) (chars : List Char) : String :=
  String.join (chars.map fun c =>
    if isUnreserved c || safe c then String.singleton c
    else String.join ((String.singleton c).toUTF8.toList.map fun byte => "%" ++ hexByte byte))

/-- Whether a text can be cut into four runs of ASCII digits with one
character of any kind between consecutive runs: the shape of an IPv4 address,
which is then checked. -/
def ipv4Shaped (chars : List Char) : Bool :=
  let rec runs (fuel remaining : Nat) (chars : List Char) : Bool :=
    match fuel with
    | 0 => false
    | fuel + 1 =>
        let digits := chars.takeWhile fun c => '0' ≤ c && c ≤ '9'
        if remaining == 0 then !digits.isEmpty && digits.length == chars.length
        else
          (List.range digits.length).any fun used =>
            match chars.drop (used + 1) with
            | _ :: rest => runs fuel (remaining - 1) rest
            | [] => false
  runs (chars.length + 1) 3 chars

/-- Whether a text is one decimal octet: one to three ASCII digits, no leading
zero, at most 255. -/
def isOctet (chars : List Char) : Bool :=
  !chars.isEmpty && chars.all (fun c => '0' ≤ c && c ≤ '9') && chars.length ≤ 3 &&
    (chars == ['0'] || chars.head? != some '0') &&
    chars.foldl (fun total c => total * 10 + (c.toNat - 48)) 0 ≤ 255

/-- Whether a text is an IPv4 address: four octets separated by dots. -/
def isIpv4 (chars : List Char) : Bool :=
  let octets := chars.splitOn '.'
  octets.length == 4 && octets.all isOctet

/-- Whether a text is one group of an IPv6 address: one to four hexadecimal digits. -/
def isHextet (chars : List Char) : Bool :=
  !chars.isEmpty && chars.length ≤ 4 && chars.all fun c => c.toNat < 0x80 && c.isHexDigit

/-- Whether the groups of an IPv6 address, split at colons, make one: eight
groups, or fewer with one empty group standing for the skipped zeros. -/
def hextetsFit (parts : List (List Char)) : Bool :=
  let count := parts.length
  let inner := (List.range count).filter fun i => 0 < i && i + 1 < count && (parts.getD i []).isEmpty
  match inner with
  | [] =>
      count == 8 && parts.all isHextet
  | [skip] =>
      let leading := if (parts.head?.getD []).isEmpty then 1 else 0
      let trailing := if (parts.getLast?.getD []).isEmpty then 1 else 0
      let high := skip - leading
      let low := count - skip - 1 - trailing
      (leading == 0 || high == 0) && (trailing == 0 || low == 0) && high + low < 8 &&
        ((parts.drop leading).take high).all isHextet &&
        ((parts.drop (count - trailing - low)).take low).all isHextet
  | _ => false

/-- Whether a text is an IPv6 address, possibly with a zone after `%`; the
last group may be written as an IPv4 address. -/
def isIpv6 (chars : List Char) : Bool :=
  let address := chars.takeWhile (· != '%')
  let zone := chars.drop address.length
  let zoneFits :=
    match zone with
    | [] => true
    | _ :: name => !name.isEmpty && !name.contains '%'
  let parts := address.splitOn ':'
  zoneFits && !address.isEmpty && 3 ≤ parts.length &&
    match parts.getLast? with
    | some last =>
        if last.contains '.' then
          isIpv4 last && parts.length ≤ 8 && hextetsFit (parts.dropLast ++ [['0'], ['0']])
        else parts.length ≤ 9 && hextetsFit parts
    | none => false

/-- The canonical host: a host shaped like an IPv4 address must be one, a
bracketed host must hold an IPv6 address (and loses its brackets), and an
ASCII host is lowered and percent-encoded, and any other host must have an
IDNA form, which it takes. -/
def encodeHost (host : List Char) : Except String String :=
  let shown := Quoted.quote (String.ofList host)
  if host.isEmpty then .ok ""
  else if ipv4Shaped host then
    if isIpv4 host then .ok (String.ofList host) else .error ("Invalid IPv4 address: " ++ shown)
  else if host.head? == some '[' && host.getLast? == some ']' then
    let inside := (host.drop 1).dropLast
    if isIpv6 inside then .ok (String.ofList inside) else .error ("Invalid IPv6 address: " ++ shown)
  else if host.all (·.toNat < 0x80) then
    .ok (percentEncoded (fun c => "!$&'()*+,;=\"`%|\\".contains c || c.toNat == 0x7B || c.toNat == 0x7D)
      (host.map Char.toLower))
  else
    match Idna.encode (String.ofList host) with
    | some written => .ok written
    | none => .error ("Invalid IDNA hostname: " ++ shown)

/-- The default port of a scheme. -/
def defaultPort : String → Option Int
  | "ftp" => some 21
  | "http" => some 80
  | "https" => some 443
  | "ws" => some 80
  | "wss" => some 443
  | _ => none

/-- The port written in an address: none when empty or the scheme's default,
refused when it is no integer. -/
def normalizePort (port : List Char) (scheme : String) : Except String (Option Int) :=
  if port.isEmpty then .ok none
  else
    match Cli.Numeral.readWhole (String.ofList port) with
    | some number => .ok (if defaultPort scheme == some number then none else some number)
    | none => .error ("Invalid port: " ++ Quoted.quote (String.ofList port))

/-- Refuse a path that cannot follow what precedes it: after an authority it
must be empty or start with `/`, and without scheme and authority it may not
start with `//` or `:`. -/
def checkPath (path : List Char) (hasScheme hasAuthority : Bool) : Except String Unit :=
  if hasAuthority && !path.isEmpty && path.head? != some '/' then
    .error "For absolute URLs, path must be empty or begin with '/'"
  else if !hasScheme && !hasAuthority && path.take 2 == ['/', '/'] then
    .error "Relative URLs cannot have a path starting with '//'"
  else if !hasScheme && !hasAuthority && path.head? == some ':' then
    .error "Relative URLs cannot have a path starting with ':'"
  else .ok ()

/-- A path without its `.` segments, each `..` segment removing the one before
it (but not a leading empty one). -/
def dropDotSegments (path : List Char) : List Char :=
  let segments := path.splitOn '/'
  if !segments.contains ['.'] && !segments.contains ['.', '.'] then path
  else
    let kept := segments.foldl (fun (kept : List (List Char)) segment =>
      if segment == ['.'] then kept
      else if segment == ['.', '.'] then
        if kept.isEmpty || kept == [[]] then kept else kept.dropLast
      else kept ++ [segment]) []
    (List.intersperse ['/'] kept).flatten

/-- Read an address into its canonical parts, or the message of its refusal. -/
def parse (text : String) : Except String Address := do
  let chars := text.toList
  if chars.length > maximumLength then throw "URL too long"
  if let some (c, position) := unprintable? chars then
    throw ("Invalid non-printable ASCII character in URL, " ++ Quoted.quote (String.singleton c) ++
      " at position " ++ toString position ++ ".")
  let pieces := cut chars
  let (userinfo, host, port) := cutAuthority pieces.authority
  let scheme := String.ofList (pieces.scheme.map Char.toLower)
  let userinfo := percentEncoded userinfoSafe userinfo
  let host ← encodeHost host
  let port ← normalizePort port (String.ofList pieces.scheme)
  let hasScheme := !scheme.isEmpty
  let hasAuthority := !userinfo.isEmpty || !host.isEmpty || port.isSome
  checkPath pieces.path hasScheme hasAuthority
  let path := if hasScheme || hasAuthority then dropDotSegments pieces.path else pieces.path
  pure ⟨scheme, userinfo, host, port, percentEncoded pathSafe path,
    pieces.query.map (percentEncoded querySafe), pieces.fragment.map (percentEncoded fragmentSafe)⟩

/-- Whether an address is absolute: it has a scheme and a host. -/
def isAbsolute (address : Address) : Bool := !address.scheme.isEmpty && !address.host.isEmpty

/-- The path and query as sent: an empty path is `/`. -/
def rawPath (address : Address) : String :=
  (if address.path.isEmpty then "/" else address.path) ++
    match address.query with
    | some query => "?" ++ query
    | none => ""

/-- The address a relative address stands for against the empty base: `/`
then its path and query without leading slashes. -/
def againstEmptyBase (address : Address) : String :=
  "/" ++ String.ofList (address.rawPath.toList.dropWhile (· == '/'))

end Address

end LoadHarness
