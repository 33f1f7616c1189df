import TableBooking.Url.Host

/-!
URLs, read as browsers read them: lenient about blanks, slashes and characters that need encoding,
strict about hosts and ports. Dot segments of a path are resolved, and a default port is dropped.
-/
namespace TableBooking

namespace Url

inductive SchemeKind where
  /-- Slashes of either kind, then an authority that must have a host. -/
  | network
  | file
  | other
  deriving DecidableEq

def schemeKind (scheme : String) : SchemeKind :=
  if ["http", "https", "ws", "wss", "ftp"].contains scheme then .network
  else if scheme = "file" then .file
  else .other

def defaultPort? (scheme : String) : Option Nat :=
  if scheme = "http" ∨ scheme = "ws" then some 80
  else if scheme = "https" ∨ scheme = "wss" then some 443
  else if scheme = "ftp" then some 21
  else none

structure Credentials where
  user : List Char := []
  password : List Char := []
  deriving DecidableEq

def Credentials.isEmpty (c : Credentials) : Bool :=
  c.user.isEmpty && c.password.isEmpty

structure Authority where
  credentials : Credentials := {}
  host : Host
  port : Option Nat := none
  deriving DecidableEq

end Url

structure Url where
  scheme : String
  authority : Option Url.Authority
  path : List Char
  query : Option (List Char)
  fragment : Option (List Char)
  deriving DecidableEq

namespace Url

/-- The text without the blanks around it and the line breaks inside it. -/
def cleaned (s : String) : List Char :=
  let trim (t : List Char) := t.dropWhile (·.toNat ≤ 0x20)
  (trim (trim s.toList).reverse).reverse.filter fun c =>
    !(['\t', '\n', '\r'].contains c)

def isSchemeChar (c : Char) : Bool :=
  c.isAlphanum || c = '+' || c = '-' || c = '.'

def splitScheme? (s : List Char) : Option (String × List Char) :=
  match s with
  | [] => none
  | first :: _ =>
    if first.isAlpha then
      let name := s.takeWhile isSchemeChar
      match s.drop name.length with
      | ':' :: rest => some (String.ofList (name.map Char.toLower), rest)
      | _ => none
    else none

def endsAuthority (special : Bool) (c : Char) : Bool :=
  c = '/' || c = '?' || c = '#' || (special && c = '\\')

def splitLastAt? (s : List Char) : Option (List Char × List Char) :=
  let reversed := s.reverse
  match reversed.dropWhile (· != '@') with
  | [] => none
  | _ :: before => some (before.reverse, (reversed.takeWhile (· != '@')).reverse)

def readCredentials (s : List Char) : Credentials where
  user := percentEncode inCredentialSet (s.takeWhile (· != ':'))
  password := percentEncode inCredentialSet (s.dropWhile (· != ':')).tail

/-- How many characters of an authority belong to its host: up to a colon outside brackets. -/
def hostLength : Bool → List Char → Nat
  | _, [] => 0
  | bracketed, c :: rest =>
    if c = ':' && !bracketed then 0
    else hostLength (c = '[' || (bracketed && c != ']')) rest + 1

/-- The port behind its colon, none where no digit stands there, and what follows it. -/
def readPort (s : List Char) : Except UrlError (Option Nat × List Char) :=
  let (ds, rest) := Decimal.takeDigits s
  let n := Decimal.ofDigits ds
  if 65535 < n ∨ (rest ≠ [] ∧ rest.head? ≠ some '\\') then .error .invalidPort
  else .ok (if ds.isEmpty then none else some n, rest)

def readHostAndPort (scheme : String) (credentials : Credentials) (s : List Char) :
    Except UrlError (Authority × List Char) := do
  let special := schemeKind scheme ≠ .other
  let name := s.take (hostLength false s)
  let rest := s.drop name.length
  if name.isEmpty ∧ (special ∨ ¬ credentials.isEmpty ∨ rest ≠ []) then throw .emptyHost
  let host ← if special then Host.ofSpecial name else Host.ofOpaque name
  let (port, rest) ←
    match rest with
    | ':' :: digits => readPort digits
    | _ => pure (none, rest)
  pure ({ credentials, host, port := if port = defaultPort? scheme then none else port }, rest)

/-- An authority; `more` says whether something follows it. An `@` with nothing on either side is a
missing host, one with nothing before it alone is passed over. -/
def readAuthority (scheme : String) (more : Bool) (s : List Char) :
    Except UrlError (Authority × List Char) :=
  match splitLastAt? s with
  | none => readHostAndPort scheme {} s
  | some ([], []) =>
    if more then .error .emptyHost else readHostAndPort scheme {} []
  | some ([], rest) => readHostAndPort scheme {} rest
  | some (credentials, rest) => readHostAndPort scheme (readCredentials credentials) rest

/-- The segments of a path, which are parted by slashes, in special schemes also by backslashes. -/
def segments (special : Bool) (s : List Char) : List (List Char) :=
  Text.pieces '/' (if special then s.map fun c => if c = '\\' then '/' else c else s)

def dotsShown : List Char → List Char
  | '%' :: '2' :: 'e' :: rest => '.' :: dotsShown rest
  | '%' :: '2' :: 'E' :: rest => '.' :: dotsShown rest
  | c :: rest => c :: dotsShown rest
  | [] => []

/-- Whether a segment names a drive, such as `C:`; such a segment is never climbed out of. -/
def isDrive : List Char → Bool
  | [c, d] => c.isAlpha && (d = ':' || d = '|')
  | _ => false

def climb (done : List (List Char)) : List (List Char) :=
  match done.getLast? with
  | some segment => if isDrive segment then done else done.dropLast
  | none => done

/-- Follows segments from those that are `done` on; a path that ends in a dot segment ends in a
slash. -/
def resolve (done : List (List Char)) : List (List Char) → List (List Char)
  | [] => done
  | segment :: rest =>
    let next :=
      if dotsShown segment = ['.', '.'] then climb done
      else if dotsShown segment = ['.'] then done
      else done ++ [segment]
    if rest.isEmpty ∧ (dotsShown segment = ['.', '.'] ∨ dotsShown segment = ['.']) then next ++ [[]]
    else resolve next rest

def readPath (special : Bool) (s : List Char) : List Char :=
  '/' :: List.intercalate ['/'] (resolve [] ((segments special s).map (percentEncode inPathSet)))

/-- The path of a URL with an authority. Special schemes have a path in any case. -/
def readPathBehindAuthority (special : Bool) (s : List Char) : List Char :=
  match s with
  | [] => if special then ['/'] else []
  | c :: rest => readPath special (if c = '/' || (special && c = '\\') then rest else s)

/-- Parts a text at the first question mark and the first number sign behind it. -/
def splitTail (s : List Char) : List Char × Option (List Char) × Option (List Char) :=
  let body := s.takeWhile (· != '#')
  let fragment :=
    match s.drop body.length with
    | [] => none
    | _ :: fragment => some fragment
  let path := body.takeWhile (· != '?')
  match body.drop path.length with
  | [] => (path, none, fragment)
  | _ :: query => (path, some query, fragment)

def readHierarchical (scheme : String) (s : List Char) : Except UrlError Url := do
  let special := schemeKind scheme ≠ .other
  let name := s.takeWhile (!endsAuthority special ·)
  let rest := s.drop name.length
  let (authority, unread) ← readAuthority scheme (!rest.isEmpty) name
  let (path, query, fragment) := splitTail (unread ++ rest)
  pure {
    scheme
    authority := some authority
    path := readPathBehindAuthority special path
    query := query.map (percentEncode (inQuerySet special))
    fragment := fragment.map (percentEncode inFragmentSet) }

/-- The host of a file, which may be missing; `localhost` is no host, and a drive belongs to the
path. -/
def readFile (s : List Char) : Except UrlError Url := do
  let isSlash (c : Char) : Bool := c = '/' || c = '\\'
  let (host, rest) ←
    match s with
    | a :: b :: rest =>
      if isSlash a && isSlash b then
        let name := rest.takeWhile (!endsAuthority true ·)
        if name.isEmpty || isDrive name then pure (Host.domain [], rest)
        else do
          let host ← Host.ofSpecial name
          pure (if host = .domain "localhost".toList then .domain [] else host,
            rest.drop name.length)
      else pure (Host.domain [], s)
    | _ => pure (Host.domain [], s)
  let (path, query, fragment) := splitTail rest
  pure {
    scheme := "file"
    authority := some { host }
    path := readPathBehindAuthority true path
    query := query.map (percentEncode (inQuerySet true))
    fragment := fragment.map (percentEncode inFragmentSet) }

/-- A URL without an authority. Its path is taken as it stands unless it begins with a slash. -/
def readPlain (scheme : String) (s : List Char) : Url :=
  let (path, query, fragment) := splitTail s
  { scheme
    authority := none
    path :=
      match path with
      | '/' :: rest => readPath false rest
      | _ => percentEncode isControl path
    query := query.map (percentEncode (inQuerySet false))
    fragment := fragment.map (percentEncode inFragmentSet) }

def ofText (text : String) : Except UrlError Url :=
  match splitScheme? (cleaned text) with
  | none => .error .noScheme
  | some (scheme, rest) =>
    match schemeKind scheme with
    | .network => readHierarchical scheme (rest.dropWhile fun c => c = '/' || c = '\\')
    | .file => readFile rest
    | .other =>
      match rest with
      | '/' :: '/' :: rest => readHierarchical scheme rest
      | _ => .ok (readPlain scheme rest)

def target (url : Url) : List Char :=
  url.path ++
    match url.query with
    | none => []
    | some query => '?' :: query

def Credentials.text (c : Credentials) : List Char :=
  if c.isEmpty then []
  else c.user ++ (if c.password.isEmpty then [] else ':' :: c.password) ++ ['@']

def Authority.text (a : Authority) : List Char :=
  '/' :: '/' :: a.credentials.text ++ a.host.text ++
    match a.port with
    | none => []
    | some port => ':' :: Decimal.plain port

def text (url : Url) : List Char :=
  url.scheme.toList ++ ':' :: (url.authority.map Authority.text).getD [] ++ url.target ++
    match url.fragment with
    | none => []
    | some fragment => '#' :: fragment

instance : ToString Url := ⟨fun url => String.ofList url.text⟩

end Url

end TableBooking
