import TypeAtlas.Url.Basic

/-!
# Reading URLs

`Url.parse` brings a text into the normalised form of an absolute URL. Blanks around the text and
tabs and ends of lines anywhere in it do not count, but for one: a drive letter that begins the path
of a file ends there. The schemes of the web have an authority and take a backslash for a slash;
`file` has rules of its own for hosts and for drive letters.
-/

set_option autoImplicit false

namespace TypeAtlas.Url

/-! ## Schemes -/

/-- The schemes of the web, each with its usual port, and `file`. -/
def specialSchemes : List (String × Option Nat) :=
  [("http", some 80), ("https", some 443), ("ws", some 80), ("wss", some 443), ("ftp", some 21),
    ("file", none)]

/-- Whether a scheme is one of the web, or `file`. -/
def isSpecial (scheme : String) : Bool := (specialSchemes.lookup scheme).isSome

/-- The port that a scheme uses unless another one is given. -/
def usualPort? (scheme : String) : Option Nat := (specialSchemes.lookup scheme).bind id

/-- A character of a scheme. -/
def isSchemeChar (c : Char) : Bool := c.isAlphanum || c = '+' || c = '-' || c = '.'

/-- The scheme of a text in lower case, and the text after its colon. -/
def splitScheme? (chars : List Char) : Option (String × List Char) :=
  let name := chars.takeWhile isSchemeChar
  match name, chars.dropWhile isSchemeChar with
  | first :: _, ':' :: rest =>
    if first.isAlpha then some (String.ofList (name.map Char.toLower), rest) else none
  | _, _ => none

/-! ## Paths -/

/-- The character that begins a query, or the one that begins a fragment. -/
def endsPath (c : Char) : Bool := c = '?' || c = '#'

/-- A character that separates segments. -/
def isSlash (special : Bool) (c : Char) : Bool := c = '/' || (special && c = '\\')

/-- Splits a path at its slashes. -/
def splitSegments (special : Bool) : List Char → List (List Char)
  | [] => [[]]
  | c :: rest =>
    if isSlash special c then [] :: splitSegments special rest
    else
      match splitSegments special rest with
      | first :: others => (c :: first) :: others
      | [] => [[c]]

/-- Whether a segment is a letter and a colon or a bar. -/
def isDriveLetter : List Char → Bool
  | [letter, mark] => letter.isAlpha && (mark = ':' || mark = '|')
  | _ => false

/-- Reads a dot, which may be percent-encoded, off the front of a segment. -/
def dropDot? : List Char → Option (List Char)
  | '.' :: rest => some rest
  | '%' :: '2' :: 'e' :: rest => some rest
  | '%' :: '2' :: 'E' :: rest => some rest
  | _ => none

/-- Whether a segment stands for the directory that it is in. -/
def isSingleDot (segment : List Char) : Bool := dropDot? segment == some []

/-- Whether a segment stands for the directory above. -/
def isDoubleDot (segment : List Char) : Bool := (dropDot? segment).bind dropDot? == some []

/-- Leaves the last directory of a path, unless it is a drive letter. -/
def goUp (path : List String) : List String :=
  match path.getLast? with
  | some name => if isDriveLetter name.toList then path else path.dropLast
  | none => path

/-- The text of a segment in a path. -/
def segmentText (segment : List Char) : String :=
  String.ofList (percentEncode inPathSet segment)

/-- Whether a character counts within a URL. -/
def isSignificant (c : Char) : Bool := c ≠ '\t' && c ≠ '\n' && c ≠ '\r'

/-- Splits a segment after a letter and a colon, if what comes next does not count and something
that does follows. -/
def splitDrive? (segment : List Char) : Option (Char × List Char) :=
  match segment.dropWhile (!isSignificant ·) with
  | [] => none
  | letter :: rest =>
    match rest.dropWhile (!isSignificant ·) with
    | ':' :: mark :: rest =>
      let name := rest.filter isSignificant
      if letter.isAlpha && !isSignificant mark && !name.isEmpty then some (letter, name) else none
    | _ => none

/-- A path in the making. -/
structure Walk where
  names : List String := []
  /-- Whether a segment by itself named a drive. -/
  onDrive : Bool := false

namespace Walk

/-- Adds a name to the path of a file. A drive letter that begins the path is written with a
colon. -/
def enterFile (w : Walk) (segment : List Char) : Walk :=
  let name := segment.filter isSignificant
  if w.names.isEmpty then
    match splitDrive? segment, name with
    | some (letter, name), _ =>
      { w with names := [String.ofList [letter, ':'], segmentText name] }
    | none, [letter, _] =>
      if isDriveLetter name then ⟨[String.ofList [letter, ':']], true⟩
      else { w with names := [segmentText name] }
    | none, _ => { w with names := [segmentText name] }
  else { w with names := w.names ++ [segmentText name] }

/-- Adds a name to a path. -/
def enter (file : Bool) (w : Walk) (segment : List Char) : Walk :=
  if file then w.enterFile segment else { w with names := w.names ++ [segmentText segment] }

/-- Follows segments. Where dots end the path, it ends in a slash. -/
def follow (file : Bool) (w : Walk) : List (List Char) → Walk
  | [] => w
  | segment :: rest =>
    let closing := if rest.isEmpty then [""] else []
    let name := segment.filter isSignificant
    let whole := !file || !w.names.isEmpty || (splitDrive? segment).isNone
    if whole && isDoubleDot name then
      follow file { w with names := goUp w.names ++ closing } rest
    else if whole && isSingleDot name then follow file { w with names := w.names ++ closing } rest
    else follow file (w.enter file segment) rest

end Walk

/-- The segments of a path, after its first slash. -/
def pathSegments (special : Bool) (chars : List Char) : List String :=
  (Walk.follow false {} (splitSegments special chars)).names

/-- The path of a file begins with one slash only. -/
def dropEmptyFront (path : List String) : List String :=
  match path.dropWhile String.isEmpty with
  | [] => [""]
  | rest => rest

/-! ## Authorities -/

/-- A character that ends an authority. -/
def endsAuthority (special : Bool) (c : Char) : Bool := isSlash special c || endsPath c

/-- The characters up to the first colon that is not between brackets, and the rest. -/
def splitHost (bracketed : Bool) : List Char → List Char × List Char
  | [] => ([], [])
  | c :: rest =>
    if c = ':' && !bracketed then ([], c :: rest)
    else
      let (host, after) := splitHost (if c = '[' then true else c != ']' && bracketed) rest
      (c :: host, after)

/-- Reads a user and a password. An empty password counts as none. -/
def credentials (chars : List Char) : String × Option String :=
  let user := String.ofList (percentEncode inUserSet (chars.takeWhile (· ≠ ':')))
  match (chars.dropWhile (· ≠ ':')).drop 1 with
  | [] => (user, none)
  | password => (user, some (String.ofList (percentEncode inUserSet password)))

/-- Reads what follows a host: nothing, or a colon and a port. Gives the characters that belong to
the path as well. -/
def port? (scheme : String) : List Char → Except ParseError (Option Nat × List Char)
  | ':' :: rest =>
    let digits := rest.takeWhile Char.isDigit
    let after := rest.dropWhile Char.isDigit
    match digitsValue? 10 digits with
    | none => .error .badPort
    | some n =>
      if 65535 < n then .error .badPort
      else if after.isEmpty ∨ after.head? = some '\\' then
        .ok (if digits.isEmpty ∨ usualPort? scheme = some n then none else some n, after)
      else .error .badPort
  | rest => .ok (none, rest)

/-- Reads the host of an authority; only outside the web may it be empty, and only alone. -/
def authorityHost (special : Bool) (anonymous : Bool) (host after : List Char) :
    Except ParseError (Option Host) :=
  if host.isEmpty then
    if special || after.head? = some ':' || !anonymous then .error .emptyHost else .ok none
  else (Host.parse special host).map some

/-- Reads an authority, and gives the characters of the path. -/
def authority? (scheme : String) (chars : List Char) :
    Except ParseError (Authority × List Char) := do
  let special := isSpecial scheme
  let region := chars.takeWhile fun c => !endsAuthority special c
  let beyond := chars.dropWhile fun c => !endsAuthority special c
  let (front, region) := (Text.splitLast '@' region).getD ([], region)
  let (host, after) := splitHost false region
  let (user, password) := credentials front
  let anonymous := user.isEmpty && password.isNone
  if region.isEmpty ∧ !beyond.isEmpty ∧ chars.head? = some '@' then throw .emptyHost
  let host ← authorityHost special anonymous host after
  let (port, rest) ← port? scheme after
  return ({ user, password, host, port }, rest ++ beyond)

/-! ## Whole URLs -/

/-- The path that comes after an authority. Only outside the web may it be empty. -/
def pathAfterAuthority (special : Bool) : List Char → List String
  | [] => if special then [""] else []
  | c :: rest => pathSegments special (if isSlash special c then rest else c :: rest)

/-- The authority and the path of a URL with a scheme of the web. -/
def parseWeb (scheme : String) (chars : List Char) :
    Except ParseError (Option Authority × Path) := do
  let (authority, rest) ← authority? scheme (chars.dropWhile (isSlash true))
  return (some authority, .segments (pathAfterAuthority true (rest.takeWhile (!endsPath ·))))

/-- The authority and the path of a URL with a scheme that has no rules of its own. -/
def parseOther (scheme : String) (chars : List Char) :
    Except ParseError (Option Authority × Path) :=
  match chars with
  | '/' :: '/' :: rest => do
    let (authority, rest) ← authority? scheme rest
    return (some authority, .segments (pathAfterAuthority false (rest.takeWhile (!endsPath ·))))
  | '/' :: rest => .ok (none, .segments (pathSegments false (rest.takeWhile (!endsPath ·))))
  | _ =>
    .ok (none, .rootless (String.ofList (percentEncode isControl (chars.takeWhile (!endsPath ·)))))

/-- The path of a file, after its first slash, and its host, which a segment that names a drive
drops. -/
def filePath (host : Option Host) (chars : List Char) : Option Authority × Path :=
  let walk := Walk.follow true {} (splitSegments true (chars.takeWhile (!endsPath ·)))
  (some { host := if walk.onDrive then none else host }, .segments (dropEmptyFront walk.names))

/-- The host of a file. This machine is the same as none. -/
def fileHost? (host : List Char) : Except ParseError (Option Host) := do
  if host.isEmpty then return none
  let host ← Host.parse true host
  return if host = .domain "localhost" then none else some host

/-- What comes after the slash that begins a text. -/
def afterSlash? (chars : List Char) : Option (List Char) :=
  match chars.dropWhile (!isSignificant ·) with
  | c :: rest => if isSlash true c then some rest else none
  | [] => none

/-- The path of a file after its host. Where there is no host, the slash that begins the path counts
as the end of an empty segment. -/
def fileAfterHost (host : Option Host) (rest : List Char) : Option Authority × Path :=
  match host with
  | some host => filePath (some host) ((afterSlash? rest).getD rest)
  | none => filePath none rest

/-- The authority and the path of a URL that names a file. -/
def parseFile (chars : List Char) : Except ParseError (Option Authority × Path) :=
  match afterSlash? chars with
  | none => .ok (filePath none chars)
  | some afterOne =>
    match afterSlash? afterOne with
    | none => .ok (filePath none afterOne)
    | some afterTwo =>
      let host := (afterTwo.takeWhile fun c => !endsAuthority true c).filter isSignificant
      if isDriveLetter host then .ok (filePath none afterTwo)
      else
        (fileHost? host).map fun host =>
          fileAfterHost host (afterTwo.dropWhile fun c => !endsAuthority true c)

/-- Drops blanks and control characters at both ends. -/
def trim (chars : List Char) : List Char :=
  ((chars.dropWhile (· ≤ ' ')).reverse.dropWhile (· ≤ ' ')).reverse

/-- What comes after the first colon of a text. -/
def afterColon (chars : List Char) : List Char := (chars.dropWhile (· ≠ ':')).drop 1

/-- The query of a URL, out of the characters from the end of the path on. -/
def queryOf (special : Bool) : List Char → Option String
  | '?' :: rest =>
    some (String.ofList (percentEncode (inQuerySet special) (rest.takeWhile (· ≠ '#'))))
  | _ => none

/-- The fragment of a URL, out of the characters from the end of the path on. -/
def fragmentOf (chars : List Char) : Option String :=
  match chars.dropWhile (· ≠ '#') with
  | _ :: rest => some (String.ofList (percentEncode inFragmentSet rest))
  | [] => none

/-- Reads an absolute URL. -/
def parse (text : String) : Except ParseError Url :=
  let trimmed := trim text.toList
  match splitScheme? (trimmed.filter isSignificant) with
  | none => .error .noScheme
  | some (scheme, chars) => do
    let (authority, path) ←
      if scheme = "file" then parseFile (afterColon trimmed)
      else if isSpecial scheme then parseWeb scheme chars
      else parseOther scheme chars
    let rest := chars.dropWhile (!endsPath ·)
    return { scheme, authority, path, query := queryOf (isSpecial scheme) rest,
             fragment := fragmentOf rest }

end TypeAtlas.Url
