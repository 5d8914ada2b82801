import TypeAtlas.Url.Host

/-!
# URLs

A URL in normalised form, and its text. Its path is either a list of segments, each after a slash,
or a text of its own if neither an authority nor a slash comes before it.
-/

set_option autoImplicit false

namespace TypeAtlas

namespace Url

/-- Who is addressed: an optional user, the host, and the port where it is not the usual one. -/
structure Authority where
  user : String := ""
  password : Option String := none
  host : Option Host := none
  port : Option Nat := none
  deriving DecidableEq, Repr

/-- A path. -/
inductive Path where
  | rootless (text : String)
  | segments (names : List String)
  deriving DecidableEq, Repr

/-- The text of a path. -/
def Path.text : Path → String
  | .rootless text => text
  | .segments names => String.join (names.map ("/" ++ ·))

/-- The text of an authority. -/
def Authority.text (a : Authority) : String :=
  let password := (a.password.map (":" ++ ·)).getD ""
  let credentials := a.user ++ password
  (if credentials.isEmpty then "" else credentials ++ "@")
    ++ (a.host.map Host.text).getD ""
    ++ (a.port.map fun port => ":" ++ toString port).getD ""

end Url

/-- A URL. -/
structure Url where
  scheme : String
  authority : Option Url.Authority
  path : Url.Path
  query : Option String
  fragment : Option String
  deriving DecidableEq, Repr

namespace Url

/-- The host of a URL, if it names one. -/
def host? (url : Url) : Option Host := url.authority.bind Authority.host

/-- What stands between the scheme and the path. A path that begins with an empty segment is set off
by a dot where it would look like an authority. -/
def front (url : Url) : String :=
  match url.authority, url.path with
  | some authority, _ => "//" ++ authority.text
  | none, .segments ("" :: _ :: _) => "/."
  | none, _ => ""

/-- The text of a URL. -/
def text (url : Url) : String :=
  url.scheme ++ ":" ++ url.front ++ url.path.text
    ++ (url.query.map ("?" ++ ·)).getD ""
    ++ (url.fragment.map ("#" ++ ·)).getD ""

end Url

end TypeAtlas
