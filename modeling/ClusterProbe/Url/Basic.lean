import ClusterProbe.Url.Form
import ClusterProbe.Url.Host

/-!
# URLs

The parts of an absolute URL, in their written form, and the URL put together from them.
-/

namespace ClusterProbe

/-- An absolute URL. -/
structure Url where
  scheme : List Char
  /-- Whether the URL has the part behind two slashes. -/
  hasAuthority : Bool
  username : List Char
  password : Option (List Char)
  host : Option (List Char)
  port : Option Nat
  path : List Char
  query : Option (List Char)
  fragment : Option (List Char)

namespace Url

/-- User name and password in front of a host. -/
def userinfo (u : Url) : List Char :=
  match u.password with
  | some p => u.username ++ ':' :: p ++ ['@']
  | none => if u.username.isEmpty then [] else u.username ++ ['@']

/-- The part behind two slashes, up to the path. A path that would be taken for it is kept apart by
a dot. -/
def authorityText (u : Url) : List Char :=
  if u.hasAuthority then
    let port := match u.port with
      | some p => ':' :: Nat.toDigits 10 p
      | none => []
    '/' :: '/' :: u.userinfo ++ u.host.getD [] ++ port
  else match u.path with
    | '/' :: '/' :: _ => ['/', '.']
    | _ => []

/-- The written form of a URL. -/
def text (u : Url) : String :=
  let part (mark : Char) : Option (List Char) → List Char
    | some cs => mark :: cs
    | none => []
  String.ofList <|
    u.scheme ++ ':' :: u.authorityText ++ u.path ++ part '?' u.query ++ part '#' u.fragment

/-- User name and password, decoded; none if the user name is no text, or if it is empty and there is
no password that is a text. -/
def credentials? (u : Url) : Option (String × Option String) := do
  let name ← Text.ofUtf8? (decode u.username)
  let password := u.password.bind fun p ↦ Text.ofUtf8? (decode p)
  if name.isEmpty && password.isNone then none else some (name, password)

/-- The URL without user name and password, where these can be read. -/
def withoutUserinfo (u : Url) : Url :=
  if u.credentials?.isSome then { u with username := [], password := none } else u

/-- The URL with parameters behind those it has. -/
def withParameters (u : Url) (pairs : List (String × String)) : Url :=
  { u with query := appendPairs u.query pairs }

end Url

end ClusterProbe
