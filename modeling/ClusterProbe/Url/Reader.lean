import ClusterProbe.Url.Basic

/-!
# Reading a URL

Reads an absolute URL the way browsers do: blanks around it and line breaks inside it are dropped,
a backslash is a slash in the special schemes, segments of dots are resolved, and what a part cannot
hold is encoded. What has no scheme is refused, and so is a host or a port that makes no sense.
-/

namespace ClusterProbe.Url

/-- The kinds of scheme that are read in different ways. -/
inductive SchemeKind where
  | special | file | other
deriving DecidableEq

/-- The kind of a scheme. -/
def schemeKind (scheme : List Char) : SchemeKind :=
  let s := String.ofList scheme
  if s = "file" then .file
  else if s = "http" || s = "https" || s = "ws" || s = "wss" || s = "ftp" then .special
  else .other

/-- The port that a scheme stands for. -/
def defaultPort? (scheme : List Char) : Option Nat :=
  let s := String.ofList scheme
  if s = "http" || s = "ws" then some 80
  else if s = "https" || s = "wss" then some 443
  else if s = "ftp" then some 21
  else none

/-- A URL without the blanks around it and the line breaks and tabs inside it. -/
def cleaned (cs : List Char) : List Char :=
  let outer (c : Char) : Bool := c.toNat ≤ 0x20
  (((cs.dropWhile outer).reverse.dropWhile outer).reverse).filter fun c ↦
    c ≠ '\t' && c ≠ '\n' && c ≠ '\r'

/-- The scheme of a URL, in small letters, and what follows its colon. -/
def scheme? (cs : List Char) : Option (List Char × List Char) :=
  match cs with
  | c :: _ =>
    if !c.isAlpha then none
    else
      let (scheme, r) := cs.span fun c ↦ c.isAlphanum || c = '+' || c = '-' || c = '.'
      match r with
      | ':' :: r => some (scheme.map Char.toLower, r)
      | _ => none
  | [] => none

/-- Whether a character separates segments of a path. -/
def isSlash (kind : SchemeKind) (c : Char) : Bool :=
  c = '/' || (kind ≠ .other && c = '\\')

/-- Whether a character ends the part behind two slashes. -/
def endsAuthority (kind : SchemeKind) (c : Char) : Bool :=
  isSlash kind c || c = '?' || c = '#'

/-- User name, password and what follows them: all up to the last at sign in front of the path. None
if nothing follows it. -/
def userinfo? (kind : SchemeKind) (cs : List Char) :
    Option (List Char × Option (List Char) × List Char) :=
  let (authority, rest) := cs.span (!endsAuthority kind ·)
  let back := (authority.reverse.takeWhile (· ≠ '@')).reverse
  if back.length = authority.length then some ([], none, cs)
  else
    let front := authority.take (authority.length - back.length - 1)
    if front.isEmpty then
      if back.isEmpty && !rest.isEmpty then none else some ([], none, back ++ rest)
    else
      let (name, after) := front.span (· ≠ ':')
      let password := after.drop 1
      some (encode encodedInUserinfo name,
        if password.isEmpty then none else some (encode encodedInUserinfo password), back ++ rest)

/-- The text of a host and what follows it. A colon between brackets belongs to the host. -/
def spanHost (kind : SchemeKind) (inside : Bool) : List Char → List Char × List Char
  | [] => ([], [])
  | c :: r =>
    if endsAuthority kind c || (c = ':' && !inside) then ([], c :: r)
    else
      let inside := if c = '[' then true else if c = ']' then false else inside
      let (host, rest) := spanHost kind inside r
      (c :: host, rest)

/-- A port behind its colon, and what follows it; the port that the scheme stands for is none. -/
def port? (scheme : List Char) (cs : List Char) : Option (Option Nat × List Char) :=
  let (ds, rest) := cs.span Char.isDigit
  let ends := match rest with
    | c :: _ => c = '/' || c = '\\' || c = '?' || c = '#'
    | [] => true
  let n := ds.foldl (fun acc c ↦ acc * 10 + (c.toNat - 48)) 0
  if !ends || 65535 < n then none
  else if ds.isEmpty || defaultPort? scheme = some n then some (none, rest)
  else some (some n, rest)

/-- A segment of two dots, either of which may be encoded. -/
def isDoubleDot (segment : List Char) : Bool :=
  let s := String.ofList (segment.map Char.toLower)
  s = ".." || s = ".%2e" || s = "%2e." || s = "%2e%2e"

/-- A segment of one dot, which may be encoded. -/
def isSingleDot (segment : List Char) : Bool :=
  let s := String.ofList (segment.map Char.toLower)
  s = "." || s = "%2e"

/-- A letter and a colon or a bar, which name a drive. -/
def isDrive (segment : List Char) : Bool :=
  match segment with
  | [c, d] => c.isAlpha && (d = ':' || d = '|')
  | _ => false

/-- The segments without the last one; a drive stays. -/
def dropSegment (segments : List (List Char)) : List (List Char) :=
  match segments.getLast? with
  | some d => if isDrive d then segments else segments.dropLast
  | none => []

/-- A segment of a file URL that is not made of dots: a drive is written with a colon, and a drive
in front of the path ends there, even if no slash follows it. -/
def fileSegment (first : Bool) (segment : List Char) : List (List Char) :=
  match segment with
  | d :: ':' :: c :: r => if first && d.isAlpha then [[d, ':'], c :: r] else [segment]
  | _ => if isDrive segment then [segment.map fun c ↦ if c = '|' then ':' else c] else [segment]

/-- The segments of a path with one more. Two dots take one away; dots at the end leave the path
with a slash at its end. -/
def addSegment (kind : SchemeKind) (segments : List (List Char)) (segment : List Char)
    (last : Bool) : List (List Char) :=
  let close (s : List (List Char)) : List (List Char) := if last then s ++ [[]] else s
  if isDoubleDot segment then close (dropSegment segments)
  else if isSingleDot segment then close segments
  else if kind = .file then segments ++ fileSegment segments.isEmpty segment
  else segments ++ [segment]

/-- The segments of a path, those before it resolved already. -/
def resolve (kind : SchemeKind) (segments : List (List Char)) : List (List Char) → List (List Char)
  | [] => segments
  | [last] => addSegment kind segments last true
  | s :: rest => resolve kind (addSegment kind segments s false) rest

/-- The segments of a path behind its first slash, as they are written. -/
def writtenSegments (kind : SchemeKind) (cs : List Char) : List (List Char) :=
  Text.pieces '/' (cs.map fun c ↦ if isSlash kind c then '/' else c)

/-- The written form of a path behind its first slash. In a file URL the slashes in front are one.
-/
def pathText (kind : SchemeKind) (cs : List Char) : List Char :=
  let segments := resolve kind [] ((writtenSegments kind cs).map (encode encodedInPath))
  let segments := if kind = .file then dropEmpty segments else segments
  '/' :: Text.join ['/'] segments
where
  /-- The segments without the empty ones in front of another one. -/
  dropEmpty : List (List Char) → List (List Char)
    | [] :: s :: rest => dropEmpty (s :: rest)
    | segments => segments

/-- The text up to a query or a fragment, and the rest. -/
def spanPath (cs : List Char) : List Char × List Char := cs.span fun c ↦ c ≠ '?' && c ≠ '#'

/-- Query and fragment behind a path. -/
def tail (kind : SchemeKind) (cs : List Char) : Option (List Char) × Option (List Char) :=
  let fragment (cs : List Char) : Option (List Char) :=
    match cs with
    | '#' :: r => some (encode encodedInFragment r)
    | _ => none
  match cs with
  | '?' :: r =>
    let (query, r) := r.span (· ≠ '#')
    (some (encode (encodedInQuery (kind ≠ .other)) query), fragment r)
  | cs => (none, fragment cs)

/-- A URL whose scheme and first two slashes have been read. -/
def withAuthority? (scheme : List Char) (kind : SchemeKind) (cs : List Char) : Option Url := do
  let (username, password, r) ← userinfo? kind cs
  let (hostText, r) := spanHost kind false r
  let host ← if kind = .special then specialHost? hostText else opaqueHost? hostText
  let named := !username.isEmpty || password.isSome
  if host.isEmpty && (named || r.head? = some ':') then none
  else
    let (port, r) ← match r with
      | ':' :: r => port? scheme r
      | r => some (none, r)
    let (path, r) := spanPath r
    let path := match path with
      | [] => if kind = .special then ['/'] else []
      | c :: rest => pathText kind (if isSlash kind c then rest else c :: rest)
    let (query, fragment) := tail kind r
    some ⟨scheme, true, username, password, if host.isEmpty then none else some host, port, path,
      query, fragment⟩

/-- A file URL behind its scheme. Where the path names a drive there is no host. -/
def fileUrl? (scheme : List Char) (cs : List Char) : Option Url := do
  let slash (c : Char) : Bool := isSlash .file c
  let (hostText, r) := match cs with
    | a :: b :: r =>
      if slash a && slash b then
        let (h, rest) := r.span (!endsAuthority .file ·)
        if isDrive h then ([], r) else (h, rest)
      else ([], cs)
    | _ => ([], cs)
  let host ← if hostText.isEmpty then some [] else specialHost? hostText
  let (path, r) := spanPath r
  let path := match path with
    | c :: rest => if slash c then rest else path
    | [] => []
  let isLocal := String.ofList host = "localhost" || (writtenSegments .file path).any isDrive
  let host := if isLocal then [] else host
  let (query, fragment) := tail .file r
  some ⟨scheme, true, [], none, if host.isEmpty then none else some host, none,
    pathText .file path, query, fragment⟩

/-- A URL of another scheme without two slashes. -/
def plainUrl (scheme : List Char) (cs : List Char) : Url :=
  let (path, r) := spanPath cs
  let path := match path with
    | '/' :: rest => pathText .other rest
    | path => encode isControl path
  let (query, fragment) := tail .other r
  ⟨scheme, false, [], none, none, none, path, query, fragment⟩

/-- The URL that a text denotes; none if it denotes no absolute URL. -/
def parse? (s : String) : Option Url := do
  let (scheme, r) ← scheme? (cleaned s.toList)
  match schemeKind scheme with
  | .special => withAuthority? scheme .special (r.dropWhile (isSlash .special))
  | .file => fileUrl? scheme r
  | .other =>
    match r with
    | '/' :: '/' :: r => withAuthority? scheme .other r
    | r => some (plainUrl scheme r)

end ClusterProbe.Url
