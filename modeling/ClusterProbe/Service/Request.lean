import ClusterProbe.Json.Printer
import ClusterProbe.Suite.TestCase
import ClusterProbe.Text.Utf8
import ClusterProbe.Url.Reader

/-!
# Requests

A test case describes a request; before it can be sent, its method, its headers and its address must
make sense. They are looked at in that order, headers by ascending name, and the first one that
makes no sense is the reason for not sending anything.
-/

namespace ClusterProbe

/-- A request that can be sent. -/
structure Request where
  method : String
  url : Url
  headers : List (String × String)
  body : Option Json
  /-- User name and password. They are sent as an authorization of the basic scheme, unless the headers
  have one. -/
  credentials : Option (String × Option String)

/-- Why there is no response. -/
inductive SendFailure where
  /-- A method that is no token. -/
  | method (written : String)
  /-- A header with a name that is no token. -/
  | headerName (name : String)
  /-- A header with a value that no header can have. -/
  | headerValue (name : String)
  /-- An address that is no URL, or a URL to which no request can be made. -/
  | address (method written : String) (url : Option Url)
  /-- Nothing answers at the address. -/
  | unreachable (method written : String) (url : Url)
  /-- A response that cannot be read to its end. -/
  | unreadable (written why : String)

namespace SendFailure

/-- The wording of a request to an address that came to nothing. -/
def failedTo (verb written why : String) : String :=
  "failed to " ++ verb ++ " to " ++ written ++ ": " ++ why

/-- The wording of the URL that a failure is about. -/
def forUrl (url : Url) : String := " for url (" ++ url.text ++ ")"

/-- The wording of a failure. -/
def message : SendFailure → String
  | .method written => "invalid method '" ++ written ++ "'"
  | .headerName name => "invalid header name '" ++ name ++ "': invalid HTTP header name"
  | .headerValue name =>
    "invalid value for header '" ++ name ++ "': failed to parse header value"
  | .address verb written url =>
    failedTo verb written ("builder error" ++ (url.map forUrl).getD "")
  | .unreachable verb written url =>
    failedTo verb written ("error sending request" ++ forUrl url)
  | .unreadable written why => "failed to read response from " ++ written ++ ": " ++ why

end SendFailure

namespace Request

/-- A character of a token: a letter, a digit, or a mark that separates nothing. -/
def isTokenChar (c : Char) : Bool :=
  c.isAlphanum || ['!', '#', '$', '%', '&', '\'', '*', '+', '-', '.', '^', '_', '\x60', '|',
    '~'].contains c

/-- A token: one or more token characters. -/
def isToken (s : String) : Bool := !s.isEmpty && s.toList.all isTokenChar

/-- The longest name of a header. -/
def nameLimit : Nat := 65535

/-- The name of a header. -/
def isHeaderName (s : String) : Bool := isToken s && s.utf8ByteSize ≤ nameLimit

/-- The value of a header: no control character but the tab. -/
def isHeaderValue (s : String) : Bool :=
  s.toList.all fun c ↦ c = '\t' || (0x20 ≤ c.toNat && c.toNat ≠ 0x7F)

/-- The headers of a request, each under the one spelling of its name, or the first that makes no
sense. -/
def headerList : List (String × Json) → Except SendFailure (List (String × String))
  | [] => .ok []
  | (name, v) :: rest => do
    if !isHeaderName name then throw (.headerName name)
    if !isHeaderValue v.plainText then throw (.headerValue name)
    let more ← headerList rest
    .ok ((headerKey name, v.plainText) :: more)

/-- The parameters of a request. A list repeats its parameter, once for each item. -/
def parameters (queries : List (String × Json)) : List (String × String) :=
  queries.flatMap fun (name, v) ↦
    match v with
    | .array items => items.map fun item ↦ (name, item.plainText)
    | v => [(name, v.plainText)]

/-- The longest URL that a request can be made to. -/
def urlLimit : Nat := 65534

/-- Whether a request can be made to a URL: its scheme must be the web's, and its host must do
without the few marks that a URL may have there and a request may not. -/
def isSendable (url : Url) : Bool :=
  let scheme := String.ofList url.scheme
  (scheme = "http" || scheme = "https") && url.text.utf8ByteSize ≤ urlLimit &&
    !(url.host.getD []).any fun c ↦ ['\"', '\x60', '{', '}'].contains c

/-- The URL of a request: the one written, without user name and password and with the parameters
appended. A URL without a host is left as it is, for nothing can be sent there. -/
def address? (method written : String) (queries : List (String × Json)) :
    Except SendFailure Url :=
  match Url.parse? written with
  | none => .error (.address method written none)
  | some url =>
    if url.host.isNone then .error (.address method written (some url))
    else
      let url := url.withoutUserinfo.withParameters (parameters queries)
      if isSendable url then .ok url else .error (.address method written (some url))

/-- The user name and password that are written into an address. -/
def credentialsIn? (written : String) : Option (String × Option String) :=
  (Url.parse? written).bind Url.credentials?

/-- The request that a test case describes. -/
def prepare (r : RequestSpec) : Except SendFailure Request := do
  let method := r.method.toUpper
  if !isToken method then throw (.method r.method)
  let headers ← headerList r.headers
  let url ← address? method r.url r.queries
  .ok ⟨method, url, headers, r.body, credentialsIn? r.url⟩

end Request

end ClusterProbe
