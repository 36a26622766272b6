import ClusterProbe.Inclusion
import ClusterProbe.Json.Reader
import ClusterProbe.Suite.TestCase
import ClusterProbe.Text.Pieces
import ClusterProbe.Text.Quoted

/-!
# Checking a response

A response is the expected one if its status is, if the expected headers are included in its
headers, and if the expected body is included in its body. The three are looked at in that order,
and the first one that fails is the reason for refusing the response. A body that is expected as a
text must be that text; every other body is read as a document.
-/

namespace ClusterProbe

/-- A response. A header that was sent more than once is listed more than once. -/
structure Response where
  status : Nat
  headers : List (String × List UInt8)
  body : String

/-- Why a response is not the expected one. -/
inductive Refusal where
  | status (expected actual : Nat)
  | header (mismatch : Mismatch)
  /-- A body that is not the expected text. -/
  | text (expected actual : String)
  /-- A body that is no document. -/
  | format (why : String)
  | body (mismatch : Mismatch)

/-- The wording of a refusal. -/
def Refusal.message : Refusal → String
  | .status e a =>
    "Status code unexpected: expected: " ++ toString e ++ ", actually: " ++ toString a
  | .header m => "Header unexpected " ++ m.message
  | .text e a =>
    "Response body unexpected: expected " ++ Text.quoted e ++ ", actually " ++ Text.quoted a
  | .format why => "Response format unexpected: not json-formatted (" ++ why ++ ")"
  | .body m => "Response body unexpected " ++ m.message

/-- What is expected of a header, as text: a header is text however the suite writes it. Of a list,
each item is text. -/
def headerExpectation : Json → Json
  | .array items => .array (items.map fun v ↦ .string v.plainText)
  | .object entries => .object entries
  | v => .string v.plainText

namespace ExpectedResponse

/-- The expected headers. -/
def headerEntries (e : ExpectedResponse) : List (String × Json) :=
  Json.ofEntries (e.headers.map fun (name, v) ↦ (headerKey name, headerExpectation v))

end ExpectedResponse

namespace Response

/-- The values of a header, in the order they were sent. -/
def valuesOf (r : Response) (key : String) : List String :=
  (r.headers.filter fun h ↦ headerKey h.1 = key).map fun h ↦
    String.ofList (Text.decodeLossy h.2)

/-- The headers as a mapping, to be compared with the expected ones: the values of one header are a
list where a list is expected, and else one text with commas in it. -/
def headerEntries (r : Response) (expected : List (String × Json)) : List (String × Json) :=
  Json.ofEntries <| r.headers.map fun h ↦
    let key := headerKey h.1
    match Json.find? key expected with
    | some (.array _) => (key, .array ((r.valuesOf key).map .string))
    | _ => (key, .string (Text.joinWith ", " (r.valuesOf key)))

/-- Checks the status. -/
def checkStatus (r : Response) (e : ExpectedResponse) : Except Refusal Unit :=
  if r.status = e.statusCode then .ok () else .error (.status e.statusCode r.status)

/-- Checks the headers. -/
def checkHeaders (r : Response) (e : ExpectedResponse) : Except Refusal Unit :=
  match Json.mismatch (.object e.headerEntries) (.object (r.headerEntries e.headerEntries)) with
  | some m => .error (.header m)
  | none => .ok ()

/-- Checks the body. Where none is expected, any mapping will do. -/
def checkBody (r : Response) (e : ExpectedResponse) : Except Refusal Unit :=
  match e.body.getD (.object []) with
  | .string text => if text = r.body then .ok () else .error (.text text r.body)
  | expected =>
    match Json.parse r.body with
    | .error why => .error (.format why)
    | .ok actual =>
      match Json.mismatch expected actual with
      | some m => .error (.body m)
      | none => .ok ()

/-- Checks a response, and gives the first reason to refuse it. -/
def check (r : Response) (e : ExpectedResponse) : Except Refusal Unit := do
  r.checkStatus e
  r.checkHeaders e
  r.checkBody e

end Response

end ClusterProbe
