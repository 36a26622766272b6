import ClusterProbe.Error
import ClusterProbe.Suite.TestCase
import ClusterProbe.Text.Blank
import ClusterProbe.Yaml.Grammar
import ClusterProbe.Yaml.Reading

/-!
# Reading test cases

A suite is a sequence of test cases. Each field is read at most once; what is not given has a
standard value, except for the name, the request and its URL. Fields of other names mean nothing.
-/

namespace ClusterProbe.Suite

open Yaml

/-- The fields of a request read so far. -/
structure RequestDraft where
  method : Option String
  url : Option String
  queries : Option (List (String × Json))
  headers : Option (List (String × Json))
  body : Option (Option Json)

/-- The fields of an expected response read so far. -/
structure ResponseDraft where
  statusCode : Option Nat
  headers : Option (List (String × Json))
  body : Option (Option Json)

/-- The fields of a test case read so far. -/
structure CaseDraft where
  name : Option String
  context : Option (List String)
  request : Option RequestSpec
  response : Option ExpectedResponse

/-- What is wanted where a text is. -/
def aString : String := "a string"

/-- What is wanted where the name of a field is. -/
def aField : String := "field identifier"

/-- A request. -/
def request (d : Document) : Nat → Place → Node → Reader RequestSpec :=
  d.mapping "struct RequestSpec" aField (⟨none, none, none, none, none⟩ : RequestDraft)
    (fun depth draft field place n ↦
      match field with
      | "method" =>
        return { draft with method := ← Document.once field draft.method (d.text aString place n) }
      | "url" =>
        return { draft with url := ← Document.once field draft.url (d.text aString place n) }
      | "queries" =>
        return { draft with
          queries := ← Document.once field draft.queries (d.entries depth place n) }
      | "headers" =>
        return { draft with
          headers := ← Document.once field draft.headers (d.entries depth place n) }
      | "body" =>
        return { draft with body := ← Document.once field draft.body (d.valueOrNone depth place n) }
      | _ => return draft)
    (fun draft ↦ do
      let url ← Document.required "url" draft.url
      return ⟨draft.method.getD "GET", url, draft.queries.getD [], draft.headers.getD [],
        draft.body.getD none⟩)

/-- An expected response. -/
def response (d : Document) : Nat → Place → Node → Reader ExpectedResponse :=
  d.mapping "struct ExpectedResponse" aField (⟨none, none, none⟩ : ResponseDraft)
    (fun depth draft field place n ↦
      match field with
      | "status_code" =>
        return { draft with
          statusCode := ← Document.once field draft.statusCode (d.natural 16 "u16" place n) }
      | "headers" =>
        return { draft with
          headers := ← Document.once field draft.headers (d.entries depth place n) }
      | "body" =>
        return { draft with body := ← Document.once field draft.body (d.valueOrNone depth place n) }
      | _ => return draft)
    (fun draft ↦
      return ⟨draft.statusCode.getD ExpectedResponse.standard.statusCode,
        draft.headers.getD [], draft.body.getD none⟩)

/-- A test case. -/
def testCase (d : Document) : Nat → Place → Node → Reader TestCase :=
  d.mapping "struct TestCase" aField (⟨none, none, none, none⟩ : CaseDraft)
    (fun depth draft field place n ↦
      match field with
      | "name" =>
        return { draft with name := ← Document.once field draft.name (d.text aString place n) }
      | "context" =>
        return { draft with
          context := ← Document.once field draft.context
            (d.sequence (fun _ place n ↦ d.text aString place n) depth place n) }
      | "request" =>
        return { draft with
          request := ← Document.once field draft.request (request d depth place n) }
      | "response" =>
        return { draft with
          response := ← Document.once field draft.response (response d depth place n) }
      | _ => return draft)
    (fun draft ↦ do
      let name ← Document.required "name" draft.name
      let request ← Document.required "request" draft.request
      return ⟨name, draft.context.getD [], request,
        draft.response.getD ExpectedResponse.standard⟩)

/-- The test cases of a document tree. -/
def ofDocument (d : Document) : Except String (List TestCase) :=
  (d.read (d.sequence (testCase d))).mapError Fault.message

/-- The test cases of a text; a blank text holds none. -/
def parse (text : String) : Except Error (List TestCase) :=
  let refused (why : String) : Error := .configParse ("Failed to parse test cases: " ++ why)
  if Text.isAllBlank text then .ok []
  else match Document.ofText? text with
    | none => .error (refused malformed)
    | some d => (ofDocument d).mapError refused

end ClusterProbe.Suite
