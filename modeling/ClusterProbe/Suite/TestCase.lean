import ClusterProbe.Json.Basic

/-!
# Test cases

A test case names the manifests it needs in the cluster, the request to send, and what the response
must at least hold.
-/

namespace ClusterProbe

/-- The name of a header in the one spelling in which names are compared. -/
def headerKey (name : String) : String := name.toLower

/-- A request. Entries of `queries` that are lists repeat their parameter. -/
structure RequestSpec where
  method : String
  url : String
  queries : List (String × Json)
  headers : List (String × Json)
  body : Option Json

/-- What a response must hold. Without a body any mapping will do. -/
structure ExpectedResponse where
  statusCode : Nat
  headers : List (String × Json)
  body : Option Json

/-- A response that is expected where nothing is said about it. -/
def ExpectedResponse.standard : ExpectedResponse := ⟨200, [], none⟩

/-- A test case. Names need not be distinct. -/
structure TestCase where
  name : String
  /-- The identifiers of the manifests to apply, in order. -/
  context : List String
  request : RequestSpec
  response : ExpectedResponse

end ClusterProbe
