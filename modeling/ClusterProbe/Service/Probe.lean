import ClusterProbe.Machine
import ClusterProbe.Service.Request
import ClusterProbe.Service.Response

/-!
# Probing a service

One attempt is a request and the check of its response. What it says about a failure is the first
reason there is: the request makes no sense, nothing answers, the response cannot be read, or it is
not the expected one.
-/

namespace ClusterProbe

/-- How requests are sent. -/
structure Client where
  /-- Seconds that a request may take. -/
  timeout : Nat
  /-- Whether invalid certificates are accepted. -/
  insecure : Bool

/-- What comes of a request that is sent. -/
inductive Exchange where
  /-- Nothing answers, or not in time. -/
  | unanswered
  /-- A response begins, but its body cannot be read. -/
  | broken (why : String)
  | answered (response : Response)

/-- The network. -/
structure Network (m : Type → Type) where
  send : Client → Request → m Exchange

namespace Network

variable {m : Type → Type} [Monad m]

/-- What an attempt comes to with what came of its request. -/
def judge (name url : String) (expected : ExpectedResponse) (request : Request) :
    Exchange → Verification
  | .unanswered => ⟨false, (SendFailure.unreachable request.method url request.url).message⟩
  | .broken why => ⟨false, (SendFailure.unreadable url why).message⟩
  | .answered response =>
    match response.check expected with
    | .error refusal => ⟨false, refusal.message⟩
    | .ok () => ⟨true, "Successfully verified " ++ name ++ " via " ++ request.method ++ " " ++ url⟩

/-- The service behind the network. -/
def probe (n : Network m) (client : Client) : Probe m :=
  ⟨fun name spec expected ↦
    match Request.prepare spec with
    | .error failure => pure ⟨false, failure.message⟩
    | .ok request => judge name spec.url expected request <$> n.send client request⟩

end Network

end ClusterProbe
