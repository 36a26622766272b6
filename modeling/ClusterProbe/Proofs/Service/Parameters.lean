import ClusterProbe.Proofs.Suite.WellFormed
import ClusterProbe.Proofs.Service.RequestHeaders
import ClusterProbe.Proofs.Url.Authority
import ClusterProbe.Proofs.Url.Form

/-!
# The parameters of a request

A test case lists parameters by name, and an entry that is a list repeats its parameter. Main
statement: the URL that a request goes to has the parameters that were written into its address,
and behind them one for each text that the test case gives, in order of names and of the items of a
list, whatever characters the names and texts hold.
-/

namespace ClusterProbe

/-- The texts that an entry gives to its parameter: one for each item of a list, and else one. -/
def Json.parameterTexts : Json → List String
  | .array items => items.map plainText
  | v => [v.plainText]

/-- An address that a request can be made to over the web. -/
def Url.IsWeb (u : Url) : Prop :=
  String.ofList u.scheme = "http" ∨ String.ofList u.scheme = "https"

theorem Url.IsWeb.schemeKind_eq {u : Url} (h : u.IsWeb) : Url.schemeKind u.scheme = .special := by
  rcases h with h | h <;> simp [Url.schemeKind, h]

theorem Url.withoutUserinfo_cases (u : Url) :
    u.withoutUserinfo = u ∨ u.withoutUserinfo = { u with username := [], password := none } := by
  rw [withoutUserinfo]
  split
  · exact .inr rfl
  · exact .inl rfl

namespace Request

section Listing

variable {name : String} {v : Json} {queries : List (String × Json)}

theorem parameters_cons :
    parameters ((name, v) :: queries) = v.parameterTexts.map (name, ·) ++ parameters queries := by
  rw [parameters, List.flatMap_cons, ← parameters]
  cases v with
  | array items => rw [Json.parameterTexts, List.map_map]; rfl
  | _ => rfl

/-- Every parameter has the name of an entry. -/
theorem mem_keys_of_mem_parameters {p : String × String} (h : p ∈ parameters queries) :
    p.1 ∈ queries.map Prod.fst := by
  induction queries with
  | nil => cases h
  | cons e rest ih =>
    obtain ⟨k, w⟩ := e
    rw [parameters_cons, List.mem_append] at h
    rcases h with h | h
    · obtain ⟨text, -, rfl⟩ := List.mem_map.mp h
      exact List.mem_cons_self
    · exact List.mem_cons_of_mem _ (ih h)

/-- Parameters come in the order of their names. -/
theorem pairwise_parameters (h : (queries.map Prod.fst).Pairwise (· < ·)) :
    (parameters queries).Pairwise fun p q ↦ p.1 ≤ q.1 := by
  induction queries with
  | nil => exact .nil
  | cons e rest ih =>
    obtain ⟨k, w⟩ := e
    obtain ⟨hk, hrest⟩ := List.pairwise_cons.mp h
    rw [parameters_cons, List.pairwise_append]
    refine ⟨?_, ih hrest, fun p hp q hq ↦ ?_⟩
    · rw [List.pairwise_map]
      exact List.pairwise_of_forall fun _ _ ↦ le_refl k
    · obtain ⟨text, -, rfl⟩ := List.mem_map.mp hp
      exact le_of_lt (hk _ (mem_keys_of_mem_parameters hq))

/-- Under each name stand the texts that its entry gives, in order, and nothing without an entry. -/
theorem textsUnder_parameters (h : (queries.map Prod.fst).Nodup) (name : String) :
    textsUnder name (parameters queries) =
      ((Json.find? name queries).map Json.parameterTexts).getD [] := by
  induction queries with
  | nil => rfl
  | cons e rest ih =>
    obtain ⟨k, w⟩ := e
    obtain ⟨hk, hrest⟩ := List.nodup_cons.mp h
    rw [parameters_cons, textsUnder_append, ih hrest, Json.find?]
    split
    next heq =>
      subst heq
      rw [Json.find?_eq_none_iff.mpr hk]
      simp [textsUnder, List.filter_map, Function.comp_def]
    next hne => simp [textsUnder, List.filter_map, Function.comp_def, hne]

end Listing

/-- A request to an address of the web goes to the URL of the address, but for user name and
password, with the parameters of the test case behind those of the address. -/
theorem address?_of_parse? {written : String} {url : Url} (h : Url.parse? written = some url)
    (hweb : url.IsWeb) (method : String) (queries : List (String × Json)) :
    let sent := url.withoutUserinfo.withParameters (parameters queries)
    address? method written queries =
      if isSendable sent then .ok sent else .error (.address method written (some sent)) := by
  -- without a host nothing would be appended, but an address of the web has one
  have hhost := Option.isSome_iff_ne_none.mp (Url.host_isSome_of_parse? h hweb.schemeKind_eq)
  rw [address?, h]
  exact if_neg (by simpa using hhost)

/-- No parameter is lost, invented or reordered: parameters come in the order of their names, under
each name the texts that its entry gives; and whatever is sent to an address of the web goes to a
URL with the parameters of the address and, behind them, exactly these. -/
theorem parameters_arrive {r : RequestSpec} {url : Url}
    (hkeys : (r.queries.map Prod.fst).Pairwise (· < ·)) (hurl : Url.parse? r.url = some url)
    (hweb : url.IsWeb) :
    let sent := url.withoutUserinfo.withParameters (parameters r.queries)
    (parameters r.queries).Pairwise (fun p q ↦ p.1 ≤ q.1) ∧
    (∀ name, textsUnder name (parameters r.queries) =
      ((Json.find? name r.queries).map Json.parameterTexts).getD []) ∧
    Url.parametersOf sent.query = Url.parametersOf url.query ++ parameters r.queries ∧
    ∀ headers, isToken r.method.toUpper = true → headerList r.headers = .ok headers →
      prepare r =
        if isSendable sent then .ok ⟨r.method.toUpper, sent, headers, r.body, url.credentials?⟩
        else .error (.address r.method.toUpper r.url (some sent)) := by
  intro sent
  refine ⟨pairwise_parameters hkeys, textsUnder_parameters (hkeys.imp ne_of_lt), ?_, ?_⟩
  · have hquery : url.withoutUserinfo.query = url.query := by
      rcases url.withoutUserinfo_cases with h | h <;> rw [h]
    exact (Url.parametersOf_appendPairs _ _).trans (by rw [hquery])
  · intro headers hmethod hheaders
    rw [prepare_of_headers hmethod hheaders, address?_of_parse? hurl hweb, credentialsIn?, hurl]
    split <;> rfl

/-- A request whose parameters hold characters that a query has a use for. -/
def markedRequest : RequestSpec where
  method := "get"
  url := "http://svc/p?q=a%20b&q"
  queries := [("&=", .string "a+b %26"), ("list", .array [.bool true, .string "é"]),
    ("none", .array []), ("z", .null)]
  headers := []
  body := none

/-- Its parameters stand behind those of its address, each as it was given. -/
theorem parameters_arrive_behind_query :
    ∃ sent : Url, prepare markedRequest = .ok ⟨"GET", sent, [], none, none⟩ ∧
      Url.parametersOf sent.query = [("q", "a b"), ("q", ""), ("&=", "a+b %26"),
        ("list", "true"), ("list", "é"), ("z", "")] := by
  have hurl : Url.parse? markedRequest.url =
      some ((Url.parse? markedRequest.url).get (by decide +kernel)) := (Option.some_get _).symm
  obtain ⟨-, -, hpairs, hprepare⟩ := parameters_arrive (by decide) hurl (.inl (by decide +kernel))
  have hmethod : markedRequest.method.toUpper = "GET" := by decide +kernel
  have hsent := hprepare [] (by decide +kernel) rfl
  rw [if_pos (by decide +kernel), hmethod] at hsent
  refine ⟨_, hsent, hpairs.trans ?_⟩
  decide +kernel

end Request

end ClusterProbe
