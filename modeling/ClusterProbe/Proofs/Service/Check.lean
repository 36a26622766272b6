import ClusterProbe.Proofs.Service.Headers
import ClusterProbe.Proofs.Suite.WellFormed

/-!
# What a response is checked to be

The outcome of checking a response, said of its status, of the values of its headers and of its body
in turn. Main statements: the check comes to exactly this outcome, and a response that holds at least
what an accepted one holds is accepted.
-/

namespace ClusterProbe

namespace ExpectedResponse

/-- The document that a body must include; a mapping without entries where none is expected. -/
def document (e : ExpectedResponse) : Json := e.body.getD (.object [])

theorem WellFormed.document {e : ExpectedResponse} (h : e.WellFormed) : e.document.SortedKeys := by
  unfold ExpectedResponse.document
  cases hbody : e.body with
  | none => exact Json.sortedKeys_empty
  | some v => exact h.body v hbody

end ExpectedResponse

namespace Response

/-- What the check of a body comes to. -/
inductive BodyVerdict (r : Response) (e : ExpectedResponse) : Except Refusal Unit → Prop
  | otherText {text : String} (expected : e.body = some (.string text)) (h : text ≠ r.body) :
      BodyVerdict r e (.error (.text text r.body))
  | sameText (expected : e.body = some (.string r.body)) : BodyVerdict r e (.ok ())
  | noDocument {why : String} (expected : ∀ text, e.body ≠ some (.string text))
      (h : Json.parse r.body = .error why) : BodyVerdict r e (.error (.format why))
  | mismatch {v : Json} {m : Mismatch} (expected : ∀ text, e.body ≠ some (.string text))
      (hbody : Json.parse r.body = .ok v) (h : Json.mismatch e.document v = some m) :
      BodyVerdict r e (.error (.body m))
  | included {v : Json} (expected : ∀ text, e.body ≠ some (.string text))
      (hbody : Json.parse r.body = .ok v) (h : e.document.IncludedIn v) : BodyVerdict r e (.ok ())

/-- What the check of a response comes to: the status is looked at first, then the headers in the
order of their names, then the body. -/
inductive Verdict (r : Response) (e : ExpectedResponse) : Except Refusal Unit → Prop
  | status (h : r.status ≠ e.statusCode) : Verdict r e (.error (.status e.statusCode r.status))
  | header {k : String} {x : Json} {why : Discrepancy} (hstatus : r.status = e.statusCode)
      (asked : e.Asks k x) (offends : ¬ r.Meets k x) (short : r.shortfall k x = some why)
      (first : ∀ j y, e.Asks j y → j < k → r.Meets j y) :
      Verdict r e (.error (.header ⟨[k], why⟩))
  | body {outcome : Except Refusal Unit} (hstatus : r.status = e.statusCode)
      (hheaders : ∀ k x, e.Asks k x → r.Meets k x) (h : r.BodyVerdict e outcome) :
      Verdict r e outcome

section Stages

variable {r : Response} {e : ExpectedResponse} {outcome : Except Refusal Unit}

/-- The outcome is that of the first of the three checks that fails, or of the last one. -/
theorem check_eq_iff :
    r.check e = outcome ↔
      (r.status ≠ e.statusCode ∧ outcome = .error (.status e.statusCode r.status)) ∨
      (r.status = e.statusCode ∧ ∃ f, r.checkHeaders e = .error f ∧ outcome = .error f) ∨
      (r.status = e.statusCode ∧ r.checkHeaders e = .ok () ∧ r.checkBody e = outcome) := by
  rw [check, checkStatus]
  by_cases hstatus : r.status = e.statusCode
  · rw [if_pos hstatus]
    cases r.checkHeaders e with
    | error f => simp [hstatus, bind, Except.bind, eq_comm]
    | ok u => simp [hstatus, bind, Except.bind]
  · rw [if_neg hstatus]
    simp [hstatus, bind, Except.bind, eq_comm]

theorem checkBody_of_text {text : String} (h : e.body = some (.string text)) :
    r.checkBody e = if text = r.body then .ok () else .error (.text text r.body) := by
  rw [checkBody, h]
  rfl

theorem checkBody_of_document (h : ∀ text, e.body ≠ some (.string text)) :
    r.checkBody e =
      match Json.parse r.body with
      | .error why => .error (.format why)
      | .ok v =>
        match Json.mismatch e.document v with
        | some m => .error (.body m)
        | none => .ok () := by
  unfold checkBody ExpectedResponse.document
  cases hbody : e.body with
  | none => rfl
  | some v =>
    cases v with
    | string text => exact absurd hbody (h text)
    | _ => rfl

/-- The check of a body comes to what its verdict says. -/
theorem checkBody_eq_iff (he : e.WellFormed) :
    r.checkBody e = outcome ↔ r.BodyVerdict e outcome := by
  constructor
  · rintro rfl
    by_cases htext : ∃ text, e.body = some (.string text)
    · obtain ⟨text, htext⟩ := htext
      rw [checkBody_of_text htext]
      split
      next heq =>
        subst heq
        exact .sameText htext
      next hne => exact .otherText htext hne
    · have hdocument : ∀ text, e.body ≠ some (.string text) := not_exists.mp htext
      rw [checkBody_of_document hdocument]
      cases hbody : Json.parse r.body with
      | error why => exact .noDocument hdocument hbody
      | ok v =>
        dsimp only
        cases hmismatch : Json.mismatch e.document v with
        | some m => exact .mismatch hdocument hbody hmismatch
        | none =>
          refine .included hdocument hbody ?_
          exact (Json.mismatch_eq_none_iff he.document (Json.sortedKeys_of_parse hbody)).mp hmismatch
  · intro h
    cases h with
    | otherText expected h => rw [checkBody_of_text expected, if_neg h]
    | sameText expected => rw [checkBody_of_text expected, if_pos rfl]
    | noDocument expected h => rw [checkBody_of_document expected, h]
    | mismatch expected hbody h =>
      rw [checkBody_of_document expected, hbody]
      dsimp only
      rw [h]
    | included expected hbody h =>
      have hmismatch := Json.mismatch_eq_none_iff he.document (Json.sortedKeys_of_parse hbody)
      rw [checkBody_of_document expected, hbody]
      dsimp only
      rw [hmismatch.mpr h]

/-- The wording of a refusal for the sake of a header begins with its name. -/
theorem message_header (k : String) (why : Discrepancy) :
    (Refusal.header ⟨[k], why⟩).message =
      "Header unexpected at $." ++ k ++ ": " ++ why.message := by
  have hpath : Mismatch.path ⟨[k], why⟩ = "$" ++ "." ++ k := rfl
  have hlead : "Header unexpected at $." = "Header unexpected " ++ ("at " ++ ("$" ++ ".")) := rfl
  unfold Refusal.message Mismatch.message
  dsimp only
  rw [hpath, hlead]
  simp only [String.append_assoc]

end Stages

/-- The check of a response comes to exactly its verdict. A refusal for the sake of a header says
which one it is. -/
theorem check_eq_iff_verdict {e : ExpectedResponse} (he : e.WellFormed) (r : Response) :
    (∀ outcome, r.check e = outcome ↔ r.Verdict e outcome) ∧
    ∀ k why, (Refusal.header ⟨[k], why⟩).message =
      "Header unexpected at $." ++ k ++ ": " ++ why.message := by
  refine ⟨fun outcome ↦ ?_, message_header⟩
  have hkeys := (Json.sortedKeys_object_iff.mp he.headers).1
  rw [check_eq_iff, checkHeaders_eq_ok_iff hkeys, checkBody_eq_iff he]
  simp only [checkHeaders_eq_error_iff hkeys]
  constructor
  · rintro (⟨hstatus, rfl⟩ | ⟨hstatus, _, ⟨k, x, why, asked, short, first, rfl⟩, rfl⟩ |
      ⟨hstatus, hheaders, hbody⟩)
    · exact .status hstatus
    · exact .header hstatus asked (not_meets_of_shortfall short) short first
    · exact .body hstatus hheaders hbody
  · intro h
    cases h with
    | status h => exact .inl ⟨h, rfl⟩
    | header hstatus asked _ short first =>
      exact .inr (.inl ⟨hstatus, _, ⟨_, _, _, asked, short, first, rfl⟩, rfl⟩)
    | body hstatus hheaders h => exact .inr (.inr ⟨hstatus, hheaders, h⟩)

/-- Of two spellings of one header, the one that sorts last counts. One value that is missing is
enough to refuse the response, whatever its body is. -/
theorem check_repeated_header :
    let e : ExpectedResponse := ⟨200, [("Set-Cookie", .string "b"),
      ("set-cookie", .array [.string "a", .string "c"])], some (.string "pong")⟩
    let r : Response := ⟨200, [("set-cookie", [0x61]), ("Set-Cookie", [0xFF])], "ping"⟩
    e.WellFormed ∧ r.check e = .error (.header ⟨["set-cookie"], .missingItem (.string "c")⟩) := by
  intro e r
  have he : e.WellFormed := ⟨by decide, by simp [e, Json.SortedKeys]⟩
  have hnames (name : String) (y : Json) (h : (name, y) ∈ e.headers) :
      headerKey name = "set-cookie" ∧ name ≤ "set-cookie" := by
    rcases List.mem_cons.mp h with heq | h
    · rw [(Prod.mk.inj heq).1]
      decide +kernel
    · rw [(Prod.mk.inj (List.mem_singleton.mp h)).1]
      decide +kernel
  have asked : e.Asks "set-cookie" (.array [.string "a", .string "c"]) := by
    have hmem : ("set-cookie", .array [.string "a", .string "c"]) ∈ e.headers := by simp [e]
    exact ⟨"set-cookie", hmem, (hnames _ _ hmem).1, fun other y h _ ↦ (hnames other y h).2⟩
  have short : r.shortfall "set-cookie" (.array [.string "a", .string "c"]) =
      some (.missingItem (.string "c")) := by
    have hvalues : r.valuesOf "set-cookie" = ["a", "\uFFFD"] := by decide +kernel
    unfold shortfall
    rw [hvalues]
    rfl
  refine ⟨he, ((check_eq_iff_verdict he r).1 _).mpr
    (.header rfl asked (not_meets_of_shortfall short) short ?_)⟩
  rintro _ y ⟨name, hmem, rfl, _⟩ hlt
  rw [(hnames name y hmem).1] at hlt
  exact absurd hlt (lt_irrefl _)

section Richer

variable {e : ExpectedResponse} {r poor rich : Response}

/-- Where a document is expected, a body passes if it is one that includes it. -/
theorem checkBody_eq_ok_iff_of_document (h : ∀ text, e.body ≠ some (.string text)) :
    r.checkBody e = .ok () ↔
      ∃ v, Json.parse r.body = .ok v ∧ Json.mismatch e.document v = none := by
  rw [checkBody_of_document h]
  cases Json.parse r.body with
  | error why => simp
  | ok v =>
    dsimp only
    cases hmismatch : Json.mismatch e.document v with
    | some m => simp [hmismatch]
    | none => simp [hmismatch]

/-- The headers of a response are included in those of one that has all of them. -/
theorem mismatch_headerEntries_of_richer (expected : List (String × Json))
    (h : ∀ k, poor.Has k → rich.valuesOf k = poor.valuesOf k) :
    Json.mismatch (.object (poor.headerEntries expected)) (.object (rich.headerEntries expected)) =
      none := by
  refine Json.mismatch_object_eq_none_iff.mpr ⟨_, rfl, fun k v hmem ↦ ?_⟩
  have hkeys : ((poor.headerEntries expected).map Prod.fst).Pairwise (· < ·) :=
    Json.pairwise_keys_ofEntries _
  have hfind := (Json.find?_eq_some_iff (hkeys.imp ne_of_lt)).mpr hmem
  have hpoor : poor.Has k := by
    by_contra hnot
    rw [find?_headerEntries_of_not_has hnot] at hfind
    cases hfind
  have hvalues := h k hpoor
  have hrich : rich.Has k := by
    rw [has_iff_valuesOf_ne_nil, hvalues]
    exact has_iff_valuesOf_ne_nil.mp hpoor
  rw [find?_headerEntries_of_has hpoor, Option.some.injEq] at hfind
  refine ⟨v, ?_, Json.mismatch_self ?_⟩
  · rw [find?_headerEntries_of_has hrich, ← hfind]
    unfold shaped joined
    rw [hvalues]
  · rw [← hfind]
    exact sortedKeys_shaped ..

/-- A response that holds at least what an accepted one holds is accepted: it has the same status, it
has each header of the other with the same values in the same order, and its body includes the body
of the other. -/
theorem check_of_richer (hdocument : ∀ text, e.body ≠ some (.string text))
    (hstatus : rich.status = poor.status)
    (hheaders : ∀ k, poor.Has k → rich.valuesOf k = poor.valuesOf k) {v w : Json}
    (hpoor : Json.parse poor.body = .ok v) (hrich : Json.parse rich.body = .ok w)
    (hbody : Json.included v w = true) (h : poor.check e = .ok ()) : rich.check e = .ok () := by
  rw [check_eq_iff] at h
  rcases h with ⟨_, h⟩ | ⟨_, _, _, h⟩ | ⟨hsame, hsent, htext⟩
  · cases h
  · cases h
  · refine check_eq_iff.mpr (.inr (.inr ⟨hstatus.trans hsame, ?_, ?_⟩))
    · rw [checkHeaders_eq_ok_iff_mismatch] at hsent ⊢
      exact Json.mismatch_trans hsent (mismatch_headerEntries_of_richer _ hheaders)
    · rw [checkBody_eq_ok_iff_of_document hdocument] at htext ⊢
      obtain ⟨u, hu, hincluded⟩ := htext
      rw [hpoor] at hu
      obtain rfl := Except.ok.inj hu
      exact ⟨w, hrich, Json.mismatch_trans hincluded (Json.included_iff.mp hbody)⟩

/-- A header and an entry more do no harm, and it does not matter how names are spelled. -/
theorem check_added_header :
    let e : ExpectedResponse :=
      ⟨200, [("Set-Cookie", .array [.string "a"])], some (.object [("up", .bool true)])⟩
    let poor : Response := ⟨200, [("set-cookie", [0x61]), ("Set-Cookie", [0xFF])],
      "\x7b\"up\":true\x7d"⟩
    let rich : Response := ⟨200, [("x-id", [0x31]), ("Set-Cookie", [0x61]), ("set-cookie", [0xFF])],
      "\x7b\"at\":[null],\"up\":true\x7d"⟩
    poor.check e = .ok () ∧ rich.check e = .ok () := by
  intro e poor rich
  have hdocument (text : String) : e.body ≠ some (.string text) := by
    rintro ⟨⟩
  have hpoor : Json.parse poor.body = .ok (.object [("up", .bool true)]) := by cbv
  have hrich : Json.parse rich.body = .ok (.object [("at", .array [.null]), ("up", .bool true)]) := by
    cbv
  have hkey : headerKey "Set-Cookie" = "set-cookie" ∧ headerKey "set-cookie" = "set-cookie" := by
    decide +kernel
  have hvalues : poor.valuesOf "set-cookie" = ["a", "\uFFFD"] ∧
      rich.valuesOf "set-cookie" = ["a", "\uFFFD"] := by decide +kernel
  have hcheck : poor.check e = .ok () := by
    refine check_eq_iff.mpr (.inr (.inr ⟨rfl, ?_, ?_⟩))
    · refine (checkHeaders_eq_ok_iff (by decide)).mpr ?_
      rintro _ x ⟨name, hmem, rfl, _⟩
      obtain ⟨rfl, rfl⟩ := Prod.mk.inj (List.mem_singleton.mp hmem)
      rw [hkey.1]
      refine .items ⟨_, List.mem_cons_self, hkey.2⟩ ?_
      rw [hvalues.1]
      exact List.forall_mem_singleton.mpr List.mem_cons_self
    · refine (checkBody_eq_ok_iff_of_document hdocument).mpr ⟨_, hpoor, ?_⟩
      exact Json.included_iff.mp (by decide)
  have hstatus : rich.status = poor.status := rfl
  refine ⟨hcheck, check_of_richer hdocument hstatus ?_ hpoor hrich (by decide) hcheck⟩
  rintro _ ⟨header, hmem, rfl⟩
  rcases List.mem_cons.mp hmem with rfl | hmem
  · rw [hkey.2, hvalues.1, hvalues.2]
  · rw [List.mem_singleton.mp hmem, hkey.1, hvalues.1, hvalues.2]

end Richer

end Response

end ClusterProbe
