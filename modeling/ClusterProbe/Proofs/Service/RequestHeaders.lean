import ClusterProbe.Service.Probe

/-!
# The headers of a request

A test case lists the headers of its request by name. Main statement: they become the headers that
are sent exactly if every entry is a header, each entry once and under the one spelling of its name;
and if not, the first entry that is none is the reason why nothing is sent.
-/

namespace ClusterProbe

namespace Request

section Entries

/-- The name of a header: a token, and not too long. -/
structure IsFieldName (s : String) : Prop where
  nonempty : s ≠ ""
  token : ∀ c ∈ s.toList, isTokenChar c = true
  bounded : s.utf8ByteSize ≤ nameLimit

/-- The text of a header: no control character but the tab. -/
def IsFieldText (s : String) : Prop :=
  ∀ c ∈ s.toList, c = '\t' ∨ (0x20 ≤ c.toNat ∧ c.toNat ≠ 0x7F)

/-- An entry that can be sent as a header. -/
structure IsHeader (name : String) (v : Json) : Prop where
  name : IsFieldName name
  value : IsFieldText v.plainText

/-- What is wrong with an entry that cannot be sent as a header. The name is looked at first. -/
inductive HeaderFault (name : String) (v : Json) : SendFailure → Prop
  | name (h : ¬ IsFieldName name) : HeaderFault name v (.headerName name)
  | value (hname : IsFieldName name) (h : ¬ IsFieldText v.plainText) :
      HeaderFault name v (.headerValue name)

variable {s name : String} {v : Json} {failure : SendFailure}

theorem isHeaderName_iff : isHeaderName s = true ↔ IsFieldName s := by
  rw [isHeaderName, isToken, Bool.and_eq_true, Bool.and_eq_true, decide_eq_true_iff,
    List.all_eq_true, Bool.not_eq_true', String.isEmpty_eq_false_iff]
  exact ⟨fun ⟨⟨hne, htoken⟩, hbound⟩ ↦ ⟨hne, htoken, hbound⟩,
    fun ⟨hne, htoken, hbound⟩ ↦ ⟨⟨hne, htoken⟩, hbound⟩⟩

theorem isHeaderValue_iff : isHeaderValue s = true ↔ IsFieldText s := by
  rw [isHeaderValue, List.all_eq_true, IsFieldText]
  simp only [Bool.or_eq_true, Bool.and_eq_true, decide_eq_true_iff]

/-- An entry that is a header has no fault. -/
theorem HeaderFault.not_isHeader (h : HeaderFault name v failure) : ¬ IsHeader name v := by
  intro hheader
  cases h with
  | name h => exact h hheader.name
  | value _ h => exact h hheader.value

end Entries

section Listing

variable {name : String} {v : Json} {headers : List (String × Json)} {sent : List (String × String)}
  {failure : SendFailure}

/-- The headers of entries whose first is one. -/
theorem headerList_of_isHeader (h : IsHeader name v) :
    headerList ((name, v) :: headers) =
      (headerList headers).map ((headerKey name, v.plainText) :: ·) := by
  rw [headerList, isHeaderName_iff.mpr h.name, isHeaderValue_iff.mpr h.value]
  cases headerList headers <;> rfl

/-- The first entry ends the search if it has a fault. -/
theorem headerList_of_fault (h : HeaderFault name v failure) :
    headerList ((name, v) :: headers) = .error failure := by
  rw [headerList]
  cases h with
  | name h =>
    rw [Bool.eq_false_iff.mpr (mt isHeaderName_iff.mp h)]
    rfl
  | value hname h =>
    rw [isHeaderName_iff.mpr hname, Bool.eq_false_iff.mpr (mt isHeaderValue_iff.mp h)]
    rfl

theorem isHeader_or_fault (name : String) (v : Json) :
    IsHeader name v ∨ ∃ failure, HeaderFault name v failure := by
  by_cases hname : IsFieldName name
  · by_cases hvalue : IsFieldText v.plainText
    · exact .inl ⟨hname, hvalue⟩
    · exact .inr ⟨_, .value hname hvalue⟩
  · exact .inr ⟨_, .name hname⟩

/-- Entries become headers if they all are, each under the one spelling of its name. -/
theorem headerList_eq_ok_iff :
    headerList headers = .ok sent ↔
      (∀ e ∈ headers, IsHeader e.1 e.2) ∧
        sent = headers.map fun e ↦ (headerKey e.1, e.2.plainText) := by
  induction headers generalizing sent with
  | nil => simp [headerList, eq_comm]
  | cons e rest ih =>
    obtain ⟨name, v⟩ := e
    rw [List.forall_mem_cons, List.map_cons]
    rcases isHeader_or_fault name v with hheader | ⟨failure, hfault⟩
    · rw [headerList_of_isHeader hheader]
      constructor
      · intro h
        cases hmore : headerList rest with
        | error failure => rw [hmore] at h; cases h
        | ok more =>
          obtain ⟨hall, rfl⟩ := ih.mp hmore
          rw [hmore] at h
          exact ⟨⟨hheader, hall⟩, (Except.ok.inj h).symm⟩
      · rintro ⟨⟨-, hall⟩, rfl⟩
        rw [ih.mpr ⟨hall, rfl⟩]
        rfl
    · rw [headerList_of_fault hfault]
      exact iff_of_false nofun fun h ↦ hfault.not_isHeader h.1.1

/-- The reason why entries do not become headers is the fault of the first one that is none. -/
theorem headerList_eq_error_iff :
    headerList headers = .error failure ↔
      ∃ front name v back, headers = front ++ (name, v) :: back ∧
        (∀ e ∈ front, IsHeader e.1 e.2) ∧ HeaderFault name v failure := by
  constructor
  · intro h
    induction headers with
    | nil => cases h
    | cons e rest ih =>
      obtain ⟨name, v⟩ := e
      rcases isHeader_or_fault name v with hheader | ⟨failure', hfault⟩
      · rw [headerList_of_isHeader hheader] at h
        cases hmore : headerList rest with
        | ok more => rw [hmore] at h; cases h
        | error failure' =>
          rw [hmore] at h
          obtain rfl := Except.error.inj h
          obtain ⟨front, k, w, back, rfl, hfront, hfault⟩ := ih hmore
          exact ⟨(name, v) :: front, k, w, back, rfl,
            List.forall_mem_cons.mpr ⟨hheader, hfront⟩, hfault⟩
      · rw [headerList_of_fault hfault] at h
        obtain rfl := Except.error.inj h
        exact ⟨[], name, v, rest, rfl, List.forall_mem_nil _, hfault⟩
  · rintro ⟨front, name, v, back, rfl, hfront, hfault⟩
    induction front with
    | nil => exact headerList_of_fault hfault
    | cons e front ih =>
      obtain ⟨hheader, hfront⟩ := List.forall_mem_cons.mp hfront
      rw [List.cons_append, headerList_of_isHeader hheader, ih hfront]
      rfl

end Listing

section Preparing

variable {r : RequestSpec} {headers : List (String × String)} {failure : SendFailure}

/-- A method that is no token is the reason for not sending, whatever else there is. -/
theorem prepare_of_method (h : isToken r.method.toUpper = false) :
    prepare r = .error (.method r.method) := by
  rw [prepare, h]
  rfl

/-- Headers that make no sense are the reason for not sending, if the method makes sense. -/
theorem prepare_of_headers_error (hmethod : isToken r.method.toUpper = true)
    (h : headerList r.headers = .error failure) : prepare r = .error failure := by
  rw [prepare, hmethod, h]
  rfl

/-- Where method and headers make sense, the address decides. -/
theorem prepare_of_headers (hmethod : isToken r.method.toUpper = true)
    (h : headerList r.headers = .ok headers) :
    prepare r =
      (address? r.method.toUpper r.url r.queries).map
        (⟨r.method.toUpper, ·, headers, r.body, credentialsIn? r.url⟩) := by
  rw [prepare, hmethod, h]
  cases address? r.method.toUpper r.url r.queries <;> rfl

end Preparing

/-- What stands under a name in a list of names and texts. -/
def textsUnder (name : String) (pairs : List (String × String)) : List String :=
  (pairs.filter (·.1 = name)).map Prod.snd

theorem textsUnder_append (name : String) (a b : List (String × String)) :
    textsUnder name (a ++ b) = textsUnder name a ++ textsUnder name b := by
  rw [textsUnder, List.filter_append, List.map_append, ← textsUnder, ← textsUnder]

/-- Under a name stand the texts of all entries that spell it in one way or another, in order. -/
theorem textsUnder_map_headerKey (key : String) (headers : List (String × Json)) :
    textsUnder key (headers.map fun e ↦ (headerKey e.1, e.2.plainText)) =
      (headers.filter (headerKey ·.1 = key)).map (·.2.plainText) := by
  rw [textsUnder, List.filter_map, List.map_map]
  rfl

end Request

/-- A request that makes no sense is not sent: the verification fails, and says why. -/
theorem Network.verify_of_prepare_error {m : Type → Type} [Monad m] (n : Network m)
    (client : Client) (name : String) {spec : RequestSpec} (expected : ExpectedResponse)
    {failure : SendFailure} (h : Request.prepare spec = .error failure) :
    (n.probe client).verify name spec expected = pure ⟨false, failure.message⟩ := by
  rw [probe]
  dsimp only
  rw [h]

namespace Request

/-- The headers of a request are sent if every entry has the name and the text of a header: each
entry once, and under a name that several entries spell, the texts of all of them in order. If not,
the first entry that is no header is the fault, by its name before its text, and a verification
fails with it without sending anything, unless the method was at fault already. -/
theorem headers_sent_or_first_fault (headers : List (String × Json)) :
    ((∃ sent, headerList headers = .ok sent) ↔ ∀ e ∈ headers, IsHeader e.1 e.2) ∧
    (∀ sent, headerList headers = .ok sent →
      sent = headers.map (fun e ↦ (headerKey e.1, e.2.plainText)) ∧
      ∀ key, textsUnder key sent =
        (headers.filter (headerKey ·.1 = key)).map (·.2.plainText)) ∧
    (∀ failure, headerList headers = .error failure ↔
      ∃ front name v back, headers = front ++ (name, v) :: back ∧
        (∀ e ∈ front, IsHeader e.1 e.2) ∧ HeaderFault name v failure) ∧
    ∀ failure, headerList headers = .error failure →
      ∀ {m : Type → Type} [Monad m] (n : Network m) (client : Client) (name : String)
        (spec : RequestSpec) (expected : ExpectedResponse), spec.headers = headers →
        (n.probe client).verify name spec expected =
          pure ⟨false, if isToken spec.method.toUpper then failure.message
            else (SendFailure.method spec.method).message⟩ := by
  refine ⟨⟨?_, ?_⟩, ?_, fun failure ↦ headerList_eq_error_iff, ?_⟩
  · rintro ⟨sent, h⟩
    exact (headerList_eq_ok_iff.mp h).1
  · exact fun hall ↦ ⟨_, headerList_eq_ok_iff.mpr ⟨hall, rfl⟩⟩
  · intro sent h
    obtain ⟨-, rfl⟩ := headerList_eq_ok_iff.mp h
    exact ⟨rfl, fun key ↦ textsUnder_map_headerKey key headers⟩
  · rintro failure h m _ n client name spec expected rfl
    split
    next hmethod =>
      exact n.verify_of_prepare_error client name expected (prepare_of_headers_error hmethod h)
    next hmethod =>
      exact n.verify_of_prepare_error client name expected
        (prepare_of_method (Bool.eq_false_iff.mpr hmethod))

/-- The text of a header may hold characters beyond ASCII, and a header that makes no sense is not
what a verification fails with where the method makes none. -/
theorem headers_beyond_ascii_and_behind_method :
    ¬ ((∃ sent, headerList [("x-name", .string "é")] = .ok sent) ↔
      ∀ e ∈ [("x-name", Json.string "é")], IsFieldName e.1 ∧
        ∀ c ∈ e.2.plainText.toList, c = '\t' ∨ (0x20 ≤ c.toNat ∧ c.toNat < 0x7F)) ∧
    headerList [("x name", .string "v")] = .error (.headerName "x name") ∧
    ((⟨fun _ _ ↦ .unanswered⟩ : Network Id).probe ⟨2, false⟩).verify "c"
        ⟨"G T", "http://svc/", [], [("x name", .string "v")], none⟩ .standard ≠
      ⟨false, (SendFailure.headerName "x name").message⟩ := by
  refine ⟨fun h ↦ ?_, headerList_of_fault (.name ?_), ?_⟩
  · have hheaders : ∀ e ∈ [("x-name", Json.string "é")], IsHeader e.1 e.2 :=
      List.forall_mem_singleton.mpr
        ⟨isHeaderName_iff.mp (by decide), isHeaderValue_iff.mp (by decide)⟩
    have hsent := headerList_eq_ok_iff.mpr ⟨hheaders, rfl⟩
    have hvisible := (h.mp ⟨_, hsent⟩ _ List.mem_cons_self).2
    exact absurd (hvisible 'é' (by decide)) (by decide)
  · exact mt isHeaderName_iff.mpr (by decide)
  · rw [Network.verify_of_prepare_error _ _ _ _ (prepare_of_method (by decide +kernel))]
    exact fun h ↦ absurd (congrArg Verification.message h) (by decide)

end Request

end ClusterProbe
