import Mathlib.Data.List.Pairwise
import ClusterProbe.Proofs.Yaml.Order
import ClusterProbe.Renderer
import ClusterProbe.Service.Request
import ClusterProbe.Service.Response
import ClusterProbe.Suite.Reader

/-!
# The order of entries and fields

The fields of a request, of an expected response and of a test case are kept apart while they are
read, each in its own place, so they may come in any order. Main statement: documents that differ only
in the order of entries whose keys are distinct, at any depth, hold the same values and the same test
cases, and so everything that is made of these is the same.
-/

namespace ClusterProbe

open Yaml

/-- A field of what is read from a mapping: its name, where it is kept, and how it is read. -/
structure Field (σ : Type) where
  name : String
  Value : Type
  get : σ → Option Value
  set : σ → Option Value → σ
  read : Document → Nat → Place → Node → Reader Value

namespace Field

variable {σ : Type} {d d' : Document} {same : Nat → Nat → Prop}

/-- Fields that are kept in different places. -/
structure Apart (f g : Field σ) : Prop where
  get_set : ∀ s x, g.get (f.set s x) = g.get s
  set_get : ∀ s y, f.get (g.set s y) = f.get s
  comm : ∀ s x y, g.set (f.set s x) y = f.set (g.set s y) x

theorem Apart.symm {f g : Field σ} (h : f.Apart g) : g.Apart f :=
  ⟨h.set_get, h.get_set, fun s x y ↦ (h.comm s y x).symm⟩

instance : Std.Symm (Apart : Field σ → Field σ → Prop) := ⟨fun _ _ ↦ Apart.symm⟩

/-- A field whose value does not depend on the order of entries. -/
def ReadsAlike (f : Field σ) : Prop :=
  ∀ (same : Nat → Nat → Prop) (d d' : Document) (depth : Nat) (n n' : Node) (place place' : Place),
    d.Matches same d' → n.Reordered d same n' →
      Reader.Alike d.limit (f.read d depth place n) (f.read d' depth place' n')

/-- Reads the field with the given name; fields of other names mean nothing. -/
def readAmong (fields : List (Field σ)) (d : Document) (depth : Nat) (acc : σ) (key : String)
    (place : Place) (n : Node) : Reader σ :=
  match fields.find? fun f ↦ f.name = key with
  | some f => do return f.set acc (← Document.once key (f.get acc) (f.read d depth place n))
  | none => return acc

section ReadAmong

variable {fields : List (Field σ)} {depth : Nat}

theorem readAmong_of_forall_ne {key : String} (h : ∀ f ∈ fields, f.name ≠ key) (d : Document)
    (depth : Nat) (acc : σ) (place : Place) (n : Node) :
    readAmong fields d depth acc key place n = pure acc := by
  have hnone : fields.find? (fun f ↦ f.name = key) = none :=
    List.find?_eq_none.mpr fun f hf ↦ by simpa using h f hf
  rw [readAmong, hnone]

theorem alike_readAmong (hreads : ∀ f ∈ fields, f.ReadsAlike) (hd : d.Matches same d') {n n' : Node}
    (hn : n.Reordered d same n') (acc : σ) (key : String) (place place' : Place) :
    Reader.Alike d.limit (readAmong fields d depth acc key place n)
      (readAmong fields d' depth acc key place' n') := by
  unfold readAmong
  cases hfind : fields.find? fun f ↦ f.name = key with
  | none => exact .pure acc
  | some f =>
    have hf := hreads f (List.mem_of_find?_eq_some hfind)
    exact .bind (Document.alike_once (hf _ _ _ _ _ _ _ _ hd hn) ..) fun _ ↦ .pure _

theorem steady_readAmong (hreads : ∀ f ∈ fields, f.ReadsAlike) (d : Document) (depth : Nat) (acc : σ)
    (key : String) (place : Place) (n : Node) :
    (readAmong fields d depth acc key place n).Steady d.limit :=
  (alike_readAmong hreads (.refl d) (.refl d n) acc key place place).steady

/-- Fields that are apart from each other may come in any order. -/
theorem orderly_readAmong (hapart : fields.Pairwise Apart) (hreads : ∀ f ∈ fields, f.ReadsAlike)
    (hd : d.Matches same d') :
    Document.Orderly same d d' (readAmong fields d depth) (readAmong fields d' depth) where
  alike acc key place place' _ _ hn := alike_readAmong hreads hd hn acc key place place'
  steady := steady_readAmong hreads d depth
  comm acc key key' place place' n n' hne := by
    have hread := steady_readAmong hreads d depth acc key place n
    have hread' := steady_readAmong hreads d depth acc key' place' n'
    unfold readAmong at hread hread' ⊢
    cases hfind : fields.find? fun f ↦ f.name = key with
    | none =>
      simp only [pure_bind, bind_pure]
      exact .refl hread'
    | some f =>
      cases hfind' : fields.find? fun f ↦ f.name = key' with
      | none =>
        simp only [hfind, pure_bind, bind_pure] at hread ⊢
        exact .refl hread
      | some g =>
        have hf := List.mem_of_find?_eq_some hfind
        have hg := List.mem_of_find?_eq_some hfind'
        have hfg : f ≠ g := by
          rintro rfl
          have hkey : f.name = key := by simpa using List.find?_some hfind
          have hkey' : f.name = key' := by simpa using List.find?_some hfind'
          exact hne (hkey.symm.trans hkey')
        have happly : f.Apart g := hapart.forall hf hg hfg
        have honce := Document.alike_once (hreads f hf _ _ _ depth _ _ place place (.refl d)
          (.refl d n)) key (f.get acc)
        have honce' := Document.alike_once (hreads g hg _ _ _ depth _ _ place' place' (.refl d)
          (.refl d n')) key' (g.get acc)
        simp only [bind_assoc, pure_bind, happly.get_set, happly.set_get, happly.comm]
        exact .comm honce.steady honce'.steady fun _ _ ↦ .pure _

end ReadAmong

end Field

namespace Suite

/-- The fields of a request. -/
def requestFields : List (Field RequestDraft) := [
  ⟨"method", String, (·.method), fun s x ↦ { s with method := x },
    fun d _ place n ↦ d.text aString place n⟩,
  ⟨"url", String, (·.url), fun s x ↦ { s with url := x }, fun d _ place n ↦ d.text aString place n⟩,
  ⟨"queries", List (String × Json), (·.queries), fun s x ↦ { s with queries := x },
    fun d depth place n ↦ d.entries depth place n⟩,
  ⟨"headers", List (String × Json), (·.headers), fun s x ↦ { s with headers := x },
    fun d depth place n ↦ d.entries depth place n⟩,
  ⟨"body", Option Json, (·.body), fun s x ↦ { s with body := x },
    fun d depth place n ↦ d.valueOrNone depth place n⟩]

/-- The fields of an expected response. -/
def responseFields : List (Field ResponseDraft) := [
  ⟨"status_code", Nat, (·.statusCode), fun s x ↦ { s with statusCode := x },
    fun d _ place n ↦ d.natural 16 "u16" place n⟩,
  ⟨"headers", List (String × Json), (·.headers), fun s x ↦ { s with headers := x },
    fun d depth place n ↦ d.entries depth place n⟩,
  ⟨"body", Option Json, (·.body), fun s x ↦ { s with body := x },
    fun d depth place n ↦ d.valueOrNone depth place n⟩]

/-- The fields of a test case. -/
def caseFields : List (Field CaseDraft) := [
  ⟨"name", String, (·.name), fun s x ↦ { s with name := x },
    fun d _ place n ↦ d.text aString place n⟩,
  ⟨"context", List String, (·.context), fun s x ↦ { s with context := x },
    fun d depth place n ↦ d.sequence (fun _ place n ↦ d.text aString place n) depth place n⟩,
  ⟨"request", RequestSpec, (·.request), fun s x ↦ { s with request := x }, request⟩,
  ⟨"response", ExpectedResponse, (·.response), fun s x ↦ { s with response := x }, response⟩]

/-- Fields with places of their own are apart. -/
theorem requestFields_apart : requestFields.Pairwise Field.Apart := by
  simp only [requestFields, List.pairwise_cons, List.forall_mem_cons]
  refine ⟨⟨?_, ?_, ?_, ?_, by simp⟩, ⟨?_, ?_, ?_, by simp⟩, ⟨?_, ?_, by simp⟩, ⟨?_, by simp⟩,
    by simp, .nil⟩ <;>
    exact ⟨fun _ _ ↦ rfl, fun _ _ ↦ rfl, fun _ _ _ ↦ rfl⟩

theorem responseFields_apart : responseFields.Pairwise Field.Apart := by
  simp only [responseFields, List.pairwise_cons, List.forall_mem_cons]
  refine ⟨⟨?_, ?_, by simp⟩, ⟨?_, by simp⟩, by simp, .nil⟩ <;>
    exact ⟨fun _ _ ↦ rfl, fun _ _ ↦ rfl, fun _ _ _ ↦ rfl⟩

theorem caseFields_apart : caseFields.Pairwise Field.Apart := by
  simp only [caseFields, List.pairwise_cons, List.forall_mem_cons]
  refine ⟨⟨?_, ?_, ?_, by simp⟩, ⟨?_, ?_, by simp⟩, ⟨?_, by simp⟩, by simp, .nil⟩ <;>
    exact ⟨fun _ _ ↦ rfl, fun _ _ ↦ rfl, fun _ _ _ ↦ rfl⟩

/-- A request is read field by field. -/
theorem request_eq (d : Document) (depth : Nat) (place : Place) (n : Node) :
    request d depth place n = d.mapping "struct RequestSpec" aField
      (⟨none, none, none, none, none⟩ : RequestDraft) (Field.readAmong requestFields d)
      (fun draft ↦ do
        let url ← Document.required "url" draft.url
        return ⟨draft.method.getD "GET", url, draft.queries.getD [], draft.headers.getD [],
          draft.body.getD none⟩) depth place n := by
  unfold request
  congr 1
  funext depth draft field place n
  split
  · rfl
  · rfl
  · rfl
  · rfl
  · rfl
  next h₁ h₂ h₃ h₄ h₅ =>
    refine (Field.readAmong_of_forall_ne ?_ ..).symm
    simpa [requestFields, eq_comm] using ⟨h₁, h₂, h₃, h₄, h₅⟩

/-- An expected response is read field by field. -/
theorem response_eq (d : Document) (depth : Nat) (place : Place) (n : Node) :
    response d depth place n = d.mapping "struct ExpectedResponse" aField
      (⟨none, none, none⟩ : ResponseDraft) (Field.readAmong responseFields d)
      (fun draft ↦
        return ⟨draft.statusCode.getD ExpectedResponse.standard.statusCode,
          draft.headers.getD [], draft.body.getD none⟩) depth place n := by
  unfold response
  congr 1
  funext depth draft field place n
  split
  · rfl
  · rfl
  · rfl
  next h₁ h₂ h₃ =>
    refine (Field.readAmong_of_forall_ne ?_ ..).symm
    simpa [responseFields, eq_comm] using ⟨h₁, h₂, h₃⟩

/-- A test case is read field by field. -/
theorem testCase_eq (d : Document) (depth : Nat) (place : Place) (n : Node) :
    testCase d depth place n = d.mapping "struct TestCase" aField
      (⟨none, none, none, none⟩ : CaseDraft) (Field.readAmong caseFields d)
      (fun draft ↦ do
        let name ← Document.required "name" draft.name
        let request ← Document.required "request" draft.request
        return ⟨name, draft.context.getD [], request,
          draft.response.getD ExpectedResponse.standard⟩) depth place n := by
  unfold testCase
  congr 1
  funext depth draft field place n
  split
  · rfl
  · rfl
  · rfl
  · rfl
  next h₁ h₂ h₃ h₄ =>
    refine (Field.readAmong_of_forall_ne ?_ ..).symm
    simpa [caseFields, eq_comm] using ⟨h₁, h₂, h₃, h₄⟩

variable {d d' : Document} {same : Nat → Nat → Prop} {n n' : Node}

theorem alike_request (hd : d.Matches same d') (hn : n.Reordered d same n') (depth : Nat)
    (place place' : Place) :
    Reader.Alike d.limit (request d depth place n) (request d' depth place' n') := by
  have hreads : ∀ f ∈ requestFields, f.ReadsAlike := by
    simp only [requestFields, List.forall_mem_cons]
    exact ⟨fun _ _ _ _ _ _ place place' hd hn ↦ Document.alike_text hd hn _ _ place place',
      fun _ _ _ _ _ _ place place' hd hn ↦ Document.alike_text hd hn _ _ place place',
      fun _ _ _ depth _ _ place place' hd hn ↦ Document.alike_entries hd hn depth place place',
      fun _ _ _ depth _ _ place place' hd hn ↦ Document.alike_entries hd hn depth place place',
      fun _ _ _ depth _ _ place place' hd hn ↦ Document.alike_valueOrNone hd hn depth place place',
      by simp⟩
  rw [request_eq, request_eq]
  refine Document.alike_mapping (fun depth ↦ ?_) (fun draft ↦ ?_) hd hn ..
  · exact Field.orderly_readAmong requestFields_apart hreads hd
  · exact (Document.steady_required "url" draft.url).bind fun _ ↦ .pure _

theorem alike_response (hd : d.Matches same d') (hn : n.Reordered d same n') (depth : Nat)
    (place place' : Place) :
    Reader.Alike d.limit (response d depth place n) (response d' depth place' n') := by
  have hreads : ∀ f ∈ responseFields, f.ReadsAlike := by
    simp only [responseFields, List.forall_mem_cons]
    exact ⟨fun _ _ _ _ _ _ place place' hd hn ↦ Document.alike_natural hd hn _ _ place place',
      fun _ _ _ depth _ _ place place' hd hn ↦ Document.alike_entries hd hn depth place place',
      fun _ _ _ depth _ _ place place' hd hn ↦ Document.alike_valueOrNone hd hn depth place place',
      by simp⟩
  rw [response_eq, response_eq]
  refine Document.alike_mapping (fun depth ↦ ?_) (fun draft ↦ .pure _) hd hn ..
  exact Field.orderly_readAmong responseFields_apart hreads hd

theorem alike_testCase (hd : d.Matches same d') (hn : n.Reordered d same n') (depth : Nat)
    (place place' : Place) :
    Reader.Alike d.limit (testCase d depth place n) (testCase d' depth place' n') := by
  have hreads : ∀ f ∈ caseFields, f.ReadsAlike := by
    simp only [caseFields, List.forall_mem_cons]
    exact ⟨fun _ _ _ _ _ _ place place' hd hn ↦ Document.alike_text hd hn _ _ place place',
      fun _ _ _ depth _ _ place place' hd hn ↦ Document.alike_sequence hd hn
        (fun _ _ _ hn place place' ↦ Document.alike_text hd hn _ _ place place') depth place place',
      fun _ _ _ depth _ _ place place' hd hn ↦ alike_request hd hn depth place place',
      fun _ _ _ depth _ _ place place' hd hn ↦ alike_response hd hn depth place place',
      by simp⟩
  rw [testCase_eq, testCase_eq]
  refine Document.alike_mapping (fun depth ↦ ?_) (fun draft ↦ ?_) hd hn ..
  · exact Field.orderly_readAmong caseFields_apart hreads hd
  · exact (Document.steady_required "name" draft.name).bind fun _ ↦
      (Document.steady_required "request" draft.request).bind fun _ ↦ .pure _

end Suite

/-- A result is the same whatever is made of errors. -/
theorem mapError_eq_ok_iff {ε ε' α : Type} {x : Except ε α} {f : ε → ε'} {a : α} :
    x.mapError f = .ok a ↔ x = .ok a := by
  cases x with
  | error e => exact iff_of_false (fun h ↦ by cases h) fun h ↦ by cases h
  | ok b =>
    refine ⟨fun h ↦ ?_, fun h ↦ ?_⟩
    · rw [Except.ok.inj h]
    · rw [Except.ok.inj h]
      rfl

/-- Results are the same up to their errors if the same is a result of both. -/
theorem toOption_congr {ε α : Type} {x y : Except ε α} (h : ∀ a, x = .ok a ↔ y = .ok a) :
    x.toOption = y.toOption := by
  cases x with
  | ok a => rw [(h a).mp rfl]
  | error e =>
    cases y with
    | ok a =>
      have hnever := (h a).mpr rfl
      cases hnever
    | error e' => rfl

namespace Yaml.Document

variable {d d' : Document}

/-- What is read of a document is read of another one if the roots are read alike. -/
theorem read_eq_ok_iff {α : Type} {reader reader' : Nat → Place → Node → Reader α}
    (h : Reader.Alike d.limit (reader nestingLimit [] d.root) (reader' nestingLimit [] d'.root))
    (a : α) : d.read reader = .ok a ↔ d'.read reader' = .ok a := by
  have hread (r : Reader α) : (r.run 0).map Prod.fst = .ok a ↔ ∃ after, r.run 0 = .ok (a, after) := by
    cases r.run 0 with
    | error e => exact iff_of_false (fun h ↦ by cases h) fun ⟨_, h⟩ ↦ by cases h
    | ok result =>
      refine ⟨fun hok ↦ ⟨result.2, ?_⟩, fun ⟨after, hok⟩ ↦ ?_⟩
      · rw [← Except.ok.inj hok]
      · rw [Except.ok.inj hok]
        rfl
  rw [read, read, hread, hread]
  exact exists_congr fun after ↦ h.agree 0 (a, after)

theorem Reordered.exists_matches (h : d.Reordered d') :
    ∃ same, d.Matches same d' ∧ d.root.Reordered d same d'.root := by
  obtain ⟨same, hroot, htargets⟩ := h.exists_same
  exact ⟨same, ⟨hroot.weight_eq, htargets⟩, hroot⟩

/-- The values of a document do not depend on the order of entries. -/
theorem values_ofDocument_iff (h : d.Reordered d') (v : Values) :
    Values.ofDocument d = .ok v ↔ Values.ofDocument d' = .ok v := by
  obtain ⟨same, hd, hroot⟩ := h.exists_matches
  have hofDocument (d : Document) : Values.ofDocument d = .ok v ↔
      ∃ j, d.read d.value = .ok j ∧ Values.ofJson? j = .ok v := by
    unfold Values.ofDocument
    cases d.read d.value <;> simp
  rw [hofDocument, hofDocument]
  exact exists_congr fun j ↦ and_congr_left fun _ ↦
    read_eq_ok_iff (readsAlike nestingLimit _ _ _ _ _ [] [] hd hroot) j

/-- The test cases of a document do not depend on the order of entries. -/
theorem suite_ofDocument_iff (h : d.Reordered d') (cases : List TestCase) :
    Suite.ofDocument d = .ok cases ↔ Suite.ofDocument d' = .ok cases := by
  obtain ⟨same, hd, hroot⟩ := h.exists_matches
  have hofDocument (d : Document) : Suite.ofDocument d = .ok cases ↔
      d.read (d.sequence (Suite.testCase d)) = .ok cases := mapError_eq_ok_iff
  rw [hofDocument, hofDocument]
  exact read_eq_ok_iff (alike_sequence hd hroot (fun depth _ _ hn place place' ↦
    Suite.alike_testCase hd hn depth place place') nestingLimit [] []) cases

/-- Documents that differ only in the order of entries hold the same values and the same test cases,
or neither holds any. So every template renders to the same text or fails with the same error, and
every test case sends the same request and says the same of every response. -/
theorem same_of_reordered (h : d.Reordered d') :
    (∀ v, Values.ofDocument d = .ok v ↔ Values.ofDocument d' = .ok v) ∧
      (∀ cases, Suite.ofDocument d = .ok cases ↔ Suite.ofDocument d' = .ok cases) ∧
      ∀ text text', Text.isAllBlank text = false → Text.isAllBlank text' = false →
        ofText? text = some d → ofText? text' = some d' →
        let values (text : String) := (Values.parse text).toOption
        let suite (text : String) := (Suite.parse text).toOption
        values text = values text' ∧ suite text = suite text' ∧
          (∀ identifier source,
            (values text).map (fun v ↦ Template.render identifier source v.toJson) =
              (values text').map fun v ↦ Template.render identifier source v.toJson) ∧
          ∀ response : Response,
            let seen (c : TestCase) := (Request.parameters c.request.queries,
              Request.headerList c.request.headers, Request.prepare c.request,
              response.check c.response)
            (suite text).map (List.map seen) = (suite text').map (List.map seen) := by
  have hvalues := values_ofDocument_iff h
  have hsuite := suite_ofDocument_iff h
  refine ⟨hvalues, hsuite, fun text text' hblank hblank' htext htext' ↦ ?_⟩
  have hparse : (Values.parse text).toOption = (Values.parse text').toOption := by
    refine toOption_congr fun v ↦ ?_
    rw [Values.parse, Values.parse, hblank, hblank', htext, htext']
    exact mapError_eq_ok_iff.trans ((hvalues v).trans mapError_eq_ok_iff.symm)
  have hcases : (Suite.parse text).toOption = (Suite.parse text').toOption := by
    refine toOption_congr fun cases ↦ ?_
    rw [Suite.parse, Suite.parse, hblank, hblank', htext, htext']
    exact mapError_eq_ok_iff.trans ((hsuite cases).trans mapError_eq_ok_iff.symm)
  refine ⟨hparse, hcases, fun identifier source ↦ ?_, fun response ↦ ?_⟩
  · dsimp only
    rw [hparse]
  · dsimp only
    rw [hcases]

section Reordered

/-- A text in quotes at a column of the first line. -/
def quotedAt (column : Nat) (text : String) : Node :=
  .scalar ⟨column, 0, column⟩ none .doubleQuoted text

/-- A mapping at a column of the first line. -/
def mappingAt (column : Nat) (entries : List (Node × Node)) : Node :=
  .mapping ⟨column, 0, column⟩ none entries

/-- The mapping that an alias stands for. -/
def shared : Node :=
  mappingAt 16 [(quotedAt 20 "p", quotedAt 25 "one"), (quotedAt 32 "q", quotedAt 37 "two")]

/-- The same mapping in another order and at another place. -/
def sharedReordered : Node :=
  mappingAt 6 [(quotedAt 10 "q", quotedAt 15 "two"), (quotedAt 22 "p", quotedAt 27 "one")]

/-- A document of one line, with an alias. -/
def oneLine : Document :=
  ⟨mappingAt 0 [(quotedAt 1 "c", quotedAt 6 "x"), (quotedAt 11 "a", shared),
    (quotedAt 45 "b", .alias ⟨50, 0, 50⟩ 0)], [⟨0, 1, shared⟩]⟩

/-- The same document in another order, outside and inside. -/
def oneLineReordered : Document :=
  ⟨mappingAt 0 [(quotedAt 1 "a", sharedReordered), (quotedAt 35 "c", quotedAt 40 "x"),
    (quotedAt 45 "b", .alias ⟨50, 0, 50⟩ 0)], [⟨0, 1, sharedReordered⟩]⟩

/-- The second document is the first one but for the order of entries. -/
theorem oneLine_reordered : oneLine.Reordered oneLineReordered := by
  let same (number number' : Nat) : Prop := number = 0 ∧ number' = 0
  have hinner : oneLine.DistinctKeys
      [(quotedAt 20 "p", quotedAt 25 "one"), (quotedAt 32 "q", quotedAt 37 "two")] := by
    simp [DistinctKeys, key?, resolved, quotedAt]
  have houter : oneLine.DistinctKeys [(quotedAt 1 "c", quotedAt 6 "x"), (quotedAt 11 "a", shared),
      (quotedAt 45 "b", .alias ⟨50, 0, 50⟩ 0)] := by
    simp [DistinctKeys, key?, resolved, quotedAt]
  have hshared : shared.Reordered oneLine same sharedReordered :=
    .mapping _ _ _ (.inr ⟨hinner, .swap ..⟩) (.cons (.scalar ..) (.cons (.scalar ..) .nil))
      (.cons (.scalar ..) (.cons (.scalar ..) .nil))
  refine ⟨same, ?_, ?_⟩
  · exact .mapping _ _ _ (.inr ⟨houter, .swap ..⟩)
      (.cons (.scalar ..) (.cons (.scalar ..) (.cons (.scalar ..) .nil)))
      (.cons hshared (.cons (.scalar ..) (.cons (.aliased _ _ ⟨rfl, rfl⟩) .nil)))
  · rintro _ _ ⟨rfl, rfl⟩
    exact .some hshared

/-- A text with the first document. -/
def oneLineText : String :=
  "\x7b\"c\": \"x\", \"a\": &n \x7b\"p\": \"one\", \"q\": \"two\"\x7d, \"b\": *n\x7d"

/-- A text with the second document. -/
def oneLineTextReordered : String :=
  "\x7b\"a\": &n \x7b\"q\": \"two\", \"p\": \"one\"\x7d, \"c\": \"x\", \"b\": *n\x7d"

/-- Two texts with these documents hold the same values. -/
theorem same_of_reordered_oneLine :
    oneLine.Reordered oneLineReordered ∧ ofText? oneLineText = some oneLine ∧
      ofText? oneLineTextReordered = some oneLineReordered ∧
      (Values.parse oneLineText).toOption = (Values.parse oneLineTextReordered).toOption ∧
      ∃ v, Values.ofDocument oneLine = .ok v ∧ Values.ofDocument oneLineReordered = .ok v := by
  have hsame := same_of_reordered oneLine_reordered
  have htext : ofText? oneLineText = some oneLine := by decide +kernel
  have htext' : ofText? oneLineTextReordered = some oneLineReordered := by decide +kernel
  have hparse := hsame.2.2 oneLineText oneLineTextReordered (by decide +kernel) (by decide +kernel)
    htext htext'
  have hsome : (Values.ofDocument oneLine).toOption.isSome = true := by decide +kernel
  cases hread : Values.ofDocument oneLine with
  | ok v => exact ⟨oneLine_reordered, htext, htext', hparse.1, v, rfl, (hsame.1 v).mp hread⟩
  | error e =>
    rw [hread] at hsome
    cases hsome

end Reordered

end Yaml.Document

end ClusterProbe
