import ClusterProbe.Proofs.Json.Reading
import ClusterProbe.Suite.Reader

/-!
# Well-formed test cases

In a test case the mappings of names and the documents list their keys in order, each key once.
Main statement: every test case that is read is well-formed, whatever the order and the repetitions
in the text.
-/

namespace ClusterProbe

/-- Keys of the request's parameters and headers and of the mappings of its body are in order. -/
structure RequestSpec.WellFormed (r : RequestSpec) : Prop where
  queries : (Json.object r.queries).SortedKeys
  headers : (Json.object r.headers).SortedKeys
  body : ∀ v ∈ r.body, v.SortedKeys

/-- Keys of the expected headers and of the mappings of the expected body are in order. -/
structure ExpectedResponse.WellFormed (e : ExpectedResponse) : Prop where
  headers : (Json.object e.headers).SortedKeys
  body : ∀ v ∈ e.body, v.SortedKeys

/-- Keys are in order in all parts of the test case. -/
structure TestCase.WellFormed (c : TestCase) : Prop where
  request : c.request.WellFormed
  response : c.response.WellFormed

theorem Json.sortedKeys_empty : (object []).SortedKeys :=
  sortedKeys_object_iff.mpr ⟨.nil, by simp⟩

namespace Yaml

/-- Whatever is read, if anything is, satisfies `p`. -/
def Reader.Yields {α : Type} (r : Reader α) (p : α → Prop) : Prop :=
  ∀ count, ClusterProbe.Yields (r.run count) fun result ↦ p result.1

namespace Reader.Yields

variable {α β : Type} {p q : α → Prop}

theorem pure {a : α} (h : p a) : Reader.Yields (Pure.pure a) p := fun _ ↦ .ok h

theorem failWith (c : Cause) : Reader.Yields (Yaml.failWith c) p := fun _ ↦ .error _

theorem trivial (r : Reader α) : r.Yields fun _ ↦ True := fun _ ↦ .trivial _

theorem mono {r : Reader α} (h : r.Yields p) (hpq : ∀ a, p a → q a) : r.Yields q :=
  fun count ↦ (h count).mono fun result ↦ hpq result.1

theorem bind {r : Reader α} {f : α → Reader β} {p : β → Prop} (hr : r.Yields q)
    (hf : ∀ a, q a → (f a).Yields p) : Reader.Yields (r >>= f) p :=
  fun count ↦ (hr count).bind fun result hresult ↦ hf result.1 hresult result.2

theorem located {r : Reader α} (h : r.Yields p) (place : Place) (mark : Mark) :
    (Yaml.located place mark r).Yields p := by
  intro count result hresult
  refine h count result ?_
  rw [StateT.run, Yaml.located] at hresult
  split at hresult
  · cases hresult
  · exact hresult

end Reader.Yields

namespace Document

variable {α σ : Type} {p : α → Prop} {I : σ → Prop} (d : Document)

/-- A node of the wrong kind yields nothing. -/
theorem yields_wrongKind (wanted : String) (n : Node) : (wrongKind wanted n).Yields p := by
  cases n with
  | scalar mark tag style s =>
    unfold wrongKind
    dsimp only
    split <;> exact .failWith _
  | _ => exact .failWith _

theorem yields_eachItem {read : Place → Node → Reader α} (h : ∀ place n, (read place n).Yields p)
    (place : Place) (i : Nat) (items : List Node) :
    (eachItem read place i items).Yields fun vs ↦ ∀ v ∈ vs, p v := by
  induction items generalizing i with
  | nil => exact .pure (by simp)
  | cons n rest ih =>
    refine .bind (h _ n) fun v hv ↦ .bind (ih (i + 1)) fun vs hvs ↦ .pure ?_
    exact List.forall_mem_cons.mpr ⟨hv, hvs⟩

/-- What every entry keeps holds behind all of them. -/
theorem yields_eachEntry {wanted : String} {read : σ → String → Place → Node → Reader σ}
    (h : ∀ acc key place n, I acc → (read acc key place n).Yields I) (place : Place)
    {acc : σ} (hacc : I acc) (entries : List (Node × Node)) :
    (eachEntry d wanted read place acc entries).Yields I := by
  induction entries generalizing acc with
  | nil => exact .pure hacc
  | cons e rest ih =>
    exact .bind (.trivial _) fun key _ ↦ .bind (h acc key _ _ hacc) fun acc hacc ↦ ih hacc

theorem yields_sequence {read : Nat → Place → Node → Reader α}
    (h : ∀ depth place n, (read depth place n).Yields p) (depth : Nat) (place : Place) (n : Node) :
    (d.sequence read depth place n).Yields fun vs ↦ ∀ v ∈ vs, p v := by
  refine .bind (.trivial _) fun n _ ↦ .located ?_ _ _
  split
  · exact fun _ ↦ .error _
  · exact yields_eachItem (h _) _ _ _
  · split
    · exact .pure (by simp)
    · exact yields_wrongKind _ _

/-- What holds at the start of a mapping and is kept by its entries holds when it is finished. -/
theorem yields_mapping {wanted keys : String} {start : σ}
    {read : Nat → σ → String → Place → Node → Reader σ} {finish : σ → Reader α}
    (hstart : I start)
    (h : ∀ depth acc key place n, I acc → (read depth acc key place n).Yields I)
    (hfinish : ∀ acc, I acc → (finish acc).Yields p) (depth : Nat) (place : Place) (n : Node) :
    (d.mapping wanted keys start read finish depth place n).Yields p := by
  refine .bind (.trivial _) fun n _ ↦ .located ?_ _ _
  split
  · exact fun _ ↦ .error _
  · exact .bind (d.yields_eachEntry (h _) _ hstart _) hfinish
  · split
    · exact hfinish start hstart
    · exact yields_wrongKind _ _

/-- A field that is read once is none or what its reader yields. -/
theorem yields_once {name : String} {before : Option α} {read : Reader α} (h : read.Yields p) :
    (once name before read).Yields fun after ↦ ∀ v ∈ after, p v := by
  unfold once
  split
  · exact .failWith _
  · refine .bind h fun v hv ↦ .pure ?_
    simpa using hv

theorem yields_scalarValue (s : Scalar) : (scalarValue s).Yields Json.IsScalar := by
  unfold scalarValue
  split
  · exact .pure trivial
  · exact .pure trivial
  · split
    · exact .pure trivial
    · exact .failWith _
  · exact .pure trivial
  · exact .pure trivial
  · exact .pure trivial

/-- A property of values of a depth that a collection has, one level up, if its parts have it. -/
structure Inherited (q : Nat → Json → Prop) : Prop where
  scalar : ∀ depth v, v.IsScalar → q depth v
  array : ∀ depth items, (∀ v ∈ items, q depth v) → q (depth + 1) (.array items)
  empty : ∀ depth, q (depth + 1) (.object [])
  insert : ∀ depth key v entries, q depth v → q (depth + 1) (.object entries) →
    q (depth + 1) (.object (Json.insert key v entries))

section Inherited

variable {q : Nat → Json → Prop}

/-- If the values one level down have an inherited property, so has the value. -/
theorem yields_value_step (hq : Inherited q) {depth : Nat}
    (h : ∀ fewer, depth = fewer + 1 → ∀ place n, (d.value fewer place n).Yields (q fewer))
    (place : Place) (n : Node) : (d.value depth place n).Yields (q depth) := by
  rw [value]
  refine .bind (.trivial _) fun n _ ↦ .located ?_ _ _
  cases n with
  | scalar mark tag style s =>
    dsimp only
    split
    · exact .failWith _
    · split
      · exact (yields_scalarValue _).mono (hq.scalar depth)
      · exact .failWith _
  | sequence mark tag items =>
    dsimp only
    split
    · exact .failWith _
    · split
      · exact fun _ ↦ .error _
      next fewer =>
        exact .bind (yields_eachItem (h fewer rfl) _ _ _) fun vs hvs ↦ .pure (hq.array fewer vs hvs)
  | mapping mark tag entries =>
    dsimp only
    split
    · exact .failWith _
    · split
      · exact fun _ ↦ .error _
      next fewer =>
        have hput (acc : List (String × Json)) (key : String) (place : Place) (n : Node)
            (hacc : q (fewer + 1) (.object acc)) :
            Reader.Yields (do return Json.insert key (← d.value fewer place n) acc)
              fun acc ↦ q (fewer + 1) (.object acc) :=
          .bind (h fewer rfl place n) fun v hv ↦ .pure (hq.insert fewer key v acc hv hacc)
        split
        · exact .pure (hq.empty fewer)
        · refine .bind (.trivial _) fun key _ ↦ .bind (hput _ _ _ _ (hq.empty fewer)) ?_
          exact fun acc hacc ↦ .bind (d.yields_eachEntry hput _ hacc _) fun entries h ↦ .pure h
  | _ => exact .failWith _

/-- A value that is read has every inherited property. -/
theorem yields_value_inherited (hq : Inherited q) (depth : Nat) (place : Place) (n : Node) :
    (d.value depth place n).Yields (q depth) := by
  induction depth generalizing place n with
  | zero =>
    refine d.yields_value_step hq (fun fewer h ↦ ?_) place n
    cases h
  | succ depth ih =>
    refine d.yields_value_step hq (fun fewer h ↦ ?_) place n
    obtain rfl := Nat.succ.inj h
    exact ih

end Inherited

theorem inherited_sortedKeys : Inherited fun _ v ↦ v.SortedKeys where
  scalar _ v hv := by cases v <;> trivial
  array _ _ hitems := Json.sortedKeys_array_iff.mpr hitems
  empty _ := Json.sortedKeys_empty
  insert _ _ _ _ hv hentries := hentries.insert hv

/-- The mappings of a value that is read have their keys in order. -/
theorem yields_value (depth : Nat) (place : Place) (n : Node) :
    (d.value depth place n).Yields Json.SortedKeys :=
  d.yields_value_inherited inherited_sortedKeys depth place n

/-- One more entry keeps a mapping in order. -/
theorem yields_insert {acc : List (String × Json)} {key : String} {r : Reader Json}
    (hacc : (Json.object acc).SortedKeys) (h : r.Yields Json.SortedKeys) :
    Reader.Yields (do return Json.insert key (← r) acc) fun acc ↦ (Json.object acc).SortedKeys :=
  .bind h fun _ hv ↦ .pure (hacc.insert hv)

/-- A mapping of values is read with its keys in order. -/
theorem yields_entries (depth : Nat) (place : Place) (n : Node) :
    (d.entries depth place n).Yields fun entries ↦ (Json.object entries).SortedKeys :=
  let inOrder (acc : List (String × Json)) := (Json.object acc).SortedKeys
  d.yields_mapping (p := inOrder) (I := inOrder) Json.sortedKeys_empty
    (fun depth _ _ place n hacc ↦ yields_insert hacc (d.yields_value depth place n))
    (fun _ hacc ↦ .pure hacc) depth place n

theorem yields_valueOrNone (depth : Nat) (place : Place) (n : Node) :
    (d.valueOrNone depth place n).Yields fun v ↦ ∀ w ∈ v, w.SortedKeys := by
  have hsome (n : Node) :
      Reader.Yields (do return some (← d.value depth place n)) fun v ↦ ∀ w ∈ v, w.SortedKeys :=
    .bind (d.yields_value depth place n) fun v hv ↦ .pure (by simpa using hv)
  refine .bind (.trivial _) fun n _ ↦ ?_
  split
  · split
    · split
      · split
        · exact .pure (by simp)
        · exact .failWith _
      · exact hsome _
    · split
      · exact .pure (by simp)
      · exact hsome _
  · exact hsome _

end Document

end Yaml

namespace Suite

open Yaml

variable (d : Document)

/-- What has been read of a request is in order. -/
structure RequestDraft.InOrder (draft : RequestDraft) : Prop where
  queries : ∀ entries ∈ draft.queries, (Json.object entries).SortedKeys
  headers : ∀ entries ∈ draft.headers, (Json.object entries).SortedKeys
  body : ∀ body ∈ draft.body, ∀ v ∈ body, v.SortedKeys

/-- What has been read of an expected response is in order. -/
structure ResponseDraft.InOrder (draft : ResponseDraft) : Prop where
  headers : ∀ entries ∈ draft.headers, (Json.object entries).SortedKeys
  body : ∀ body ∈ draft.body, ∀ v ∈ body, v.SortedKeys

/-- What has been read of a test case is well-formed. -/
structure CaseDraft.WellFormed (draft : CaseDraft) : Prop where
  request : ∀ r ∈ draft.request, r.WellFormed
  response : ∀ e ∈ draft.response, e.WellFormed

/-- What holds of a field that was read and of its standard value holds of the field. -/
theorem getD_of_forall {α : Type} {p : α → Prop} {field : Option α} {standard : α}
    (h : ∀ v ∈ field, p v) (hstandard : p standard) : p (field.getD standard) := by
  cases field with
  | none => exact hstandard
  | some v => exact h v rfl

theorem yields_request (depth : Nat) (place : Place) (n : Node) :
    (request d depth place n).Yields RequestSpec.WellFormed := by
  refine d.yields_mapping (I := RequestDraft.InOrder) ⟨by simp, by simp, by simp⟩ ?_ ?_ depth
    place n
  · intro depth draft field place n hdraft
    split
    · exact .bind (.trivial _) fun _ _ ↦ .pure ⟨hdraft.queries, hdraft.headers, hdraft.body⟩
    · exact .bind (.trivial _) fun _ _ ↦ .pure ⟨hdraft.queries, hdraft.headers, hdraft.body⟩
    · exact .bind (Document.yields_once (d.yields_entries depth place n)) fun _ h ↦
        .pure ⟨h, hdraft.headers, hdraft.body⟩
    · exact .bind (Document.yields_once (d.yields_entries depth place n)) fun _ h ↦
        .pure ⟨hdraft.queries, h, hdraft.body⟩
    · exact .bind (Document.yields_once (d.yields_valueOrNone depth place n)) fun _ h ↦
        .pure ⟨hdraft.queries, hdraft.headers, h⟩
    · exact .pure hdraft
  · intro draft hdraft
    exact .bind (.trivial _) fun url _ ↦ .pure
      ⟨getD_of_forall hdraft.queries Json.sortedKeys_empty,
        getD_of_forall hdraft.headers Json.sortedKeys_empty,
        getD_of_forall hdraft.body (by simp)⟩

theorem yields_response (depth : Nat) (place : Place) (n : Node) :
    (response d depth place n).Yields ExpectedResponse.WellFormed := by
  refine d.yields_mapping (I := ResponseDraft.InOrder) ⟨by simp, by simp⟩ ?_ ?_ depth place n
  · intro depth draft field place n hdraft
    split
    · exact .bind (.trivial _) fun _ _ ↦ .pure ⟨hdraft.headers, hdraft.body⟩
    · exact .bind (Document.yields_once (d.yields_entries depth place n)) fun _ h ↦
        .pure ⟨h, hdraft.body⟩
    · exact .bind (Document.yields_once (d.yields_valueOrNone depth place n)) fun _ h ↦
        .pure ⟨hdraft.headers, h⟩
    · exact .pure hdraft
  · intro draft hdraft
    exact .pure ⟨getD_of_forall hdraft.headers Json.sortedKeys_empty,
      getD_of_forall hdraft.body (by simp)⟩

theorem yields_testCase (depth : Nat) (place : Place) (n : Node) :
    (testCase d depth place n).Yields TestCase.WellFormed := by
  refine d.yields_mapping (I := CaseDraft.WellFormed) ⟨by simp, by simp⟩ ?_ ?_ depth place n
  · intro depth draft field place n hdraft
    split
    · exact .bind (.trivial _) fun _ _ ↦ .pure ⟨hdraft.request, hdraft.response⟩
    · exact .bind (.trivial _) fun _ _ ↦ .pure ⟨hdraft.request, hdraft.response⟩
    · exact .bind (Document.yields_once (yields_request d depth place n)) fun _ h ↦
        .pure ⟨h, hdraft.response⟩
    · exact .bind (Document.yields_once (yields_response d depth place n)) fun _ h ↦
        .pure ⟨hdraft.request, h⟩
    · exact .pure hdraft
  · intro draft hdraft
    refine .bind (.trivial _) fun name _ ↦ ?_
    have hrequest : (Document.required "request" draft.request).Yields RequestSpec.WellFormed := by
      cases hdraft' : draft.request with
      | none => exact .failWith _
      | some r => exact .pure (hdraft.request r hdraft')
    refine .bind hrequest fun request hrequest ↦ .pure ⟨hrequest, ?_⟩
    exact getD_of_forall hdraft.response ⟨Json.sortedKeys_empty, by simp [ExpectedResponse.standard]⟩

/-- The test cases of a document are well-formed. -/
theorem yields_ofDocument : Yields (ofDocument d) fun cases ↦ ∀ c ∈ cases, c.WellFormed :=
  .mapError _ (.map (d.yields_sequence (yields_testCase d) _ _ _ 0))

/-- Every test case that is read is well-formed. -/
theorem wellFormed_of_parse {text : String} {cases : List TestCase} (h : parse text = .ok cases) :
    ∀ c ∈ cases, c.WellFormed := by
  have hparse : Yields (parse text) fun cases ↦ ∀ c ∈ cases, c.WellFormed := by
    unfold parse
    split
    · exact .ok (by simp)
    · split
      · exact .error _
      · exact .mapError _ (yields_ofDocument _)
  exact hparse cases h

end Suite

end ClusterProbe
