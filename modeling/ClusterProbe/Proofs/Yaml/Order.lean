import ClusterProbe.Proofs.Json.Entries
import ClusterProbe.Proofs.Yaml.Effort

/-!
# The order of entries

A document can be written with its entries in another order. Aliases then have other numbers, and all
places are different. `Node.Reordered` says that one node is another one but for that. Main statement:
a value is read alike from both (`Document.readsAlike`), however deep the entries are that changed
places, and so is everything else that is read from a mapping whose entries may be read in any order
(`Document.Orderly`, `Document.alike_mapping`).
-/

namespace ClusterProbe.Yaml

namespace Document

/-- The node that a node stands for, if the alias may be followed that it is. -/
def resolved (d : Document) : Node → Node
  | .alias mark number => (d.target? number).getD (.absent mark)
  | n => n

/-- The text of a key; none if it is no scalar. -/
def key? (d : Document) (n : Node) : Option String :=
  match d.resolved n with
  | .scalar _ _ _ s => some s
  | _ => none

/-- The keys that are scalars have different texts. -/
def DistinctKeys (d : Document) (entries : List (Node × Node)) : Prop :=
  (entries.filterMap fun e ↦ d.key? e.1).Nodup

end Document

namespace Node

/-- The second of two nodes is the first one, but for the places of nodes and the order of entries:
those of a mapping in the document `d` may be in any order if their keys are distinct. An alias is
the same as another one if its number is. -/
inductive Reordered (d : Document) (same : Nat → Nat → Prop) : Node → Node → Prop
  | scalar (mark mark' : Mark) (tag : Option String) (style : Style) (text : String) :
      Reordered d same (.scalar mark tag style text) (.scalar mark' tag style text)
  | aliased (mark mark' : Mark) {number number' : Nat} (h : same number number') :
      Reordered d same (.alias mark number) (.alias mark' number')
  | sequence (mark mark' : Mark) (tag : Option String) {items items' : List Node}
      (h : List.Forall₂ (Reordered d same) items items') :
      Reordered d same (.sequence mark tag items) (.sequence mark' tag items')
  | mapping (mark mark' : Mark) (tag : Option String) {entries between entries' : List (Node × Node)}
      (order : between = entries ∨ d.DistinctKeys entries ∧ entries.Perm between)
      (keys : List.Forall₂ (Reordered d same) (between.map Prod.fst) (entries'.map Prod.fst))
      (values : List.Forall₂ (Reordered d same) (between.map Prod.snd) (entries'.map Prod.snd)) :
      Reordered d same (.mapping mark tag entries) (.mapping mark' tag entries')

/-- Induction over a node: what holds of a sequence if it holds of its items, of a mapping if it holds
of its keys and values, and of everything else, holds of every node. -/
@[elab_as_elim]
theorem induction {motive : Node → Prop}
    (scalar : ∀ mark tag style text, motive (.scalar mark tag style text))
    (aliased : ∀ mark number, motive (.alias mark number))
    (sequence : ∀ mark tag items, (∀ n ∈ items, motive n) → motive (.sequence mark tag items))
    (mapping : ∀ mark tag entries, (∀ e ∈ entries, motive e.1 ∧ motive e.2) →
      motive (.mapping mark tag entries)) (n : Node) : motive n := by
  refine @Node.rec motive (fun items ↦ ∀ n ∈ items, motive n)
    (fun entries ↦ ∀ e ∈ entries, motive e.1 ∧ motive e.2) (fun e ↦ motive e.1 ∧ motive e.2)
    scalar sequence mapping aliased ?noItem ?item ?noEntry ?entry (fun _ _ hk hv ↦ ⟨hk, hv⟩) n
  case noItem => simp
  case item => exact fun head tail hhead htail ↦ List.forall_mem_cons.mpr ⟨hhead, htail⟩
  case noEntry => simp
  case entry => exact fun head tail hhead htail ↦ List.forall_mem_cons.mpr ⟨hhead, htail⟩

/-- The weight of entries is that of their keys and of their values. -/
theorem weightEntries_eq (entries : List (Node × Node)) :
    weightEntries entries =
      weightItems (entries.map Prod.fst) + weightItems (entries.map Prod.snd) := by
  induction entries with
  | nil => rfl
  | cons e rest ih =>
    rw [weightEntries, ih, List.map_cons, List.map_cons, weightItems, weightItems]
    omega

/-- Nodes weigh the same in any order. -/
theorem weightItems_perm {nodes nodes' : List Node} (h : nodes.Perm nodes') :
    weightItems nodes' = weightItems nodes := by
  induction h with
  | nil => rfl
  | cons n _ ih => rw [weightItems, weightItems, ih]
  | swap m n rest =>
    simp only [weightItems]
    omega
  | trans _ _ ih ih' => exact ih'.trans ih

section Reordered

variable {d : Document} {same : Nat → Nat → Prop} {n n' : Node}

/-- Every node is itself, whatever the order of its entries. -/
theorem Reordered.refl (d : Document) (n : Node) : n.Reordered d (· = ·) n := by
  induction n using induction with
  | scalar mark tag style text => exact .scalar ..
  | aliased mark number => exact .aliased mark mark rfl
  | sequence mark tag items ih => exact .sequence mark mark tag (List.forall₂_same.mpr ih)
  | mapping mark tag entries ih =>
    refine .mapping mark mark tag (.inl rfl) (List.forall₂_same.mpr ?_) (List.forall₂_same.mpr ?_)
    · exact List.forall_mem_map.mpr fun e he ↦ (ih e he).1
    · exact List.forall_mem_map.mpr fun e he ↦ (ih e he).2

/-- Nodes that weigh the same, one by one, weigh the same altogether. -/
theorem weightItems_eq {nodes nodes' : List Node} (h : List.Forall₂ (Reordered d same) nodes nodes')
    (hweight : ∀ n ∈ nodes, ∀ n', Reordered d same n n' → weight n' = weight n) :
    weightItems nodes' = weightItems nodes := by
  induction h with
  | nil => rfl
  | cons hn _ ih =>
    obtain ⟨hfirst, hrest⟩ := List.forall_mem_cons.mp hweight
    rw [weightItems, weightItems, hfirst _ hn, ih hrest]

/-- The order of entries does not matter to the number of nodes. -/
theorem Reordered.weight_eq (h : n.Reordered d same n') : n'.weight = n.weight := by
  induction n using induction generalizing n' with
  | scalar mark tag style text =>
    cases h
    rfl
  | aliased mark number =>
    cases h
    rfl
  | sequence mark tag items ih =>
    cases h with
    | sequence _ mark' _ h =>
      rw [weight, weight, weightItems_eq h fun n hn n' ↦ ih n hn]
  | mapping mark tag entries ih =>
    cases h with
    | @mapping _ mark' _ _ between entries' order keys values =>
      have hperm : entries.Perm between := by
        rcases order with rfl | ⟨-, hperm⟩
        · exact .refl _
        · exact hperm
      have hkeys := weightItems_eq keys fun n hn n' ↦ by
        obtain ⟨e, he, rfl⟩ := List.mem_map.mp hn
        exact (ih e (hperm.mem_iff.mpr he)).1
      have hvalues := weightItems_eq values fun n hn n' ↦ by
        obtain ⟨e, he, rfl⟩ := List.mem_map.mp hn
        exact (ih e (hperm.mem_iff.mpr he)).2
      rw [weight, weight, weightEntries_eq, weightEntries_eq, hkeys, hvalues,
        weightItems_perm (hperm.map Prod.fst), weightItems_perm (hperm.map Prod.snd)]

end Reordered

end Node

namespace Document

/-- In the second of two documents there are the nodes of the first one behind aliases with the same
numbers, but for the order of entries, and aliases may be followed as often. -/
structure Matches (same : Nat → Nat → Prop) (d d' : Document) : Prop where
  weight : d'.root.weight = d.root.weight
  targets : ∀ number number', same number number' →
    Option.Rel (Node.Reordered d same) (d.target? number) (d'.target? number')

/-- The second of two documents is the first one but for the order of entries. -/
structure Reordered (d d' : Document) : Prop where
  exists_same : ∃ same : Nat → Nat → Prop, d.root.Reordered d same d'.root ∧
    ∀ number number', same number number' →
      Option.Rel (Node.Reordered d same) (d.target? number) (d'.target? number')

theorem Matches.refl (d : Document) : d.Matches (· = ·) d where
  weight := rfl
  targets number _ h := by
    subst h
    cases d.target? number with
    | none => exact .none
    | some n => exact .some (.refl d n)

/-- The number of aliases that may be followed. -/
def limit (d : Document) : Nat := 100 * d.root.weight

/-- Follows an alias, whatever it stands for. -/
def followOne (d : Document) : Reader Unit := fun count ↦
  if d.limit < count + 1 then .error .tooManyAliases else .ok ((), count + 1)

theorem follow_alias (d : Document) (mark : Mark) (number : Nat) :
    d.follow (.alias mark number) =
      d.followOne >>= fun _ ↦ pure ((d.target? number).getD (.absent mark)) := by
  funext count
  by_cases h : d.limit < count + 1
  · have hone : d.followOne count = .error .tooManyAliases := if_pos h
    refine (if_pos h).trans ?_
    change _ = (d.followOne count >>= _ : Except Fault (Node × Nat))
    rw [hone]
    rfl
  · have hone : d.followOne count = .ok ((), count + 1) := if_neg h
    refine (if_neg h).trans ?_
    change _ = (d.followOne count >>= _ : Except Fault (Node × Nat))
    rw [hone]
    rfl

theorem steady_followOne (d : Document) : d.followOne.Steady d.limit := by
  intro count a after hread
  have hrun (start : Nat) : d.followOne.run start =
    if d.limit < start + 1 then .error .tooManyAliases else .ok ((), start + 1) := rfl
  rw [hrun] at hread
  split at hread
  · cases hread
  next hle =>
    obtain ⟨rfl, rfl⟩ := Prod.mk.inj (Except.ok.inj hread)
    refine ⟨1, rfl, .inr (Nat.not_lt.mp hle), fun start hstart ↦ ?_⟩
    rw [hrun, if_neg (by omega)]

section Readers

variable {d d' : Document} {same : Nat → Nat → Prop} {α σ : Type} {n n' : Node}

/-- Documents that match have the same limit. -/
theorem Matches.limit_eq (h : d.Matches same d') : d'.limit = d.limit := by
  rw [limit, limit, h.weight]

/-- What is read of the nodes that two nodes stand for is alike if it is for all nodes that match. -/
theorem alike_follow_bind (hd : d.Matches same d') (h : n.Reordered d same n')
    {f f' : Node → Reader α}
    (hf : ∀ m m', m.Reordered d same m' → Reader.Alike d.limit (f m) (f' m')) :
    Reader.Alike d.limit (d.follow n >>= f) (d'.follow n' >>= f') := by
  cases h with
  | aliased mark mark' hsame =>
    rw [follow_alias, follow_alias, bind_assoc, bind_assoc]
    have hone : d'.followOne = d.followOne := by
      funext count
      rw [followOne, hd.limit_eq]
      rfl
    rw [hone]
    refine .bind (.refl d.steady_followOne) fun _ ↦ ?_
    rw [pure_bind, pure_bind]
    refine hf _ _ ?_
    have htargets := hd.targets _ _ hsame
    revert htargets
    generalize d.target? _ = target, d'.target? _ = target'
    rintro (h | _)
    · exact h
    · exact .scalar ..
  | scalar => exact hf _ _ (.scalar ..)
  | sequence mark mark' tag h => exact hf _ _ (.sequence mark mark' tag h)
  | mapping mark mark' tag order keys values =>
    exact hf _ _ (.mapping mark mark' tag order keys values)

/-- A node of the wrong kind is not read. -/
theorem fails_wrongKind (wanted : String) (n : Node) : (wrongKind wanted n : Reader α).Fails := by
  cases n with
  | scalar mark tag style s =>
    unfold wrongKind
    dsimp only
    split <;> exact .failWith _
  | _ => exact .failWith _

theorem alike_wrongKind (wanted wanted' : String) (n n' : Node) :
    Reader.Alike d.limit (wrongKind wanted n : Reader α) (wrongKind wanted' n') :=
  .of_fails (fails_wrongKind wanted n) (fails_wrongKind wanted' n')

theorem alike_failWith (c c' : Cause) : Reader.Alike d.limit (failWith c : Reader α) (failWith c') :=
  .of_fails (.failWith c) (.failWith c')

theorem alike_text (hd : d.Matches same d') (h : n.Reordered d same n') (wanted wanted' : String)
    (place place' : Place) :
    Reader.Alike d.limit (d.text wanted place n) (d'.text wanted' place' n') := by
  refine alike_follow_bind hd h fun m m' hm ↦ .located ?_ ..
  cases hm with
  | scalar => exact .pure _
  | _ => exact alike_wrongKind ..

theorem alike_natural (hd : d.Matches same d') (h : n.Reordered d same n') (bits : Nat)
    (wanted : String) (place place' : Place) :
    Reader.Alike d.limit (d.natural bits wanted place n) (d'.natural bits wanted place' n') := by
  refine alike_follow_bind hd h fun m m' hm ↦ .located ?_ ..
  cases hm with
  | scalar mark mark' tag style text =>
    dsimp only
    split
    · split
      · exact alike_wrongKind ..
      · split
        · exact .pure _
        · exact alike_failWith ..
    · exact alike_wrongKind ..
  | _ => exact alike_wrongKind ..

theorem alike_eachItem {items items' : List Node}
    (h : List.Forall₂ (Node.Reordered d same) items items') {read read' : Place → Node → Reader α}
    (hread : ∀ n n', n.Reordered d same n' → ∀ place place',
      Reader.Alike d.limit (read place n) (read' place' n'))
    (place place' : Place) (i i' : Nat) :
    Reader.Alike d.limit (eachItem read place i items) (eachItem read' place' i' items') := by
  induction h generalizing i i' with
  | nil => exact .pure []
  | cons hn _ ih =>
    exact .bind (hread _ _ hn _ _) fun v ↦ .bind (ih (i + 1) (i' + 1)) fun vs ↦ .pure (v :: vs)

/-- What is read where an empty scalar stands for an empty collection. -/
theorem alike_emptyScalar (h : n.Reordered d same n') {r r' : Reader α}
    (hr : Reader.Alike d.limit r r') (wanted : String) :
    Reader.Alike d.limit (if isEmptyScalar n then r else wrongKind wanted n)
      (if isEmptyScalar n' then r' else wrongKind wanted n') := by
  have hempty : isEmptyScalar n' = isEmptyScalar n := by
    cases h with
    | scalar mark mark' tag style text => cases style <;> rfl
    | _ => rfl
  rw [hempty]
  split
  · exact hr
  · exact alike_wrongKind ..

theorem alike_sequence (hd : d.Matches same d') (h : n.Reordered d same n')
    {read read' : Nat → Place → Node → Reader α}
    (hread : ∀ depth n n', n.Reordered d same n' → ∀ place place',
      Reader.Alike d.limit (read depth place n) (read' depth place' n'))
    (depth : Nat) (place place' : Place) :
    Reader.Alike d.limit (d.sequence read depth place n) (d'.sequence read' depth place' n') := by
  refine alike_follow_bind hd h fun m m' hm ↦ .located ?_ ..
  have hempty := alike_emptyScalar hm (.pure ([] : List α)) "a sequence"
  cases hm with
  | sequence mark mark' tag h =>
    cases depth with
    | zero => exact .of_fails (.throw _) (.throw _)
    | succ depth => exact alike_eachItem h (hread depth) ..
  | _ => exact hempty

/-! ### Entries -/

theorem steady_text (d : Document) (wanted : String) (place : Place) (n : Node) :
    (d.text wanted place n).Steady d.limit :=
  (alike_text (.refl d) (.refl d n) wanted wanted place place).steady

theorem eq_resolved_of_returns {m : Node} (h : (d.follow n).Returns m) : m = d.resolved n := by
  obtain ⟨count, after, hread⟩ := h
  cases n with
  | scalar | sequence | mapping => exact (Prod.mk.inj (Except.ok.inj hread)).1.symm
  | _ mark number =>
    rw [follow_alias] at hread
    obtain ⟨_, _, -, hpure⟩ := Reader.run_bind_eq_ok_iff.mp hread
    exact (Prod.mk.inj (Except.ok.inj hpure)).1.symm

/-- The text that is read of a key. -/
theorem key?_of_returns_text {wanted s : String} {place : Place}
    (h : (d.text wanted place n).Returns s) : d.key? n = some s := by
  obtain ⟨count, after, hread⟩ := h
  obtain ⟨m, between, hfollow, hread⟩ := Reader.run_bind_eq_ok_iff.mp hread
  obtain rfl := eq_resolved_of_returns ⟨_, _, hfollow⟩
  rw [Reader.Agree.located place _ _ between (s, after)] at hread
  rw [key?]
  cases hresolved : d.resolved n with
  | scalar mark tag style text =>
    rw [hresolved] at hread
    exact congrArg some (Prod.mk.inj (Except.ok.inj hread)).1
  | _ =>
    rw [hresolved] at hread
    exact absurd hread (fails_wrongKind _ _ _ _)

/-- What is done with one entry of a mapping. -/
def entry (d : Document) (wanted : String) (read : σ → String → Place → Node → Reader σ)
    (place : Place) (acc : σ) (e : Node × Node) : Reader σ := do
  let key ← d.text wanted place e.1
  read acc key (under place e.1) e.2

theorem eachEntry_cons (d : Document) (wanted : String)
    (read : σ → String → Place → Node → Reader σ) (place : Place) (acc : σ) (e : Node × Node)
    (rest : List (Node × Node)) :
    eachEntry d wanted read place acc (e :: rest) =
      d.entry wanted read place acc e >>= fun acc ↦ eachEntry d wanted read place acc rest := by
  rw [entry, bind_assoc]
  rfl

/-- How entries are read, in each of two documents: alike, and in either order if their keys are
different. -/
structure Orderly (same : Nat → Nat → Prop) (d d' : Document)
    (read read' : σ → String → Place → Node → Reader σ) : Prop where
  alike : ∀ acc key place place' n n', n.Reordered d same n' →
    Reader.Alike d.limit (read acc key place n) (read' acc key place' n')
  steady : ∀ acc key place n, (read acc key place n).Steady d.limit
  comm : ∀ acc key key' place place' n n', key ≠ key' →
    Reader.Alike d.limit (read acc key place n >>= fun acc ↦ read acc key' place' n')
      (read acc key' place' n' >>= fun acc ↦ read acc key place n)

variable {read read' : σ → String → Place → Node → Reader σ} {wanted : String} {place : Place}

namespace Orderly

theorem steady_entry (h : Orderly same d d' read read') (acc : σ) (e : Node × Node) :
    (d.entry wanted read place acc e).Steady d.limit :=
  (d.steady_text wanted place e.1).bind fun key ↦ h.steady acc key _ _

theorem steady_eachEntry (h : Orderly same d d' read read') (acc : σ)
    (entries : List (Node × Node)) :
    (eachEntry d wanted read place acc entries).Steady d.limit := by
  induction entries generalizing acc with
  | nil => exact .pure acc
  | cons e rest ih =>
    rw [eachEntry_cons]
    exact (h.steady_entry acc e).bind ih

/-- Two entries with different keys may change places. -/
theorem comm_entry (h : Orderly same d d' read read') {e f : Node × Node}
    (hkeys : ∀ s, d.key? e.1 = some s → d.key? f.1 ≠ some s) (acc : σ) :
    Reader.Alike d.limit
      (d.entry wanted read place acc e >>= fun acc ↦ d.entry wanted read place acc f)
      (d.entry wanted read place acc f >>= fun acc ↦ d.entry wanted read place acc e) := by
  have he := d.steady_text wanted place e.1
  have hf := d.steady_text wanted place f.1
  have hread (acc : σ) (key : String) (n : Node × Node) := h.steady acc key (under place n.1) n.2
  -- Both keys first, then the values one after the other, and the keys back in their places.
  have hkeysFirst := Reader.Alike.bind (.refl he) fun key ↦ .comm (hread acc key e) hf
    fun acc key' ↦ hread acc key' f
  have hvalues := Reader.Alike.bind_of_returns (.refl he) fun key hkey ↦
    .bind_of_returns (.refl hf) fun key' hkey' ↦ h.comm acc key key' (under place e.1)
      (under place f.1) e.2 f.2 fun heq ↦ hkeys key (key?_of_returns_text hkey)
        (heq ▸ key?_of_returns_text hkey')
  have hkeys' := Reader.Alike.comm he hf fun key key' ↦
    (hread acc key' f).bind fun acc ↦ hread acc key e
  have hkeysBack := Reader.Alike.bind (.refl hf) fun key' ↦ .comm he (hread acc key' f)
    fun key acc ↦ hread acc key e
  simp only [entry, bind_assoc]
  exact ((hkeysFirst.trans hvalues).trans hkeys').trans hkeysBack

/-- Entries with distinct keys may be read in any order. -/
theorem eachEntry_perm (h : Orderly same d d' read read') {entries between : List (Node × Node)}
    (hperm : entries.Perm between) (hdistinct : d.DistinctKeys entries) (acc : σ) :
    Reader.Alike d.limit (eachEntry d wanted read place acc entries)
      (eachEntry d wanted read place acc between) := by
  induction hperm generalizing acc with
  | nil => exact .pure acc
  | cons e _ ih =>
    rw [eachEntry_cons, eachEntry_cons]
    refine .bind (.refl (h.steady_entry acc e)) (ih ?_)
    exact hdistinct.sublist ((List.sublist_cons_self e _).filterMap _)
  | swap e f rest =>
    have hkeys (s : String) (hf : d.key? f.1 = some s) : d.key? e.1 ≠ some s := by
      intro he
      simp [DistinctKeys, hf, he] at hdistinct
    simp only [eachEntry_cons, ← bind_assoc]
    exact .bind (h.comm_entry hkeys acc) fun acc ↦ .refl (h.steady_eachEntry acc rest)
  | trans hfirst _ ih ih' =>
    exact (ih hdistinct acc).trans (ih' ((hfirst.filterMap _).nodup_iff.mp hdistinct) acc)

/-- Entries that match one by one are read alike. -/
theorem alike_eachEntry_pointwise (h : Orderly same d d' read read') (hd : d.Matches same d')
    {entries entries' : List (Node × Node)}
    (keys : List.Forall₂ (Node.Reordered d same) (entries.map Prod.fst) (entries'.map Prod.fst))
    (values : List.Forall₂ (Node.Reordered d same) (entries.map Prod.snd) (entries'.map Prod.snd))
    (wanted wanted' : String) (place place' : Place) (acc : σ) :
    Reader.Alike d.limit (eachEntry d wanted read place acc entries)
      (eachEntry d' wanted' read' place' acc entries') := by
  induction entries generalizing entries' acc with
  | nil =>
    obtain rfl := List.map_eq_nil_iff.mp (List.forall₂_nil_left_iff.mp keys)
    exact .pure acc
  | cons e rest ih =>
    cases entries' with
    | nil => cases keys
    | cons e' rest' =>
      obtain ⟨hkey, hkeys⟩ := List.forall₂_cons.mp keys
      obtain ⟨hvalue, hvalues⟩ := List.forall₂_cons.mp values
      rw [eachEntry_cons, eachEntry_cons]
      refine .bind ?_ fun acc ↦ ih hkeys hvalues acc
      exact .bind (alike_text hd hkey ..) fun key ↦ h.alike acc key _ _ _ _ hvalue

/-- The order of entries with distinct keys does not matter. -/
theorem alike_eachEntry (h : Orderly same d d' read read') (hd : d.Matches same d')
    {entries between entries' : List (Node × Node)}
    (order : between = entries ∨ d.DistinctKeys entries ∧ entries.Perm between)
    (keys : List.Forall₂ (Node.Reordered d same) (between.map Prod.fst) (entries'.map Prod.fst))
    (values : List.Forall₂ (Node.Reordered d same) (between.map Prod.snd) (entries'.map Prod.snd))
    (wanted wanted' : String) (place place' : Place) (acc : σ) :
    Reader.Alike d.limit (eachEntry d wanted read place acc entries)
      (eachEntry d' wanted' read' place' acc entries') := by
  have hpointwise := h.alike_eachEntry_pointwise hd keys values wanted wanted' place place' acc
  rcases order with rfl | ⟨hdistinct, hperm⟩
  · exact hpointwise
  · exact (h.eachEntry_perm hperm hdistinct acc).trans hpointwise

end Orderly

/-- A mapping is read alike whatever the order of its entries. -/
theorem alike_mapping {read read' : Nat → σ → String → Place → Node → Reader σ}
    {finish : σ → Reader α} (hread : ∀ depth, Orderly same d d' (read depth) (read' depth))
    (hfinish : ∀ acc, (finish acc).Steady d.limit) (hd : d.Matches same d')
    (h : n.Reordered d same n') (wanted keys : String) (start : σ) (depth : Nat)
    (place place' : Place) :
    Reader.Alike d.limit (d.mapping wanted keys start read finish depth place n)
      (d'.mapping wanted keys start read' finish depth place' n') := by
  refine alike_follow_bind hd h fun m m' hm ↦ .located ?_ ..
  have hempty := alike_emptyScalar hm (.refl (hfinish start)) wanted
  cases hm with
  | mapping mark mark' tag order hkeys hvalues =>
    cases depth with
    | zero => exact .of_fails (.throw _) (.throw _)
    | succ depth =>
      exact .bind ((hread depth).alike_eachEntry hd order hkeys hvalues ..) fun acc ↦
        .refl (hfinish acc)
  | _ => exact hempty

/-! ### Values -/

theorem steady_scalarValue (s : Scalar) {limit : Nat} : (scalarValue s).Steady limit := by
  unfold scalarValue
  split
  · exact .pure _
  · exact .pure _
  · split
    · exact .pure _
    · exact (Reader.Fails.failWith _).steady
  · exact .pure _
  · exact .pure _
  · exact .pure _

/-- A mapping of values gets one more value. -/
def putValue (d : Document) (depth : Nat) (acc : List (String × Json)) (key : String)
    (place : Place) (n : Node) : Reader (List (String × Json)) := do
  return Json.insert key (← d.value depth place n) acc

/-- Values of one depth are read alike. -/
def ReadsAlike (depth : Nat) : Prop :=
  ∀ (same : Nat → Nat → Prop) (d d' : Document) (n n' : Node) (place place' : Place),
    d.Matches same d' → n.Reordered d same n' →
      Reader.Alike d.limit (d.value depth place n) (d'.value depth place' n')

theorem ReadsAlike.steady {depth : Nat} (h : ReadsAlike depth) (d : Document) (place : Place)
    (n : Node) : (d.value depth place n).Steady d.limit :=
  (h (· = ·) d d n n place place (.refl d) (.refl d n)).steady

/-- Values are put into a mapping in any order. -/
theorem ReadsAlike.orderly {depth : Nat} (h : ReadsAlike depth) (hd : d.Matches same d') :
    Orderly same d d' (d.putValue depth) (d'.putValue depth) where
  alike _ _ _ _ _ _ hn := .bind (h _ _ _ _ _ _ _ hd hn) fun _ ↦ .pure _
  steady _ _ place n := (h.steady d place n).bind fun _ ↦ .pure _
  comm acc key key' place place' n n' hne := by
    simp only [putValue, bind_assoc, pure_bind, Json.insert_comm hne]
    exact .comm (h.steady d place n) (h.steady d place' n') fun _ _ ↦ .pure _

/-- The value of a mapping with the given entries. -/
def valueOfEntries (d : Document) (depth : Nat) (place : Place) : List (Node × Node) → Reader Json
  | [] => return .object []
  | (k, v) :: rest => do
    let key ← d.text "a string key" place k
    let acc ← d.putValue depth [] key (under place k) v
    return .object (← eachEntry d "a string" (d.putValue depth) place acc rest)

/-- A mapping of values is read entry by entry, and the first key like the others. -/
theorem alike_valueOfEntries {depth : Nat} (h : ReadsAlike depth) (d : Document) (place : Place)
    (entries : List (Node × Node)) :
    Reader.Alike d.limit (d.valueOfEntries depth place entries)
      (eachEntry d "a string" (d.putValue depth) place [] entries >>=
        fun entries ↦ pure (Json.object entries)) := by
  have horderly := h.orderly (.refl d)
  cases entries with
  | nil => exact .pure _
  | cons e rest =>
    rw [eachEntry_cons, entry, bind_assoc, bind_assoc]
    refine .bind (alike_text (.refl d) (.refl d e.1) ..) fun key ↦ ?_
    refine .bind (.refl (horderly.steady [] key _ _)) fun acc ↦ ?_
    exact .bind (.refl (horderly.steady_eachEntry acc rest)) fun _ ↦ .pure _

/-- Values are read alike if the values one level down are. -/
theorem readsAlike_step {depth : Nat} (h : ∀ fewer, depth = fewer + 1 → ReadsAlike fewer) :
    ReadsAlike depth := by
  intro same d d' n n' place place' hd hn
  rw [value, value]
  refine alike_follow_bind hd hn fun m m' hm ↦ .located ?_ ..
  cases hm with
  | scalar mark mark' tag style text =>
    dsimp only
    split
    · exact alike_failWith ..
    · split
      · exact .refl (steady_scalarValue _)
      · exact alike_failWith ..
  | aliased => exact alike_failWith ..
  | sequence mark mark' tag hitems =>
    dsimp only
    split
    · exact alike_failWith ..
    · split
      · exact .of_fails (.throw _) (.throw _)
      next fewer =>
        refine .bind (alike_eachItem hitems (fun n n' hn place place' ↦ ?_) ..) fun _ ↦ .pure _
        exact h fewer rfl _ _ _ _ _ _ _ hd hn
  | @mapping mark mark' tag entries _ entries' order keys values =>
    dsimp only
    split
    · exact alike_failWith ..
    · split
      · exact .of_fails (.throw _) (.throw _)
      next fewer =>
        have hfewer := h fewer rfl
        have hentries := Reader.Alike.bind ((hfewer.orderly hd).alike_eachEntry hd order keys values
          "a string" "a string" place place' []) fun entries ↦ .pure (Json.object entries)
        have hback := (alike_valueOfEntries hfewer d' place' entries').symm
        rw [hd.limit_eq] at hback
        exact ((alike_valueOfEntries hfewer d place entries).trans hentries).trans hback

theorem readsAlike (depth : Nat) : ReadsAlike depth := by
  induction depth with
  | zero =>
    refine readsAlike_step fun fewer h ↦ ?_
    cases h
  | succ depth ih =>
    refine readsAlike_step fun fewer h ↦ ?_
    obtain rfl := Nat.succ.inj h
    exact ih

/-- A mapping of values is read alike whatever the order of its entries. -/
theorem alike_entries (hd : d.Matches same d') (hn : n.Reordered d same n') (depth : Nat)
    (place place' : Place) :
    Reader.Alike d.limit (d.entries depth place n) (d'.entries depth place' n') :=
  alike_mapping (fun depth ↦ (readsAlike depth).orderly hd) (fun acc ↦ .pure acc) hd hn ..

theorem alike_valueOrNone (hd : d.Matches same d') (hn : n.Reordered d same n') (depth : Nat)
    (place place' : Place) :
    Reader.Alike d.limit (d.valueOrNone depth place n) (d'.valueOrNone depth place' n') := by
  refine alike_follow_bind hd hn fun m m' hm ↦ ?_
  have hsome := Reader.Alike.bind (readsAlike depth same d d' m m' place place' hd hm)
    fun v ↦ .pure (some v)
  cases hm with
  | scalar mark mark' tag style text =>
    cases style with
    | plain =>
      cases tag with
      | none =>
        dsimp only
        split
        · exact .pure none
        · exact hsome
      | some tag =>
        dsimp only
        split
        · split
          · exact .pure none
          · exact alike_failWith ..
        · exact hsome
    | _ => exact hsome
  | _ => exact hsome

/-- A field that must not have been read before is read alike if its reader reads alike. -/
theorem alike_once {r r' : Reader α} {limit : Nat} (h : Reader.Alike limit r r') (name : String)
    (before : Option α) :
    Reader.Alike limit (once name before r) (once name before r') := by
  cases before with
  | some _ => exact .of_fails (.failWith _) (.failWith _)
  | none => exact .bind h fun v ↦ .pure (some v)

theorem steady_required {limit : Nat} (name : String) (field : Option α) :
    (required name field).Steady limit := by
  cases field with
  | some v => exact .pure v
  | none => exact (Reader.Fails.failWith _).steady

end Readers

end Document

end ClusterProbe.Yaml
