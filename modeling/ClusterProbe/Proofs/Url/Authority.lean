import ClusterProbe.Url.Reader

/-!
# Hosts of the URLs that are read

Main statement: a URL of a special scheme has a host, so a request to an address of the web always
has somewhere to go.
-/

namespace ClusterProbe.Url

/-- A host of a special scheme is not empty. -/
theorem specialHost?_ne_nil {cs host : List Char} (h : specialHost? cs = some host) :
    host ≠ [] := by
  rw [specialHost?] at h
  split at h
  · rw [bracketed?] at h
    split at h
    · obtain ⟨groups, -, hhost⟩ := Option.bind_eq_some_iff.mp h
      obtain rfl := Option.some.inj hhost
      exact List.cons_ne_nil _ _
    · cases h
  · obtain ⟨name, -, hname⟩ := Option.bind_eq_some_iff.mp h
    split at hname
    · cases hname
    next hne =>
    split at hname
    · obtain ⟨n, -, hhost⟩ := Option.bind_eq_some_iff.mp hname
      obtain rfl := Option.some.inj hhost
      simp [address4Text, Text.join]
    · obtain rfl := Option.some.inj hname
      simpa using hne

/-- A URL with an authority has the scheme that was read, and in a special scheme it has a host. -/
theorem of_withAuthority? {scheme : List Char} {kind : SchemeKind} {cs : List Char} {u : Url}
    (h : withAuthority? scheme kind cs = some u) :
    u.scheme = scheme ∧ (kind = .special → u.host.isSome = true) := by
  rw [withAuthority?] at h
  obtain ⟨⟨username, password, r⟩, -, h⟩ := Option.bind_eq_some_iff.mp h
  dsimp only at h
  split at h
  next =>
    obtain ⟨host, hhost, h⟩ := Option.bind_eq_some_iff.mp h
    have hne := specialHost?_ne_nil hhost
    split at h
    · cases h
    split at h
    all_goals
      obtain ⟨port, -, h⟩ := Option.bind_eq_some_iff.mp h
      obtain rfl := Option.some.inj h
      exact ⟨rfl, fun _ ↦ by simp [hne]⟩
  next hkind =>
    obtain ⟨host, -, h⟩ := Option.bind_eq_some_iff.mp h
    split at h
    · cases h
    split at h
    all_goals
      obtain ⟨port, -, h⟩ := Option.bind_eq_some_iff.mp h
      obtain rfl := Option.some.inj h
      exact ⟨rfl, fun h ↦ absurd h hkind⟩

theorem scheme_of_fileUrl? {scheme cs : List Char} {u : Url} (h : fileUrl? scheme cs = some u) :
    u.scheme = scheme := by
  unfold fileUrl? at h
  dsimp only at h
  repeat' split at h
  all_goals
    obtain ⟨host, -, h⟩ := Option.bind_eq_some_iff.mp h
    obtain rfl := Option.some.inj h
    rfl

/-- A URL of a special scheme has a host. -/
theorem host_isSome_of_parse? {s : String} {u : Url} (h : parse? s = some u)
    (hspecial : schemeKind u.scheme = .special) : u.host.isSome = true := by
  rw [parse?] at h
  obtain ⟨⟨scheme, r⟩, -, h⟩ := Option.bind_eq_some_iff.mp h
  dsimp only at h
  split at h
  next =>
    exact (of_withAuthority? h).2 rfl
  next hkind =>
    rw [scheme_of_fileUrl? h, hkind] at hspecial
    cases hspecial
  next hkind =>
    have hscheme : u.scheme = scheme := by
      split at h
      · exact (of_withAuthority? h).1
      · obtain rfl := Option.some.inj h
        rfl
    rw [hscheme, hkind] at hspecial
    cases hspecial

end ClusterProbe.Url
