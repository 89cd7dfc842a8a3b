import Turnstile.Proofs.Net.Host

/-! Where the service listens. The host and the port that are configured are joined by a colon and
read as one address: as the port has neither a colon nor a bracket, the last colon is the one that
joins them, so the host is read as it stands and the port comes back. -/

namespace Turnstile.Config

open Net

/-- What the host stands for: an address to bind, with the port that is configured, or none. -/
inductive Binds (c : Config) : Except ConfigError SocketAddress → Prop
  | ok {ip : Ip} {scope : ℕ} (h : IsHost c.host.toList ip scope) :
    Binds c (.ok ⟨ip, scope, c.port⟩)
  | invalid (h : ∀ ip scope, ¬ IsHost c.host.toList ip scope) :
    Binds c (.error (.invalid "HOST" c.host))

theorem toList_hostAndPort (c : Config) :
    (s!"{c.host}:{c.port}").toList = c.host.toList ++ ':' :: Nat.toDigits 10 c.port := by
  simp only [String.toList_append, List.append_assoc, Nat.toString_eq_ofList_toDigits,
    String.toList_ofList]
  rfl

theorem ofString?_hostAndPort {c : Config} (hport : c.port ≤ 65535) {a : SocketAddress} :
    SocketAddress.ofString? s!"{c.host}:{c.port}" = some a ↔
      IsHost c.host.toList a.ip a.scope ∧ a.port = c.port := by
  have hdigits := isNumber_toDigits hport
  rw [SocketAddress.ofString?_eq_some_iff, toList_hostAndPort]
  refine ⟨?_, ?_⟩
  · rintro ⟨host, ds, htext, hhost, hds⟩
    obtain ⟨rfl, rfl⟩ := last_cut_inj htext hdigits.colon_notMem hds.colon_notMem
    exact ⟨hhost, hds.value.trans hdigits.value.symm⟩
  · rintro ⟨hhost, ha⟩
    exact ⟨_, _, rfl, hhost, ha ▸ hdigits⟩

theorem bindAddress_eq_iff {c : Config} (hport : c.port ≤ 65535)
    {r : Except ConfigError SocketAddress} : c.bindAddress = r ↔ Binds c r := by
  have hbinds : ∀ r, c.bindAddress = r → Binds c r := by
    rintro r rfl
    unfold bindAddress
    split
    · rename_i a ha
      obtain ⟨hhost, hp⟩ := (ofString?_hostAndPort hport).1 ha
      obtain ⟨ip, scope, port⟩ := a
      obtain rfl : port = c.port := hp
      exact .ok hhost
    · rename_i hnone
      refine .invalid fun ip scope hhost => ?_
      rw [(ofString?_hostAndPort (a := ⟨ip, scope, c.port⟩) hport).2 ⟨hhost, rfl⟩] at hnone
      simp at hnone
  refine ⟨hbinds r, ?_⟩
  intro h
  cases h with
  | ok hhost =>
    have hread := (ofString?_hostAndPort (a := ⟨_, _, c.port⟩) hport).2 ⟨hhost, rfl⟩
    simp only [bindAddress, hread]
  | invalid hnot =>
    generalize hr : c.bindAddress = r
    cases hbinds r hr with
    | ok hhost => exact absurd hhost (hnot _ _)
    | invalid _ => rfl

/-- A host is bound with the port that is configured, and any other text is refused as it is: no
port within it is taken. -/
theorem bindAddress_of_host {c : Config} (hport : c.port ≤ 65535) :
    (∀ r, c.bindAddress = r ↔ Binds c r) ∧
      (IsStray c.host.toList → c.bindAddress = .error (.invalid "HOST" c.host)) := by
  refine ⟨fun r => bindAddress_eq_iff hport, ?_⟩
  intro hstray
  exact (bindAddress_eq_iff hport).2 (.invalid fun _ _ => hstray.not_isHost)

/-- A host of groups that are shortened, with octets at their end and a scope. -/
def boundConfig : Config :=
  ⟨"[1:2::a:4.5.6.7%007]", 8080, "keys/", "k", "authgate", 3600, 20, .pretty, none⟩

theorem bindAddress_of_host_shortened : boundConfig.port ≤ 65535 ∧
    boundConfig.bindAddress = .ok ⟨.v6 [1, 2, 0, 0, 0, 10, 0x405, 0x607], 7, 8080⟩ := by
  have hport : boundConfig.port ≤ 65535 := by decide
  have hhost : IsHost boundConfig.host.toList (.v6 [1, 2, 0, 0, 0, 10, 0x405, 0x607]) 7 :=
    @IsHost.v6 "1:2::a:4.5.6.7".toList "%007".toList _ 7 (ip6?_nil_iff.1 (by decide))
      (.number ⟨by decide, List.all_eq_true.1 (by decide), by decide, by decide⟩)
  exact ⟨hport, ((bindAddress_of_host hport).1 _).2 (.ok hhost)⟩

end Turnstile.Config
