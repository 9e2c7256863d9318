import CriDockerd.Theorems.Hostport.CheckpointedPorts
import CriDockerd.Theorems.Hostport.Payload

/-! What `Add` asks of conntrack. A manager never notes that the conntrack binary was found, so it asks for nothing.
    If it did, a mapping of a checkpoint would still not be taken for a UDP one, since a checkpoint spells the
    protocol in lower case. -/

namespace CriDockerd.Hostport
open Text NetIP Store

variable {σ : Type} {env : Env σ} {s t : State σ}

/-- The UDP entries of exactly the UDP hostports of a pod are asked to be cleared, after the rules were restored. -/
def ClearsUDP (pod : PodPortMapping) (s t : State σ) : Prop :=
  ∃ (payload : Text) (made : List (Int × Bool)) (u : State σ), u.payloads = s.payloads ++ [payload] ∧ u.cleared = s.cleared ∧
    t = { u with cleared := u.cleared ++ made } ∧
    ∀ port v6, (port, v6) ∈ made ↔ v6 = isIPv6 pod.ip ∧
      ∃ pm ∈ gatherHostportMappings pod (isIPv6 pod.ip), toLower pm.protocol = "udp" ∧ pm.hostPort = port

/-! ### What a manager without conntrack asks for -/

theorem syncIPTables_cleared {lines : Text} {e : Option GoError} (h : syncIPTables env lines s = (e, t)) :
    t.cleared = s.cleared := by
  dsimp only [syncIPTables] at h
  split at h <;> cases h <;> rfl

theorem addLocked_cleared (hflag : env.conntrackFound = false) {id : Text} {pod : PodPortMapping} {pms : List PortMapping}
    (h : addLocked env id pod pms s = (none, t)) : t.cleared = s.cleared := by
  unfold addLocked at h
  split at h
  · cases h
  rename_i ports s₂ hopened
  have hopen := SameTables.openHostports env pod s
  rw [hopened] at hopen
  dsimp only at h
  split at h
  · exact absurd rfl (cleanUp_ne_none h)
  · split at h
    · exact absurd rfl (cleanUp_ne_none h)
    · rename_i s₃ hsync
      have hclear : clearConntrack env pms (isIPv6 pod.ip) s₃ = s₃ := by
        rw [clearConntrack, hflag, Bool.and_false]
        rfl
      rw [hclear] at h
      cases h
      exact (syncIPTables_cleared hsync).trans hopen.cleared

theorem add_cleared (hflag : env.conntrackFound = false) {id nat : Text} {pod : Option PodPortMapping}
    (h : add env id pod nat s = (none, t)) : t.cleared = s.cleared := by
  unfold add at h
  split at h
  · cases h
    rfl
  split at h
  · cases h
    rfl
  split at h
  · cases h
  dsimp only at h
  split at h
  · cases h
    rfl
  split at h
  · cases h
  split at h
  · cases h
  · have hlocked := addLocked_cleared hflag h
    exact hlocked

/-! ### Clearing -/

/-- An `Add` that installs hostports clears what it should exactly when none of them is a UDP port. -/
theorem add_clearsUDP_iff {iptables : IPTables σ} {net : List (Socket × HostPort) → Net} {close : Socket → Option GoError}
    {lookPath : Option GoError} {id nat : Text} {pod : PodPortMapping} (hnetwork : pod.hostNetwork = false)
    (hports : gatherHostportMappings pod (isIPv6 pod.ip) ≠ [])
    (h : add (newHostportManager iptables net close lookPath) id (some pod) nat s = (none, t)) :
    ClearsUDP pod s t ↔
      ∀ pm ∈ gatherHostportMappings pod (isIPv6 pod.ip), toLower pm.protocol ≠ "udp" := by
  have hcleared : t.cleared = s.cleared := add_cleared rfl h
  constructor
  · rintro ⟨payload, made, u, -, hbefore, rfl, hmade⟩ pm hpm hudp
    have hnone : made = [] := by
      have hlength := congrArg List.length hcleared
      rw [hbefore, List.length_append] at hlength
      exact List.eq_nil_of_length_eq_zero (Nat.add_left_cancel hlength)
    have hmem := (hmade pm.hostPort (isIPv6 pod.ip)).mpr ⟨rfl, pm, hpm, hudp, rfl⟩
    rw [hnone] at hmem
    cases hmem
  · intro hnone
    obtain ⟨payload, hpayload⟩ : ∃ payload, t.payloads = s.payloads ++ [payload] := by
      rcases add_tables h with ⟨-, hskip⟩ | ⟨p, e₁, t₁, -, -, -, -, -, -, hrest⟩
      · rcases hskip rfl pod rfl with htrue | hnil
        · rw [hnetwork] at htrue
          cases htrue
        · exact absurd hnil hports
      · rcases hrest with ⟨-, -, hne⟩ | ⟨-, ⟨err, -, -, hne⟩ | ⟨data, t₂, e', -, hpayload, -⟩⟩
        · exact absurd rfl hne
        · exact absurd rfl hne
        · exact ⟨_, hpayload⟩
    refine ⟨payload, [], t, hpayload, hcleared, by simp, fun port v6 => ?_⟩
    constructor
    · intro hmem
      cases hmem
    · rintro ⟨-, pm, hpm, hudp, -⟩
      exact absurd hudp (hnone pm hpm)

def conntrackHost : Env FakeTables := newHostportManager (fakeIPTables false FakeTable.walk) Net.ofSockets (fun _ => none) none

def onePortPod (protocol : Core.Protocol) (port : Int) : PodPortMapping :=
  ⟨"ns", "p", (onePortConfig protocol port).portMappings.map (·.checkpointed), false, v4InV6 ++ [10, 0, 0, 2]⟩

theorem add_clearsUDP_iff_tcp :
    ∃ t, add conntrackHost "c1" (some (onePortPod .tcp 9090)) [] (State.initial ∅) = (none, t) ∧
      ClearsUDP (onePortPod .tcp 9090) (State.initial ∅) t := by
  cases hadd : add conntrackHost "c1" (some (onePortPod .tcp 9090)) [] (State.initial ∅) with
  | mk e t =>
    have hnone : (add conntrackHost "c1" (some (onePortPod .tcp 9090)) [] (State.initial ∅)).1 = none := by
      decide +kernel
    rw [hadd] at hnone
    cases hnone
    refine ⟨t, rfl, (add_clearsUDP_iff rfl (by decide +kernel) hadd).mpr ?_⟩
    decide +kernel

/-- A sandbox with a UDP hostport is added, and conntrack is not asked for anything. It would not be if the manager
    knew of the binary. -/
theorem add_leaves_udp_entries :
    (∃ t, addCheckpointed (fun _ => []) conntrackHost "c1" (onePortConfig .udp 9090) (v4InV6 ++ [10, 0, 0, 2]) []
        (fun _ => none) (State.initial ∅) = some (none, t) ∧ t.cleared = [] ∧
      ¬ClearsUDP (onePortPod .udp 9090) (State.initial ∅) t) ∧
    (add { conntrackHost with conntrackFound := true } "c1" (some (onePortPod .udp 9090)) [] (State.initial ∅)).2.cleared =
      [] := by
  have heq := addCheckpointed_eq (fun _ => []) conntrackHost (onePortConfig_wellTyped .udp 9090 (by decide))
    (show validateKey "c1" = none by decide +kernel) (v4InV6 ++ [10, 0, 0, 2]) [] (fun _ => none) (State.initial ∅)
  refine ⟨?_, by decide +kernel⟩
  generalize hadd : add conntrackHost "c1" _ [] (State.initial ∅) = result at heq
  have hrun : result.1 = none ∧ result.2.cleared = [] := by
    rw [← hadd]
    decide +kernel
  obtain ⟨e, t⟩ := result
  obtain ⟨rfl, hcleared⟩ := hrun
  refine ⟨t, heq, hcleared, ?_⟩
  rintro ⟨payload, made, u, -, -, rfl, hmade⟩
  have hmem : ((9090 : Int), false) ∈ made := (hmade 9090 false).mpr (by decide +kernel)
  rw [(List.append_eq_nil_iff.mp hcleared).2] at hmem
  cases hmem

end CriDockerd.Hostport
