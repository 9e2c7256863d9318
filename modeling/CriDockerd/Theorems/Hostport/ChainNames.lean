import CriDockerd.Core.Checkpoint
import CriDockerd.Hostport.Basic

/-! The names of the chains of mappings. What is hashed for a name is four texts with nothing between them: the ID has a fixed
    length, the port ends at the first letter, and no protocol is the beginning of another. -/

namespace CriDockerd.Hostport
open Text

def hashed (id : Text) (pm : PortMapping) : Text := id ++ itoa pm.hostPort ++ pm.protocol ++ pm.hostIP

def truncatedHash (s : Text) : Text := (Digest.base32 (Digest.sha256 (utf8 s))).take 16

/-- What a chain is for. -/
def chainOwner (id : Text) (pm : PortMapping) : Text × Int × Text × Text := (id, pm.hostPort, pm.protocol, pm.hostIP)

/-- The hash tells the two texts apart if they differ. -/
def NoCollision (s t : Text) : Prop := truncatedHash s = truncatedHash t → s = t

instance (s t : Text) : Decidable (NoCollision s t) := inferInstanceAs (Decidable (_ → _))

/-- A mapping with a hostport, and a protocol as the checkpoint spells it. -/
structure Checkpointed (pm : PortMapping) : Prop where
  gathered : ∃ pod isIPv6, pm ∈ gatherHostportMappings pod isIPv6
  protocol : ∃ protocol, pm.protocol = Core.toCheckpointProtocol protocol

theorem getHostportChain_eq (id : Text) (pm : PortMapping) :
    getHostportChain id pm = kubeHostportChainPrefix ++ truncatedHash (hashed id pm) := rfl

theorem length_getHostportChain_le (id : Text) (pm : PortMapping) : (getHostportChain id pm).length ≤ 28 := by
  have htake : (truncatedHash (hashed id pm)).length ≤ 16 := by
    rw [truncatedHash, List.length_take]
    exact Nat.min_le_left _ _
  have hlength : kubeHostportChainPrefix.length = 8 := by decide
  rw [getHostportChain_eq, List.length_append, hlength]
  omega

theorem Checkpointed.hostPort_eq {pm : PortMapping} (h : Checkpointed pm) : ∃ port : Nat, pm.hostPort = port := by
  obtain ⟨pod, isIPv6, hmem⟩ := h.gathered
  have hport := (List.mem_filter.mp hmem).2
  simp only [Bool.and_eq_true, decide_eq_true_eq] at hport
  exact Int.eq_ofNat_of_zero_le (Int.le_of_lt hport.1)

theorem isDigit_head_protocol (protocol : Core.Protocol) (rest : Text) :
    ∀ c ∈ (Core.toCheckpointProtocol protocol ++ rest).head?, c.isDigit = false := by
  cases protocol <;> rintro _ ⟨⟩ <;> rfl

theorem protocol_append_inj {p q : Core.Protocol} {s t : Text}
    (h : Core.toCheckpointProtocol p ++ s = Core.toCheckpointProtocol q ++ t) :
    Core.toCheckpointProtocol p = Core.toCheckpointProtocol q ∧ s = t := by
  have heq : Core.toCheckpointProtocol p = Core.toCheckpointProtocol q := by
    have hhead := congrArg List.head? h
    cases p <;> cases q <;> first | rfl | cases hhead
  rw [heq] at h
  exact ⟨heq, List.append_cancel_left h⟩

theorem chainOwner_eq_of_hashed {id id' : Text} {pm pm' : PortMapping} (hid : (utf8 id).length = (utf8 id').length)
    (hpm : Checkpointed pm) (hpm' : Checkpointed pm') (h : hashed id pm = hashed id' pm') :
    chainOwner id pm = chainOwner id' pm' := by
  obtain ⟨port, hport⟩ := hpm.hostPort_eq
  obtain ⟨port', hport'⟩ := hpm'.hostPort_eq
  obtain ⟨protocol, hprotocol⟩ := hpm.protocol
  obtain ⟨protocol', hprotocol'⟩ := hpm'.protocol
  rw [hashed, hashed, hport, hport', hprotocol, hprotocol'] at h
  simp only [List.append_assoc] at h
  obtain ⟨rfl, htail⟩ := append_inj_of_length_utf8 h hid
  obtain ⟨rfl, hrest⟩ := itoa_append_inj (isDigit_head_protocol protocol _) (isDigit_head_protocol protocol' _) htail
  obtain ⟨hsame, hip⟩ := protocol_append_inj hrest
  rw [chainOwner, chainOwner, hport, hport', hprotocol, hprotocol', hsame, hip]

/-- For IDs of one length, what is hashed tells all four parts. So does the name, up to collisions of the hash, and it is short
    enough for iptables. -/
theorem getHostportChain_owner {n : Nat} {id id' : Text} {pm pm' : PortMapping} (hid : (utf8 id).length = n)
    (hid' : (utf8 id').length = n) (hpm : Checkpointed pm) (hpm' : Checkpointed pm') :
    (hashed id pm = hashed id' pm' → chainOwner id pm = chainOwner id' pm') ∧
      (NoCollision (hashed id pm) (hashed id' pm') → chainOwner id pm ≠ chainOwner id' pm' →
        getHostportChain id pm ≠ getHostportChain id' pm') ∧
      (getHostportChain id pm).length ≤ 28 ∧ (getHostportChain id' pm').length ≤ 28 := by
  have howner := chainOwner_eq_of_hashed (hid.trans hid'.symm) hpm hpm'
  refine ⟨howner, fun hcollision hne hchain => ?_, length_getHostportChain_le id pm, length_getHostportChain_le id' pm'⟩
  rw [getHostportChain_eq, getHostportChain_eq] at hchain
  exact hne (howner (hcollision (List.append_cancel_left hchain)))

/-- The same port of two protocols. -/
theorem getHostportChain_owner_tcp_udp :
    getHostportChain "testrdma-2" ⟨57119, 57119, "tcp", []⟩ ≠
      getHostportChain "testrdma-2" ⟨57119, 57119, "udp", []⟩ := by
  have hgathered (protocol : Core.Protocol) : Checkpointed ⟨57119, 57119, Core.toCheckpointProtocol protocol, []⟩ :=
    ⟨⟨⟨[], [], [⟨57119, 57119, Core.toCheckpointProtocol protocol, []⟩], false, []⟩, false, by
      simp [gatherHostportMappings]⟩, protocol, rfl⟩
  exact (getHostportChain_owner rfl rfl (hgathered .tcp) (hgathered .udp)).2.1 (by decide +kernel) (by decide)

end CriDockerd.Hostport
