import CriDockerd.Theorems.Hostport.Sockets
import CriDockerd.Theorems.Sandbox.RoundTrip

/-! The way of a sandbox's port mappings from its config through the checkpoint to the hostport manager.
    A checkpoint spells the protocols in lower case, the manager compares with the upper case name, so
    `Add` asks the opener for an SCTP port as for any other, and the opener knows no SCTP. -/

namespace CriDockerd.Hostport
open Text NetIP Store

variable {σ : Type} {env : Env σ} {s t : State σ}

/-! ### Opening one hostport after another -/

/-- What the opener is asked for: it is asked until it refuses. -/
def asked (env : Env σ) : List HostPort → List (Socket × HostPort) → Socket → List HostPort
  | [], _, _ => []
  | hp :: rest, sockets, k =>
    hp :: match env.portOpener sockets hp with
      | some _ => []
      | none => asked env rest ((k, hp) :: sockets) (k + 1)

/-- The opener grants all of the hostports. -/
def grants (env : Env σ) : List HostPort → List (Socket × HostPort) → Socket → Bool
  | [], _, _ => true
  | hp :: rest, sockets, k => (env.portOpener sockets hp).isNone && grants env rest ((k, hp) :: sockets) (k + 1)

theorem asked_isPrefix (env : Env σ) (hps : List HostPort) (sockets : List (Socket × HostPort)) (k : Socket) :
    asked env hps sockets k <+: hps := by
  induction hps generalizing sockets k with
  | nil => exact List.prefix_rfl
  | cons hp rest ih =>
    rw [asked]
    split
    · exact ⟨rest, rfl⟩
    · exact List.cons_prefix_cons.mpr ⟨rfl, ih _ _⟩

/-- Exactly the first hostports are asked for when they are granted up to the last of them, and the last
    one is refused unless it is the end. -/
theorem asked_eq_iff {first hps : List HostPort} (h : first <+: hps) (sockets : List (Socket × HostPort)) (k : Socket) :
    asked env hps sockets k = first ↔
      grants env first.dropLast sockets k = true ∧ (grants env first sockets k = true → hps = first) := by
  induction hps generalizing first sockets k with
  | nil =>
    cases List.prefix_nil.mp h
    simp [asked, grants]
  | cons hp rest ih =>
    cases first with
    | nil => simp [asked, grants]
    | cons hp' first =>
      obtain ⟨rfl, hrest⟩ := List.cons_prefix_cons.mp h
      rw [asked, grants, List.cons_inj_right, List.cons_inj_right]
      cases hopen : env.portOpener sockets hp' with
      | some err =>
        -- The first hostport is refused: it must be the only one.
        cases first with
        | nil => simp [grants]
        | cons hp₂ first => simp [grants, hopen]
      | none =>
        rw [ih hrest]
        cases first with
        | nil => simp [grants]
        | cons hp₂ first => simp [grants, hopen]

/-- The hostports that `openHostports` asks for, as long as they are granted. -/
def wantedHostports (env : Env σ) (pms : List PortMapping) : List HostPort :=
  (pms.filter (wantsSocket env)).map (portMappingToHostport · (getIPFamily env))

theorem openLoop_requests (env : Env σ) (name : Text) (pms : List PortMapping) (ports : List (HostPort × Socket)) (s : State σ) :
    (openLoop env name pms ports s).2.2.requests =
      s.requests ++ asked env (wantedHostports env pms) s.sockets s.nextSocket := by
  induction pms generalizing ports s with
  | nil => exact (List.append_nil _).symm
  | cons pm rest ih =>
    cases hw : wantsSocket env pm with
    | false => rw [openLoop_skip hw, ih, wantedHostports, wantedHostports, List.filter_cons_of_neg (by simp [hw])]
    | true =>
      rw [openLoop_wanted hw, wantedHostports, List.filter_cons_of_pos hw, List.map_cons, asked]
      cases hopen : env.portOpener s.sockets (portMappingToHostport pm (getIPFamily env)) with
      | some err => simp only [openPort, hopen]
      | none =>
        simp only [openPort, hopen]
        rw [ih, List.append_assoc]
        rfl

/-! ### The rest of Add asks for nothing -/

theorem closeAll_requests (ports : List (HostPort × Socket)) (s : State σ) :
    (closeAll env ports s).requests = s.requests := by
  induction ports generalizing s with
  | nil => rfl
  | cons p rest ih =>
    rw [closeAll, ih, closeSocket]
    split <;> rfl

theorem closeLoop_requests (pms : List PortMapping) (errList : List (Option GoError)) (s : State σ) :
    (closeLoop env pms errList s).2.requests = s.requests := by
  induction pms generalizing errList s with
  | nil => rfl
  | cons pm rest ih =>
    dsimp only [closeLoop]
    split
    · exact ih _ _
    · rename_i socket hsocket
      rw [closeSocket]
      cases env.close socket with
      | some err => exact ih _ _
      | none => exact ih _ _

theorem cleanUp_requests (pms : List PortMapping) (err : GoError) (s : State σ) :
    (cleanUp env pms err s).2.requests = s.requests := closeLoop_requests pms [] s

theorem addLocked_requests {id : Text} {pod : PodPortMapping} {pms : List PortMapping} (s : State σ) :
    (addLocked env id pod pms s).2.requests =
      s.requests ++ asked env (wantedHostports env pod.portMappings) s.sockets s.nextSocket := by
  have hloop := openLoop_requests env (getPodFullName pod) pod.portMappings [] s
  rw [addLocked, openHostports]
  generalize openLoop env (getPodFullName pod) pod.portMappings [] s = result at hloop
  obtain ⟨_ | err, ports, u⟩ := result
  · dsimp only at hloop ⊢
    rw [← hloop]
    split
    · exact cleanUp_requests _ _ _
    · split
      · rename_i err v hsync
        rw [cleanUp_requests]
        dsimp only [syncIPTables] at hsync
        split at hsync <;> cases hsync
        rfl
      · rename_i v hsync
        rw [clearConntrack]
        dsimp only [syncIPTables] at hsync
        split at hsync <;> cases hsync
        split <;> rfl
  · exact (closeAll_requests _ _).trans hloop

/-- The pod's address is one of the manager's family, and the system chains can be set up. -/
def ReachesOpening (env : Env σ) (ip : IP) (natInterfaceName : Text) (s : State σ) : Prop :=
  to16 ip ≠ none ∧ isIPv6 ip = env.iptables.isIPv6 ∧ (ensureKubeHostportChains env.iptables natInterfaceName s.tables).1 = none

instance (ip : IP) (natInterfaceName : Text) : Decidable (ReachesOpening env ip natInterfaceName s) :=
  inferInstanceAs (Decidable (_ ∧ _ ∧ _))

theorem wantedHostports_nil {pod : PodPortMapping} (h : gatherHostportMappings pod env.iptables.isIPv6 = []) :
    wantedHostports env pod.portMappings = [] := by
  rw [gatherHostportMappings, List.filter_eq_nil_iff] at h
  rw [wantedHostports, List.map_eq_nil_iff, List.filter_eq_nil_iff]
  intro pm hpm hw
  refine h pm hpm ?_
  simp only [wantsSocket, Bool.and_eq_true] at hw ⊢
  exact ⟨hw.1.1, hw.2⟩

theorem add_requests (env : Env σ) (id : Text) (pod : PodPortMapping) (hpod : pod.hostNetwork = false)
    (natInterfaceName : Text) (s : State σ) :
    (add env id (some pod) natInterfaceName s).2.requests = s.requests ++
      if ReachesOpening env pod.ip natInterfaceName s then asked env (wantedHostports env pod.portMappings) s.sockets s.nextSocket
      else [] := by
  rw [add, hpod, if_neg Bool.false_ne_true]
  split
  · rename_i hip
    rw [if_neg fun hr => hr.1 hip, List.append_nil]
  rename_i hip
  dsimp only
  split
  · rename_i hnone
    split
    · rename_i hr
      rw [hr.2.1] at hnone
      rw [wantedHostports_nil hnone, asked, List.append_nil]
    · rw [List.append_nil]
  split
  · rename_i hfamily
    rw [if_neg fun hr => hfamily hr.2.1, List.append_nil]
  rename_i hfamily
  split
  · rename_i err tables hensure
    rw [if_neg, List.append_nil]
    rintro ⟨-, -, hr⟩
    rw [hensure] at hr
    cases hr
  · rename_i tables hensure
    rw [if_pos ⟨hip, not_not.mp hfamily, congrArg Prod.fst hensure⟩]
    exact addLocked_requests _

/-! ### From the config to the opener -/

/-- Writes the checkpoint of a sandbox, reads its port mappings back and adds them to the manager;
    nothing is added when the checkpoint cannot be written or read. -/
def addCheckpointed (spew : Core.CheckpointData → List UInt8) (env : Env σ) (id : Text) (config : Core.PodSandboxConfig)
    (ip : IP) (natInterfaceName : Text) (dir : Dir Core.Blob) (s : State σ) : Option (Option GoError × State σ) :=
  match createCheckpoint (Core.podSandboxCheckpoint spew) none id (Core.constructPodSandboxCheckpoint config) dir with
  | (.ok (), dir) =>
    match Core.getPodPortMappings spew ⟨none, none⟩ id dir with
    | (.ok portMappings, _) =>
      some (add env id (some ⟨config.metadata.namespace_, config.metadata.name, portMappings, false, ip⟩) natInterfaceName s)
    | _ => none
  | _ => none

/-- A mapping with a hostport of the manager's family. -/
def hasHostport (env : Env σ) (pm : Core.RuntimePortMapping) : Bool :=
  0 < pm.hostPort && (pm.hostIp == [] || isIPv6String pm.hostIp == env.iptables.isIPv6)

def hostportOf (env : Env σ) (pm : Core.RuntimePortMapping) : HostPort :=
  portMappingToHostport pm.checkpointed (getIPFamily env)

/-- The mappings of a config with a hostport of the manager's family. -/
def hostportMappings (env : Env σ) (config : Core.PodSandboxConfig) : List Core.RuntimePortMapping :=
  config.portMappings.filter (hasHostport env)

/-- Those of them that are for TCP or UDP; the runtime takes an unknown protocol for TCP. -/
def socketMappings (env : Env σ) (config : Core.PodSandboxConfig) : List Core.RuntimePortMapping :=
  (hostportMappings env config).filter fun pm => pm.protocol != .sctp

/-- The opener was asked for one socket for each TCP or UDP mapping, and for no SCTP socket. -/
def AsksForSockets (env : Env σ) (config : Core.PodSandboxConfig) (s t : State σ) : Prop :=
  ∃ made, t.requests = s.requests ++ made ∧ made.Perm ((socketMappings env config).map (hostportOf env)) ∧
    ∀ hp ∈ made, hp.protocol ≠ "sctp"

/-- No SCTP mapping comes before a TCP or UDP one, all sockets but the last are granted, and so is the
    last one only if no SCTP mapping comes after it. -/
def GrantedBeforeSCTP (env : Env σ) (config : Core.PodSandboxConfig) (s : State σ) : Prop :=
  socketMappings env config <+: hostportMappings env config ∧
  grants env ((socketMappings env config).map (hostportOf env)).dropLast s.sockets s.nextSocket = true ∧
  (grants env ((socketMappings env config).map (hostportOf env)) s.sockets s.nextSocket = true →
    hostportMappings env config = socketMappings env config)

theorem protocol_hostportOf {pm : Core.RuntimePortMapping} : (hostportOf env pm).protocol = "sctp" ↔ pm.protocol = .sctp := by
  show toLower (Core.toCheckpointProtocol pm.protocol) = _ ↔ _
  cases pm.protocol <;> simp [Core.toCheckpointProtocol, toLower, Core.protocolTCP, Core.protocolUDP, Core.protocolSCTP]

/-- The checkpoint's spelling of SCTP is not the manager's. -/
theorem wantsSocket_checkpointed (pm : Core.RuntimePortMapping) : wantsSocket env pm.checkpointed = hasHostport env pm := by
  have hproto : (Core.toCheckpointProtocol pm.protocol != protocolSCTP) = true := by
    cases pm.protocol <;> rfl
  show (_ && (Core.toCheckpointProtocol pm.protocol != protocolSCTP) && _) = _
  rw [hproto, Bool.and_true]
  rfl

theorem wantedHostports_checkpointed (config : Core.PodSandboxConfig) :
    wantedHostports env (config.portMappings.map (·.checkpointed)) = (hostportMappings env config).map (hostportOf env) := by
  rw [wantedHostports, List.filter_map, List.map_map, hostportMappings]
  have hfilter : (wantsSocket env ∘ fun pm : Core.RuntimePortMapping => pm.checkpointed) = hasHostport env :=
    funext wantsSocket_checkpointed
  rw [hfilter]
  rfl

theorem addCheckpointed_eq (spew : Core.CheckpointData → List UInt8) (env : Env σ) {id : Text} {config : Core.PodSandboxConfig}
    (hconfig : config.WellTyped) (hid : validateKey id = none) (ip : IP) (natInterfaceName : Text) (dir : Dir Core.Blob)
    (s : State σ) :
    addCheckpointed spew env id config ip natInterfaceName dir s = some (add env id
      (some ⟨config.metadata.namespace_, config.metadata.name, config.portMappings.map (·.checkpointed), false, ip⟩)
      natInterfaceName s) := by
  rw [addCheckpointed, Core.createCheckpoint_written spew hid]
  dsimp only
  rw [Core.getPodPortMappings_written spew hconfig hid (Function.update_self _ _ _) rfl]

/-- The sockets that were asked for are those of the TCP and UDP mappings exactly when no SCTP mapping
    comes in between. -/
theorem asked_sockets_iff (config : Core.PodSandboxConfig) (sockets : List (Socket × HostPort)) (k : Socket) :
    (asked env ((hostportMappings env config).map (hostportOf env)) sockets k).Perm
        ((socketMappings env config).map (hostportOf env)) ∧
      (∀ hp ∈ asked env ((hostportMappings env config).map (hostportOf env)) sockets k, hp.protocol ≠ "sctp") ↔
    socketMappings env config <+: hostportMappings env config ∧
      asked env ((hostportMappings env config).map (hostportOf env)) sockets k = (socketMappings env config).map (hostportOf env) := by
  constructor
  · rintro ⟨hperm, hsctp⟩
    -- What was asked for are the first hostports, and there is no SCTP among them.
    obtain ⟨n, hn⟩ : ∃ n, asked env ((hostportMappings env config).map (hostportOf env)) sockets k =
        ((hostportMappings env config).take n).map (hostportOf env) := by
      obtain hp := List.prefix_iff_eq_take.mp (asked_isPrefix env ((hostportMappings env config).map (hostportOf env)) sockets k)
      exact ⟨_, hp.trans (List.map_take ..).symm⟩
    rw [hn] at hperm hsctp ⊢
    have hself : ((hostportMappings env config).take n).filter (fun pm => pm.protocol != .sctp) =
        (hostportMappings env config).take n := by
      refine List.filter_eq_self.mpr fun pm hpm => bne_iff_ne.mpr fun heq => ?_
      exact hsctp _ (List.mem_map_of_mem hpm) (protocol_hostportOf.mpr heq)
    have hpre : (hostportMappings env config).take n <+: socketMappings env config := by
      rw [← hself]
      exact (List.take_prefix n _).filter _
    have hlength : ((hostportMappings env config).take n).length = (socketMappings env config).length := by
      have := hperm.length_eq
      rwa [List.length_map, List.length_map] at this
    have heq := hpre.eq_of_length hlength
    exact ⟨heq ▸ List.take_prefix n _, by rw [heq]⟩
  · rintro ⟨-, heq⟩
    rw [heq]
    refine ⟨List.Perm.refl _, fun hp hmem => ?_⟩
    obtain ⟨pm, hpm, rfl⟩ := List.mem_map.mp hmem
    have hproto := (List.mem_filter.mp hpm).2
    exact fun h => bne_iff_ne.mp hproto (protocol_hostportOf.mp h)

/-- Exactly one socket for each TCP and UDP mapping is asked for when the sockets are granted and no SCTP
    mapping comes in between; and none when `Add` does not come to it. -/
theorem addCheckpointed_asks_iff (spew : Core.CheckpointData → List UInt8) (env : Env σ) {id : Text}
    {config : Core.PodSandboxConfig} (hconfig : config.WellTyped) (hid : validateKey id = none) (ip : IP)
    (natInterfaceName : Text) (dir : Dir Core.Blob) (s : State σ) :
    ∃ e t, addCheckpointed spew env id config ip natInterfaceName dir s = some (e, t) ∧
      (AsksForSockets env config s t ↔
        (ReachesOpening env ip natInterfaceName s ∧ GrantedBeforeSCTP env config s) ∨
        (¬ReachesOpening env ip natInterfaceName s ∧ socketMappings env config = [])) := by
  have heq := addCheckpointed_eq spew env hconfig hid ip natInterfaceName dir s
  let pod : PodPortMapping :=
    ⟨config.metadata.namespace_, config.metadata.name, config.portMappings.map (·.checkpointed), false, ip⟩
  have hadd := add_requests env id pod rfl natInterfaceName s
  rw [wantedHostports_checkpointed] at hadd
  generalize add env id _ natInterfaceName s = result at heq hadd
  obtain ⟨e, t⟩ := result
  refine ⟨e, t, heq, ?_⟩
  by_cases hr : ReachesOpening env ip natInterfaceName s
  · rw [if_pos hr] at hadd
    rw [AsksForSockets, hadd]
    simp only [List.append_cancel_left_eq, exists_eq_left', asked_sockets_iff, hr, not_true, false_and, or_false, true_and]
    refine and_congr_right fun hpre => ?_
    rw [asked_eq_iff (hpre.map _)]
    refine and_congr_right fun _ => imp_congr_right fun _ => ⟨fun heq => ?_, fun heq => by rw [heq]⟩
    have hlength := congrArg List.length heq
    rw [List.length_map, List.length_map] at hlength
    exact (hpre.eq_of_length hlength.symm).symm
  · rw [if_neg hr] at hadd
    rw [AsksForSockets, hadd]
    simp only [List.append_cancel_left_eq, exists_eq_left', hr, not_false_eq_true, true_and, false_and, false_or,
      List.nil_perm, List.map_eq_nil_iff, List.not_mem_nil, false_implies, implies_true, and_true]

def onePortConfig (protocol : Core.Protocol) (port : Int) : Core.PodSandboxConfig where
  metadata := { name := "p", uid := "u", namespace_ := "ns", attempt := 0 }
  dnsConfig := none
  portMappings := [⟨protocol, port, port, []⟩]
  linux := some .pod

theorem onePortConfig_wellTyped (protocol : Core.Protocol) (port : Int)
    (h : Core.minInt32 ≤ port ∧ port ≤ Core.maxInt32) : (onePortConfig protocol port).WellTyped where
  containerPort pm hpm := by
    cases List.mem_singleton.mp hpm
    exact h
  hostPort pm hpm := by
    cases List.mem_singleton.mp hpm
    exact h

theorem addCheckpointed_asks_iff_tcp :
    ∃ e t, addCheckpointed (fun _ => []) (fakeHost false) "c1" (onePortConfig .tcp 9090) (v4InV6 ++ [10, 0, 0, 2]) []
        (fun _ => none) (State.initial ∅) = some (e, t) ∧
      AsksForSockets (fakeHost false) (onePortConfig .tcp 9090) (State.initial ∅) t := by
  obtain ⟨e, t, heq, hiff⟩ := addCheckpointed_asks_iff (fun _ => []) (fakeHost false) (onePortConfig_wellTyped .tcp 9090 (by decide))
    (show validateKey "c1" = none by decide +kernel) (v4InV6 ++ [10, 0, 0, 2]) [] (fun _ => none) (State.initial ∅)
  refine ⟨e, t, heq, hiff.mpr (Or.inl ⟨by decide +kernel, by decide +kernel, by decide +kernel, fun _ => by decide +kernel⟩)⟩

/-- A sandbox with an SCTP hostport: the opener is asked for it and refuses, and the pod cannot start. -/
theorem addCheckpointed_sctp :
    ∃ e t, addCheckpointed (fun _ => []) (fakeHost false) "c1" (onePortConfig .sctp 9090) (v4InV6 ++ [10, 0, 0, 2]) []
        (fun _ => none) (State.initial ∅) = some (some e, t) ∧
      e.error = "cannot open hostport 9090 for pod p_ns: unknown protocol \"sctp\"" ∧
      ¬AsksForSockets (fakeHost false) (onePortConfig .sctp 9090) (State.initial ∅) t := by
  have heq := addCheckpointed_eq (fun _ => []) (fakeHost false) (onePortConfig_wellTyped .sctp 9090 (by decide))
    (show validateKey "c1" = none by decide +kernel) (v4InV6 ++ [10, 0, 0, 2]) [] (fun _ => none) (State.initial ∅)
  generalize hadd : add (fakeHost false) "c1" _ [] (State.initial ∅) = result at heq
  have hrun : result.1.map (·.error) = some "cannot open hostport 9090 for pod p_ns: unknown protocol \"sctp\"" ∧
      result.2.requests = [⟨.ipv4, [], 9090, "sctp"⟩] := by
    rw [← hadd]
    decide +kernel
  obtain ⟨_ | e, t⟩ := result
  · cases hrun.1
  · refine ⟨e, t, heq, Option.some.inj hrun.1, ?_⟩
    rintro ⟨made, hmade, -, hsctp⟩
    rw [show t.requests = _ from hrun.2] at hmade
    cases hmade
    exact hsctp _ List.mem_cons_self rfl

end CriDockerd.Hostport
