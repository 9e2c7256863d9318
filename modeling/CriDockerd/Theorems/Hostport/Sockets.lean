import CriDockerd.Hostport.FakeIPTables

/-! The sockets of the hostport manager. `hostPortMap` holds open sockets only; where `Close` never
    fails it holds all of them, and an `Add` that fails gives back what it opened. A socket has no
    owner in the map: `Remove` closes whatever is open at the hostports it is given. -/

namespace CriDockerd.Hostport
open Text NetIP

variable {σ : Type} {env : Env σ} {s t u : State σ}

/-! ### Calls that touch no socket -/

structure SameSockets (s t : State σ) : Prop where
  hostPortMap : t.hostPortMap = s.hostPortMap
  sockets : t.sockets = s.sockets
  nextSocket : t.nextSocket = s.nextSocket

namespace SameSockets

theorem refl (s : State σ) : SameSockets s s := ⟨rfl, rfl, rfl⟩

theorem trans (h₁ : SameSockets s t) (h₂ : SameSockets t u) : SameSockets s u :=
  ⟨h₂.hostPortMap.trans h₁.hostPortMap, h₂.sockets.trans h₁.sockets, h₂.nextSocket.trans h₁.nextSocket⟩

theorem tables (s : State σ) (t : σ) : SameSockets s { s with tables := t } := ⟨rfl, rfl, rfl⟩

end SameSockets

theorem syncIPTables_sameSockets {lines : Text} {e : Option GoError} (h : syncIPTables env lines s = (e, t)) :
    SameSockets s t := by
  dsimp only [syncIPTables] at h
  split at h <;> cases h <;> exact ⟨rfl, rfl, rfl⟩

theorem clearConntrack_sameSockets (pms : List PortMapping) (v6 : Bool) (s : State σ) :
    SameSockets s (clearConntrack env pms v6 s) := by
  unfold clearConntrack
  split <;> exact ⟨rfl, rfl, rfl⟩

/-! ### Open sockets -/

/-- `hostPortMap` holds open sockets, each under its own hostport. -/
structure Tracked (s : State σ) : Prop where
  isOpen : ∀ hp k, s.hostPortMap hp = some k → (k, hp) ∈ s.sockets
  fresh : ∀ x ∈ s.sockets, x.1 < s.nextSocket
  handle : ∀ x ∈ s.sockets, ∀ y ∈ s.sockets, x.1 = y.1 → x = y

/-- The opener refuses a hostport that is already open. -/
def Env.RefusesOpen (env : Env σ) : Prop := ∀ sockets hp k, (k, hp) ∈ sockets → env.portOpener sockets hp ≠ none

theorem Tracked.of_same (h : Tracked s) (hst : SameSockets s t) : Tracked t where
  isOpen hp k hk := by
    rw [hst.sockets]
    exact h.isOpen hp k (hst.hostPortMap ▸ hk)
  fresh := by
    rw [hst.sockets, hst.nextSocket]
    exact h.fresh
  handle := by
    rw [hst.sockets]
    exact h.handle

theorem Tracked.initial (tables : σ) : Tracked (State.initial tables) where
  isOpen _ _ hk := by cases hk
  fresh _ hx := by cases hx
  handle _ hx := by cases hx

/-! ### Opening -/

/-- The mappings for which `openHostports` asks the opener. -/
def wantsSocket (env : Env σ) (pm : PortMapping) : Bool :=
  0 < pm.hostPort && pm.protocol != protocolSCTP && (pm.hostIP == [] || isIPv6String pm.hostIP == env.iptables.isIPv6)

theorem openLoop_skip {name : Text} {pm : PortMapping} (h : wantsSocket env pm = false) (rest : List PortMapping)
    (ports : List (HostPort × Socket)) (s : State σ) :
    openLoop env name (pm :: rest) ports s = openLoop env name rest ports s := by
  rw [openLoop]
  split
  · rfl
  split
  · rfl
  split
  · rfl
  rename_i hport hproto hip
  simp only [wantsSocket, Bool.and_eq_false_iff, decide_eq_false_iff_not, bne_eq_false_iff_eq, Bool.or_eq_false_iff,
    beq_eq_false_iff_ne] at h
  rcases h with (h | h) | h
  · exact absurd (Int.not_lt.mp h) hport
  · exact absurd h hproto
  · exact absurd ⟨h.1, h.2⟩ hip

theorem openLoop_wanted {name : Text} {pm : PortMapping} (h : wantsSocket env pm = true) (rest : List PortMapping)
    (ports : List (HostPort × Socket)) (s : State σ) :
    openLoop env name (pm :: rest) ports s =
      match openPort env (portMappingToHostport pm (getIPFamily env)) s with
      | (.error err, s) =>
        (some (.text ("cannot open hostport " ++ itoa pm.hostPort ++ " for pod " ++ name ++
          ": " ++ err.error)), ports, s)
      | (.ok socket, s) =>
        openLoop env name rest ((portMappingToHostport pm (getIPFamily env), socket) ::
          ports.filter fun x => x.1 != portMappingToHostport pm (getIPFamily env)) s := by
  simp only [wantsSocket, Bool.and_eq_true, decide_eq_true_eq, bne_iff_ne, Bool.or_eq_true, beq_iff_eq] at h
  obtain ⟨⟨hport, hproto⟩, hip⟩ := h
  have hfam : ¬(pm.hostIP ≠ [] ∧ isIPv6String pm.hostIP ≠ env.iptables.isIPv6) := by
    rintro ⟨hne, hfam⟩
    rcases hip with hip | hip
    · exact hne hip
    · exact hfam hip
  rcases hopen : openPort env (portMappingToHostport pm (getIPFamily env)) s with ⟨err | socket, s'⟩
  · simp only [openLoop, if_neg (Int.not_le.mpr hport), if_neg hproto, if_neg hfam, hopen]
  · simp only [openLoop, if_neg (Int.not_le.mpr hport), if_neg hproto, if_neg hfam, hopen]

/-- In the middle of opening: `ports` are open on top of the sockets of `s₀`, each of them granted. -/
structure Opening (env : Env σ) (s₀ : State σ) (ports : List (HostPort × Socket)) (s : State σ) : Prop where
  hostPortMap : s.hostPortMap = s₀.hostPortMap
  sockets : s.sockets = ports.map (fun p => (p.2, p.1)) ++ s₀.sockets
  le : s₀.nextSocket ≤ s.nextSocket
  fresh : ∀ p ∈ ports, s₀.nextSocket ≤ p.2 ∧ p.2 < s.nextSocket
  keys : (ports.map (·.1)).Nodup
  handles : (ports.map (·.2)).Nodup
  new : ∀ p ∈ ports, ∀ k, (k, p.1) ∉ s₀.sockets
  granted : ∀ p ∈ ports, ∃ sockets, env.portOpener sockets p.1 = none

theorem Opening.start (env : Env σ) (s : State σ) : Opening env s [] s where
  hostPortMap := rfl
  sockets := rfl
  le := Nat.le_refl _
  fresh := by simp
  keys := List.nodup_nil
  handles := List.nodup_nil
  new := by simp
  granted := by simp

theorem Opening.grant {s₀ : State σ} {ports : List (HostPort × Socket)} {hp : HostPort} {k : Socket}
    (hopen : env.RefusesOpen) (ho : Opening env s₀ ports s) (h : openPort env hp s = (.ok k, t)) :
    ports.filter (fun x => x.1 != hp) = ports ∧ Opening env s₀ ((hp, k) :: ports) t := by
  dsimp only [openPort] at h
  split at h
  · cases h
  rename_i hgrant
  cases h
  have hnew : ∀ j, (j, hp) ∉ s.sockets := fun j hj => hopen _ hp j hj hgrant
  have hkey : hp ∉ ports.map (·.1) := by
    intro hmem
    obtain ⟨p, hp', rfl⟩ := List.mem_map.mp hmem
    refine hnew p.2 ?_
    rw [ho.sockets]
    exact List.mem_append_left _ (List.mem_map.mpr ⟨p, hp', rfl⟩)
  have hlast : s.nextSocket ∉ ports.map (·.2) := by
    intro hmem
    obtain ⟨p, hp', heq⟩ := List.mem_map.mp hmem
    exact Nat.lt_irrefl _ (heq ▸ (ho.fresh p hp').2)
  refine ⟨List.filter_eq_self.mpr fun x hx => ?_, ?_⟩
  · rw [bne_iff_ne]
    rintro rfl
    exact hkey (List.mem_map.mpr ⟨x, hx, rfl⟩)
  · exact
      { hostPortMap := ho.hostPortMap
        sockets := by simp [ho.sockets]
        le := Nat.le_succ_of_le ho.le
        fresh := by
          intro p hp'
          rcases List.mem_cons.mp hp' with rfl | hp'
          · exact ⟨ho.le, Nat.lt_succ_self _⟩
          · exact ⟨(ho.fresh p hp').1, Nat.lt_succ_of_lt (ho.fresh p hp').2⟩
        keys := List.nodup_cons.mpr ⟨hkey, ho.keys⟩
        handles := List.nodup_cons.mpr ⟨hlast, ho.handles⟩
        new := by
          intro p hp' j hj
          rcases List.mem_cons.mp hp' with rfl | hp'
          · refine hnew j ?_
            rw [ho.sockets]
            exact List.mem_append_right _ hj
          · exact ho.new p hp' j hj
        granted := by
          intro p hp'
          rcases List.mem_cons.mp hp' with rfl | hp'
          · exact ⟨_, hgrant⟩
          · exact ho.granted p hp' }

theorem Opening.refuse {s₀ : State σ} {ports : List (HostPort × Socket)} {hp : HostPort} {err : GoError}
    (ho : Opening env s₀ ports s) (h : openPort env hp s = (.error err, t)) : Opening env s₀ ports t := by
  dsimp only [openPort] at h
  split at h
  · cases h
    exact { ho with }
  · cases h

theorem openLoop_opening (hopen : env.RefusesOpen) {name : Text} {s₀ : State σ} :
    ∀ {pms : List PortMapping} {ports ports' : List (HostPort × Socket)} {s t : State σ} {e : Option GoError},
      Opening env s₀ ports s → openLoop env name pms ports s = (e, ports', t) →
      Opening env s₀ ports' t ∧ ports ⊆ ports' ∧
        (∀ p ∈ ports', p ∈ ports ∨ ∃ pm ∈ pms, wantsSocket env pm ∧ p.1 = portMappingToHostport pm (getIPFamily env)) ∧
        (e = none → ∀ pm ∈ pms, wantsSocket env pm → ∃ p ∈ ports', p.1 = portMappingToHostport pm (getIPFamily env))
  | [], ports, ports', s, t, e, ho, h => by
    cases h
    exact ⟨ho, List.Subset.refl _, fun p hp => Or.inl hp, fun _ pm hpm => absurd hpm (List.not_mem_nil)⟩
  | pm :: rest, ports, ports', s, t, e, ho, h => by
    cases hw : wantsSocket env pm with
    | false =>
      rw [openLoop_skip hw] at h
      obtain ⟨ho', hsub, hfrom, hall⟩ := openLoop_opening hopen ho h
      refine ⟨ho', hsub, fun p hp => ?_, fun he pm' hpm' hw' => ?_⟩
      · rcases hfrom p hp with hp | ⟨q, hq, hq'⟩
        · exact Or.inl hp
        · exact Or.inr ⟨q, List.mem_cons_of_mem _ hq, hq'⟩
      · rcases List.mem_cons.mp hpm' with rfl | hpm'
        · rw [hw] at hw'
          cases hw'
        · exact hall he pm' hpm' hw'
    | true =>
      rw [openLoop_wanted hw] at h
      split at h
      · rename_i err s₁ hport
        cases h
        refine ⟨ho.refuse hport, List.Subset.refl _, fun p hp => Or.inl hp, fun he => ?_⟩
        cases he
      · rename_i k s₁ hport
        obtain ⟨hfilter, ho₁⟩ := ho.grant hopen hport
        rw [hfilter] at h
        obtain ⟨ho', hsub, hfrom, hall⟩ := openLoop_opening hopen ho₁ h
        refine ⟨ho', fun p hp => hsub (List.mem_cons_of_mem _ hp), fun p hp => ?_, fun he pm' hpm' hw' => ?_⟩
        · rcases hfrom p hp with hp | ⟨q, hq, hq'⟩
          · rcases List.mem_cons.mp hp with rfl | hp
            · exact Or.inr ⟨pm, List.mem_cons_self, hw, rfl⟩
            · exact Or.inl hp
          · exact Or.inr ⟨q, List.mem_cons_of_mem _ hq, hq'⟩
        · rcases List.mem_cons.mp hpm' with rfl | hpm'
          · exact ⟨_, hsub List.mem_cons_self, rfl⟩
          · exact hall he pm' hpm' hw'

theorem Opening.tracked {s₀ : State σ} {ports : List (HostPort × Socket)} (hs : Tracked s₀)
    (ho : Opening env s₀ ports s) : Tracked s where
  isOpen hp k hk := by
    rw [ho.sockets]
    exact List.mem_append_right _ (hs.isOpen hp k (ho.hostPortMap ▸ hk))
  fresh x hx := by
    rw [ho.sockets, List.mem_append] at hx
    rcases hx with hx | hx
    · obtain ⟨p, hp, rfl⟩ := List.mem_map.mp hx
      exact (ho.fresh p hp).2
    · exact Nat.lt_of_lt_of_le (hs.fresh x hx) ho.le
  handle x hx y hy hxy := by
    rw [ho.sockets, List.mem_append] at hx hy
    rcases hx with hx | hx <;> rcases hy with hy | hy
    · obtain ⟨p, hp, rfl⟩ := List.mem_map.mp hx
      obtain ⟨q, hq, rfl⟩ := List.mem_map.mp hy
      rw [List.inj_on_of_nodup_map ho.handles hp hq hxy]
    · obtain ⟨p, hp, rfl⟩ := List.mem_map.mp hx
      exact absurd (lt_of_eq_of_lt hxy (hs.fresh y hy)) (Nat.not_lt.mpr (ho.fresh p hp).1)
    · obtain ⟨q, hq, rfl⟩ := List.mem_map.mp hy
      exact absurd (lt_of_eq_of_lt hxy.symm (hs.fresh x hx)) (Nat.not_lt.mpr (ho.fresh q hq).1)
    · exact hs.handle x hx y hy hxy

theorem closeAll_same (env : Env σ) (ports : List (HostPort × Socket)) (s : State σ) :
    (closeAll env ports s).hostPortMap = s.hostPortMap ∧ (closeAll env ports s).nextSocket = s.nextSocket ∧
      (closeAll env ports s).sockets =
        s.sockets.filter fun x => !(ports.any (fun p => p.2 == x.1) && (env.close x.1).isNone) := by
  induction ports generalizing s with
  | nil => exact ⟨rfl, rfl, (List.filter_eq_self.mpr fun _ _ => by simp).symm⟩
  | cons p rest ih =>
    obtain ⟨hm, hn, hsock⟩ := ih (closeSocket env p.2 s).2
    rw [closeAll, hm, hn, hsock]
    unfold closeSocket
    cases hc : env.close p.2 with
    | some err =>
      refine ⟨rfl, rfl, List.filter_congr fun x _ => ?_⟩
      by_cases hx : p.2 = x.1
      · simp [← hx, hc]
      · simp [beq_eq_false_iff_ne.mpr hx]
    | none =>
      refine ⟨rfl, rfl, ?_⟩
      rw [List.filter_filter]
      refine List.filter_congr fun x _ => ?_
      by_cases hx : p.2 = x.1
      · simp [← hx, hc]
      · simp [beq_eq_false_iff_ne.mpr hx, bne_iff_ne.mpr (Ne.symm hx)]

/-- What `openHostports` does: it opens every wanted hostport, or it fails and closes what it opened as
    far as it can. -/
theorem openHostports_cases (hopen : env.RefusesOpen) {pod : PodPortMapping}
    {r : Except GoError (List (HostPort × Socket))} (h : openHostports env pod s = (r, t)) :
    ∃ ports u, Opening env s ports u ∧
      (∀ p ∈ ports, ∃ pm ∈ pod.portMappings, wantsSocket env pm ∧ p.1 = portMappingToHostport pm (getIPFamily env)) ∧
      ((∃ err, r = .error err ∧ t = closeAll env ports u) ∨
        r = .ok ports ∧ t = u ∧
          ∀ pm ∈ pod.portMappings, wantsSocket env pm → ∃ p ∈ ports, p.1 = portMappingToHostport pm (getIPFamily env)) := by
  unfold openHostports at h
  split at h
  · rename_i err ports u hloop
    cases h
    obtain ⟨ho, -, hfrom, -⟩ := openLoop_opening hopen (Opening.start env s) hloop
    exact ⟨ports, u, ho, fun p hp => (hfrom p hp).resolve_left List.not_mem_nil, Or.inl ⟨err, rfl, rfl⟩⟩
  · rename_i ports u hloop
    cases h
    obtain ⟨ho, -, hfrom, hall⟩ := openLoop_opening hopen (Opening.start env s) hloop
    exact ⟨ports, t, ho, fun p hp => (hfrom p hp).resolve_left List.not_mem_nil, Or.inr ⟨rfl, rfl, hall rfl⟩⟩

/-! ### The map -/

theorem register_of_not_mem {ports : List (HostPort × Socket)} {hp : HostPort} (h : hp ∉ ports.map (·.1)) :
    (register ports s).hostPortMap hp = s.hostPortMap hp := by
  induction ports with
  | nil => rfl
  | cons p rest ih =>
    simp only [List.map_cons, List.mem_cons, not_or] at h
    exact (Function.update_of_ne h.1 _ _).trans (ih h.2)

theorem register_of_mem {ports : List (HostPort × Socket)} (hn : (ports.map (·.1)).Nodup) {p : HostPort × Socket}
    (hp : p ∈ ports) : (register ports s).hostPortMap p.1 = some p.2 := by
  induction ports with
  | nil => cases hp
  | cons q rest ih =>
    rw [List.map_cons, List.nodup_cons] at hn
    rcases List.mem_cons.mp hp with rfl | hp
    · exact Function.update_self _ _ _
    · have hne : p.1 ≠ q.1 := fun heq => hn.1 (heq ▸ List.mem_map.mpr ⟨p, hp, rfl⟩)
      exact (Function.update_of_ne hne _ _).trans (ih hn.2 hp)

theorem Opening.register_iff {s₀ : State σ} {ports : List (HostPort × Socket)} (ho : Opening env s₀ ports s)
    {hp : HostPort} {k : Socket} :
    (register ports s).hostPortMap hp = some k ↔
      (hp, k) ∈ ports ∨ hp ∉ ports.map (·.1) ∧ s₀.hostPortMap hp = some k := by
  by_cases hmem : hp ∈ ports.map (·.1)
  · obtain ⟨p, hp', rfl⟩ := List.mem_map.mp hmem
    rw [register_of_mem ho.keys hp']
    constructor
    · intro heq
      cases heq
      exact Or.inl hp'
    · rintro (hk | ⟨hnot, -⟩)
      · rw [List.inj_on_of_nodup_map ho.keys hp' hk rfl]
      · exact absurd hmem hnot
  · rw [register_of_not_mem hmem, ho.hostPortMap]
    constructor
    · exact fun h => Or.inr ⟨hmem, h⟩
    · rintro (hk | ⟨-, h⟩)
      · exact absurd (List.mem_map.mpr ⟨_, hk, rfl⟩) hmem
      · exact h

theorem Opening.register_tracked {s₀ : State σ} {ports : List (HostPort × Socket)} (hs : Tracked s₀)
    (ho : Opening env s₀ ports s) : Tracked (register ports s) where
  isOpen hp k hk := by
    show (k, hp) ∈ s.sockets
    rw [ho.sockets, List.mem_append]
    rcases ho.register_iff.mp hk with hk | ⟨-, hk⟩
    · exact Or.inl (List.mem_map.mpr ⟨_, hk, rfl⟩)
    · exact Or.inr (hs.isOpen hp k hk)
  fresh := (ho.tracked hs).fresh
  handle := (ho.tracked hs).handle

/-! ### Closing -/

/-- A hostport that has a socket in the map, which can be closed. -/
def closable (env : Env σ) (s : State σ) (hp : HostPort) : Bool :=
  match s.hostPortMap hp with
  | none => false
  | some k => (env.close k).isNone

/-- What is left after the listed hostports have been closed. -/
structure Closed (env : Env σ) (hps : List HostPort) (s t : State σ) : Prop where
  hostPortMap : ∀ hp, t.hostPortMap hp = if hp ∈ hps ∧ closable env s hp then none else s.hostPortMap hp
  sockets : t.sockets = s.sockets.filter fun x =>
    !decide (x.2 ∈ hps ∧ closable env s x.2 ∧ s.hostPortMap x.2 = some x.1)
  nextSocket : t.nextSocket = s.nextSocket

theorem Closed.nil (env : Env σ) (s : State σ) : Closed env [] s s where
  hostPortMap hp := by simp
  sockets := (List.filter_eq_self.mpr fun _ _ => by simp).symm
  nextSocket := rfl

theorem Closed.tracked {hps : List HostPort} (hs : Tracked s) (hc : Closed env hps s t) : Tracked t where
  isOpen hp k hk := by
    rw [hc.hostPortMap] at hk
    split at hk
    · cases hk
    · rename_i hnot
      rw [hc.sockets, List.mem_filter]
      refine ⟨hs.isOpen hp k hk, ?_⟩
      simp only [Bool.not_eq_true', decide_eq_false_iff_not]
      rintro ⟨hmem, hcl, -⟩
      exact hnot ⟨hmem, hcl⟩
  fresh x hx := by
    rw [hc.sockets] at hx
    rw [hc.nextSocket]
    exact hs.fresh x (List.mem_of_mem_filter hx)
  handle x hx y hy := by
    rw [hc.sockets] at hx hy
    exact hs.handle x (List.mem_of_mem_filter hx) y (List.mem_of_mem_filter hy)

theorem Closed.cons_of_not {hps : List HostPort} {hp : HostPort} (hn : closable env s hp = false)
    (hc : Closed env hps s t) : Closed env (hp :: hps) s t where
  hostPortMap hp' := by
    rw [hc.hostPortMap]
    by_cases h : hp' = hp
    · simp [h, hn]
    · simp [h]
  sockets := by
    rw [hc.sockets]
    refine List.filter_congr fun x _ => ?_
    by_cases h : x.2 = hp
    · simp [h, hn]
    · simp [h]
  nextSocket := hc.nextSocket

theorem Closed.cons_of_closed {hps : List HostPort} {hp : HostPort} {k : Socket} (hs : Tracked s)
    (hk : s.hostPortMap hp = some k) (hcl : env.close k = none)
    (hc : Closed env hps
      { s with sockets := s.sockets.filter fun x => x.1 != k, hostPortMap := Function.update s.hostPortMap hp none } t) :
    Closed env (hp :: hps) s t where
  hostPortMap hp' := by
    rw [hc.hostPortMap]
    by_cases h : hp' = hp
    · simp [h, closable, hk, hcl]
    · simp [h, closable]
  sockets := by
    rw [hc.sockets, List.filter_filter]
    refine List.filter_congr fun x hx => ?_
    by_cases h : x.2 = hp
    · by_cases hxk : x.1 = k
      · simp [h, closable, hk, hcl, hxk]
      · simp [h, closable, hk, hcl, hxk, Ne.symm hxk]
    · have hne : x.1 ≠ k := fun heq => h (congrArg Prod.snd (hs.handle x hx (k, hp) (hs.isOpen hp k hk) heq))
      simp [h, closable, hne]
  nextSocket := hc.nextSocket

theorem closeLoop_closed (hs : Tracked s) {pms : List PortMapping} {errs errs' : List (Option GoError)}
    (h : closeLoop env pms errs s = (errs', t)) :
    Closed env (pms.map fun pm => portMappingToHostport pm (getIPFamily env)) s t := by
  induction pms generalizing s errs with
  | nil =>
    cases h
    exact Closed.nil env _
  | cons pm rest ih =>
    dsimp only [closeLoop] at h
    split at h
    · rename_i hk
      exact (ih hs h).cons_of_not (by simp [closable, hk])
    · rename_i k hk
      dsimp only [closeSocket] at h
      cases hcl : env.close k with
      | some err =>
        rw [hcl] at h
        exact (ih hs h).cons_of_not (by simp [closable, hk, hcl])
      | none =>
        rw [hcl] at h
        have hone : Closed env [portMappingToHostport pm (getIPFamily env)] s _ :=
          Closed.cons_of_closed hs hk hcl (Closed.nil env _)
        exact Closed.cons_of_closed hs hk hcl (ih (hone.tracked hs) h)

theorem closeHostports_closed (hs : Tracked s) {pms : List PortMapping} {e : Option GoError}
    (h : closeHostports env pms s = (e, t)) :
    Closed env (pms.map fun pm => portMappingToHostport pm (getIPFamily env)) s t := by
  dsimp only [closeHostports] at h
  cases h
  exact closeLoop_closed hs rfl

/-! ### What a call does -/

/-- An `Add` under the mutex fails to open, or it opens and keeps the sockets, or it opens them and closes
    them again because iptables failed. -/
theorem addLocked_cases {id : Text} {pod : PodPortMapping} {pms : List PortMapping} {e : Option GoError}
    (h : addLocked env id pod pms s = (e, t)) :
    ∃ r s₂, openHostports env pod s = (r, s₂) ∧
      ((∃ err, r = .error err ∧ e = some err ∧ t = s₂) ∨
        ∃ ports s₃, r = .ok ports ∧ SameSockets (register ports s₂) s₃ ∧
          (e = none ∧ t = s₃ ∨ ∃ c, e ≠ none ∧ closeHostports env pms s₃ = (c, t))) := by
  unfold addLocked at h
  split at h
  · rename_i err s₂ hopened
    cases h
    exact ⟨_, _, hopened, Or.inl ⟨err, rfl, rfl, rfl⟩⟩
  rename_i ports s₂ hopened
  refine ⟨_, _, hopened, Or.inr ?_⟩
  dsimp only at h
  split at h
  · rename_i err t₃ _
    cases h
    exact ⟨ports, _, rfl, SameSockets.tables _ t₃, Or.inr ⟨_, by simp, rfl⟩⟩
  · split at h
    · rename_i s₃ hsync
      have hsame := (SameSockets.tables (register ports s₂) _).trans (syncIPTables_sameSockets hsync)
      cases h
      exact ⟨ports, s₃, rfl, hsame, Or.inr ⟨_, by simp, rfl⟩⟩
    · rename_i s₃ hsync
      have hsame := (SameSockets.tables (register ports s₂) _).trans (syncIPTables_sameSockets hsync)
      cases h
      exact ⟨ports, _, rfl, hsame.trans (clearConntrack_sameSockets _ _ _), Or.inl ⟨rfl, rfl⟩⟩

/-- An `Add` ends before the mutex, with the sockets as they were, or it goes on for a pod of the
    manager's family. -/
theorem add_cases {id nat : Text} {pod : Option PodPortMapping} {e : Option GoError}
    (h : add env id pod nat s = (e, t)) :
    SameSockets s t ∨
      ∃ p s₁, pod = some p ∧ SameSockets s s₁ ∧
        addLocked env id p (gatherHostportMappings p env.iptables.isIPv6) s₁ = (e, t) := by
  unfold add at h
  split at h
  · cases h
    exact Or.inl (SameSockets.refl _)
  rename_i p
  split at h
  · cases h
    exact Or.inl (SameSockets.refl _)
  split at h
  · cases h
    exact Or.inl (SameSockets.refl _)
  dsimp only at h
  split at h
  · cases h
    exact Or.inl (SameSockets.refl _)
  split at h
  · cases h
    exact Or.inl (SameSockets.refl _)
  rename_i hfam
  rw [ne_eq, not_not] at hfam
  split at h
  · cases h
    exact Or.inl (SameSockets.tables _ _)
  · rename_i tables _
    rw [hfam] at h
    exact Or.inr ⟨p, _, rfl, SameSockets.tables s tables, h⟩

/-- A `Remove` comes to the hostports: the pod is not on the network of the host, and iptables fails neither at reading the
    rules nor, if there are chains to remove, at writing them. -/
def Closes (env : Env σ) (id : Text) (pod : PodPortMapping) (s : State σ) : Prop :=
  pod.hostNetwork = false ∧ ∃ existingChains existingRules t,
    getExistingHostportIPTablesRules env.iptables s.tables = (.ok (existingChains, existingRules), t) ∧
    ∀ chains, chains = (gatherHostportMappings pod env.iptables.isIPv6).map (getHostportChain id) →
      chains.filter (fun chain => chain ∈ existingChains.map (·.1)) ≠ [] →
        (syncIPTables env (removePayload existingChains (filterRules existingRules chains)
          (chains.filter fun chain => chain ∈ existingChains.map (·.1))) { s with tables := t }).1 = none

/-- A `Remove` leaves the sockets alone, or it closes the hostports of the mappings. -/
theorem remove_cases {id : Text} {pod : Option PodPortMapping} {e : Option GoError}
    (h : remove env id pod s = (e, t)) :
    SameSockets s t ∨
      ∃ p s₁ c, pod = some p ∧ Closes env id p s ∧ SameSockets s s₁ ∧
        closeHostports env (gatherHostportMappings p env.iptables.isIPv6) s₁ = (c, t) := by
  unfold remove at h
  split at h
  · cases h
    exact Or.inl (SameSockets.refl _)
  rename_i p
  split at h
  · cases h
    exact Or.inl (SameSockets.refl _)
  rename_i hnetwork
  dsimp only at h
  split at h
  · cases h
    exact Or.inl (SameSockets.refl _)
  split at h
  · cases h
    exact Or.inl (SameSockets.tables _ _)
  rename_i existingChains existingRules tables hexisting
  have hcloses (hsync : ∀ chains, chains = (gatherHostportMappings p env.iptables.isIPv6).map (getHostportChain id) →
      chains.filter (fun chain => chain ∈ existingChains.map (·.1)) ≠ [] →
        (syncIPTables env (removePayload existingChains (filterRules existingRules chains)
          (chains.filter fun chain => chain ∈ existingChains.map (·.1))) { s with tables }).1 = none) : Closes env id p s :=
    ⟨Bool.eq_false_iff.mpr hnetwork, existingChains, existingRules, tables, hexisting, hsync⟩
  split at h
  · rename_i hnone
    refine Or.inr ⟨p, _, e, rfl, hcloses ?_, SameSockets.tables s tables, h⟩
    rintro chains rfl hsome
    exact absurd hnone hsome
  · split at h
    · rename_i hsync
      cases h
      exact Or.inl ((SameSockets.tables s tables).trans (syncIPTables_sameSockets hsync))
    · rename_i s₁ hsync
      refine Or.inr ⟨p, s₁, e, rfl, hcloses ?_, (SameSockets.tables s tables).trans (syncIPTables_sameSockets hsync), h⟩
      rintro chains rfl -
      rw [hsync]

/-! ### Open sockets along a run -/

theorem Opening.closeAll_tracked {s₀ : State σ} {ports : List (HostPort × Socket)} (hs : Tracked s₀)
    (ho : Opening env s₀ ports s) : Tracked (closeAll env ports s) := by
  obtain ⟨hmap, hnext, hsock⟩ := closeAll_same env ports s
  have ht := ho.tracked hs
  constructor
  · intro hp k hk
    rw [hmap, ho.hostPortMap] at hk
    have hopen := hs.isOpen hp k hk
    rw [hsock, List.mem_filter, ho.sockets]
    refine ⟨List.mem_append_right _ hopen, ?_⟩
    -- Its handle is older than those of the ports.
    have hold : ports.any (fun p => p.2 == k) = false := by
      rw [List.any_eq_false]
      intro p hp' heq
      exact Nat.lt_irrefl _ (Nat.lt_of_lt_of_le (hs.fresh _ hopen) (beq_iff_eq.mp heq ▸ (ho.fresh p hp').1))
    simp [hold]
  · intro x hx
    rw [hsock] at hx
    rw [hnext]
    exact ht.fresh x (List.mem_of_mem_filter hx)
  · intro x hx y hy
    rw [hsock] at hx hy
    exact ht.handle x (List.mem_of_mem_filter hx) y (List.mem_of_mem_filter hy)

theorem addLocked_tracked (hopen : env.RefusesOpen) (hs : Tracked s) {id : Text} {pod : PodPortMapping}
    {pms : List PortMapping} {e : Option GoError} (h : addLocked env id pod pms s = (e, t)) : Tracked t := by
  obtain ⟨r, s₂, hop, hcases⟩ := addLocked_cases h
  obtain ⟨ports, u, ho, -, hres⟩ := openHostports_cases hopen hop
  rcases hcases with ⟨err, hr, -, rfl⟩ | ⟨ports', s₃, hr, hsame, hend⟩
  · rcases hres with ⟨_, -, rfl⟩ | ⟨hr', -, -⟩
    · exact ho.closeAll_tracked hs
    · rw [hr] at hr'
      cases hr'
  · rcases hres with ⟨_, hr', -⟩ | ⟨hr', rfl, -⟩
    · rw [hr] at hr'
      cases hr'
    · rw [hr] at hr'
      cases hr'
      have hs₃ : Tracked s₃ := (ho.register_tracked hs).of_same hsame
      rcases hend with ⟨-, rfl⟩ | ⟨c, -, hclose⟩
      · exact hs₃
      · exact (closeHostports_closed hs₃ hclose).tracked hs₃

theorem Call.run_tracked {c : Call σ} (hopen : c.env.RefusesOpen) (hs : Tracked s) : Tracked (c.run s).2 := by
  cases c with
  | add env id pod nat =>
    rcases add_cases (t := ((Call.add env id pod nat).run s).2) rfl with hsame | ⟨p, s₁, rfl, hsame, hl⟩
    · exact hs.of_same hsame
    · exact addLocked_tracked hopen (hs.of_same hsame) hl
  | remove env id pod =>
    rcases remove_cases (t := ((Call.remove env id pod).run s).2) rfl with hsame | ⟨p, s₁, c, rfl, -, hsame, hclose⟩
    · exact hs.of_same hsame
    · exact (closeHostports_closed (hs.of_same hsame) hclose).tracked (hs.of_same hsame)

/-! ### All sockets are in the map -/

/-- An opener like `openLocalPort`, which knows `tcp` and `udp` only and cannot open what is open, on a
    host where closing a socket always works. -/
structure Env.Sound (env : Env σ) : Prop where
  refusesOpen : env.RefusesOpen
  protocols : ∀ sockets hp, env.portOpener sockets hp = none → hp.protocol = "tcp" ∨ hp.protocol = "udp"
  close : ∀ k, env.close k = none

/-- The open sockets are those of `hostPortMap`, and none of them is for another protocol. -/
structure Consistent (s : State σ) : Prop extends Tracked s where
  held : ∀ x ∈ s.sockets, s.hostPortMap x.2 = some x.1
  protocols : ∀ x ∈ s.sockets, x.2.protocol = "tcp" ∨ x.2.protocol = "udp"

namespace Consistent

theorem initial (tables : σ) : Consistent (State.initial tables) where
  toTracked := Tracked.initial tables
  held _ hx := by cases hx
  protocols _ hx := by cases hx

theorem of_same (h : Consistent s) (hst : SameSockets s t) : Consistent t where
  toTracked := h.toTracked.of_same hst
  held := by
    rw [hst.sockets, hst.hostPortMap]
    exact h.held
  protocols := by
    rw [hst.sockets]
    exact h.protocols

theorem closed {hps : List HostPort} (h : Consistent s) (hc : Closed env hps s t) : Consistent t where
  toTracked := hc.tracked h.toTracked
  held x hx := by
    rw [hc.sockets, List.mem_filter] at hx
    have hmap := h.held x hx.1
    have hkept := hx.2
    simp only [Bool.not_eq_true', decide_eq_false_iff_not] at hkept
    rw [hc.hostPortMap, if_neg fun hcl => hkept ⟨hcl.1, hcl.2, hmap⟩, hmap]
  protocols x hx := by
    rw [hc.sockets] at hx
    exact h.protocols x (List.mem_of_mem_filter hx)

theorem registered {s₀ : State σ} {ports : List (HostPort × Socket)} (henv : env.Sound) (h : Consistent s₀)
    (ho : Opening env s₀ ports s) : Consistent (register ports s) where
  toTracked := ho.register_tracked h.toTracked
  held x hx := by
    change x ∈ s.sockets at hx
    rw [ho.sockets, List.mem_append] at hx
    rw [ho.register_iff]
    rcases hx with hx | hx
    · obtain ⟨p, hp, rfl⟩ := List.mem_map.mp hx
      exact Or.inl hp
    · refine Or.inr ⟨fun hmem => ?_, h.held x hx⟩
      obtain ⟨p, hp, heq⟩ := List.mem_map.mp hmem
      exact ho.new p hp x.1 (by rw [heq]; exact hx)
  protocols x hx := by
    change x ∈ s.sockets at hx
    rw [ho.sockets, List.mem_append] at hx
    rcases hx with hx | hx
    · obtain ⟨p, hp, rfl⟩ := List.mem_map.mp hx
      obtain ⟨sockets, hgrant⟩ := ho.granted p hp
      exact henv.protocols sockets p.1 hgrant
    · exact h.protocols x hx

theorem closeAll_sockets {s₀ : State σ} {ports : List (HostPort × Socket)} (henv : env.Sound) (h : Consistent s₀)
    (ho : Opening env s₀ ports s) : (closeAll env ports s).sockets = s₀.sockets := by
  rw [(closeAll_same env ports s).2.2, ho.sockets, List.filter_append]
  have hnew : (ports.map fun p => (p.2, p.1)).filter
      (fun x => !(ports.any (fun p => p.2 == x.1) && (env.close x.1).isNone)) = [] := by
    rw [List.filter_eq_nil_iff]
    intro x hx
    obtain ⟨p, hp, rfl⟩ := List.mem_map.mp hx
    have : ports.any (fun q => q.2 == p.2) = true := List.any_eq_true.mpr ⟨p, hp, beq_self_eq_true _⟩
    simp [this, henv.close]
  have hold : s₀.sockets.filter
      (fun x => !(ports.any (fun p => p.2 == x.1) && (env.close x.1).isNone)) = s₀.sockets := by
    rw [List.filter_eq_self]
    intro x hx
    have : ports.any (fun p => p.2 == x.1) = false := by
      rw [List.any_eq_false]
      intro p hp heq
      exact Nat.lt_irrefl _ (Nat.lt_of_lt_of_le (h.fresh x hx) (beq_iff_eq.mp heq ▸ (ho.fresh p hp).1))
    simp [this]
  rw [hnew, hold, List.nil_append]

/-- `gatherHostportMappings` selects what `openHostports` asks for, and the SCTP mappings. -/
theorem mem_gather_iff {pod : PodPortMapping} {pm : PortMapping} :
    pm ∈ gatherHostportMappings pod env.iptables.isIPv6 ↔
      pm ∈ pod.portMappings ∧ (wantsSocket env pm = true ∨
        pm.protocol = protocolSCTP ∧ 0 < pm.hostPort ∧ (pm.hostIP = [] ∨ isIPv6String pm.hostIP = env.iptables.isIPv6)) := by
  by_cases hproto : pm.protocol = protocolSCTP <;>
    simp [gatherHostportMappings, wantsSocket, hproto]

theorem not_held_of_gathered {s₀ : State σ} {ports : List (HostPort × Socket)} {pod : PodPortMapping}
    (h : Consistent s₀) (ho : Opening env s₀ ports s)
    (hall : ∀ pm ∈ pod.portMappings, wantsSocket env pm → ∃ p ∈ ports, p.1 = portMappingToHostport pm (getIPFamily env))
    {pm : PortMapping} (hpm : pm ∈ gatherHostportMappings pod env.iptables.isIPv6) :
    s₀.hostPortMap (portMappingToHostport pm (getIPFamily env)) = none := by
  rw [Option.eq_none_iff_forall_ne_some]
  intro k hk
  have hopen := h.isOpen _ k hk
  rcases mem_gather_iff.mp hpm with ⟨hmem, hw | ⟨hproto, -⟩⟩
  · obtain ⟨p, hp, heq⟩ := hall pm hmem hw
    exact ho.new p hp k (heq ▸ hopen)
  · -- SCTP: the opener never granted a hostport of that protocol.
    have := h.protocols _ hopen
    simp only [portMappingToHostport, hproto] at this
    revert this
    decide

/-- `Add` gives back its sockets when iptables fails: both filters select the ports that it opened. -/
theorem closed_registered {s₀ s₃ : State σ} {ports : List (HostPort × Socket)} {pod : PodPortMapping}
    (henv : env.Sound) (h : Consistent s₀) (ho : Opening env s₀ ports s)
    (hfrom : ∀ p ∈ ports, ∃ pm ∈ pod.portMappings, wantsSocket env pm ∧ p.1 = portMappingToHostport pm (getIPFamily env))
    (hall : ∀ pm ∈ pod.portMappings, wantsSocket env pm → ∃ p ∈ ports, p.1 = portMappingToHostport pm (getIPFamily env))
    (hsame : SameSockets (register ports s) s₃)
    (hc : Closed env ((gatherHostportMappings pod env.iptables.isIPv6).map fun pm =>
      portMappingToHostport pm (getIPFamily env)) s₃ t) :
    t.hostPortMap = s₀.hostPortMap ∧ t.sockets = s₀.sockets := by
  have hclosed : ∀ p ∈ ports, p.1 ∈ ((gatherHostportMappings pod env.iptables.isIPv6).map fun pm =>
      portMappingToHostport pm (getIPFamily env)) ∧ closable env s₃ p.1 ∧ s₃.hostPortMap p.1 = some p.2 := by
    intro p hp
    obtain ⟨pm, hpm, hw, heq⟩ := hfrom p hp
    have hmap : s₃.hostPortMap p.1 = some p.2 := by
      rw [hsame.hostPortMap]
      exact register_of_mem ho.keys hp
    refine ⟨List.mem_map.mpr ⟨pm, mem_gather_iff.mpr ⟨hpm, Or.inl hw⟩, heq.symm⟩, ?_, hmap⟩
    simp [closable, hmap, henv.close]
  constructor
  · funext hp
    rw [hc.hostPortMap]
    split
    · rename_i hcl
      obtain ⟨pm, hpm, rfl⟩ := List.mem_map.mp hcl.1
      exact (h.not_held_of_gathered ho hall hpm).symm
    · rename_i hkept
      rw [hsame.hostPortMap, register_of_not_mem, ho.hostPortMap]
      intro hmem
      obtain ⟨p, hp', rfl⟩ := List.mem_map.mp hmem
      exact hkept ⟨(hclosed p hp').1, (hclosed p hp').2.1⟩
  · rw [hc.sockets, hsame.sockets]
    change s.sockets.filter _ = _
    rw [ho.sockets, List.filter_append, List.filter_eq_nil_iff.mpr, List.nil_append, List.filter_eq_self]
    · intro x hx
      simp only [Bool.not_eq_true', decide_eq_false_iff_not]
      rintro ⟨hmem, -⟩
      obtain ⟨pm, hpm, heq⟩ := List.mem_map.mp hmem
      have hnone := h.not_held_of_gathered ho hall hpm
      rw [heq, h.held x hx] at hnone
      cases hnone
    · intro x hx
      obtain ⟨p, hp, rfl⟩ := List.mem_map.mp hx
      simpa using hclosed p hp

/-- Under the mutex: the sockets stay those of the map, and a failure leaves them as they were. -/
theorem addLocked (henv : env.Sound) (h : Consistent s) {id : Text} {pod : PodPortMapping} {e : Option GoError}
    (hadd : addLocked env id pod (gatherHostportMappings pod env.iptables.isIPv6) s = (e, t)) :
    Consistent t ∧ (e ≠ none → t.hostPortMap = s.hostPortMap ∧ t.sockets = s.sockets) := by
  have ht : Tracked t := addLocked_tracked henv.refusesOpen h.toTracked hadd
  obtain ⟨r, s₂, hop, hcases⟩ := addLocked_cases hadd
  obtain ⟨ports, u, ho, hfrom, hres⟩ := openHostports_cases henv.refusesOpen hop
  rcases hcases with ⟨err, hr, -, rfl⟩ | ⟨ports', s₃, hr, hsame, hend⟩
  · rcases hres with ⟨_, -, rfl⟩ | ⟨hr', -, -⟩
    · have hmap := (closeAll_same env ports u).1.trans ho.hostPortMap
      have hsock := closeAll_sockets henv h ho
      refine ⟨{ toTracked := ht, held := ?_, protocols := ?_ }, fun _ => ⟨hmap, hsock⟩⟩
      · rw [hsock, hmap]
        exact h.held
      · rw [hsock]
        exact h.protocols
    · rw [hr] at hr'
      cases hr'
  · rcases hres with ⟨_, hr', -⟩ | ⟨hr', rfl, hall⟩
    · rw [hr] at hr'
      cases hr'
    · rw [hr] at hr'
      cases hr'
      have hs₃ : Consistent s₃ := (h.registered henv ho).of_same hsame
      rcases hend with ⟨rfl, rfl⟩ | ⟨c, -, hclose⟩
      · exact ⟨hs₃, fun hne => absurd rfl hne⟩
      · have hc := closeHostports_closed hs₃.toTracked hclose
        exact ⟨hs₃.closed hc, fun _ => h.closed_registered henv ho hfrom hall hsame hc⟩

theorem add (henv : env.Sound) (h : Consistent s) {id nat : Text} {pod : Option PodPortMapping} {e : Option GoError}
    (hadd : add env id pod nat s = (e, t)) :
    Consistent t ∧ (e ≠ none → t.hostPortMap = s.hostPortMap ∧ t.sockets = s.sockets) := by
  rcases add_cases hadd with hsame | ⟨p, s₁, rfl, hsame, hl⟩
  · exact ⟨h.of_same hsame, fun _ => ⟨hsame.hostPortMap, hsame.sockets⟩⟩
  · obtain ⟨ht, hfail⟩ := (h.of_same hsame).addLocked henv hl
    refine ⟨ht, fun hne => ?_⟩
    rw [(hfail hne).1, (hfail hne).2]
    exact ⟨hsame.hostPortMap, hsame.sockets⟩

theorem remove (h : Consistent s) {env : Env σ} {id : Text} {pod : Option PodPortMapping} {e : Option GoError}
    (hremove : remove env id pod s = (e, t)) : Consistent t := by
  rcases remove_cases hremove with hsame | ⟨p, s₁, c, rfl, -, hsame, hclose⟩
  · exact h.of_same hsame
  · exact (h.of_same hsame).closed (closeHostports_closed (h.of_same hsame).toTracked hclose)

theorem call {c : Call σ} (henv : c.env.Sound) (h : Consistent s) : Consistent (c.run s).2 := by
  cases c with
  | add env id pod nat => exact (h.add henv rfl).1
  | remove env id pod => exact h.remove rfl

end Consistent

/-- The states of a manager after any calls, each with its own failures of the opener and of iptables. -/
def ManagerReachable (allowed : State σ → Call σ → Prop) : State σ → Prop :=
  Reachable (fun s => ∃ tables, s = State.initial tables) allowed fun c s => (c.run s).2

/-- After every call the open sockets are the values of `hostPortMap`, and an `Add` that fails leaves
    both as they were. -/
theorem open_sockets_eq_hostPortMap {s : State σ} (hr : ManagerReachable (fun _ c => c.env.Sound) s) :
    {k | ∃ hp, (k, hp) ∈ s.sockets} = {k | ∃ hp, s.hostPortMap hp = some k} ∧
      ∀ env id pod nat, env.Sound → (add env id pod nat s).1 ≠ none →
        (add env id pod nat s).2.sockets = s.sockets ∧ (add env id pod nat s).2.hostPortMap = s.hostPortMap := by
  have h : Consistent s := by
    refine Reachable.invariant Consistent ?_ (fun s c hs hc => hs.call hc) hr
    rintro s ⟨tables, rfl⟩
    exact Consistent.initial tables
  constructor
  · ext k
    constructor
    · rintro ⟨hp, hmem⟩
      exact ⟨hp, h.held _ hmem⟩
    · rintro ⟨hp, hk⟩
      exact ⟨hp, h.isOpen hp k hk⟩
  · intro env id pod nat henv hne
    obtain ⟨hmap, hsock⟩ := (h.add henv rfl).2 hne
    exact ⟨hsock, hmap⟩

theorem fakeHost_sound (isIPv6 : Bool) : (fakeHost isIPv6).Sound where
  refusesOpen sockets hp k hmem := by
    have hany : (sockets.any fun x => x.2.network == hp.network && x.2.address == hp.address) = true :=
      List.any_eq_true.mpr ⟨_, hmem, by simp⟩
    simp only [fakeHost, openLocalPort, Net.ofSockets, hany, if_true]
    split
    · simp
    · split <;> simp
  protocols sockets hp hgrant := by
    simp only [fakeHost, openLocalPort] at hgrant
    split at hgrant
    · exact Or.inl ‹_›
    · split at hgrant
      · exact Or.inr ‹_›
      · cases hgrant
  close _ := rfl

/-- Two pods that want the same hostport. -/
def webPod : PodPortMapping :=
  { namespace_ := "default", name := "web", portMappings := [⟨80, 8080, "tcp", []⟩],
    hostNetwork := false, ip := [10, 0, 0, 1] }

def apiPod : PodPortMapping :=
  { namespace_ := "default", name := "api", portMappings := [⟨80, 9090, "tcp", []⟩],
    hostNetwork := false, ip := [10, 0, 0, 2] }

def webCall : Call FakeTables := .add (fakeHost false) "web" (some webPod) []

def webAdded : State FakeTables := (webCall.run (State.initial ∅)).2

theorem webAdded_reachable : ManagerReachable (fun _ c => c.env.Sound) webAdded :=
  .call (.start ⟨∅, rfl⟩) (fakeHost_sound false)

/-- The first pod is added, and the second one is refused its port. -/
theorem webAdded_run :
    (add (fakeHost false) "web" (some webPod) [] (State.initial ∅)).1 = none ∧
      webAdded.sockets = [(0, ⟨.ipv4, [], 80, "tcp"⟩)] ∧
      (add (fakeHost false) "api" (some apiPod) [] webAdded).1 ≠ none := by
  decide +kernel

theorem open_sockets_eq_hostPortMap_web :
    webAdded.sockets = [(0, ⟨.ipv4, [], 80, "tcp"⟩)] ∧
      (add (fakeHost false) "api" (some apiPod) [] webAdded).1 ≠ none ∧
      (add (fakeHost false) "api" (some apiPod) [] webAdded).2.sockets = webAdded.sockets := by
  obtain ⟨-, hopen, hfail⟩ := webAdded_run
  exact ⟨hopen, hfail,
    ((open_sockets_eq_hostPortMap webAdded_reachable).2 _ "api" (some apiPod) [] (fakeHost_sound false) hfail).1⟩

/-! ### Owners

The map has no owner of a socket. A run is followed here together with the id of the `Add` that opened
each socket. -/

structure Owned (σ : Type) where
  state : State σ
  owner : Socket → Option Text

namespace Owned

def initial (tables : σ) : Owned σ := { state := State.initial tables, owner := fun _ => none }

/-- The sockets opened by an `Add` belong to its id. -/
def call (c : Call σ) (r : Owned σ) : Owned σ :=
  { state := (c.run r.state).2
    owner := fun k =>
      match c with
      | .add _ id _ _ => if r.state.nextSocket ≤ k ∧ k < (c.run r.state).2.nextSocket then some id else r.owner k
      | .remove _ _ _ => r.owner k }

/-- No hostport that a `Remove` comes to close is held by a socket of another id. -/
def RemovesOwn (r : Owned σ) : Call σ → Prop
  | .add _ _ _ _ => True
  | .remove env id pod => ∀ p ∈ pod, Closes env id p r.state → ∀ pm ∈ gatherHostportMappings p env.iptables.isIPv6, ∀ k,
      r.state.hostPortMap (portMappingToHostport pm (getIPFamily env)) = some k → r.owner k = some id

theorem tracked {allowed : Owned σ → Call σ → Prop} (hopen : ∀ r c, allowed r c → c.env.RefusesOpen) {r : Owned σ}
    (hr : Reachable (fun r => ∃ tables, r = initial tables) allowed call r) : Tracked r.state := by
  refine Reachable.invariant (fun r => Tracked r.state) ?_ (fun r c h hc => c.run_tracked (hopen r c hc) h) hr
  rintro r ⟨tables, rfl⟩
  exact Tracked.initial tables

end Owned

/-- In every run whose `Remove`s come to close no hostport that another id holds, a `Remove` closes only sockets
    that an `Add` of its id opened, and the sockets of the others stay open and in the map. -/
theorem remove_closes_own_sockets {r : Owned σ}
    (hr : Reachable (fun r => ∃ tables, r = Owned.initial tables)
      (fun r c => c.env.RefusesOpen ∧ r.RemovesOwn c) Owned.call r)
    {env : Env σ} {id : Text} {pod : Option PodPortMapping} (hown : r.RemovesOwn (.remove env id pod)) :
    (∀ x ∈ r.state.sockets, x ∉ (remove env id pod r.state).2.sockets → r.owner x.1 = some id) ∧
      ∀ hp k, r.state.hostPortMap hp = some k → r.owner k ≠ some id →
        (k, hp) ∈ (remove env id pod r.state).2.sockets ∧ (remove env id pod r.state).2.hostPortMap hp = some k := by
  have ht : Tracked r.state := Owned.tracked (fun _ _ h => h.1) hr
  generalize hremove : remove env id pod r.state = result
  obtain ⟨e, t⟩ := result
  dsimp only
  rcases remove_cases hremove with hsame | ⟨p, s₁, c, rfl, hcloses, hsame, hclose⟩
  · rw [hsame.sockets, hsame.hostPortMap]
    exact ⟨fun x hx hnot => absurd hx hnot, fun hp k hk _ => ⟨ht.isOpen hp k hk, hk⟩⟩
  · have hc := closeHostports_closed (ht.of_same hsame) hclose
    -- A socket that goes away stood in the map at a hostport of the mappings.
    have howner : ∀ hp k, hp ∈ (gatherHostportMappings p env.iptables.isIPv6).map
        (fun pm => portMappingToHostport pm (getIPFamily env)) → r.state.hostPortMap hp = some k → r.owner k = some id := by
      intro hp k hmem hk
      obtain ⟨pm, hpm, rfl⟩ := List.mem_map.mp hmem
      exact hown p rfl hcloses pm hpm k hk
    have hstay : ∀ x ∈ r.state.sockets, r.owner x.1 ≠ some id → x ∈ t.sockets := by
      intro x hx hne
      rw [hc.sockets, List.mem_filter, hsame.sockets]
      refine ⟨hx, ?_⟩
      simp only [Bool.not_eq_true', decide_eq_false_iff_not]
      rintro ⟨hmem, -, hmap⟩
      exact hne (howner x.2 x.1 hmem (hsame.hostPortMap ▸ hmap))
    refine ⟨fun x hx hnot => not_not.mp fun hne => hnot (hstay x hx hne), fun hp k hk hne => ?_⟩
    refine ⟨hstay (k, hp) (ht.isOpen hp k hk) hne, ?_⟩
    rw [hc.hostPortMap, if_neg fun hcl => hne (howner hp k hcl.1 hk), hsame.hostPortMap]
    exact hk

def bothAdded : Owned FakeTables :=
  Owned.call (.add (fakeHost false) "api" (some apiPod) [])
    (Owned.call (.add (fakeHost false) "web" (some webPod) []) (Owned.initial ∅))

theorem bothAdded_reachable :
    Reachable (fun r => ∃ tables, r = Owned.initial tables) (fun r c => c.env.RefusesOpen ∧ r.RemovesOwn c) Owned.call
      bothAdded :=
  .call (.call (.start ⟨∅, rfl⟩) ⟨(fakeHost_sound false).refusesOpen, trivial⟩)
    ⟨(fakeHost_sound false).refusesOpen, trivial⟩

/-- The socket of the first pod is still open; the removal of the second pod closes it. -/
theorem bothAdded_run :
    bothAdded.owner 0 = some "web".toList ∧ (0, ⟨.ipv4, [], 80, "tcp".toList⟩) ∈ bothAdded.state.sockets ∧
      bothAdded.state.hostPortMap ⟨.ipv4, [], 80, "tcp".toList⟩ = some 0 ∧
      (remove (fakeHost false) "api".toList (some apiPod) bothAdded.state).1 = none ∧
      (0, ⟨.ipv4, [], 80, "tcp".toList⟩) ∉ (remove (fakeHost false) "api".toList (some apiPod) bothAdded.state).2.sockets ∧
      (remove (fakeHost false) "api".toList (some apiPod) bothAdded.state).2.hostPortMap ⟨.ipv4, [], 80, "tcp".toList⟩ =
        none := by
  decide +kernel

theorem remove_closes_own_sockets_web :
    bothAdded.owner 0 = some "web".toList ∧ (0, ⟨.ipv4, [], 80, "tcp".toList⟩) ∈ bothAdded.state.sockets ∧
      ∀ x ∈ bothAdded.state.sockets,
        x ∉ (remove (fakeHost false) "web".toList (some webPod) bothAdded.state).2.sockets →
          bothAdded.owner x.1 = some "web".toList := by
  obtain ⟨howner, hopen, hmap, -⟩ := bothAdded_run
  refine ⟨howner, hopen, (remove_closes_own_sockets bothAdded_reachable ?_).1⟩
  intro p hp _ pm hpm k hk
  cases hp
  have hgather : gatherHostportMappings webPod (fakeHost false).iptables.isIPv6 = [⟨80, 8080, "tcp".toList, []⟩] := by
    decide +kernel
  rw [hgather, List.mem_singleton] at hpm
  subst hpm
  have hport : portMappingToHostport ⟨80, 8080, "tcp".toList, []⟩ (getIPFamily (fakeHost false)) =
      ⟨.ipv4, [], 80, "tcp".toList⟩ := by
    decide +kernel
  rw [hport, hmap] at hk
  cases hk
  exact howner

/-- The clean-up after the failed `Add` of the second pod closes the socket of the first one. -/
theorem remove_closes_socket_of_other_pod :
    (add (fakeHost false) "api".toList (some apiPod) [] webAdded).1 ≠ none ∧
      (0, ⟨.ipv4, [], 80, "tcp".toList⟩) ∈ bothAdded.state.sockets ∧ bothAdded.owner 0 = some "web".toList ∧
      (remove (fakeHost false) "api".toList (some apiPod) bothAdded.state).1 = none ∧
      (0, ⟨.ipv4, [], 80, "tcp".toList⟩) ∉ (remove (fakeHost false) "api".toList (some apiPod) bothAdded.state).2.sockets ∧
      (remove (fakeHost false) "api".toList (some apiPod) bothAdded.state).2.hostPortMap ⟨.ipv4, [], 80, "tcp".toList⟩ =
        none := by
  obtain ⟨howner, hopen, -, hnil, hclosed, hunmapped⟩ := bothAdded_run
  exact ⟨webAdded_run.2.2, hopen, howner, hnil, hclosed, hunmapped⟩

end CriDockerd.Hostport
