import CriDockerd.Theorems.Hostport.Sockets

/-! What the hostport manager writes to iptables: when `Add` and `Remove` reach iptables-restore, and
    which lines they hand to it. The chains that exist already are written with the value that
    `GetChainsFromTable` maps them to, which is no chain declaration. -/

namespace CriDockerd.Hostport
open Text NetIP

variable {σ : Type} {env : Env σ} {s t u : State σ}

/-! ### Calls that do not touch the tables -/

structure SameTables (s t : State σ) : Prop where
  tables : t.tables = s.tables
  payloads : t.payloads = s.payloads
  cleared : t.cleared = s.cleared

namespace SameTables

theorem refl (s : State σ) : SameTables s s := ⟨rfl, rfl, rfl⟩

theorem trans (h₁ : SameTables s t) (h₂ : SameTables t u) : SameTables s u :=
  ⟨h₂.tables.trans h₁.tables, h₂.payloads.trans h₁.payloads, h₂.cleared.trans h₁.cleared⟩

theorem hostPortMap (s : State σ) (map : HostPort → Option Socket) : SameTables s { s with hostPortMap := map } :=
  ⟨rfl, rfl, rfl⟩

theorem openPort (env : Env σ) (hp : HostPort) (s : State σ) : SameTables s (openPort env hp s).2 := by
  dsimp only [Hostport.openPort]
  split <;> exact ⟨rfl, rfl, rfl⟩

theorem closeSocket (env : Env σ) (k : Socket) (s : State σ) : SameTables s (closeSocket env k s).2 := by
  unfold Hostport.closeSocket
  split <;> exact ⟨rfl, rfl, rfl⟩

theorem openLoop (env : Env σ) (name : Text) (pms : List PortMapping) (ports : List (HostPort × Socket)) (s : State σ) :
    SameTables s (openLoop env name pms ports s).2.2 := by
  induction pms generalizing ports s with
  | nil => exact refl s
  | cons pm rest ih =>
    cases hw : wantsSocket env pm with
    | false =>
      rw [openLoop_skip hw]
      exact ih ports s
    | true =>
      rw [openLoop_wanted hw]
      have hport := openPort env (portMappingToHostport pm (getIPFamily env)) s
      split
      · rename_i h
        rw [h] at hport
        exact hport
      · rename_i h
        rw [h] at hport
        exact hport.trans (ih _ _)

theorem closeAll (env : Env σ) (ports : List (HostPort × Socket)) (s : State σ) :
    SameTables s (closeAll env ports s) := by
  induction ports generalizing s with
  | nil => exact refl s
  | cons p rest ih => exact (closeSocket env p.2 s).trans (ih _)

theorem openHostports (env : Env σ) (pod : PodPortMapping) (s : State σ) :
    SameTables s (openHostports env pod s).2 := by
  have hloop := openLoop env (getPodFullName pod) pod.portMappings [] s
  unfold Hostport.openHostports
  split
  · rename_i h
    rw [h] at hloop
    exact hloop.trans (closeAll env _ _)
  · rename_i h
    rw [h] at hloop
    exact hloop

theorem closeLoop (env : Env σ) (pms : List PortMapping) (errs : List (Option GoError)) (s : State σ) :
    SameTables s (closeLoop env pms errs s).2 := by
  induction pms generalizing errs s with
  | nil => exact refl s
  | cons pm rest ih =>
    dsimp only [Hostport.closeLoop]
    split
    · exact ih errs s
    · rename_i k _
      have hclose := closeSocket env k s
      split
      · rename_i h
        rw [h] at hclose
        exact hclose.trans (ih _ _)
      · rename_i h
        rw [h] at hclose
        exact (hclose.trans (hostPortMap _ _)).trans (ih errs _)

theorem closeHostports (env : Env σ) (pms : List PortMapping) (s : State σ) :
    SameTables s (closeHostports env pms s).2 := closeLoop env pms [] s

theorem cleanUp (env : Env σ) (pms : List PortMapping) (err : GoError) (s : State σ) :
    SameTables s (cleanUp env pms err s).2 := closeLoop env pms [] s

end SameTables

theorem clearConntrack_tables (env : Env σ) (pms : List PortMapping) (v6 : Bool) (s : State σ) :
    (clearConntrack env pms v6 s).tables = s.tables ∧ (clearConntrack env pms v6 s).payloads = s.payloads := by
  unfold clearConntrack
  split <;> exact ⟨rfl, rfl⟩

/-! ### Reaching iptables-restore -/

theorem cleanUp_ne_none {pms : List PortMapping} {err : GoError} {e : Option GoError}
    (h : cleanUp env pms err s = (e, t)) : e ≠ none := by
  cases h
  simp

/-- The hostport chains in an output of iptables-save, with their values. -/
def existingChains (data : Text) : List (Text × Text) :=
  ((getChainsFromTable data).filter isHostportChain).map fun chain => (chain, emptyStruct)

def existingRules (data : Text) : List Text := (split data '\n').filter isHostportRule

theorem getExisting_ok {iptables : IPTables σ} {t t' : σ} {chains : List (Text × Text)} {rules : List Text}
    (h : getExistingHostportIPTablesRules iptables t = (.ok (chains, rules), t')) :
    ∃ data, iptables.saveInto tableNAT t = (.ok data, t') ∧ chains = existingChains data ∧ rules = existingRules data := by
  unfold getExistingHostportIPTablesRules at h
  split at h
  · cases h
  · rename_i data _ hsave
    cases h
    exact ⟨data, hsave, rfl, rfl⟩

theorem getExisting_error {iptables : IPTables σ} {t t' : σ} {err : GoError}
    (h : getExistingHostportIPTablesRules iptables t = (.error err, t')) :
    ∃ err', iptables.saveInto tableNAT t = (.error err', t') := by
  unfold getExistingHostportIPTablesRules at h
  split at h
  · rename_i err' _ hsave
    cases h
    exact ⟨err', hsave⟩
  · cases h

theorem syncIPTables_eq {lines : Text} {e : Option GoError} (h : syncIPTables env lines s = (e, t)) :
    t.payloads = s.payloads ++ [lines] ∧
      ∃ e', env.iptables.restoreAll lines s.tables = (e', t.tables) ∧ (e' = none ↔ e = none) := by
  dsimp only [syncIPTables] at h
  split at h
  · rename_i hrestore
    cases h
    exact ⟨rfl, _, hrestore, by simp⟩
  · rename_i hrestore
    cases h
    exact ⟨rfl, _, hrestore, by simp⟩

/-- What `Add` writes for a pod, given the output of iptables-save. -/
def addText (env : Env σ) (id : Text) (pod : PodPortMapping) (data : Text) : Text :=
  addPayload id (getPodFullName pod) (ipString pod.ip) (gatherHostportMappings pod env.iptables.isIPv6)
    (existingChains data) (existingRules data)

theorem addLocked_tables {id : Text} {pod : PodPortMapping} {e : Option GoError}
    (h : addLocked env id pod (gatherHostportMappings pod env.iptables.isIPv6) s = (e, t)) :
    SameTables s t ∧ e ≠ none ∨
      (∃ err, env.iptables.saveInto tableNAT s.tables = (.error err, t.tables) ∧ t.payloads = s.payloads ∧ e ≠ none) ∨
      ∃ data t₂ e', env.iptables.saveInto tableNAT s.tables = (.ok data, t₂) ∧
        t.payloads = s.payloads ++ [addText env id pod data] ∧
        env.iptables.restoreAll (addText env id pod data) t₂ = (e', t.tables) ∧ (e' = none ↔ e = none) := by
  have hopen := SameTables.openHostports env pod s
  unfold addLocked at h
  split at h
  · rename_i hopened
    cases h
    rw [hopened] at hopen
    exact Or.inl ⟨hopen, by simp⟩
  rename_i ports s₂ hopened
  rw [hopened] at hopen
  dsimp only at h hopen
  have htables : (register ports s₂).tables = s.tables := hopen.tables
  have hpayloads : (register ports s₂).payloads = s.payloads := hopen.payloads
  rw [htables] at h
  split at h
  · rename_i err t₃ hexisting
    obtain ⟨err', hsave⟩ := getExisting_error hexisting
    have hclean := SameTables.cleanUp env (gatherHostportMappings pod env.iptables.isIPv6) err
      { hostPortMap := (register ports s₂).hostPortMap, tables := t₃, sockets := (register ports s₂).sockets,
        nextSocket := (register ports s₂).nextSocket, requests := (register ports s₂).requests,
        payloads := (register ports s₂).payloads, cleared := (register ports s₂).cleared }
    rw [h] at hclean
    refine Or.inr (Or.inl ⟨err', ?_, hclean.payloads.trans hpayloads, cleanUp_ne_none h⟩)
    rw [hsave, hclean.tables]
  · rename_i t₂ hexisting
    obtain ⟨data, hsave, rfl, rfl⟩ := getExisting_ok hexisting
    refine Or.inr (Or.inr ⟨data, t₂, ?_⟩)
    split at h
    · rename_i err s₃ hsync
      obtain ⟨hp, e', hrestore, he⟩ := syncIPTables_eq hsync
      have hclean := SameTables.cleanUp env (gatherHostportMappings pod env.iptables.isIPv6) err s₃
      rw [h] at hclean
      refine ⟨e', hsave, ?_, ?_, ?_⟩
      · rw [hclean.payloads, hp]
        exact congrArg (· ++ _) hpayloads
      · rw [hclean.tables]
        exact hrestore
      · rw [he]
        constructor
        · exact fun hnone => nomatch hnone
        · exact fun hnone => absurd hnone (cleanUp_ne_none h)
    · rename_i s₃ hsync
      obtain ⟨hp, e', hrestore, he⟩ := syncIPTables_eq hsync
      cases h
      have hclear := clearConntrack_tables env (gatherHostportMappings pod env.iptables.isIPv6) (isIPv6 pod.ip) s₃
      refine ⟨e', hsave, ?_, ?_, he⟩
      · rw [hclear.2, hp]
        exact congrArg (· ++ _) hpayloads
      · rw [hclear.1]
        exact hrestore

/-- An `Add` that goes beyond its checks ensures the system chains; when that and the opening of the
    sockets work, it saves and restores. -/
theorem add_tables {id nat : Text} {pod : Option PodPortMapping} {e : Option GoError}
    (h : add env id pod nat s = (e, t)) :
    SameTables s t ∧ (e = none → ∀ p ∈ pod, p.hostNetwork = true ∨ gatherHostportMappings p (isIPv6 p.ip) = []) ∨
      ∃ p e₁ t₁, pod = some p ∧ p.hostNetwork = false ∧ to16 p.ip ≠ none ∧ isIPv6 p.ip = env.iptables.isIPv6 ∧
        gatherHostportMappings p env.iptables.isIPv6 ≠ [] ∧
        ensureKubeHostportChains env.iptables nat s.tables = (e₁, t₁) ∧
        (t.tables = t₁ ∧ t.payloads = s.payloads ∧ e ≠ none ∨
          e₁ = none ∧
            ((∃ err, env.iptables.saveInto tableNAT t₁ = (.error err, t.tables) ∧ t.payloads = s.payloads ∧ e ≠ none) ∨
              ∃ data t₂ e', env.iptables.saveInto tableNAT t₁ = (.ok data, t₂) ∧
                t.payloads = s.payloads ++ [addText env id p data] ∧
                env.iptables.restoreAll (addText env id p data) t₂ = (e', t.tables) ∧ (e' = none ↔ e = none))) := by
  unfold add at h
  split at h
  · cases h
    exact Or.inl ⟨SameTables.refl _, by simp⟩
  rename_i p
  split at h
  · rename_i hnet
    cases h
    exact Or.inl ⟨SameTables.refl _, by simp [hnet]⟩
  rename_i hnet
  split at h
  · cases h
    exact Or.inl ⟨SameTables.refl _, by simp⟩
  rename_i hip
  dsimp only at h
  split at h
  · rename_i hempty
    cases h
    exact Or.inl ⟨SameTables.refl _, by simp [hempty]⟩
  rename_i hne
  split at h
  · cases h
    exact Or.inl ⟨SameTables.refl _, by simp⟩
  rename_i hfam
  rw [ne_eq, not_not] at hfam
  rw [hfam] at h hne
  have hnet' : p.hostNetwork = false := by simpa using hnet
  split at h
  · rename_i err t₁ hensure
    cases h
    exact Or.inr ⟨p, _, t₁, rfl, hnet', hip, hfam, hne, hensure, Or.inl ⟨rfl, rfl, by simp⟩⟩
  · rename_i t₁ hensure
    refine Or.inr ⟨p, _, t₁, rfl, hnet', hip, hfam, hne, hensure, ?_⟩
    rcases addLocked_tables h with ⟨hsame, he⟩ | hsaved
    · exact Or.inl ⟨hsame.tables, hsame.payloads, he⟩
    · exact Or.inr ⟨rfl, hsaved⟩

def podChains (env : Env σ) (id : Text) (pod : PodPortMapping) : List Text :=
  (gatherHostportMappings pod env.iptables.isIPv6).map (getHostportChain id)

/-- Those of them that an output of iptables-save declares. -/
def chainsToDelete (env : Env σ) (id : Text) (pod : PodPortMapping) (data : Text) : List Text :=
  (podChains env id pod).filter fun chain => chain ∈ (existingChains data).map (·.1)

/-- What `Remove` writes for a pod, given the output of iptables-save. -/
def removeText (env : Env σ) (id : Text) (pod : PodPortMapping) (data : Text) : Text :=
  removePayload (existingChains data) (filterRules (existingRules data) (podChains env id pod))
    (chainsToDelete env id pod data)

/-- A `Remove` that goes beyond its checks saves; it restores if one of the pod's chains exists. -/
theorem remove_tables {id : Text} {pod : Option PodPortMapping} {e : Option GoError}
    (h : remove env id pod s = (e, t)) :
    SameTables s t ∧ (∀ p ∈ pod, p.hostNetwork = true ∨ gatherHostportMappings p env.iptables.isIPv6 = []) ∨
      ∃ p, pod = some p ∧ p.hostNetwork = false ∧ gatherHostportMappings p env.iptables.isIPv6 ≠ [] ∧
        ((∃ err, env.iptables.saveInto tableNAT s.tables = (.error err, t.tables) ∧ t.payloads = s.payloads ∧ e ≠ none) ∨
          ∃ data t₁, env.iptables.saveInto tableNAT s.tables = (.ok data, t₁) ∧
            (chainsToDelete env id p data = [] ∧ t.tables = t₁ ∧ t.payloads = s.payloads ∨
              chainsToDelete env id p data ≠ [] ∧ t.payloads = s.payloads ++ [removeText env id p data] ∧
                ∃ e', env.iptables.restoreAll (removeText env id p data) t₁ = (e', t.tables) ∧ (e = none → e' = none))) := by
  unfold remove at h
  split at h
  · cases h
    exact Or.inl ⟨SameTables.refl _, by simp⟩
  rename_i p
  split at h
  · rename_i hnet
    cases h
    exact Or.inl ⟨SameTables.refl _, by simp [hnet]⟩
  rename_i hnet
  dsimp only at h
  split at h
  · rename_i hempty
    cases h
    exact Or.inl ⟨SameTables.refl _, by simp [hempty]⟩
  rename_i hne
  refine Or.inr ⟨p, rfl, by simpa using hnet, hne, ?_⟩
  split at h
  · rename_i err t₁ hexisting
    obtain ⟨err', hsave⟩ := getExisting_error hexisting
    cases h
    exact Or.inl ⟨err', hsave, rfl, by simp⟩
  rename_i t₁ hexisting
  obtain ⟨data, hsave, rfl, rfl⟩ := getExisting_ok hexisting
  refine Or.inr ⟨data, t₁, hsave, ?_⟩
  split at h
  · rename_i hnothing
    have hclose := SameTables.closeHostports env (gatherHostportMappings p env.iptables.isIPv6)
      { hostPortMap := s.hostPortMap, tables := t₁, sockets := s.sockets, nextSocket := s.nextSocket,
        requests := s.requests, payloads := s.payloads, cleared := s.cleared }
    rw [h] at hclose
    exact Or.inl ⟨hnothing, hclose.tables, hclose.payloads⟩
  · rename_i hsome
    refine Or.inr ⟨hsome, ?_⟩
    split at h
    · rename_i hsync
      cases h
      obtain ⟨hp, e', hrestore, he⟩ := syncIPTables_eq hsync
      exact ⟨hp, e', hrestore, he.mpr⟩
    · rename_i s₂ hsync
      obtain ⟨hp, e', hrestore, he⟩ := syncIPTables_eq hsync
      have hclose := SameTables.closeHostports env (gatherHostportMappings p env.iptables.isIPv6) s₂
      rw [h] at hclose
      exact ⟨hclose.payloads.trans hp, e', by rw [hclose.tables]; exact hrestore, fun _ => he.mpr rfl⟩

/-! ### Lines -/

def jumpLine (id podFullName : Text) (pm : PortMapping) : Text :=
  join [' '] ("-I" :: kubeHostportsChain :: jumpWords id podFullName pm)

def masqLine (id podFullName podIP : Text) (pm : PortMapping) : Text :=
  join [' '] ("-A" :: getHostportChain id pm :: masqWords podFullName podIP pm)

def dnatLine (id podFullName podIP : Text) (pm : PortMapping) : Text :=
  join [' '] ("-A" :: getHostportChain id pm :: dnatWords podFullName podIP pm)

def mappingLines (id podFullName podIP : Text) (pm : PortMapping) : List Text :=
  [jumpLine id podFullName pm, masqLine id podFullName podIP pm, dnatLine id podFullName podIP pm]

def deleteLine (chain : Text) : Text := join [' '] ["-X", chain]

def addLines (id podFullName podIP : Text) (pms : List PortMapping) (chains : List (Text × Text)) (rules : List Text) :
    List Text :=
  "*nat".toList :: (pms.map (getHostportChain id)).map makeChainLine ++
    (filterChains chains (pms.map (getHostportChain id))).map (·.2) ++
    pms.flatMap (mappingLines id podFullName podIP) ++
    filterRules rules (pms.map (getHostportChain id)) ++ ["COMMIT".toList]

def removeLines (chains : List (Text × Text)) (rules toDelete : List Text) : List Text :=
  "*nat".toList :: chains.map (·.2) ++ rules ++ toDelete.map deleteLine ++ ["COMMIT".toList]

theorem foldl_writeLine {α : Type} (words : α → List Text) (buf : Text) (xs : List α) :
    xs.foldl (fun buf x => writeLine buf (words x)) buf = buf ++ unlines (xs.map fun x => join [' '] (words x)) := by
  induction xs generalizing buf with
  | nil => simp
  | cons x xs ih =>
    rw [List.foldl_cons, ih, List.map_cons, unlines_cons, writeLine]
    simp only [List.append_assoc, List.singleton_append]

theorem foldl_writeMapping (id podFullName podIP buf : Text) (pms : List PortMapping) :
    pms.foldl (writeMapping id podFullName podIP) buf = buf ++ unlines (pms.flatMap (mappingLines id podFullName podIP)) := by
  induction pms generalizing buf with
  | nil => simp
  | cons pm pms ih => simp [ih, writeMapping, writeLine, mappingLines, jumpLine, masqLine, dnatLine]

theorem addPayload_eq (id podFullName podIP : Text) (pms : List PortMapping) (chains : List (Text × Text))
    (rules : List Text) :
    addPayload id podFullName podIP pms chains rules = unlines (addLines id podFullName podIP pms chains rules) := by
  simp only [addPayload, foldl_writeLine, foldl_writeMapping]
  simp only [addLines, unlines_append, unlines_cons, unlines_nil, writeLine, join_singleton, List.append_assoc,
    List.nil_append, List.cons_append, List.map_map, Function.comp_def, List.map_id']

theorem removePayload_eq (chains : List (Text × Text)) (rules toDelete : List Text) :
    removePayload chains rules toDelete = unlines (removeLines chains rules toDelete) := by
  simp only [removePayload, foldl_writeLine]
  simp only [removeLines, unlines_append, unlines_cons, unlines_nil, writeLine, join_singleton,
    List.append_assoc, List.nil_append, List.cons_append, List.map_id']
  rfl

/-! ### Lines without newlines -/

/-- Names and addresses hold no newline: they are checked as DNS names and as addresses before a pod
    gets here. -/
structure PodPortMapping.OneLine (pod : PodPortMapping) : Prop where
  name : '\n' ∉ pod.name
  namespace_ : '\n' ∉ pod.namespace_
  mappings : ∀ pm ∈ pod.portMappings, '\n' ∉ pm.protocol ∧ '\n' ∉ pm.hostIP

theorem not_newline_join {ws : List Text} (h : ∀ w ∈ ws, '\n' ∉ w) : '\n' ∉ join [' '] ws := by
  intro hmem
  rcases mem_join hmem with hsep | ⟨w, hw, hc⟩
  · simp at hsep
  · exact h w hw hc

theorem mem_getHostportChain {id : Text} {pm : PortMapping} {c : Char} (h : c ∈ getHostportChain id pm) :
    c ∈ kubeHostportChainPrefix ∨ c ∈ Digest.base32Alphabet ∨ c = '=' := by
  rcases List.mem_append.mp h with h | h
  · exact Or.inl h
  · exact Or.inr (Digest.mem_base32 (List.mem_of_mem_take h))

theorem isWord_getHostportChain (id : Text) (pm : PortMapping) : IsWord (getHostportChain id pm) := by
  constructor
  · exact List.append_ne_nil_of_left_ne_nil (by decide) _
  · intro c hc
    have hchars : ∀ c ∈ kubeHostportChainPrefix ++ Digest.base32Alphabet ++ ['='], isSpace c = false ∧ c ≠ '"' := by
      decide
    refine hchars c ?_
    rcases mem_getHostportChain hc with h | h | h <;> simp [h]

theorem not_newline_chain (id : Text) (pm : PortMapping) : '\n' ∉ getHostportChain id pm :=
  (isWord_getHostportChain id pm).not_mem_of_isSpace (by decide)

theorem not_newline_itoa (n : Int) : '\n' ∉ itoa n := fun h => by
  rcases isDigit_or_minus_of_mem_itoa h with h | h <;> revert h <;> decide

theorem not_newline_toLower {w : Text} (h : '\n' ∉ w) : '\n' ∉ toLower w := fun hmem => by
  rcases mem_of_mem_toLower hmem with hmem | hlower
  · exact h hmem
  · revert hlower
    decide

theorem not_newline_ipString {ip : IP} (hip : to16 ip ≠ none) : '\n' ∉ ipString ip := fun h => by
  rcases isAddressChar_of_mem_ipString hip h with h | h | h <;> revert h <;> decide

section
variable {pod : PodPortMapping} {pm : PortMapping}

theorem not_newline_comment (hpod : pod.OneLine) : '\n' ∉ hostportComment (getPodFullName pod) pm := by
  simp [hostportComment, getPodFullName, hpod.name, hpod.namespace_, not_newline_itoa]

theorem not_newline_mappingWords (hpod : pod.OneLine) (hpm : pm ∈ pod.portMappings) (hip : to16 pod.ip ≠ none) (id : Text) :
    (∀ w ∈ jumpWords id (getPodFullName pod) pm, '\n' ∉ w) ∧
      (∀ w ∈ masqWords (getPodFullName pod) (ipString pod.ip) pm, '\n' ∉ w) ∧
      ∀ w ∈ dnatWords (getPodFullName pod) (ipString pod.ip) pm, '\n' ∉ w := by
  have hcomment : '\n' ∉ hostportComment (getPodFullName pod) pm := not_newline_comment hpod
  have hproto := not_newline_toLower (hpod.mappings pm hpm).1
  have hip' := not_newline_ipString hip
  refine ⟨?_, ?_, ?_⟩
  · simp only [jumpWords, List.forall_mem_cons]
    exact ⟨by decide, by decide, by decide, hcomment, by decide, hproto, by decide, hproto, by decide,
      not_newline_itoa _, by decide, not_newline_chain id pm, by simp⟩
  · simp only [masqWords, List.forall_mem_cons]
    exact ⟨by decide, by decide, by decide, hcomment, by decide, hip', by decide, by decide, by simp⟩
  · have hto : '\n' ∉ "--to-destination=" ++ joinHostPort (ipString pod.ip) (itoa pm.containerPort) := by
      have hport := not_newline_itoa pm.containerPort
      unfold joinHostPort
      split <;> simp [hip', hport]
    have hdest : ∀ w ∈ (if isWildcard pm.hostIP then [] else ["-d".toList, pm.hostIP]), '\n' ∉ w := by
      split
      · simp
      · simpa using (hpod.mappings pm hpm).2
    simp only [dnatWords, List.forall_mem_cons, List.forall_mem_append]
    exact ⟨⟨⟨by decide, by decide, by decide, hcomment, by decide, hproto, by decide, hproto, by simp⟩, hdest⟩,
      by decide, by decide, hto, by simp⟩

theorem not_newline_mappingLines (hpod : pod.OneLine) (hpm : pm ∈ pod.portMappings) (hip : to16 pod.ip ≠ none) (id : Text) :
    ∀ line ∈ mappingLines id (getPodFullName pod) (ipString pod.ip) pm, '\n' ∉ line := by
  obtain ⟨hjump, hmasq, hdnat⟩ := not_newline_mappingWords hpod hpm hip id
  have hchain := not_newline_chain id pm
  simp only [mappingLines, List.forall_mem_cons]
  refine ⟨not_newline_join ?_, not_newline_join ?_, not_newline_join ?_, by simp⟩
  · simp only [List.forall_mem_cons]
    exact ⟨by decide, by decide, hjump⟩
  · simp only [List.forall_mem_cons]
    exact ⟨by decide, hchain, hmasq⟩
  · simp only [List.forall_mem_cons]
    exact ⟨by decide, hchain, hdnat⟩

end

theorem not_newline_makeChainLine {chain : Text} (h : '\n' ∉ chain) : '\n' ∉ makeChainLine chain := by
  simp [makeChainLine, h]

theorem not_newline_existingRules {data rule : Text} (h : rule ∈ existingRules data) : '\n' ∉ rule :=
  not_mem_of_mem_split (List.mem_of_mem_filter h)

theorem not_newline_value {data : Text} {chain : Text × Text} (h : chain ∈ existingChains data) :
    chain.2 = emptyStruct := by
  obtain ⟨name, -, rfl⟩ := List.mem_map.mp h
  rfl

theorem lines_addText {pod : PodPortMapping} (hpod : pod.OneLine) (hip : to16 pod.ip ≠ none) (id data : Text) :
    lines (addText env id pod data) =
      addLines id (getPodFullName pod) (ipString pod.ip) (gatherHostportMappings pod env.iptables.isIPv6)
        (existingChains data) (existingRules data) := by
  rw [addText, addPayload_eq]
  refine lines_unlines ?_
  simp only [addLines, List.cons_append, List.forall_mem_cons, List.forall_mem_append]
  refine ⟨by decide, ⟨⟨⟨?_, ?_⟩, ?_⟩, ?_⟩, by decide, by simp⟩
  · intro line hline
    obtain ⟨chain, hchain, rfl⟩ := List.mem_map.mp hline
    obtain ⟨pm, -, rfl⟩ := List.mem_map.mp hchain
    exact not_newline_makeChainLine (not_newline_chain id pm)
  · intro line hline
    obtain ⟨chain, hchain, rfl⟩ := List.mem_map.mp hline
    rw [not_newline_value (List.mem_of_mem_filter hchain)]
    decide
  · intro line hline
    obtain ⟨pm, hpm, hline⟩ := List.mem_flatMap.mp hline
    exact not_newline_mappingLines hpod (List.mem_of_mem_filter hpm) hip id line hline
  · intro line hline
    exact not_newline_existingRules (List.mem_of_mem_filter hline)

theorem lines_removeText (id data : Text) (pod : PodPortMapping) :
    lines (removeText env id pod data) =
      removeLines (existingChains data) (filterRules (existingRules data) (podChains env id pod))
        (chainsToDelete env id pod data) := by
  rw [removeText, removePayload_eq]
  refine lines_unlines ?_
  simp only [removeLines, List.cons_append, List.forall_mem_cons, List.forall_mem_append]
  refine ⟨by decide, ⟨⟨?_, ?_⟩, ?_⟩, by decide, by simp⟩
  · intro line hline
    obtain ⟨chain, hchain, rfl⟩ := List.mem_map.mp hline
    rw [not_newline_value hchain]
    decide
  · intro line hline
    exact not_newline_existingRules (List.mem_of_mem_filter hline)
  · intro line hline
    obtain ⟨chain, hchain, rfl⟩ := List.mem_map.mp hline
    obtain ⟨pm, -, rfl⟩ := List.mem_map.mp (List.mem_of_mem_filter hchain)
    have := not_newline_chain id pm
    simp [deleteLine, this]

/-! ### Well-formed input of iptables-restore -/

/-- A line that iptables-restore knows: the table, a chain declaration, a rule or a deletion, the end. -/
def isRestoreLine (line : Text) : Bool :=
  line == "*nat".toList || (hasPrefix line [':'] && decide (' ' ∈ line)) || hasPrefix line "-A ".toList ||
    hasPrefix line "-I " || hasPrefix line "-X " || line == "COMMIT"

def declaredChains (payload : Text) : List Text :=
  ((lines payload).filter fun line => hasPrefix line [':']).map fun line => (line.drop 1).takeWhile (· ≠ ' ')

/-- Every line is one that iptables-restore knows, and the declared chains are, each once, the given
    ones. -/
structure WellFormedPayload (existing new : List Text) (payload : Text) : Prop where
  lines : ∀ line ∈ lines payload, isRestoreLine line = true
  once : (declaredChains payload).Nodup
  declared : ∀ chain, chain ∈ declaredChains payload ↔ chain ∈ existing ∨ chain ∈ new

theorem isRestoreLine_emptyStruct : isRestoreLine emptyStruct = false := by decide

theorem isRestoreLine_makeChainLine (chain : Text) : isRestoreLine (makeChainLine chain) = true := by
  simp [isRestoreLine, makeChainLine, hasPrefix]

theorem declared_makeChainLine {chain : Text} (h : ' ' ∉ chain) :
    ((makeChainLine chain).drop 1).takeWhile (· ≠ ' ') = chain := by
  show List.takeWhile _ (chain ++ ' ' :: "- [0:0]") = chain
  exact takeWhile_ne h _

theorem not_declares_option (rest : Text) : hasPrefix ('-' :: rest) [':'] = false := rfl

theorem isRestoreLine_option {rest : Text} (option : Text) (h : option ∈ ["-A ".toList, "-I ", "-X "]) :
    isRestoreLine (option ++ rest) = true ∧ hasPrefix (option ++ rest) [':'] = false := by
  simp only [List.mem_cons, List.not_mem_nil, or_false] at h
  refine ⟨?_, by rcases h with rfl | rfl | rfl <;> exact not_declares_option _⟩
  unfold isRestoreLine
  rcases h with rfl | rfl | rfl <;> simp only [hasPrefix_append, Bool.or_true, Bool.true_or]

theorem mappingLines_option {id name ip : Text} {pm : PortMapping} :
    ∀ line ∈ mappingLines id name ip pm, isRestoreLine line = true ∧ hasPrefix line [':'] = false := by
  simp only [mappingLines, List.forall_mem_cons]
  refine ⟨?_, ?_, ?_, by simp⟩
  · exact isRestoreLine_option "-I " (by simp)
  · exact isRestoreLine_option "-A " (by simp)
  · exact isRestoreLine_option "-A " (by simp)

theorem existingRules_option {data rule : Text} (h : rule ∈ existingRules data) :
    isRestoreLine rule = true ∧ hasPrefix rule [':'] = false := by
  have hrule : hasPrefix rule "-A " = true := by
    have := (List.mem_filter.mp h).2
    rw [isHostportRule, Bool.or_eq_true] at this
    rcases this with hp | hp <;>
      exact hasPrefix_iff.mpr ((List.prefix_append _ _).trans (hasPrefix_iff.mp hp))
  obtain ⟨rest, rfl⟩ := hasPrefix_iff.mp hrule
  exact isRestoreLine_option "-A " (by simp)

section
variable {id : Text} {pod : PodPortMapping} {data : Text}

theorem declaredChains_addText (hpod : pod.OneLine) (hip : to16 pod.ip ≠ none) :
    declaredChains (addText env id pod data) = podChains env id pod := by
  have hchains : ((podChains env id pod).map makeChainLine).filter (fun line => hasPrefix line [':']) =
      (podChains env id pod).map makeChainLine := by
    rw [List.filter_eq_self]
    intro line hline
    obtain ⟨chain, -, rfl⟩ := List.mem_map.mp hline
    rfl
  have hvalues : ((filterChains (existingChains data) (podChains env id pod)).map (·.2)).filter
      (fun line => hasPrefix line [':']) = [] := by
    rw [List.filter_eq_nil_iff]
    intro line hline
    obtain ⟨chain, hchain, rfl⟩ := List.mem_map.mp hline
    rw [not_newline_value (List.mem_of_mem_filter hchain)]
    decide
  have hmappings : ((gatherHostportMappings pod env.iptables.isIPv6).flatMap
      (mappingLines id (getPodFullName pod) (ipString pod.ip))).filter (fun line => hasPrefix line [':']) = [] := by
    rw [List.filter_eq_nil_iff]
    intro line hline
    obtain ⟨pm, -, hline⟩ := List.mem_flatMap.mp hline
    simp [(mappingLines_option line hline).2]
  have hrules : (filterRules (existingRules data) (podChains env id pod)).filter (fun line => hasPrefix line [':']) = [] := by
    rw [List.filter_eq_nil_iff]
    intro line hline
    simp [(existingRules_option (List.mem_of_mem_filter hline)).2]
  have htable : hasPrefix "*nat" [':'] = false := by decide
  have hcommit : hasPrefix "COMMIT".toList [':'] = false := by decide
  rw [declaredChains, lines_addText hpod hip, addLines]
  change ((("*nat".toList :: (podChains env id pod).map makeChainLine ++
    (filterChains (existingChains data) (podChains env id pod)).map (·.2) ++ _ ++
    filterRules (existingRules data) (podChains env id pod) ++ ["COMMIT".toList]).filter _).map _) = _
  simp only [List.filter_append, List.filter_cons, htable, hcommit, hchains, hvalues, hmappings, hrules,
    List.append_nil, List.filter_nil, Bool.false_eq_true, if_false, List.map_map]
  conv_rhs => rw [← List.map_id (podChains env id pod)]
  refine List.map_congr_left fun chain hchain => ?_
  obtain ⟨pm, -, rfl⟩ := List.mem_map.mp hchain
  exact declared_makeChainLine (isWord_getHostportChain id pm).not_space

theorem wellFormed_addText_iff (hpod : pod.OneLine) (hip : to16 pod.ip ≠ none) (hdiff : (podChains env id pod).Nodup) :
    WellFormedPayload ((existingChains data).map (·.1)) (podChains env id pod) (addText env id pod data) ↔
      ∀ chain ∈ (existingChains data).map (·.1), chain ∈ podChains env id pod := by
  have hdecl : declaredChains (addText env id pod data) = podChains env id pod := declaredChains_addText hpod hip
  constructor
  · intro h chain hchain
    exact hdecl ▸ (h.declared chain).mpr (Or.inl hchain)
  · intro hsub
    have hnone : filterChains (existingChains data) (podChains env id pod) = [] := by
      rw [filterChains, List.filter_eq_nil_iff]
      intro chain hchain
      simpa using hsub chain.1 (List.mem_map.mpr ⟨chain, hchain, rfl⟩)
    refine ⟨?_, hdecl ▸ hdiff, fun chain => ?_⟩
    · rw [lines_addText hpod hip, addLines]
      change ∀ line ∈ "*nat".toList :: (podChains env id pod).map makeChainLine ++
        (filterChains (existingChains data) (podChains env id pod)).map (·.2) ++ _ ++
        filterRules (existingRules data) (podChains env id pod) ++ ["COMMIT".toList], _
      rw [hnone]
      simp only [List.cons_append, List.forall_mem_cons, List.forall_mem_append]
      refine ⟨by decide, ⟨⟨⟨?_, by simp⟩, ?_⟩, ?_⟩, by decide, by simp⟩
      · intro line hline
        obtain ⟨chain, -, rfl⟩ := List.mem_map.mp hline
        exact isRestoreLine_makeChainLine chain
      · intro line hline
        obtain ⟨pm, -, hline⟩ := List.mem_flatMap.mp hline
        exact (mappingLines_option line hline).1
      · intro line hline
        exact (existingRules_option (List.mem_of_mem_filter hline)).1
    · rw [hdecl]
      exact ⟨Or.inr, fun h => h.elim (hsub chain) fun hnew => hnew⟩

/-- The payload of `Remove` is never well formed: it is written only if a chain of the pod exists. -/
theorem not_wellFormed_removeText (h : chainsToDelete env id pod data ≠ []) (new : List Text) :
    ¬WellFormedPayload ((existingChains data).map (·.1)) new (removeText env id pod data) := by
  intro hwf
  obtain ⟨chain, hchain⟩ := List.exists_mem_of_ne_nil _ h
  have hex : chain ∈ (existingChains data).map (·.1) := by simpa using (List.mem_filter.mp hchain).2
  obtain ⟨entry, hentry, -⟩ := List.mem_map.mp hex
  have hline := hwf.lines emptyStruct (by
    rw [lines_removeText, removeLines]
    simp only [List.cons_append, List.mem_cons, List.mem_append]
    exact Or.inr (Or.inl (Or.inl (Or.inl (List.mem_map.mpr ⟨entry, hentry, not_newline_value hentry⟩)))))
  rw [isRestoreLine_emptyStruct] at hline
  cases hline

end

/-! ### The payload of a call -/

namespace Call

def pod? : Call σ → Option PodPortMapping
  | .add _ _ pod _ => pod
  | .remove _ _ pod => pod

/-- What iptables-save prints in a call: in `Add` after the system chains have been ensured. -/
def saved (s : State σ) : Call σ → Except GoError Text
  | .add env _ _ nat => (env.iptables.saveInto tableNAT (ensureKubeHostportChains env.iptables nat s.tables).2).1
  | .remove env _ _ => (env.iptables.saveInto tableNAT s.tables).1

def newChains : Call σ → List Text
  | .add env id (some pod) _ => podChains env id pod
  | .add _ _ none _ => []
  | .remove _ _ _ => []

def isAdd : Call σ → Bool
  | .add _ _ _ _ => true
  | .remove _ _ _ => false

end Call

/-- A call that hands a payload to iptables-restore hands it a well-formed one if and only if it is an
    `Add` and all hostport chains that exist are among its new ones. -/
theorem payload_wellFormed_iff {c : Call σ} {data payload : Text} (hsaved : c.saved s = .ok data)
    (hpayload : (c.run s).2.payloads = s.payloads ++ [payload]) (hpod : ∀ p ∈ c.pod?, p.OneLine)
    (hdiff : c.newChains.Nodup) :
    WellFormedPayload ((getChainsFromTable data).filter isHostportChain) c.newChains payload ↔
      c.isAdd = true ∧ ∀ chain ∈ (getChainsFromTable data).filter isHostportChain, chain ∈ c.newChains := by
  have hnames : (getChainsFromTable data).filter isHostportChain = (existingChains data).map (·.1) := by
    simp [existingChains, Function.comp_def]
  have hno : s.payloads ≠ s.payloads ++ [payload] := by simp
  rw [hnames]
  cases c with
  | add env id pod nat =>
    change (add env id pod nat s).2.payloads = _ at hpayload
    generalize hadd : add env id pod nat s = result at hpayload
    obtain ⟨e, t⟩ := result
    simp only [Call.isAdd, true_and]
    rcases add_tables hadd with ⟨hsame, -⟩ | ⟨p, e₁, t₁, rfl, -, hip, -, -, hensure, hend⟩
    · exact absurd (hsame.payloads.symm.trans hpayload) hno
    · rcases hend with ⟨-, hp, -⟩ | ⟨-, ⟨err, -, hp, -⟩ | ⟨data', t₂, e', hsave, hp, -⟩⟩
      · exact absurd (hp.symm.trans hpayload) hno
      · exact absurd (hp.symm.trans hpayload) hno
      · rw [Call.saved, hensure] at hsaved
        rw [hsave] at hsaved
        cases hsaved
        obtain rfl : addText env id p data = payload := by simpa using hp.symm.trans hpayload
        exact wellFormed_addText_iff (hpod p rfl) hip hdiff
  | remove env id pod =>
    change (remove env id pod s).2.payloads = _ at hpayload
    generalize hremove : remove env id pod s = result at hpayload
    obtain ⟨e, t⟩ := result
    simp only [Call.isAdd, Bool.false_eq_true, false_and, iff_false]
    rcases remove_tables hremove with ⟨hsame, -⟩ | ⟨p, rfl, -, -, ⟨err, -, hp, -⟩ | ⟨data', t₁, hsave, hend⟩⟩
    · exact absurd (hsame.payloads.symm.trans hpayload) hno
    · exact absurd (hp.symm.trans hpayload) hno
    · rcases hend with ⟨-, -, hp⟩ | ⟨hsome, hp, -⟩
      · exact absurd (hp.symm.trans hpayload) hno
      · rw [Call.saved, hsave] at hsaved
        cases hsaved
        obtain rfl : removeText env id p data = payload := by simpa using hp.symm.trans hpayload
        exact not_wellFormed_removeText hsome []

theorem webPod_oneLine : webPod.OneLine where
  name := by decide
  namespace_ := by decide
  mappings := by decide

/-- What iptables-save prints in the first `Add` on a host, and the payload that it hands over. -/
def webSaved : Text := (webCall.saved (State.initial ∅)).toOption.getD []

def webPayload : Text := webAdded.payloads.headD []

theorem webPayload_run :
    webCall.saved (State.initial ∅) = .ok webSaved ∧ webAdded.payloads = [webPayload] ∧
      emptyStruct ∈ lines webPayload := by
  decide +kernel

theorem payload_wellFormed_iff_web :
    webCall.saved (State.initial ∅) = .ok webSaved ∧
      (WellFormedPayload ((getChainsFromTable webSaved).filter isHostportChain) webCall.newChains webPayload ↔
        webCall.isAdd = true ∧ ∀ chain ∈ (getChainsFromTable webSaved).filter isHostportChain, chain ∈ webCall.newChains) := by
  obtain ⟨hsaved, hpayloads, -⟩ := webPayload_run
  have hadded : (webCall.run (State.initial ∅)).2 = webAdded := rfl
  have hpayload : (webCall.run (State.initial ∅)).2.payloads = (State.initial (∅ : FakeTables)).payloads ++ [webPayload] := by
    rw [hadded]
    exact hpayloads
  refine ⟨hsaved, payload_wellFormed_iff hsaved hpayload ?_ (List.nodup_singleton _)⟩
  rintro p ⟨⟩
  exact webPod_oneLine

/-- That payload holds the value of KUBE-HOSTPORTS in the place of its declaration. -/
theorem add_payload_holds_emptyStruct :
    webAdded.payloads = [webPayload] ∧ emptyStruct ∈ lines webPayload ∧
      ¬WellFormedPayload ((getChainsFromTable webSaved).filter isHostportChain) webCall.newChains webPayload := by
  obtain ⟨-, hpayloads, hmem⟩ := webPayload_run
  refine ⟨hpayloads, hmem, fun hwf => ?_⟩
  have hline := hwf.lines emptyStruct hmem
  rw [isRestoreLine_emptyStruct] at hline
  cases hline

end CriDockerd.Hostport
