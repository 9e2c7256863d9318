import CriDockerd.Theorems.Hostport.FakeTables

/-! What `Add` and `Remove` do to the NAT table of the fake iptables. The tables that the manager
    makes for well-formed pods are regular; a `Remove` deletes the chains of its pod and changes no other
    chain, since without a declaration of KUBE-HOSTPORTS its rules are not flushed. -/

namespace CriDockerd.Hostport
open Text NetIP FakeTables

/-! ### Well-formed pods -/

/-- What the API server has checked of a pod: its names are DNS names, its protocols are known and its host
    IPs are addresses. -/
structure PodPortMapping.WellFormed (pod : PodPortMapping) : Prop where
  name : ∀ c ∈ pod.name, isSpace c = false ∧ c ≠ '"'
  namespace_ : ∀ c ∈ pod.namespace_, isSpace c = false ∧ c ≠ '"'
  protocol : ∀ pm ∈ pod.portMappings, toLower pm.protocol ∈ ["tcp".toList, "udp", "sctp"]
  hostIP : ∀ pm ∈ pod.portMappings, pm.hostIP = [] ∨ (parseIPSloppy pm.hostIP).isSome

theorem wordChar_of_isAddressChar {c : Char} (h : IsAddressChar c) : isSpace c = false ∧ c ≠ '"' := by
  have hhex : ∀ c : Char, isHex c = true → 33 ≤ c.toNat ∧ c.toNat ≤ 127 := by
    intro c hc
    simp only [isHex, Char.isDigit, Bool.or_eq_true, Bool.and_eq_true, decide_eq_true_eq] at hc
    rcases hc with (⟨h₁, h₂⟩ | ⟨h₁, h₂⟩) | ⟨h₁, h₂⟩
    all_goals
      have hlo := UInt32.le_iff_toNat_le.mp h₁
      have hhi := UInt32.le_iff_toNat_le.mp h₂
      exact ⟨Nat.le_trans (by decide) hlo, Nat.le_trans hhi (by decide)⟩
  rcases h with h | rfl | rfl
  · refine wordChar_of_toNat (hhex c h).1 (hhex c h).2 ?_
    rintro rfl
    revert h
    decide
  · decide
  · decide

theorem plain_of_word {w : Text} (hw : IsWord w) (h : '=' ∉ w) : Plain w := by
  refine ⟨.word hw, ?_⟩
  rw [Bool.eq_false_iff]
  intro hp
  exact h ((hasPrefix_iff.mp hp).subset (by decide))

theorem plain_itoa (n : Int) : Plain (itoa n) := by
  refine plain_of_word (isWord_itoa n) fun h => ?_
  rcases isDigit_or_minus_of_mem_itoa h with h | h <;> revert h <;> decide

theorem not_equals_of_isAddressChar {w : Text} (h : ∀ c ∈ w, IsAddressChar c) : '=' ∉ w := fun hmem => by
  rcases h '=' hmem with h | h | h <;> revert h <;> decide

theorem plain_ipString {ip : IP} (hip : to16 ip ≠ none) : Plain (ipString ip) := by
  have hchars : ∀ c ∈ ipString ip, IsAddressChar c := fun c hc => isAddressChar_of_mem_ipString hip hc
  exact plain_of_word ⟨ipString_ne_nil ip, fun c hc => wordChar_of_isAddressChar (hchars c hc)⟩
    (not_equals_of_isAddressChar hchars)

theorem isWord_joinHostPort {ip : IP} (hip : to16 ip ≠ none) (n : Int) : IsWord (joinHostPort (ipString ip) (itoa n)) := by
  have hword : ∀ c ∈ ipString ip, isSpace c = false ∧ c ≠ '"' := fun c hc =>
    wordChar_of_isAddressChar (isAddressChar_of_mem_ipString hip hc)
  have hport := (isWord_itoa n).2
  unfold joinHostPort
  split
  · refine ⟨by simp, fun c hc => ?_⟩
    simp only [List.cons_append, List.mem_cons, List.mem_append] at hc
    rcases hc with rfl | hc | rfl | rfl | hc
    · decide
    · exact hword c hc
    · decide
    · decide
    · exact hport c hc
  · refine ⟨by simp, fun c hc => ?_⟩
    simp only [List.mem_append, List.mem_cons] at hc
    rcases hc with hc | rfl | hc
    · exact hword c hc
    · decide
    · exact hport c hc

theorem plain_getHostportChain (id : Text) (pm : PortMapping) : Plain (getHostportChain id pm) :=
  ⟨.word (isWord_getHostportChain id pm), rfl⟩

namespace PodPortMapping.WellFormed
variable {pod : PodPortMapping} {pm : PortMapping}

theorem isWord_protocol (h : pod.WellFormed) (hpm : pm ∈ pod.portMappings) :
    IsWord (toLower pm.protocol) ∧ '=' ∉ toLower pm.protocol := by
  have hword : ∀ w ∈ ["tcp".toList, "udp", "sctp"], IsWord w ∧ '=' ∉ w := by decide +kernel
  exact hword _ (h.protocol pm hpm)

theorem plain_protocol (h : pod.WellFormed) (hpm : pm ∈ pod.portMappings) : Plain (toLower pm.protocol) :=
  plain_of_word (h.isWord_protocol hpm).1 (h.isWord_protocol hpm).2

theorem isAddressChar_hostIP (h : pod.WellFormed) (hpm : pm ∈ pod.portMappings) : ∀ c ∈ pm.hostIP, IsAddressChar c := by
  rcases h.hostIP pm hpm with hnil | hip
  · simp [hnil]
  · obtain ⟨ip, hip⟩ := Option.isSome_iff_exists.mp hip
    exact isAddressChar_of_parseIPWith hip

theorem plain_hostIP (h : pod.WellFormed) (hpm : pm ∈ pod.portMappings) (hne : pm.hostIP ≠ []) : Plain pm.hostIP :=
  plain_of_word ⟨hne, fun c hc => wordChar_of_isAddressChar (h.isAddressChar_hostIP hpm c hc)⟩
    (not_equals_of_isAddressChar (h.isAddressChar_hostIP hpm))

theorem plain_comment (h : pod.WellFormed) (pm : PortMapping) : Plain (hostportComment (getPodFullName pod) pm) := by
  have heq : hostportComment (getPodFullName pod) pm =
      '"' :: (getPodFullName pod ++ " hostport " ++ itoa pm.hostPort) ++ ['"'] := by simp [hostportComment]
  rw [heq]
  refine ⟨.quoted fun hmem => ?_, rfl⟩
  simp only [getPodFullName, List.mem_append, List.mem_cons] at hmem
  rcases hmem with ((hmem | hmem | hmem) | hmem) | hmem
  · exact (h.name _ hmem).2 rfl
  · revert hmem
    decide
  · exact (h.namespace_ _ hmem).2 rfl
  · revert hmem
    decide
  · exact ((isWord_itoa _).2 _ hmem).2 rfl

theorem oneLine (h : pod.WellFormed) : pod.OneLine where
  name hmem := absurd (h.name _ hmem).1 (by decide)
  namespace_ hmem := absurd (h.namespace_ _ hmem).1 (by decide)
  mappings pm hpm := by
    refine ⟨fun hmem => ?_, fun hmem => ?_⟩
    · have hlower : '\n' ∈ toLower pm.protocol := List.mem_map.mpr ⟨'\n', hmem, rfl⟩
      exact absurd ((h.isWord_protocol hpm).1.2 _ hlower).1 (by decide)
    · exact absurd (wordChar_of_isAddressChar (h.isAddressChar_hostIP hpm _ hmem)).1 (by decide)

end PodPortMapping.WellFormed

/-! ### The rules of a mapping -/

def ruleWords : List Text :=
  ["-m", "comment", "--comment", "-p", "--dport", "-s", "-d", "-j",
   "DNAT", "--to-destination", kubeMarkMasqChain]

theorem plain_ruleWords : ∀ w ∈ ruleWords, Plain w := by
  have hword : ∀ w ∈ ruleWords, IsWord w ∧ '=' ∉ w := by decide +kernel
  exact fun w hw => plain_of_word (hword w hw).1 (hword w hw).2

/-- The arguments of the DNAT rule before its destination. -/
def dnatArgs (podFullName : Text) (pm : PortMapping) : List Text :=
  ["-m".toList, "comment", "--comment", hostportComment podFullName pm, "-m", toLower pm.protocol,
   "-p", toLower pm.protocol] ++ (if isWildcard pm.hostIP then [] else ["-d".toList, pm.hostIP]) ++
  ["-j".toList, "DNAT"]

/-- The rules of a mapping as a table holds them. -/
def jumpRule (id podFullName : Text) (pm : PortMapping) : Text :=
  join [' '] ((jumpWords id podFullName pm).map normalizeArg)

def masqRule (podFullName podIP : Text) (pm : PortMapping) : Text :=
  join [' '] ((masqWords podFullName podIP pm).map normalizeArg)

def dnatRule (podFullName podIP : Text) (pm : PortMapping) : Text :=
  join [' '] ((dnatArgs podFullName pm ++
    ["--to-destination".toList, joinHostPort podIP (itoa pm.containerPort)]).map normalizeArg)

section
variable {pod : PodPortMapping} {pm : PortMapping}

theorem plain_jumpWords (h : pod.WellFormed) (hpm : pm ∈ pod.portMappings) (id : Text) :
    ∀ a ∈ jumpWords id (getPodFullName pod) pm, Plain a := by
  have hp := plain_ruleWords
  simp only [jumpWords, List.forall_mem_cons]
  exact ⟨hp _ (by decide), hp _ (by decide), hp _ (by decide), h.plain_comment pm, hp _ (by decide),
    h.plain_protocol hpm, hp _ (by decide), h.plain_protocol hpm, hp _ (by decide), plain_itoa _, hp _ (by decide),
    plain_getHostportChain id pm, by simp⟩

theorem plain_masqWords (h : pod.WellFormed) (hip : to16 pod.ip ≠ none) (pm : PortMapping) :
    ∀ a ∈ masqWords (getPodFullName pod) (ipString pod.ip) pm, Plain a := by
  have hp := plain_ruleWords
  simp only [masqWords, List.forall_mem_cons]
  exact ⟨hp _ (by decide), hp _ (by decide), hp _ (by decide), h.plain_comment pm, hp _ (by decide), plain_ipString hip,
    hp _ (by decide), hp _ (by decide), by simp⟩

theorem plain_dnatArgs (h : pod.WellFormed) (hpm : pm ∈ pod.portMappings) :
    ∀ a ∈ dnatArgs (getPodFullName pod) pm, Plain a := by
  have hp := plain_ruleWords
  have hdest : ∀ a ∈ (if isWildcard pm.hostIP then [] else ["-d".toList, pm.hostIP]), Plain a := by
    split
    · simp
    · rename_i hwild
      have hne : pm.hostIP ≠ [] := fun hnil => hwild (by rw [hnil]; rfl)
      simp only [List.forall_mem_cons]
      exact ⟨hp _ (by decide), h.plain_hostIP hpm hne, by simp⟩
  simp only [dnatArgs, List.forall_mem_append, List.forall_mem_cons]
  exact ⟨⟨⟨hp _ (by decide), hp _ (by decide), hp _ (by decide), h.plain_comment pm, hp _ (by decide),
    h.plain_protocol hpm, hp _ (by decide), h.plain_protocol hpm, by simp⟩, hdest⟩, hp _ (by decide), hp _ (by decide),
    by simp⟩

theorem plain_dnatRule (h : pod.WellFormed) (hpm : pm ∈ pod.portMappings) (hip : to16 pod.ip ≠ none) :
    ∀ a ∈ dnatArgs (getPodFullName pod) pm ++ ["--to-destination".toList, joinHostPort (ipString pod.ip) (itoa pm.containerPort)],
      Plain a := by
  have hdest : Plain (joinHostPort (ipString pod.ip) (itoa pm.containerPort)) := by
    refine plain_of_word (isWord_joinHostPort hip _) fun hmem => ?_
    have hno := not_equals_of_isAddressChar fun c hc => isAddressChar_of_mem_ipString hip hc
    have hport : '=' ∉ itoa pm.containerPort := fun h => by
      rcases isDigit_or_minus_of_mem_itoa h with h | h <;> revert h <;> decide
    unfold joinHostPort at hmem
    split at hmem <;> simp [hno, hport] at hmem
  simp only [List.forall_mem_append, List.forall_mem_cons]
  exact ⟨plain_dnatArgs h hpm, plain_ruleWords _ (by decide), hdest, by simp⟩

/-- A rule of plain arguments, as it is read and as it is kept. -/
structure ReadsAs (words : List Text) (rule : Text) : Prop where
  normalize : normalizeRule (join [' '] words) = .ok rule
  normal : normalizeRule rule = .ok rule
  oneLine : (∀ w ∈ words, '\n' ∉ w) → '\n' ∉ rule

theorem not_newline_normalizeArg {a : Text} (h : IsArg a) (hn : '\n' ∉ a) : '\n' ∉ normalizeArg a := by
  rw [normalizeArg_eq h]
  split
  · simpa using hn
  · exact hn

theorem readsAs_of_plain {args : List Text} (hargs : ∀ a ∈ args, Plain a) (hne : args ≠ []) :
    ReadsAs args (join [' '] (args.map normalizeArg)) where
  normalize := normalizeRule_join hargs hne
  normal := normalizeRule_normal hargs hne
  oneLine hn := not_newline_join fun w hw => by
    obtain ⟨a, ha, rfl⟩ := List.mem_map.mp hw
    exact not_newline_normalizeArg (hargs a ha).1 (hn a ha)

theorem readsAs_jump (h : pod.WellFormed) (hpm : pm ∈ pod.portMappings) (id : Text) :
    ReadsAs (jumpWords id (getPodFullName pod) pm) (jumpRule id (getPodFullName pod) pm) :=
  readsAs_of_plain (plain_jumpWords h hpm id) (by simp [jumpWords])

theorem readsAs_masq (h : pod.WellFormed) (hip : to16 pod.ip ≠ none) (pm : PortMapping) :
    ReadsAs (masqWords (getPodFullName pod) (ipString pod.ip) pm) (masqRule (getPodFullName pod) (ipString pod.ip) pm) :=
  readsAs_of_plain (plain_masqWords h hip pm) (by simp [masqWords])

theorem readsAs_dnat (h : pod.WellFormed) (hpm : pm ∈ pod.portMappings) (hip : to16 pod.ip ≠ none) :
    ReadsAs (dnatWords (getPodFullName pod) (ipString pod.ip) pm) (dnatRule (getPodFullName pod) (ipString pod.ip) pm) := by
  have hplain := readsAs_of_plain (plain_dnatRule h hpm hip) (by simp)
  have hwords : dnatWords (getPodFullName pod) (ipString pod.ip) pm = dnatArgs (getPodFullName pod) pm ++
      ["--to-destination=".toList ++ joinHostPort (ipString pod.ip) (itoa pm.containerPort)] := by
    simp [dnatWords, dnatArgs]
  rw [hwords]
  refine ⟨?_, hplain.normal, fun hn => hplain.oneLine ?_⟩
  · rw [normalizeRule_destination (plain_dnatArgs h hpm) (isWord_joinHostPort hip _)]
    exact hplain.normalize
  · simp only [List.forall_mem_append, List.forall_mem_cons] at hn ⊢
    refine ⟨hn.1, by decide, fun hmem => hn.2.1 (List.mem_append_right _ hmem), by simp⟩

end

/-! ### The lines of a call as operations -/

def mappingOps (id podFullName podIP : Text) (pm : PortMapping) : List RestoreOp :=
  [.rule .prepend kubeHostportsChain (jumpRule id podFullName pm),
   .rule .append (getHostportChain id pm) (masqRule podFullName podIP pm),
   .rule .append (getHostportChain id pm) (dnatRule podFullName podIP pm)]

theorem ruleLine_eq_join (position : RulePosition) (chain : Text) {words : List Text} (hne : words ≠ []) :
    ruleLine position chain (join [' '] words) = join [' '] (position.option :: chain :: words) := by
  obtain ⟨w, ws, rfl⟩ := List.exists_cons_of_ne_nil hne
  simp [ruleLine]

section
variable {pod : PodPortMapping} {pm : PortMapping} {id allLines : Text}

theorem reads_mappingLines (h : pod.WellFormed) (hpm : pm ∈ pod.portMappings) (hip : to16 pod.ip ≠ none) :
    List.Forall₂ (Reads allLines) (mappingLines id (getPodFullName pod) (ipString pod.ip) pm)
      (mappingOps id (getPodFullName pod) (ipString pod.ip) pm) := by
  have hchain := (isWord_getHostportChain id pm).not_space
  have hjump : jumpLine id (getPodFullName pod) pm = ruleLine .prepend kubeHostportsChain
      (join [' '] (jumpWords id (getPodFullName pod) pm)) := (ruleLine_eq_join .prepend _ (by simp [jumpWords])).symm
  have hmasq : masqLine id (getPodFullName pod) (ipString pod.ip) pm = ruleLine .append (getHostportChain id pm)
      (join [' '] (masqWords (getPodFullName pod) (ipString pod.ip) pm)) :=
    (ruleLine_eq_join .append _ (by simp [masqWords])).symm
  have hdnat : dnatLine id (getPodFullName pod) (ipString pod.ip) pm = ruleLine .append (getHostportChain id pm)
      (join [' '] (dnatWords (getPodFullName pod) (ipString pod.ip) pm)) :=
    (ruleLine_eq_join .append _ (by simp [dnatWords])).symm
  rw [mappingLines, hjump, hmasq, hdnat]
  exact .cons (.rule (by decide) (readsAs_jump h hpm id).normalize)
    (.cons (.rule hchain (readsAs_masq h hip pm).normalize) (.cons (.rule hchain (readsAs_dnat h hpm hip).normalize) .nil))

theorem exists_ops {P : RestoreOp → Prop} {ls : List Text} (h : ∀ l ∈ ls, ∃ op, Reads allLines l op ∧ P op) :
    ∃ ops, List.Forall₂ (Reads allLines) ls ops ∧ ∀ op ∈ ops, P op := by
  induction ls with
  | nil => exact ⟨[], .nil, by simp⟩
  | cons l ls ih =>
    obtain ⟨op, hop, hP⟩ := h l List.mem_cons_self
    obtain ⟨ops, hops, hall⟩ := ih fun m hm => h m (List.mem_cons_of_mem _ hm)
    exact ⟨op :: ops, .cons hop hops, by simpa using ⟨hP, hall⟩⟩

theorem reads_flatMap {α : Type} {f : α → List Text} {g : α → List RestoreOp} {xs : List α}
    (h : ∀ x ∈ xs, List.Forall₂ (Reads allLines) (f x) (g x)) :
    List.Forall₂ (Reads allLines) (xs.flatMap f) (xs.flatMap g) := by
  induction xs with
  | nil => exact .nil
  | cons x xs ih =>
    rw [List.flatMap_cons, List.flatMap_cons]
    exact List.rel_append (h x List.mem_cons_self) (ih fun y hy => h y (List.mem_cons_of_mem _ hy))

end

/-! ### A restore of the manager -/

/-- An operation that adds a rule of the table to it, one that names none of the given chains. -/
def Present (m : ChainMap) (without : List Text) (op : RestoreOp) : Prop :=
  ∃ chain rules r, op = .rule .append chain r ∧ m chain = some rules ∧ r ∈ rules ∧ isHostportChain chain = true ∧
    ∀ pc ∈ without, contains (ruleLine .append chain r) pc = false

section
variable {m : ChainMap} {chains : List (Text × List Text)} {without : List Text} {op : RestoreOp}

theorem RestoreOp.apply_rule_of_mem {position : RulePosition} {chain r : Text} {rules : List Text}
    (hchain : m chain = some rules) (hr : r ∈ rules) : (RestoreOp.rule position chain r).apply m = some m := by
  rw [RestoreOp.apply, ChainMap.addRule, hchain, Option.getD_some, insertRule_of_mem hr, ← hchain, Function.update_eq_self]

theorem Present.apply (h : Present m without op) : op.apply m = some m := by
  obtain ⟨chain, rules, r, rfl, hchain, hr, -⟩ := h
  exact RestoreOp.apply_rule_of_mem hchain hr

theorem Present.regular (hm : Regular m) (h : Present m without op) : op.Regular := by
  obtain ⟨chain, rules, r, rfl, hchain, hr, -⟩ := h
  exact ⟨hm.names _ _ hchain, hm.oneLine _ _ hchain r hr, fun hhost => hm.normal _ _ hchain hhost r hr⟩

theorem reads_filterRules (hm : Regular m) (hl : Lists chains m) (allLines : Text) (without : List Text) :
    ∃ ops, List.Forall₂ (Reads allLines) (filterRules (existingRules (unlines (saveLines chains))) without) ops ∧
      ∀ op ∈ ops, Present m without op := by
  refine exists_ops fun line hline => ?_
  obtain ⟨hmem, hfilter⟩ := List.mem_filter.mp hline
  obtain ⟨chain, rules, r, hchain, hr, hhost, rfl⟩ := (mem_existingRules hm hl).mp hmem
  refine ⟨_, .rule (hm.names _ _ hchain).not_space (hm.normal _ _ hchain hhost r hr), chain, rules, r, rfl, hchain, hr,
    hhost, fun pc hpc => ?_⟩
  rw [Bool.not_eq_true', List.any_eq_false] at hfilter
  simpa using hfilter pc hpc

theorem reads_values {data : Text} (allLines : Text) {values : List (Text × Text)}
    (h : ∀ v ∈ values, v ∈ existingChains data) :
    List.Forall₂ (Reads allLines) (values.map (·.2)) (values.map fun _ => RestoreOp.skip) := by
  rw [List.forall₂_map_left_iff, List.forall₂_map_right_iff, List.forall₂_same]
  intro v hv
  rw [not_newline_value (h v hv)]
  exact .value

end

def declareOps (allLines : Text) (chains : List Text) : List RestoreOp :=
  chains.map fun chain => .declare chain (!isBuiltinChain tableNAT chain && !contains allLines ("-X " ++ chain))

theorem reads_declares (allLines : Text) {chains : List Text} (h : ∀ chain ∈ chains, IsWord chain) :
    List.Forall₂ (Reads allLines) (chains.map makeChainLine) (declareOps allLines chains) := by
  rw [declareOps, List.forall₂_map_left_iff, List.forall₂_map_right_iff, List.forall₂_same]
  exact fun chain hchain => .declare (h chain hchain).not_space

theorem reads_deletes (allLines : Text) {chains : List Text} (h : ∀ chain ∈ chains, IsWord chain) :
    List.Forall₂ (Reads allLines) (chains.map deleteLine) (chains.map RestoreOp.delete) := by
  rw [List.forall₂_map_left_iff, List.forall₂_map_right_iff, List.forall₂_same]
  exact fun chain hchain => .delete (h chain hchain).not_space

section
variable {σ : Type} {env : Env σ} {id : Text} {pod : PodPortMapping} {m : ChainMap} {chains : List (Text × List Text)}

theorem isWord_podChains : ∀ chain ∈ podChains env id pod, IsWord chain := by
  intro chain hchain
  obtain ⟨pm, -, rfl⟩ := List.mem_map.mp hchain
  exact isWord_getHostportChain id pm

/-- The operations of what `Add` writes: the chains, the rules of the mappings, the rules that are there. -/
def addOps (env : Env σ) (id : Text) (pod : PodPortMapping) (text : Text) (skips present : List RestoreOp) : List RestoreOp :=
  declareOps text (podChains env id pod) ++ skips ++
    (gatherHostportMappings pod env.iptables.isIPv6).flatMap (mappingOps id (getPodFullName pod) (ipString pod.ip)) ++ present

theorem reads_addText (hpod : pod.WellFormed) (hip : to16 pod.ip ≠ none) (hm : Regular m) (hl : Lists chains m)
    {text : Text} (htext : text = addText env id pod (unlines (saveLines chains))) :
    ∃ ls skips present, lines text = "*nat".toList :: ls ++ ["COMMIT".toList] ∧
      List.Forall₂ (Reads text) ls (addOps env id pod text skips present) ∧
      (∀ op ∈ skips, op = .skip) ∧ ∀ op ∈ present, Present m (podChains env id pod) op := by
  obtain ⟨present, hpresent, hall⟩ := reads_filterRules hm hl text (podChains env id pod)
  have hlines : lines text = addLines id _ _ _ _ _ := htext ▸ lines_addText hpod.oneLine hip id (unlines (saveLines chains))
  refine ⟨_, (filterChains (existingChains (unlines (saveLines chains))) (podChains env id pod)).map fun _ => .skip,
    present, hlines, ?_, ?_, hall⟩
  · refine List.rel_append (List.rel_append (List.rel_append ?_ ?_) ?_) hpresent
    · exact reads_declares text isWord_podChains
    · exact reads_values text fun v hv => List.mem_of_mem_filter hv
    · exact reads_flatMap fun pm hpm => reads_mappingLines hpod (List.mem_of_mem_filter hpm) hip
  · intro op hop
    obtain ⟨v, -, rfl⟩ := List.mem_map.mp hop
    rfl

theorem reads_removeText (hm : Regular m) (hl : Lists chains m) {text : Text}
    (htext : text = removeText env id pod (unlines (saveLines chains))) :
    ∃ ls skips present, lines text = "*nat".toList :: ls ++ ["COMMIT".toList] ∧
      List.Forall₂ (Reads text) ls
        (skips ++ present ++ (chainsToDelete env id pod (unlines (saveLines chains))).map RestoreOp.delete) ∧
      (∀ op ∈ skips, op = .skip) ∧ ∀ op ∈ present, Present m (podChains env id pod) op := by
  obtain ⟨present, hpresent, hall⟩ := reads_filterRules hm hl text (podChains env id pod)
  have hlines : lines text = removeLines _ _ _ := htext ▸ lines_removeText id (unlines (saveLines chains)) pod
  refine ⟨_, (existingChains (unlines (saveLines chains))).map fun _ => .skip, present, hlines, ?_, ?_, hall⟩
  · refine List.rel_append (List.rel_append ?_ hpresent) ?_
    · exact reads_values text fun v hv => hv
    · exact reads_deletes text fun chain hchain => isWord_podChains chain (List.mem_of_mem_filter hchain)
  · intro op hop
    obtain ⟨v, -, rfl⟩ := List.mem_map.mp hop
    rfl

theorem regular_addOps (hpod : pod.WellFormed) (hip : to16 pod.ip ≠ none) (hm : Regular m) (text : Text)
    {skips present : List RestoreOp} (hskips : ∀ op ∈ skips, op = .skip)
    (hpresent : ∀ op ∈ present, Present m (podChains env id pod) op) :
    ∀ op ∈ addOps env id pod text skips present, op.Regular := by
  simp only [addOps, List.forall_mem_append]
  refine ⟨⟨⟨?_, ?_⟩, ?_⟩, fun op hop => (hpresent op hop).regular hm⟩
  · intro op hop
    obtain ⟨chain, hchain, rfl⟩ := List.mem_map.mp hop
    exact isWord_podChains chain hchain
  · intro op hop
    rw [hskips op hop]
    exact trivial
  · intro op hop
    obtain ⟨pm, hpm, hop⟩ := List.mem_flatMap.mp hop
    have hpm' := List.mem_of_mem_filter hpm
    have hlines := not_newline_mappingWords hpod.oneLine hpm' hip id
    have hchain := isWord_getHostportChain id pm
    have hjump := readsAs_jump hpod hpm' id
    have hmasq := readsAs_masq hpod hip pm
    have hdnat := readsAs_dnat hpod hpm' hip
    simp only [mappingOps, List.mem_cons, List.not_mem_nil, or_false] at hop
    rcases hop with rfl | rfl | rfl
    · exact ⟨by decide, hjump.oneLine hlines.1, fun _ => hjump.normal⟩
    · exact ⟨hchain, hmasq.oneLine hlines.2.1, fun _ => hmasq.normal⟩
    · exact ⟨hchain, hdnat.oneLine hlines.2.2, fun _ => hdnat.normal⟩

end

/-! ### The system chains -/

/-- An interface name: empty for none, else a word of at most fifteen characters. -/
def IsInterfaceName (name : Text) : Prop := name = [] ∨ IsWord name ∧ name.length < 16

theorem plain_interfaceName {name : Text} (h : IsWord name ∧ name.length < 16) : Plain name := by
  refine ⟨.word h.1, ?_⟩
  rw [Bool.eq_false_iff]
  intro hp
  have hlen := (hasPrefix_iff.mp hp).length_le
  have : "--to-destination=".toList.length = 17 := by decide
  omega

theorem plain_of_check {a : Text}
    (h : IsWord a ∧ '=' ∉ a ∨ a = '"' :: a.tail.dropLast ++ ['"'] ∧ '"' ∉ a.tail.dropLast) : Plain a := by
  rcases h with ⟨hword, heq⟩ | ⟨hquoted, hbody⟩
  · exact plain_of_word hword heq
  · rw [hquoted]
    exact ⟨.quoted hbody, rfl⟩

theorem plain_quoteArgs {args : List Text} (hcheck : ∀ a ∈ args.map quoteArg,
    (IsWord a ∧ '=' ∉ a ∨ a = '"' :: a.tail.dropLast ++ ['"'] ∧ '"' ∉ a.tail.dropLast) ∧ '\n' ∉ a) :
    ∀ a ∈ args.map quoteArg, Plain a ∧ '\n' ∉ a :=
  fun a ha => ⟨plain_of_check (hcheck a ha).1, (hcheck a ha).2⟩

theorem plain_portalArgs : ∀ a ∈ portalArgs.map quoteArg, Plain a ∧ '\n' ∉ a := plain_quoteArgs (by decide +kernel)

theorem plain_localhostArgs (v6 : Bool) {nat : Text} (hnat : IsWord nat ∧ nat.length < 16) :
    ∀ a ∈ (localhostArgs v6 nat).map quoteArg, Plain a ∧ '\n' ∉ a := by
  have hp := @plain_quoteArgs ["-m", "comment", "--comment",
    "SNAT for localhost access to hostports", "-o", "-s", "::1/128", "127.0.0.0/8",
    "-j", "MASQUERADE"] (by decide +kernel)
  have hname : Plain (quoteArg nat) ∧ '\n' ∉ quoteArg nat := by
    rw [quoteArg, if_neg hnat.1.not_space]
    exact ⟨plain_interfaceName hnat, hnat.1.not_mem_of_isSpace (by decide)⟩
  simp only [localhostArgs, List.map_cons, List.map_nil, List.forall_mem_cons]
  refine ⟨hp _ (by decide), hp _ (by decide), hp _ (by decide), hp _ (by decide), hp _ (by decide), hname, hp _ (by decide),
    ?_, hp _ (by decide), hp _ (by decide), by simp⟩
  cases v6 with
  | true => exact hp _ (by decide)
  | false => exact hp _ (by decide)

section
variable {v6 : Bool} {order : FakeTable → List (Text × List Text)} {f : FakeTables}

def systemChains : List Text := [chainOutput, chainPrerouting, chainPostrouting]

/-- Ensuring the system chains makes KUBE-HOSTPORTS and adds rules to the system chains only. -/
structure Ensured (m m' : ChainMap) : Prop where
  regular : Regular m → Regular m'
  hostports : m' kubeHostportsChain = some ((m kubeHostportsChain).getD [])
  others : ∀ chain, chain ≠ kubeHostportsChain → chain ∉ systemChains → m' chain = m chain

theorem Ensured.addRule {m m' : ChainMap} (h : Ensured m m') {chain r : Text} (hchain : chain ∈ systemChains)
    (hline : '\n' ∉ r) (hnormal : normalizeRule r = .ok r) : Ensured m (m'.addRule .append chain r) where
  regular hm := (h.regular hm).addRule ((by decide : ∀ c ∈ systemChains, IsWord c) chain hchain) hline fun _ => hnormal
  hostports := by
    have hne : kubeHostportsChain ≠ chain := by
      rintro rfl
      revert hchain
      decide
    rw [ChainMap.addRule, Function.update_of_ne hne, h.hostports]
  others c hc hsys := by
    have hne : c ≠ chain := by
      rintro rfl
      exact hsys hchain
    rw [ChainMap.addRule, Function.update_of_ne hne, h.others c hc hsys]

theorem Ensured.ensureRule {m : ChainMap} (h : Ensured m f.nat) {chain : Text} (hchain : chain ∈ systemChains)
    {args : List Text} (hne : args ≠ []) (hargs : ∀ a ∈ args.map quoteArg, Plain a ∧ '\n' ∉ a) :
    ∃ f', (fakeIPTables v6 order).ensureRule .append tableNAT chain args f = (none, f') ∧ Ensured m f'.nat := by
  have hreads := readsAs_of_plain (fun a ha => (hargs a ha).1) (by simpa using hne)
  obtain ⟨f', hok, hnat⟩ : ∃ f', f.ensureRule .append tableNAT chain (join [' '] (args.map quoteArg)) = (none, f') ∧
      f'.nat = f.nat.addRule .append chain _ := ensureRule_ok hreads.normalize
  exact ⟨f', hok, hnat ▸ h.addRule hchain (hreads.oneLine fun a ha => (hargs a ha).2) hreads.normal⟩

theorem ensureKubeHostportChains_fake (v6 : Bool) (order : FakeTable → List (Text × List Text)) {nat : Text}
    (hnat : IsInterfaceName nat) (f : FakeTables) :
    ∃ f', ensureKubeHostportChains (fakeIPTables v6 order) nat f = (none, f') ∧ Ensured f.nat f'.nat := by
  have h₁ : Ensured f.nat (f.ensureChain tableNAT kubeHostportsChain).nat := by
    rw [nat_ensureChain]
    refine ⟨fun hm => hm.ensure (by decide), by rw [ChainMap.ensure, Function.update_self], fun c hc _ => ?_⟩
    rw [ChainMap.ensure, Function.update_of_ne hc]
  have hchain : (fakeIPTables v6 order).ensureChain tableNAT kubeHostportsChain f =
      (none, f.ensureChain tableNAT kubeHostportsChain) := rfl
  obtain ⟨f₂, hok₂, h₂⟩ : ∃ f', (fakeIPTables v6 order).ensureRule .append tableNAT chainOutput portalArgs _ = (none, f') ∧ _ :=
    h₁.ensureRule (by decide) (by decide) plain_portalArgs
  obtain ⟨f₃, hok₃, h₃⟩ : ∃ f', (fakeIPTables v6 order).ensureRule .append tableNAT chainPrerouting portalArgs _ = (none, f') ∧ _ :=
    h₂.ensureRule (by decide) (by decide) plain_portalArgs
  unfold ensureKubeHostportChains
  rw [hchain]
  simp only [hok₂, hok₃]
  split
  · rename_i hne
    obtain ⟨f₄, hok₄, h₄⟩ : ∃ f', (fakeIPTables v6 order).ensureRule .append tableNAT chainPostrouting
        (localhostArgs (fakeIPTables v6 order).isIPv6 nat) _ = (none, f') ∧ _ :=
      h₃.ensureRule (by decide) (List.cons_ne_nil _ _) (plain_localhostArgs v6 (hnat.resolve_left hne.1))
    rw [hok₄]
    exact ⟨f₄, rfl, h₄⟩
  · exact ⟨f₃, rfl, h₃⟩

end

/-! ### Regular tables along a run -/

/-- A call on the fake iptables, whose map is walked in any order, for a well-formed pod. -/
structure Call.OnFake (v6 : Bool) (c : Call FakeTables) : Prop where
  fake : ∃ order, (∀ table : FakeTable, (order table).Perm table.walk) ∧ c.env.iptables = fakeIPTables v6 order
  pod : ∀ p ∈ c.pod?, p.WellFormed
  interface : ∀ env id pod nat, c = .add env id pod nat → IsInterfaceName nat

section
variable {v6 : Bool} {env : Env FakeTables} {order : FakeTable → List (Text × List Text)} {f f' : FakeTables}

theorem restoreAll_fake (henv : env.iptables = fakeIPTables v6 order) (text : Text) :
    env.iptables.restoreAll text f = f.restore [] text false := by
  rw [henv]
  rfl

theorem save_fake (henv : env.iptables = fakeIPTables v6 order) {r : Except GoError Text}
    (h : env.iptables.saveInto tableNAT f = (r, f')) : f' = f ∧ f.saveInto order tableNAT = r := by
  rw [henv] at h
  exact ⟨(Prod.mk.inj h).2.symm, (Prod.mk.inj h).1⟩

theorem restore_addText {id : Text} {pod : PodPortMapping} {data : Text} {e : Option GoError}
    (horder : ∀ table, (order table).Perm table.walk) (henv : env.iptables = fakeIPTables v6 order)
    (hpod : pod.WellFormed) (hip : to16 pod.ip ≠ none) (hm : Regular f.nat) (hsave : f.saveInto order tableNAT = .ok data)
    (h : env.iptables.restoreAll (addText env id pod data) f = (e, f')) :
    Regular f'.nat ∧ ∃ skips present, (∀ op ∈ skips, op = .skip) ∧
      (∀ op ∈ present, Present f.nat (podChains env id pod) op) ∧
      (e = none → applyAll (addOps env id pod (addText env id pod data) skips present) f.nat = some f'.nat) := by
  obtain ⟨chains, hl, rfl⟩ := saveInto_ok horder hsave
  obtain ⟨ls, skips, present, hlines, hreads, hskips, hpresent⟩ := reads_addText hpod hip hm hl rfl
  have hregular := regular_addOps hpod hip hm (addText env id pod (unlines (saveLines chains))) hskips hpresent
  rw [restoreAll_fake henv] at h
  rcases restore_reads hlines hreads h with ⟨-, hall⟩ | ⟨he, -, done, rest, hops, hdone⟩
  · exact ⟨hm.applyAll hregular hall, skips, present, hskips, hpresent, fun _ => hall⟩
  · refine ⟨hm.applyAll (fun op hop => hregular op ?_) hdone, skips, present, hskips, hpresent, fun h => absurd h he⟩
    rw [hops]
    exact List.mem_append_left _ hop

theorem restore_removeText {id : Text} {pod : PodPortMapping} {data : Text} {e : Option GoError}
    (horder : ∀ table, (order table).Perm table.walk) (henv : env.iptables = fakeIPTables v6 order)
    (hm : Regular f.nat) (hsave : f.saveInto order tableNAT = .ok data)
    (h : env.iptables.restoreAll (removeText env id pod data) f = (e, f')) :
    Regular f'.nat ∧ (e = none → applyAll ((chainsToDelete env id pod data).map RestoreOp.delete) f.nat = some f'.nat) := by
  obtain ⟨chains, hl, rfl⟩ := saveInto_ok horder hsave
  obtain ⟨ls, skips, present, hlines, hreads, hskips, hpresent⟩ := reads_removeText hm hl rfl
  have hregular : ∀ op ∈ skips ++ present ++
      (chainsToDelete env id pod (unlines (saveLines chains))).map RestoreOp.delete, op.Regular := by
    simp only [List.forall_mem_append]
    refine ⟨⟨fun op hop => ?_, fun op hop => (hpresent op hop).regular hm⟩, fun op hop => ?_⟩
    · rw [hskips op hop]
      exact trivial
    · obtain ⟨chain, -, rfl⟩ := List.mem_map.mp hop
      exact trivial
  rw [restoreAll_fake henv] at h
  rcases restore_reads hlines hreads h with ⟨-, hall⟩ | ⟨he, -, done, rest, hops, hdone⟩
  · refine ⟨hm.applyAll hregular hall, fun _ => ?_⟩
    -- The lines before the deletions change nothing.
    rw [applyAll_of_same] at hall
    · exact hall
    · simp only [List.forall_mem_append]
      exact ⟨fun op hop => by rw [hskips op hop]; rfl, fun op hop => (hpresent op hop).apply⟩
  · refine ⟨hm.applyAll (fun op hop => hregular op ?_) hdone, fun h => absurd h he⟩
    rw [hops]
    exact List.mem_append_left _ hop

end

theorem Call.OnFake.run_regular {v6 : Bool} {c : Call FakeTables} (hc : c.OnFake v6) {s : State FakeTables}
    (hm : Regular s.tables.nat) : Regular (c.run s).2.tables.nat := by
  obtain ⟨order, horder, henv⟩ := hc.fake
  cases c with
  | add env id pod nat =>
    change env.iptables = _ at henv
    show Regular (Hostport.add env id pod nat s).2.tables.nat
    generalize hadd : Hostport.add env id pod nat s = result
    obtain ⟨e, t⟩ := result
    rcases add_tables hadd with ⟨hsame, -⟩ | ⟨p, e₁, t₁, rfl, -, hip, -, -, hensure, hend⟩
    · rwa [hsame.tables]
    · obtain ⟨f', hok, hens⟩ := ensureKubeHostportChains_fake v6 order (hc.interface _ _ _ _ rfl) s.tables
      rw [henv, hok] at hensure
      obtain ⟨rfl, rfl⟩ := Prod.mk.inj hensure
      have hm₁ := hens.regular hm
      rcases hend with ⟨ht, -, -⟩ | ⟨-, ⟨err, hsave, -, -⟩ | ⟨data, t₂, e', hsave, -, hrestore, -⟩⟩
      · rwa [ht]
      · rw [(save_fake henv hsave).1]
        exact hm₁
      · obtain ⟨rfl, hdata⟩ := save_fake henv hsave
        exact (restore_addText horder henv (hc.pod p rfl) hip hm₁ hdata hrestore).1
  | remove env id pod =>
    change env.iptables = _ at henv
    show Regular (Hostport.remove env id pod s).2.tables.nat
    generalize hremove : Hostport.remove env id pod s = result
    obtain ⟨e, t⟩ := result
    rcases remove_tables hremove with ⟨hsame, -⟩ | ⟨p, rfl, -, -, ⟨err, hsave, -, -⟩ | ⟨data, t₁, hsave, hend⟩⟩
    · rwa [hsame.tables]
    · rwa [(save_fake henv hsave).1]
    · obtain ⟨rfl, hdata⟩ := save_fake henv hsave
      rcases hend with ⟨-, ht, -⟩ | ⟨-, -, e', hrestore, -⟩
      · rwa [ht]
      · exact (restore_removeText horder henv hm hdata hrestore).1

/-! ### Removing a pod -/

theorem applyAll_deletes {cs : List Text} {m m' : ChainMap} (h : applyAll (cs.map RestoreOp.delete) m = some m')
    (chain : Text) : m' chain = if chain ∈ cs then none else m chain := by
  induction cs generalizing m with
  | nil =>
    cases h
    simp
  | cons c cs ih =>
    rw [List.map_cons, applyAll, RestoreOp.apply] at h
    split at h
    · rw [ih h]
      by_cases hc : chain = c
      · simp [hc, ChainMap.delete]
      · simp [hc, ChainMap.delete]
    · cases h

/-- The chains of a pod's hostports; a pod in the host's network has none. -/
def hostportChains (env : Env FakeTables) (id : Text) : Option PodPortMapping → List Text
  | none => []
  | some pod => if pod.hostNetwork then [] else podChains env id pod

/-- The chains are gone without a trace: no rule names one of them, and every other hostport chain has the
    rules it had that name none of them, in their order. -/
structure RemovedCleanly (chains : List Text) (before after : ChainMap) : Prop where
  gone : ∀ chain ∈ chains, after chain = none
  unnamed : ∀ chain rules, after chain = some rules → ∀ r ∈ rules, ∀ pc ∈ chains, contains r pc = false
  kept : ∀ chain, isHostportChain chain = true → chain ∉ chains →
    after chain = (before chain).map fun rules => rules.filter fun r => chains.all fun pc => !contains r pc

theorem isHostportChain_podChains {env : Env FakeTables} {id : Text} {pod : PodPortMapping} {chain : Text}
    (h : chain ∈ podChains env id pod) : isHostportChain chain = true := by
  obtain ⟨pm, -, rfl⟩ := List.mem_map.mp h
  rw [isHostportChain, getHostportChain, hasPrefix_append, Bool.or_true]

/-- A `Remove` that returns nil takes the chains of its pod out of a regular table and does nothing else. -/
theorem remove_nat {v6 : Bool} {env : Env FakeTables} {id : Text} {pod : Option PodPortMapping} {s : State FakeTables}
    (hc : (Call.remove env id pod).OnFake v6) (hm : Regular s.tables.nat) (hnil : (remove env id pod s).1 = none) (chain : Text) :
    (remove env id pod s).2.tables.nat chain = if chain ∈ hostportChains env id pod then none else s.tables.nat chain := by
  obtain ⟨order, horder, henv⟩ := hc.fake
  change env.iptables = _ at henv
  generalize hremove : remove env id pod s = result at hnil
  obtain ⟨e, t⟩ := result
  dsimp only at hnil ⊢
  subst hnil
  rcases remove_tables hremove with ⟨hsame, hempty⟩ | ⟨p, rfl, hnet, -, ⟨err, -, -, herr⟩ | ⟨data, t₁, hsave, hend⟩⟩
  · have hnone : hostportChains env id pod = [] := by
      cases pod with
      | none => rfl
      | some p =>
        rcases hempty p rfl with hnet | hgather
        · simp [hostportChains, hnet]
        · simp [hostportChains, podChains, hgather]
    simp [hnone, hsame.tables]
  · exact absurd rfl herr
  · obtain ⟨rfl, hdata⟩ := save_fake henv hsave
    have hchains : hostportChains env id (some p) = podChains env id p := by simp [hostportChains, hnet]
    have hmem : ∀ c ∈ podChains env id p, c ∈ chainsToDelete env id p data ∨ s.tables.nat c = none := by
      intro c hc
      obtain ⟨chains, hl, rfl⟩ := saveInto_ok horder hdata
      cases hlookup : s.tables.nat c with
      | none => exact Or.inr rfl
      | some rules =>
        refine Or.inl (List.mem_filter.mpr ⟨hc, decide_eq_true ?_⟩)
        exact (mem_existingChains hm hl).mpr ⟨isHostportChain_podChains hc, rules, hlookup⟩
    have hsub : ∀ c ∈ chainsToDelete env id p data, c ∈ podChains env id p := fun c hc => List.mem_of_mem_filter hc
    have hdelete : t.tables.nat chain = if chain ∈ chainsToDelete env id p data then none else s.tables.nat chain := by
      rcases hend with ⟨hnothing, ht, -⟩ | ⟨-, -, e', hrestore, he⟩
      · simp [hnothing, ht]
      · exact applyAll_deletes ((restore_removeText horder henv hm hdata hrestore).2 (he rfl)) chain
    rw [hdelete, hchains]
    by_cases hdel : chain ∈ chainsToDelete env id p data
    · rw [if_pos hdel, if_pos (hsub chain hdel)]
    · rw [if_neg hdel]
      split
      · exact (hmem chain ‹_›).resolve_left hdel
      · rfl

/-- The states of a manager on the fake iptables after any calls. -/
def FakeReachable (v6 : Bool) : State FakeTables → Prop :=
  Reachable (fun s => s = State.initial ∅) (fun _ c => Call.OnFake v6 c) fun c s => (Call.run c s).2

/-- In every table that the manager makes, a `Remove` that returns nil leaves no trace of the pod's chains
    if and only if no rule of another chain named one of them. -/
theorem remove_cleans_iff {v6 : Bool} {s : State FakeTables} (hr : FakeReachable v6 s) {env : Env FakeTables} {id : Text}
    {pod : Option PodPortMapping} (hc : (Call.remove env id pod).OnFake v6)
    (hnil : (remove env id pod s).1 = none) :
    RemovedCleanly (hostportChains env id pod) s.tables.nat (remove env id pod s).2.tables.nat ↔
      ∀ chain rules, s.tables.nat chain = some rules → chain ∉ hostportChains env id pod →
        ∀ r ∈ rules, ∀ pc ∈ hostportChains env id pod, contains r pc = false := by
  have hm : Regular s.tables.nat := by
    refine Reachable.invariant (fun s => Regular s.tables.nat) ?_ (fun s c hs hc => hc.run_regular hs) hr
    rintro s rfl
    exact Regular.empty
  have hafter := remove_nat hc hm hnil
  constructor
  · intro h chain rules hchain hnot
    refine h.unnamed chain rules ?_
    rw [hafter, if_neg hnot, hchain]
  · intro h
    refine ⟨fun chain hchain => ?_, fun chain rules hrules => ?_, fun chain _ hnot => ?_⟩
    · rw [hafter, if_pos hchain]
    · rw [hafter] at hrules
      split at hrules
      · cases hrules
      · exact h chain rules hrules ‹_›
    · rw [hafter, if_neg hnot]
      cases hrules : s.tables.nat chain with
      | none => rfl
      | some rules =>
        rw [Option.map_some, List.filter_eq_self.mpr]
        intro r hmem
        rw [List.all_eq_true]
        intro pc hpc
        rw [h chain rules hrules hnot r hmem pc hpc]
        rfl

theorem webPod_wellFormed : webPod.WellFormed where
  name := by decide
  namespace_ := by decide
  protocol := by decide
  hostIP := by decide

theorem webCall_onFake : webCall.OnFake false where
  fake := ⟨FakeTable.walk, fun _ => .rfl, rfl⟩
  pod := by
    rintro p ⟨⟩
    exact webPod_wellFormed
  interface := by
    rintro _ _ _ _ ⟨⟩
    exact Or.inl rfl

theorem webRemove_onFake : (Call.remove (fakeHost false) "web" (some webPod)).OnFake false where
  fake := ⟨FakeTable.walk, fun _ => .rfl, rfl⟩
  pod := by
    rintro p ⟨⟩
    exact webPod_wellFormed
  interface := by
    rintro _ _ _ _ ⟨⟩

theorem webAdded_fakeReachable : FakeReachable false webAdded := .call (.start rfl) webCall_onFake

/-- The pod that was added is removed with success, and the jump to its chain stays. -/
theorem webRemove_run :
    (remove (fakeHost false) "web" (some webPod) webAdded).1 = none ∧
      (remove (fakeHost false) "web" (some webPod) webAdded).2.tables.nat kubeHostportsChain =
        some [jumpRule "web" (getPodFullName webPod) ⟨80, 8080, "tcp", []⟩] ∧
      getHostportChain "web" ⟨80, 8080, "tcp", []⟩ ∈
        hostportChains (fakeHost false) "web" (some webPod) ∧
      contains (jumpRule "web" (getPodFullName webPod) ⟨80, 8080, "tcp", []⟩)
        (getHostportChain "web" ⟨80, 8080, "tcp", []⟩) = true := by
  decide +kernel

theorem remove_cleans_iff_web :
    (remove (fakeHost false) "web" (some webPod) webAdded).1 = none ∧
      (RemovedCleanly (hostportChains (fakeHost false) "web" (some webPod)) webAdded.tables.nat
          (remove (fakeHost false) "web" (some webPod) webAdded).2.tables.nat ↔
        ∀ chain rules, webAdded.tables.nat chain = some rules →
          chain ∉ hostportChains (fakeHost false) "web" (some webPod) →
          ∀ r ∈ rules, ∀ pc ∈ hostportChains (fakeHost false) "web" (some webPod), contains r pc = false) := by
  obtain ⟨hnil, -⟩ := webRemove_run
  exact ⟨hnil, remove_cleans_iff webAdded_fakeReachable webRemove_onFake hnil⟩

/-- `Add` and then `Remove` of one pod leaves the jump to the removed chain in KUBE-HOSTPORTS. -/
theorem remove_leaves_jump :
    (remove (fakeHost false) "web" (some webPod) webAdded).1 = none ∧
      (remove (fakeHost false) "web" (some webPod) webAdded).2.tables.nat kubeHostportsChain =
        some [jumpRule "web" (getPodFullName webPod) ⟨80, 8080, "tcp", []⟩] ∧
      ¬RemovedCleanly (hostportChains (fakeHost false) "web" (some webPod)) webAdded.tables.nat
        (remove (fakeHost false) "web" (some webPod) webAdded).2.tables.nat := by
  obtain ⟨hnil, hjump, hmem, hnamed⟩ := webRemove_run
  refine ⟨hnil, hjump, fun h => ?_⟩
  have := h.unnamed _ _ hjump _ List.mem_cons_self _ hmem
  rw [hnamed] at this
  cases this

end CriDockerd.Hostport
