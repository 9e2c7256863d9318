import CriDockerd.Theorems.Hostport.Rules
import Mathlib.Data.List.Chain

/-! The NAT table after an `Add` that returns nil: the chains of the pod hold the rules of its mappings
    and nothing else, the jumps that KUBE-HOSTPORTS did not hold stand in front of its rules, and every
    other hostport chain is as it was. -/

namespace CriDockerd.Hostport
open Text NetIP FakeTables

/-! ### No chain of the pod is deleted

The fake spares a declared chain when the text holds `-X` and the name of the chain anywhere. -/

/-- A space and then a word that may start the name of a hostport chain, but not after `-X`. -/
def Apart (a b : Text) : Prop := b.head? ≠ some 'K' ∨ ¬"-X" <:+ a

/-- A word inside of a line that is no name of a chain. -/
def Inner (w : Text) : Prop := ' ' ∉ w ∧ w.head? ≠ some 'K'

theorem isChain_apart {a : Text} {ms : List Text} (hms : ∀ w ∈ ms, Inner w) : (a :: ms).IsChain Apart := by
  induction ms generalizing a with
  | nil => exact .singleton a
  | cons w ms ih =>
    exact .cons_cons (Or.inl (hms w List.mem_cons_self).2) (ih fun x hx => hms x (List.mem_cons_of_mem _ hx))

section
variable {σ : Type} {env : Env σ} {id : Text} {pod : PodPortMapping} {pm : PortMapping}

theorem head_getHostportChain (id : Text) (pm : PortMapping) : (getHostportChain id pm).head? = some 'K' := rfl

def deletion (id : Text) (pm : PortMapping) : Text := "-X " ++ getHostportChain id pm

theorem not_deletion_join {ws : List Text} (hws : ∀ w ∈ ws, ' ' ∉ w) (hchain : ws.IsChain Apart) (id : Text)
    (pm : PortMapping) : ¬deletion id pm <:+: join [' '] ws := by
  have hdeletion : deletion id pm = "-X" ++ ' ' :: getHostportChain id pm := rfl
  rw [hdeletion]
  refine not_infix_join (by decide) (isWord_getHostportChain id pm).not_space hws (hchain.imp fun a b hab => ?_)
  rintro ⟨hsuffix, hpre⟩
  rcases hab with hhead | hno
  · obtain ⟨rest, rfl⟩ := hpre
    exact hhead (by rw [List.head?_append, head_getHostportChain]; rfl)
  · exact hno hsuffix

theorem not_deletion_line {option chain : Text} (hoption : option ∈ ["-I".toList, "-A"]) (hchain : ' ' ∉ chain)
    {ms jump : List Text} (hms : ∀ w ∈ ms, Inner w) (hjump : jump = [] ∨ ∃ target, ' ' ∉ target ∧ jump = ["-j".toList, target])
    (id : Text) (pm : PortMapping) : ¬deletion id pm <:+: join [' '] (option :: chain :: (ms ++ jump)) := by
  obtain ⟨hspace, hno⟩ : ' ' ∉ option ∧ ¬"-X" <:+ option :=
    (by decide : ∀ o ∈ ["-I".toList, "-A"], ' ' ∉ o ∧ ¬"-X".toList <:+ o) option hoption
  have htarget : ∀ w ∈ jump, ' ' ∉ w := by
    rcases hjump with rfl | ⟨target, ht, rfl⟩
    · simp
    · simpa using ht
  refine not_deletion_join ?_ (.cons_cons (Or.inr hno) ?_) id pm
  · simp only [List.forall_mem_cons, List.forall_mem_append]
    exact ⟨hspace, hchain, fun w hw => (hms w hw).1, htarget⟩
  · rcases hjump with rfl | ⟨target, -, rfl⟩
    · rw [List.append_nil]
      exact isChain_apart hms
    · have hjump : ["-j".toList, target].IsChain Apart := .cons_cons (Or.inr (by decide)) (.singleton target)
      exact List.IsChain.append (isChain_apart hms) hjump fun a _ b hb => Or.inl (by
        rw [List.head?_cons, Option.mem_some_iff] at hb
        exact hb ▸ by decide)

theorem inner_of_isAddressChar {w : Text} (h : ∀ c ∈ w, IsAddressChar c) : Inner w := by
  refine ⟨fun hmem => ?_, fun hhead => ?_⟩
  · exact absurd (wordChar_of_isAddressChar (h _ hmem)).1 (by decide)
  · rcases h 'K' (List.mem_of_head? hhead) with h | h | h <;> revert h <;> decide

theorem inner_itoa (n : Int) (rest : Text) (hrest : Inner rest) : Inner (itoa n ++ rest) := by
  refine ⟨?_, fun hhead => ?_⟩
  · rw [List.mem_append, not_or]
    exact ⟨(isWord_itoa n).not_space, hrest.1⟩
  · rw [List.head?_append_of_ne_nil _ (itoa_ne_nil n)] at hhead
    rcases isDigit_or_minus_of_mem_itoa (List.mem_of_head? hhead) with h | h <;> revert h <;> decide

namespace PodPortMapping.WellFormed

theorem inner_fullName (h : pod.WellFormed) : Inner ('"' :: getPodFullName pod) := by
  refine ⟨fun hmem => ?_, by simp⟩
  simp only [getPodFullName, List.mem_cons, List.mem_append] at hmem
  rcases hmem with hmem | hmem | hmem | hmem
  · revert hmem
    decide
  · exact absurd (h.name _ hmem).1 (by decide)
  · revert hmem
    decide
  · exact absurd (h.namespace_ _ hmem).1 (by decide)

theorem inner_protocol (h : pod.WellFormed) (hpm : pm ∈ pod.portMappings) : Inner (toLower pm.protocol) := by
  have hinner : ∀ w ∈ ["tcp".toList, "udp", "sctp"], ' ' ∉ w ∧ w.head? ≠ some 'K' := by decide
  exact hinner _ (h.protocol pm hpm)

end PodPortMapping.WellFormed

/-- The words of the comment of a mapping, with the words in front of it. -/
def commentWords (podFullName : Text) (pm : PortMapping) : List Text :=
  ["-m".toList, "comment".toList, "--comment".toList, '"' :: podFullName, "hostport".toList, itoa pm.hostPort ++ ['"']]

theorem inner_commentWords (h : pod.WellFormed) (pm : PortMapping) : ∀ w ∈ commentWords (getPodFullName pod) pm, Inner w := by
  simp only [commentWords, List.forall_mem_cons]
  exact ⟨⟨by decide, by decide⟩, ⟨by decide, by decide⟩, ⟨by decide, by decide⟩, h.inner_fullName, ⟨by decide, by decide⟩,
    inner_itoa _ _ ⟨by decide, by decide⟩, by simp⟩

def protocolWords (pm : PortMapping) : List Text := ["-m".toList, toLower pm.protocol, "-p", toLower pm.protocol]

theorem inner_protocolWords (h : pod.WellFormed) (hpm : pm ∈ pod.portMappings) : ∀ w ∈ protocolWords pm, Inner w := by
  have hproto := h.inner_protocol hpm
  simp only [protocolWords, List.forall_mem_cons]
  exact ⟨⟨by decide, by decide⟩, hproto, ⟨by decide, by decide⟩, hproto, by simp⟩

theorem not_deletion_mappingLines (h : pod.WellFormed) (hpm : pm ∈ pod.portMappings) (hip : to16 pod.ip ≠ none) (id : Text)
    (pm' : PortMapping) :
    ∀ line ∈ mappingLines id (getPodFullName pod) (ipString pod.ip) pm, ¬deletion id pm' <:+: line := by
  have hcomment := inner_commentWords h pm
  have hprotocol := inner_protocolWords h hpm
  have hchain := (isWord_getHostportChain id pm).not_space
  have hpodIP : Inner (ipString pod.ip) := inner_of_isAddressChar fun c hc => isAddressChar_of_mem_ipString hip hc
  have hword : ∀ w ∈ ["--dport".toList, "-s", "-d", "-j", "DNAT"], Inner w := by
    have hcheck : ∀ w ∈ ["--dport".toList, "-s", "-d", "-j", "DNAT"],
        ' ' ∉ w ∧ w.head? ≠ some 'K' := by decide
    exact hcheck
  simp only [mappingLines, List.forall_mem_cons]
  refine ⟨?_, ?_, ?_, by simp⟩
  · have hline : jumpLine id (getPodFullName pod) pm = join [' '] ("-I" :: kubeHostportsChain ::
        ((commentWords (getPodFullName pod) pm ++ protocolWords pm ++ ["--dport".toList, itoa pm.hostPort]) ++
          ["-j".toList, getHostportChain id pm])) := by
      simp [jumpLine, jumpWords, commentWords, protocolWords, hostportComment, join]
    rw [hline]
    refine not_deletion_line (by decide) (by decide) ?_ (Or.inr ⟨_, hchain, rfl⟩) id pm'
    simp only [List.forall_mem_append, List.forall_mem_cons]
    refine ⟨⟨hcomment, hprotocol⟩, hword _ (by decide), ?_, by simp⟩
    simpa using inner_itoa pm.hostPort [] ⟨by simp, by simp⟩
  · have hline : masqLine id (getPodFullName pod) (ipString pod.ip) pm = join [' '] ("-A" :: getHostportChain id pm ::
        ((commentWords (getPodFullName pod) pm ++ ["-s".toList, ipString pod.ip]) ++
          ["-j".toList, kubeMarkMasqChain])) := by
      simp [masqLine, masqWords, commentWords, hostportComment, join]
    rw [hline]
    refine not_deletion_line (by decide) hchain ?_ (Or.inr ⟨_, by decide, rfl⟩) id pm'
    simp only [List.forall_mem_append, List.forall_mem_cons]
    exact ⟨hcomment, hword _ (by decide), hpodIP, by simp⟩
  · have hline : dnatLine id (getPodFullName pod) (ipString pod.ip) pm = join [' '] ("-A" :: getHostportChain id pm ::
        ((commentWords (getPodFullName pod) pm ++ protocolWords pm ++
          (if isWildcard pm.hostIP then [] else ["-d".toList, pm.hostIP]) ++ ["-j".toList, "DNAT",
            "--to-destination=" ++ joinHostPort (ipString pod.ip) (itoa pm.containerPort)]) ++ [])) := by
      split
      · rename_i hwild
        simp [dnatLine, dnatWords, commentWords, protocolWords, hostportComment, join, hwild]
      · rename_i hwild
        simp [dnatLine, dnatWords, commentWords, protocolWords, hostportComment, join, hwild]
    have hdestination : Inner ("--to-destination=" ++ joinHostPort (ipString pod.ip) (itoa pm.containerPort)) := by
      refine ⟨?_, by simp⟩
      rw [List.mem_append, not_or]
      exact ⟨by decide, (isWord_joinHostPort hip _).not_space⟩
    rw [hline]
    refine not_deletion_line (by decide) hchain ?_ (Or.inl rfl) id pm'
    simp only [List.forall_mem_append, List.forall_mem_cons]
    refine ⟨⟨⟨hcomment, hprotocol⟩, ?_⟩, hword _ (by decide), hword _ (by decide), hdestination, by simp⟩
    split
    · simp
    · simp only [List.forall_mem_cons]
      exact ⟨hword _ (by decide), inner_of_isAddressChar (h.isAddressChar_hostIP hpm), by simp⟩

theorem not_deletion_addText (h : pod.WellFormed) (hip : to16 pod.ip ≠ none) (data : Text) {chain : Text}
    (hchain : chain ∈ podChains env id pod) : contains (addText env id pod data) ("-X " ++ chain) = false := by
  obtain ⟨pm, hpm, rfl⟩ := List.mem_map.mp hchain
  have hnewline : '\n' ∉ deletion id pm := by
    rw [deletion, List.mem_append, not_or]
    exact ⟨by decide, not_newline_chain id pm⟩
  rw [Bool.eq_false_iff]
  intro hmem
  rw [contains_iff, addText, addPayload_eq] at hmem
  have hne : deletion id pm ≠ [] := by simp [deletion]
  obtain ⟨line, hline, hsub⟩ : ∃ line ∈ _, deletion id pm <:+: line := infix_unlines hne hnewline hmem
  have hspace : ' ' ∈ line := hsub.subset (by simp [deletion])
  simp only [addLines, List.mem_cons, List.mem_append, List.mem_map, List.not_mem_nil, or_false] at hline
  rcases hline with ((((rfl | ⟨_, ⟨pm', -, rfl⟩, rfl⟩) | ⟨v, hv, rfl⟩) | hline) | hline) | rfl
  · exact absurd hspace (by decide)
  · have hwords : makeChainLine (getHostportChain id pm') =
        join [' '] [':' :: getHostportChain id pm', "-", "[0:0]"] := by simp [makeChainLine, join]
    rw [hwords] at hsub
    refine not_deletion_join ?_ (isChain_apart ?_) id pm hsub
    · simp only [List.forall_mem_cons]
      refine ⟨?_, by decide, by decide, by simp⟩
      rw [List.mem_cons, not_or]
      exact ⟨by decide, (isWord_getHostportChain id pm').not_space⟩
    · simp only [List.forall_mem_cons]
      exact ⟨⟨by decide, by decide⟩, ⟨by decide, by decide⟩, by simp⟩
  · rw [not_newline_value (List.mem_of_mem_filter hv)] at hspace
    exact absurd hspace (by decide)
  · obtain ⟨pm', hpm', hline⟩ := List.mem_flatMap.mp hline
    exact not_deletion_mappingLines h (List.mem_of_mem_filter hpm') hip id pm line hline hsub
  · -- A line that is written again names no chain of the pod.
    obtain ⟨-, hfilter⟩ := List.mem_filter.mp hline
    rw [Bool.not_eq_true', List.any_eq_false] at hfilter
    refine hfilter _ (List.mem_map.mpr ⟨pm, hpm, rfl⟩) (contains_iff.mpr (List.IsInfix.trans ?_ hsub))
    exact (List.suffix_append _ _).isInfix
  · exact absurd hspace (by decide)

end

/-! ### The operations of an `Add` -/

section
variable (id podFullName podIP : Text)

def mappingRule (chain : Text) (rules : List Text) (pm : PortMapping) : List Text :=
  if getHostportChain id pm = chain then
    insertRule .append (dnatRule podFullName podIP pm) (insertRule .append (masqRule podFullName podIP pm) rules)
  else rules

def mappingRules (chain : Text) (pms : List PortMapping) (rules : List Text) : List Text :=
  pms.foldl (mappingRule id podFullName podIP chain) rules

def jumpRules (pms : List PortMapping) (rules : List Text) : List Text :=
  pms.foldl (fun rules pm => insertRule .prepend (jumpRule id podFullName pm) rules) rules

end

section
variable {id podFullName podIP : Text}

theorem mem_mappingRule {chain r : Text} {rules : List Text} {pm : PortMapping} :
    r ∈ mappingRule id podFullName podIP chain rules pm ↔
      r ∈ rules ∨ getHostportChain id pm = chain ∧ (r = masqRule podFullName podIP pm ∨ r = dnatRule podFullName podIP pm) := by
  unfold mappingRule
  split
  · rename_i heq
    rw [mem_insertRule, mem_insertRule, or_left_comm, or_comm, or_assoc, or_comm]
    simp only [heq, true_and, or_comm, or_left_comm]
  · rename_i hne
    simp only [hne, false_and, or_false]

theorem mem_mappingRules {chain r : Text} {pms : List PortMapping} {rules : List Text} :
    r ∈ mappingRules id podFullName podIP chain pms rules ↔
      r ∈ rules ∨ ∃ pm ∈ pms, getHostportChain id pm = chain ∧
        (r = masqRule podFullName podIP pm ∨ r = dnatRule podFullName podIP pm) := by
  induction pms generalizing rules with
  | nil => simp [mappingRules]
  | cons pm pms ih =>
    have hcons : mappingRules id podFullName podIP chain (pm :: pms) rules =
        mappingRules id podFullName podIP chain pms (mappingRule id podFullName podIP chain rules pm) := rfl
    rw [hcons, ih, mem_mappingRule, List.exists_mem_cons_iff, or_assoc]

theorem mappingRules_of_not_mem {chain : Text} {pms : List PortMapping} (h : chain ∉ pms.map (getHostportChain id))
    (rules : List Text) : mappingRules id podFullName podIP chain pms rules = rules := by
  induction pms with
  | nil => rfl
  | cons pm pms ih =>
    rw [List.map_cons, List.mem_cons, not_or] at h
    have hskip : mappingRule id podFullName podIP chain rules pm = rules := if_neg (Ne.symm h.1)
    rw [mappingRules, List.foldl_cons, hskip]
    exact ih h.2

theorem jumpRules_eq (id podFullName : Text) (pms : List PortMapping) (rules : List Text) :
    ∃ new, jumpRules id podFullName pms rules = new ++ rules ∧
      (∀ r ∈ new, r ∉ rules ∧ ∃ pm ∈ pms, r = jumpRule id podFullName pm) ∧
      ∀ pm ∈ pms, jumpRule id podFullName pm ∈ new ++ rules := by
  induction pms using List.reverseRecOn with
  | nil => exact ⟨[], rfl, by simp, by simp⟩
  | append_singleton pms pm ih =>
    obtain ⟨new, heq, hnew, hall⟩ := ih
    have hlast : jumpRules id podFullName (pms ++ [pm]) rules =
        insertRule .prepend (jumpRule id podFullName pm) (new ++ rules) := by
      rw [← heq, jumpRules, List.foldl_append]
      rfl
    have hkept : ∀ r ∈ new, r ∉ rules ∧ ∃ pm' ∈ pms ++ [pm], r = jumpRule id podFullName pm' := by
      intro r hr
      obtain ⟨hnot, pm', hpm', rfl⟩ := hnew r hr
      exact ⟨hnot, pm', List.mem_append_left _ hpm', rfl⟩
    rw [hlast, insertRule]
    split
    · rename_i hmem
      refine ⟨new, rfl, hkept, ?_⟩
      simp only [List.forall_mem_append, List.forall_mem_singleton]
      exact ⟨hall, hmem⟩
    · rename_i hmem
      rw [List.mem_append, not_or] at hmem
      refine ⟨jumpRule id podFullName pm :: new, rfl, ?_, ?_⟩
      · simp only [List.forall_mem_cons]
        exact ⟨⟨hmem.2, pm, by simp, rfl⟩, hkept⟩
      · simp only [List.forall_mem_append, List.forall_mem_singleton]
        exact ⟨fun pm' hpm' => List.mem_cons_of_mem _ (hall pm' hpm'), List.mem_cons_self⟩

theorem getHostportChain_ne_hostports (id : Text) (pm : PortMapping) : getHostportChain id pm ≠ kubeHostportsChain := by
  intro heq
  have hpre : kubeHostportChainPrefix <+: kubeHostportsChain := heq ▸ List.prefix_append _ _
  exact absurd hpre (by decide)

theorem applyAll_mappingOps_one (id podFullName podIP : Text) (pm : PortMapping) {m : ChainMap} {rules : List Text}
    (hm : m kubeHostportsChain = some rules) :
    ∃ m', applyAll (mappingOps id podFullName podIP pm) m = some m' ∧
      m' kubeHostportsChain = some (insertRule .prepend (jumpRule id podFullName pm) rules) ∧
      m' (getHostportChain id pm) =
        some (mappingRule id podFullName podIP (getHostportChain id pm) ((m (getHostportChain id pm)).getD []) pm) ∧
      ∀ chain ≠ kubeHostportsChain, chain ≠ getHostportChain id pm → m' chain = m chain := by
  have hne := getHostportChain_ne_hostports id pm
  refine ⟨_, rfl, ?_, ?_, fun chain hchain hother => ?_⟩
  · rw [ChainMap.addRule, Function.update_of_ne hne.symm, ChainMap.addRule, Function.update_of_ne hne.symm,
      ChainMap.addRule, Function.update_self, hm, Option.getD_some]
  · rw [mappingRule, if_pos rfl, ChainMap.addRule, Function.update_self, ChainMap.addRule, Function.update_self,
      Option.getD_some, ChainMap.addRule, Function.update_of_ne hne]
  · rw [ChainMap.addRule, Function.update_of_ne hother, ChainMap.addRule, Function.update_of_ne hother,
      ChainMap.addRule, Function.update_of_ne hchain]

theorem applyAll_mappingOps (id podFullName podIP : Text) {pms : List PortMapping} {m : ChainMap} {rules : List Text}
    (hm : m kubeHostportsChain = some rules) (hchains : ∀ pm ∈ pms, (m (getHostportChain id pm)).isSome) :
    ∃ m', applyAll (pms.flatMap (mappingOps id podFullName podIP)) m = some m' ∧
      m' kubeHostportsChain = some (jumpRules id podFullName pms rules) ∧
      ∀ chain ≠ kubeHostportsChain, m' chain = (m chain).map (mappingRules id podFullName podIP chain pms) := by
  induction pms generalizing m rules with
  | nil => exact ⟨m, rfl, hm, fun chain _ => (Option.map_id' (x := m chain)).symm⟩
  | cons pm pms ih =>
    obtain ⟨m₁, hops, hjump, hown, hothers⟩ := applyAll_mappingOps_one id podFullName podIP pm hm
    have hstep : ∀ chain ≠ kubeHostportsChain, m₁ chain =
        (m chain).map fun rules => mappingRule id podFullName podIP chain rules pm := by
      intro chain hchain
      by_cases heq : chain = getHostportChain id pm
      · obtain ⟨old, hold⟩ := Option.isSome_iff_exists.mp (hchains pm List.mem_cons_self)
        rw [heq, hown, hold, Option.getD_some, Option.map_some]
      · rw [hothers chain hchain heq]
        cases m chain with
        | none => rfl
        | some old => rw [Option.map_some, mappingRule, if_neg (Ne.symm heq)]
    obtain ⟨m', hrest, hjumps, hall⟩ := ih hjump fun pm' hpm' => by
      rw [hstep _ (getHostportChain_ne_hostports id pm'), Option.isSome_map]
      exact hchains pm' (List.mem_cons_of_mem _ hpm')
    refine ⟨m', ?_, hjumps, fun chain hchain => ?_⟩
    · rw [List.flatMap_cons, applyAll_append, hops]
      exact hrest
    · rw [hall chain hchain, hstep chain hchain, Option.map_map]
      rfl

end

theorem applyAll_declares {text : Text} {chains : List Text} (hflush : ∀ chain ∈ chains,
    (!isBuiltinChain tableNAT chain && !contains text ("-X " ++ chain)) = true) (m : ChainMap) :
    ∃ m', applyAll (declareOps text chains) m = some m' ∧ ∀ chain, m' chain = if chain ∈ chains then some [] else m chain := by
  induction chains generalizing m with
  | nil => exact ⟨m, rfl, fun chain => by simp⟩
  | cons c chains ih =>
    obtain ⟨m', hrest, hall⟩ := ih (fun chain hchain => hflush chain (List.mem_cons_of_mem _ hchain)) (m.flush c)
    refine ⟨m', ?_, fun chain => ?_⟩
    · rw [declareOps, List.map_cons, applyAll, RestoreOp.apply, hflush c List.mem_cons_self]
      exact hrest
    · rw [hall, ChainMap.flush]
      by_cases hc : chain = c
      · simp [hc]
      · simp [hc]

section
variable {env : Env FakeTables} {id : Text} {pod : PodPortMapping}

theorem not_builtin_podChains {chain : Text} (h : chain ∈ podChains env id pod) : isBuiltinChain tableNAT chain = false := by
  obtain ⟨pm, -, rfl⟩ := List.mem_map.mp h
  have hheads : ∀ c ∈ builtinChains tableNAT, c.head? ≠ some 'K' := by decide
  rw [isBuiltinChain, decide_eq_false_iff_not]
  exact fun hmem => hheads _ hmem (head_getHostportChain id pm)

/-- The rules that a chain of the pod has after an `Add`. -/
def podRules (env : Env FakeTables) (id : Text) (pod : PodPortMapping) (chain : Text) : List Text :=
  mappingRules id (getPodFullName pod) (ipString pod.ip) chain (gatherHostportMappings pod env.iptables.isIPv6) []

/-- What an `Add` of a pod makes of a table. -/
structure Added (env : Env FakeTables) (id : Text) (pod : PodPortMapping) (m m' : ChainMap) : Prop where
  hostports : m' kubeHostportsChain = some (jumpRules id (getPodFullName pod)
    (gatherHostportMappings pod env.iptables.isIPv6) ((m kubeHostportsChain).getD []))
  own : ∀ chain ∈ podChains env id pod, m' chain = some (podRules env id pod chain)
  others : ∀ chain, chain ≠ kubeHostportsChain → chain ∉ systemChains → chain ∉ podChains env id pod → m' chain = m chain

theorem applyAll_addOps (hpod : pod.WellFormed) (hip : to16 pod.ip ≠ none) {m m' : ChainMap} {data : Text}
    {skips present : List RestoreOp} (hskips : ∀ op ∈ skips, op = .skip)
    (hpresent : ∀ op ∈ present, Present m (podChains env id pod) op) {rules : List Text}
    (hrules : m kubeHostportsChain = some rules)
    (h : applyAll (addOps env id pod (addText env id pod data) skips present) m = some m') :
    m' kubeHostportsChain = some (jumpRules id (getPodFullName pod) (gatherHostportMappings pod env.iptables.isIPv6) rules) ∧
      (∀ chain ∈ podChains env id pod, m' chain = some (podRules env id pod chain)) ∧
      ∀ chain ≠ kubeHostportsChain, chain ∉ podChains env id pod → m' chain = m chain := by
  have hnot : kubeHostportsChain ∉ podChains env id pod := fun hmem => by
    obtain ⟨pm, -, heq⟩ := List.mem_map.mp hmem
    exact getHostportChain_ne_hostports id pm heq
  have hflush : ∀ chain ∈ podChains env id pod,
      (!isBuiltinChain tableNAT chain && !contains (addText env id pod data) ("-X " ++ chain)) = true := by
    intro chain hchain
    rw [not_builtin_podChains hchain, not_deletion_addText hpod hip data hchain]
    rfl
  -- The declarations empty the chains of the pod, which then get their rules.
  obtain ⟨m₁, hdeclare, hm₁⟩ := applyAll_declares hflush m
  have hhostports : m₁ kubeHostportsChain = some rules := by rw [hm₁, if_neg hnot, hrules]
  have hchains : ∀ pm ∈ gatherHostportMappings pod env.iptables.isIPv6, (m₁ (getHostportChain id pm)).isSome := by
    intro pm hpm
    have hmem : getHostportChain id pm ∈ podChains env id pod := List.mem_map.mpr ⟨pm, hpm, rfl⟩
    rw [hm₁, if_pos hmem]
    rfl
  obtain ⟨m₂, hmappings, hjumps, hm₂⟩ := applyAll_mappingOps id (getPodFullName pod) (ipString pod.ip) hhostports hchains
  have hothers : ∀ chain ≠ kubeHostportsChain, chain ∉ podChains env id pod → m₂ chain = m chain := by
    intro chain hne hchain
    rw [hm₂ chain hne, hm₁, if_neg hchain]
    cases m chain with
    | none => rfl
    | some old => rw [Option.map_some, mappingRules_of_not_mem hchain]
  -- The rules that are written again are all there.
  have hpresent₂ : ∀ op ∈ present, op.apply m₂ = some m₂ := by
    intro op hop
    obtain ⟨chain, old, r, rfl, hold, hr, -, hunnamed⟩ := hpresent op hop
    by_cases hchain : chain = kubeHostportsChain
    · subst hchain
      rw [hrules, Option.some.injEq] at hold
      obtain ⟨new, heq, -⟩ := jumpRules_eq id (getPodFullName pod) (gatherHostportMappings pod env.iptables.isIPv6) rules
      refine RestoreOp.apply_rule_of_mem hjumps ?_
      rw [heq]
      exact List.mem_append_right _ (hold ▸ hr)
    · refine RestoreOp.apply_rule_of_mem ((hothers chain hchain fun hmem => ?_).trans hold) hr
      have hnamed : contains (ruleLine .append chain r) chain = true :=
        contains_iff.mpr ⟨"-A ", ' ' :: r, by simp [ruleLine, RulePosition.option]⟩
      rw [hunnamed chain hmem] at hnamed
      cases hnamed
  have hskips₁ : ∀ op ∈ skips, op.apply m₁ = some m₁ := fun op hop => by rw [hskips op hop]; rfl
  have hend : m' = m₂ := by
    rw [addOps, List.append_assoc, List.append_assoc, applyAll_append, hdeclare, Option.bind_some,
      applyAll_of_same hskips₁, applyAll_append, hmappings, Option.bind_some, ← List.append_nil present,
      applyAll_of_same hpresent₂] at h
    exact (Option.some.inj h).symm
  subst hend
  refine ⟨hjumps, fun chain hchain => ?_, hothers⟩
  have hne : chain ≠ kubeHostportsChain := fun heq => hnot (heq ▸ hchain)
  rw [hm₂ chain hne, hm₁, if_pos hchain]
  rfl

/-- An `Add` that returns nil leaves the table alone, for a pod without hostports, or adds the pod to it. -/
theorem add_nat {v6 : Bool} {pod : Option PodPortMapping} {nat : Text} {s : State FakeTables}
    (hc : (Call.add env id pod nat).OnFake v6) (hm : Regular s.tables.nat) (hnil : (add env id pod nat s).1 = none) :
    (add env id pod nat s).2.tables = s.tables ∧
        (∀ p ∈ pod, p.hostNetwork = true ∨ gatherHostportMappings p (isIPv6 p.ip) = []) ∨
      ∃ p, pod = some p ∧ p.WellFormed ∧ p.hostNetwork = false ∧ to16 p.ip ≠ none ∧ isIPv6 p.ip = env.iptables.isIPv6 ∧
        Added env id p s.tables.nat (add env id pod nat s).2.tables.nat := by
  obtain ⟨order, horder, henv⟩ := hc.fake
  change env.iptables = _ at henv
  generalize hadd : add env id pod nat s = result at hnil
  obtain ⟨e, t⟩ := result
  dsimp only at hnil ⊢
  subst hnil
  rcases add_tables hadd with ⟨hsame, hnone⟩ | ⟨p, e₁, t₁, rfl, hnet, hip, hfam, -, hensure, hend⟩
  · exact Or.inl ⟨hsame.tables, hnone rfl⟩
  · refine Or.inr ⟨p, rfl, hc.pod p rfl, hnet, hip, hfam, ?_⟩
    obtain ⟨f', hok, hens⟩ := ensureKubeHostportChains_fake v6 order (hc.interface _ _ _ _ rfl) s.tables
    rw [henv, hok] at hensure
    obtain ⟨rfl, rfl⟩ := Prod.mk.inj hensure
    rcases hend with ⟨-, -, herr⟩ | ⟨-, ⟨err, -, -, herr⟩ | ⟨data, t₂, e', hsave, -, hrestore, he⟩⟩
    · exact absurd rfl herr
    · exact absurd rfl herr
    · obtain ⟨rfl, hdata⟩ := save_fake henv hsave
      obtain ⟨-, skips, present, hskips, hpresent, hall⟩ :=
        restore_addText horder henv (hc.pod p rfl) hip (hens.regular hm) hdata hrestore
      obtain ⟨hjumps, hown, hothers⟩ :=
        applyAll_addOps (hc.pod p rfl) hip hskips hpresent hens.hostports (hall (he.mpr rfl))
      refine ⟨hjumps, hown, fun chain hne hsys hchain => ?_⟩
      rw [hothers chain hne hchain, hens.others chain hne hsys]

end

end CriDockerd.Hostport
