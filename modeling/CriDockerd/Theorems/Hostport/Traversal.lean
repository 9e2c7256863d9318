import CriDockerd.Theorems.Hostport.AddRules

/-! What becomes of a packet that traverses KUBE-HOSTPORTS: the first rule with a verdict decides. After an
    `Add` the packets for a mapping of the pod reach the pod, unless its jumps were there before and a
    rule in front of them takes the packet away. -/

namespace CriDockerd.Hostport
open Text NetIP FakeTables

/-! ### Packets and rules -/

structure Packet where
  protocol : Text
  dport : Nat
  dport_pos : 0 < dport
  src : IP
  dst : IP

/-- A packet gets a new destination, or something else happens to it. -/
inductive Verdict where
  | dnat (destination : Text)
  | other
  deriving DecidableEq, Repr

/-- What a rule asks of a packet, and where it leads. -/
structure RuleMatch where
  hits : Packet → Bool
  target : Option Text
  destination : Option Text

def argsLoop : Nat → Text → Option (List Text)
  | 0, _ => none
  | fuel + 1, rule =>
    match nextArg rule with
    | .error _ => none
    | .ok (arg, []) => some [arg]
    | .ok (arg, _ :: rest) => (argsLoop fuel rest).map (arg :: ·)

def ruleArgs (rule : Text) : Option (List Text) := argsLoop (rule.length + 1) rule

/-- The text of a single address, `none` for a network. The fake writes the mask of one address behind
    an address of either family. -/
def singleAddress (value : Text) : Option Text :=
  let address := if "/32" <:+ value then value.take (value.length - 3) else value
  if '/' ∈ address then none else some address

/-- An option with its value; `none` for one that this reading does not know. -/
def readOption (option value : Text) (r : RuleMatch) : Option RuleMatch :=
  if option = "-m" ∨ option = "--comment" then some r
  else if option = "-p" then
    if value ∈ ["tcp".toList, "udp", "sctp"] then
      some { r with hits := fun pkt => pkt.protocol == value && r.hits pkt }
    else none
  else if option = "--dport" then
    if value.all Char.isDigit then some { r with hits := fun pkt => Nat.ofDigitChars 10 value 0 == pkt.dport && r.hits pkt }
    else none
  else if option = "-s" then
    (singleAddress value).map fun address =>
      { r with hits := fun pkt => parseIPSloppy address == some pkt.src && r.hits pkt }
  else if option = "-d" then
    (singleAddress value).map fun address =>
      { r with hits := fun pkt => parseIPSloppy address == some pkt.dst && r.hits pkt }
  else if option = "-j" then some { r with target := some value }
  else if option = "--to-destination" then some { r with destination := some value }
  else none

def readArgs : List Text → Option RuleMatch
  | [] => some { hits := fun _ => true, target := none, destination := none }
  | [_] => none
  | option :: value :: rest => (readArgs rest).bind (readOption option value)

def readRule (rule : Text) : Option RuleMatch := (ruleArgs rule).bind readArgs

section
-- What a rule does that has other options or leads to a chain of someone else.
variable (foreign : Packet → Text → Option Verdict) (m : ChainMap)

/-- The verdict of a rule, if it has one. KUBE-MARK-MASQ marks a packet and returns. -/
def ruleVerdict (jump : Text → Option Verdict) (pkt : Packet) (rule : Text) : Option Verdict :=
  match readRule rule with
  | none => foreign pkt rule
  | some r =>
    if r.hits pkt then
      match r.target with
      | none => none
      | some target =>
        if target = "DNAT" then
          match r.destination with
          | none => foreign pkt rule
          | some destination => some (.dnat destination)
        else if target = kubeMarkMasqChain then none
        else if hasPrefix target kubeHostportChainPrefix && (m target).isSome then jump target
        else foreign pkt rule
    else none

/-- The verdict of a chain, with jumps between the hostport chains to a depth. -/
def chainVerdict (pkt : Packet) : (depth : Nat) → (chain : Text) → Option Verdict
  | 0, _ => some .other
  | depth + 1, chain => ((m chain).getD []).findSome? (ruleVerdict foreign m (chainVerdict pkt depth) pkt)

end

theorem verdicts_congr {m m' : ChainMap} (h : ∀ chain, hasPrefix chain kubeHostportChainPrefix = true → m chain = m' chain)
    (foreign : Packet → Text → Option Verdict) (pkt : Packet) (depth : Nat) (rule : Text) :
    ruleVerdict foreign m (chainVerdict foreign m pkt depth) pkt rule =
      ruleVerdict foreign m' (chainVerdict foreign m' pkt depth) pkt rule := by
  have hrule : ∀ jump jump' : Text → Option Verdict,
      (∀ chain, hasPrefix chain kubeHostportChainPrefix = true → jump chain = jump' chain) →
        ∀ rule, ruleVerdict foreign m jump pkt rule = ruleVerdict foreign m' jump' pkt rule := by
    intro jump jump' hjump rule
    unfold ruleVerdict
    split
    · rfl
    · split
      · split
        · rfl
        · rename_i target _
          by_cases hpre : hasPrefix target kubeHostportChainPrefix = true
          · rw [h target hpre, hjump target hpre]
          · rw [Bool.not_eq_true] at hpre
            simp only [hpre, Bool.false_and, Bool.false_eq_true, if_false]
      · rfl
  refine hrule _ _ (fun chain hchain => ?_) rule
  induction depth generalizing chain with
  | zero => rfl
  | succ depth ih =>
    rw [chainVerdict, chainVerdict, h chain hchain]
    exact congrArg (fun f => List.findSome? f _) (funext (hrule _ _ ih))

/-! ### The rules of a mapping, read -/

theorem argsLoop_join {args : List Text} (hargs : ∀ a ∈ args, IsArg a) (hne : args ≠ []) {fuel : Nat}
    (hfuel : args.length ≤ fuel) : argsLoop fuel (join [' '] args) = some args := by
  induction args generalizing fuel with
  | nil => exact absurd rfl hne
  | cons a args ih =>
    obtain ⟨fuel, rfl⟩ : ∃ n, fuel = n + 1 := ⟨fuel - 1, by simp at hfuel; omega⟩
    have ha := hargs a List.mem_cons_self
    cases args with
    | nil => rw [join_singleton, argsLoop, nextArg_last ha]
    | cons b args =>
      rw [join_cons_cons, List.append_assoc, List.singleton_append, argsLoop, nextArg_append ha]
      show (argsLoop fuel (join [' '] (b :: args))).map (a :: ·) = _
      rw [ih (fun x hx => hargs x (List.mem_cons_of_mem _ hx)) (by simp) (by simpa using hfuel)]
      rfl

theorem ruleArgs_join {args : List Text} (hargs : ∀ a ∈ args, Plain a) (hne : args ≠ []) :
    ruleArgs (join [' '] (args.map normalizeArg)) = some (args.map normalizeArg) := by
  have hnormal : ∀ a ∈ args.map normalizeArg, IsArg a := by
    intro a ha
    obtain ⟨b, hb, rfl⟩ := List.mem_map.mp ha
    exact (normalizeArg_plain (hargs b hb)).1.1
  have hlen := length_le_length_join (fun a ha => (hnormal a ha).ne_nil) [' ']
  exact argsLoop_join hnormal (by simpa using hne) (Nat.le_succ_of_le hlen)

theorem readRule_join {args : List Text} (hargs : ∀ a ∈ args, Plain a) (hne : args ≠ []) :
    readRule (join [' '] (args.map normalizeArg)) = readArgs (args.map normalizeArg) := by
  rw [readRule, ruleArgs_join hargs hne, Option.bind_some]

theorem normalizeArg_of_not_ip {arg : Text} (h : IsArg arg) (hno : parseIP arg = none) : normalizeArg arg = arg := by
  rw [normalizeArg_eq h, if_neg (by simp [hno])]

theorem normalizeArg_of_mem {arg : Text} (h : IsArg arg) {c : Char} (hc : c ∈ arg) (hno : ¬IsAddressChar c) :
    normalizeArg arg = arg := normalizeArg_of_not_ip h (not_parseIP_of_mem hc hno)

theorem singleAddress_normalizeArg {arg : Text} (h : ∀ c ∈ arg, IsAddressChar c) (hne : arg ≠ []) :
    singleAddress (normalizeArg arg) = some arg := by
  have hword : IsArg arg := .word ⟨hne, fun c hc => wordChar_of_isAddressChar (h c hc)⟩
  have hslash : '/' ∉ arg := fun hmem => by
    rcases h '/' hmem with h | h | h <;> exact absurd h (by decide)
  have hno : ¬"/32" <:+ arg := fun hsuffix => hslash (hsuffix.subset (by decide))
  rw [normalizeArg_eq hword, singleAddress]
  by_cases hip : parseIP arg ≠ none
  · have htake : (arg ++ "/32").take ((arg ++ "/32").length - 3) = arg := by simp
    simp only [if_pos hip, if_pos (List.suffix_append arg "/32"), htake, if_neg hslash]
  · simp only [if_neg hip, if_neg hno, if_neg hslash]

section
variable {pod : PodPortMapping} {pm : PortMapping}

theorem not_isAddressChar_of_check {c : Char} (h : isHex c = false ∧ c ≠ '.' ∧ c ≠ ':') : ¬IsAddressChar c := by
  rintro (hhex | hdot | hcolon)
  · rw [h.1] at hhex
    cases hhex
  · exact h.2.1 hdot
  · exact h.2.2 hcolon

theorem normalizeArg_ruleWords : ∀ w ∈ ruleWords, normalizeArg w = w := by
  have hcheck : ∀ w ∈ ruleWords, ∃ c ∈ w, isHex c = false ∧ c ≠ '.' ∧ c ≠ ':' := by decide
  intro w hw
  obtain ⟨c, hc, hno⟩ := hcheck w hw
  exact normalizeArg_of_mem (plain_ruleWords w hw).1 hc (not_isAddressChar_of_check hno)

theorem normalizeArg_itoa (n : Int) : normalizeArg (itoa n) = itoa n := by
  refine normalizeArg_of_not_ip (plain_itoa n).1 (parseIPWith_of_no_separator (fun c hc => ?_) false)
  rcases isDigit_or_minus_of_mem_itoa hc with h | h
  · exact ⟨by rintro rfl; revert h; decide, by rintro rfl; revert h; decide⟩
  · rw [h]
    decide

theorem normalizeArg_chain (id : Text) (pm : PortMapping) : normalizeArg (getHostportChain id pm) = getHostportChain id pm :=
  normalizeArg_of_mem (plain_getHostportChain id pm).1 (List.mem_of_head? (head_getHostportChain id pm))
    (not_isAddressChar_of_check (by decide))

namespace PodPortMapping.WellFormed

theorem normalizeArg_comment (h : pod.WellFormed) (pm : PortMapping) :
    normalizeArg (hostportComment (getPodFullName pod) pm) = hostportComment (getPodFullName pod) pm :=
  normalizeArg_of_mem (h.plain_comment pm).1 (c := '"') (by simp [hostportComment]) (not_isAddressChar_of_check (by decide))

theorem normalizeArg_protocol (h : pod.WellFormed) (hpm : pm ∈ pod.portMappings) :
    normalizeArg (toLower pm.protocol) = toLower pm.protocol := by
  have hcheck : ∀ w ∈ ["tcp".toList, "udp", "sctp"], 'p' ∈ w := by decide
  exact normalizeArg_of_mem (h.plain_protocol hpm).1 (hcheck _ (h.protocol pm hpm)) (not_isAddressChar_of_check (by decide))

end PodPortMapping.WellFormed

/-! Each option, read. -/

theorem readArgs_cons {option value : Text} {rest : List Text} {r r' : RuleMatch} (h : readArgs rest = some r)
    (hoption : readOption option value r = some r') : readArgs (option :: value :: rest) = some r' := by
  rw [readArgs, h, Option.bind_some, hoption]

theorem readOption_m (value : Text) (r : RuleMatch) : readOption "-m" value r = some r := rfl

theorem readOption_comment (value : Text) (r : RuleMatch) : readOption "--comment" value r = some r := rfl

theorem readOption_p {value : Text} (h : value ∈ ["tcp".toList, "udp", "sctp"]) (r : RuleMatch) :
    readOption "-p" value r = some { r with hits := fun pkt => pkt.protocol == value && r.hits pkt } := if_pos h

theorem readOption_dport {value : Text} (h : value.all Char.isDigit = true) (r : RuleMatch) :
    readOption "--dport" value r =
      some { r with hits := fun pkt => Nat.ofDigitChars 10 value 0 == pkt.dport && r.hits pkt } := if_pos h

theorem readOption_s {value address : Text} (h : singleAddress value = some address) (r : RuleMatch) :
    readOption "-s" value r =
      some { r with hits := fun pkt => parseIPSloppy address == some pkt.src && r.hits pkt } :=
  congrArg (Option.map _) h

theorem readOption_d {value address : Text} (h : singleAddress value = some address) (r : RuleMatch) :
    readOption "-d" value r =
      some { r with hits := fun pkt => parseIPSloppy address == some pkt.dst && r.hits pkt } :=
  congrArg (Option.map _) h

theorem readOption_j (value : Text) (r : RuleMatch) : readOption "-j" value r = some { r with target := some value } := rfl

theorem readOption_destination (value : Text) (r : RuleMatch) :
    readOption "--to-destination" value r = some { r with destination := some value } := rfl

theorem readArgs_nil : readArgs [] = some { hits := fun _ => true, target := none, destination := none } := rfl

theorem readArgs_comment {rest : List Text} {r : RuleMatch} (h : readArgs rest = some r) (comment : Text) :
    readArgs ("-m" :: "comment" :: "--comment" :: comment :: rest) = some r :=
  readArgs_cons (readArgs_cons h (readOption_comment _ _)) (readOption_m _ _)

theorem readArgs_protocol {rest : List Text} {r : RuleMatch} (h : readArgs rest = some r) {protocol : Text}
    (hprotocol : protocol ∈ ["tcp".toList, "udp", "sctp"]) :
    readArgs ("-m" :: protocol :: "-p" :: protocol :: rest) =
      some { r with hits := fun pkt => pkt.protocol == protocol && r.hits pkt } :=
  readArgs_cons (readArgs_cons h (readOption_p hprotocol _)) (readOption_m _ _)

theorem readRule_jump (h : pod.WellFormed) (hpm : pm ∈ pod.portMappings) (hport : 0 < pm.hostPort) (id : Text) :
    ∃ r, readRule (jumpRule id (getPodFullName pod) pm) = some r ∧ r.target = some (getHostportChain id pm) ∧
      ∀ pkt, r.hits pkt = true ↔ toLower pm.protocol = pkt.protocol ∧ pm.hostPort = pkt.dport := by
  have hw := normalizeArg_ruleWords
  have hargs : (jumpWords id (getPodFullName pod) pm).map normalizeArg = jumpWords id (getPodFullName pod) pm := by
    simp only [jumpWords, List.map_cons, List.map_nil, hw "-m" (by decide), hw "comment" (by decide),
      hw "--comment" (by decide), hw "-p" (by decide), hw "--dport" (by decide), hw "-j" (by decide),
      h.normalizeArg_comment pm, h.normalizeArg_protocol hpm, normalizeArg_itoa, normalizeArg_chain]
  obtain ⟨n, hn⟩ : ∃ n : Nat, pm.hostPort = n := ⟨pm.hostPort.toNat, by omega⟩
  have hall : (itoa pm.hostPort).all Char.isDigit = true := by rw [hn, all_isDigit_itoa]
  have hread := readArgs_comment (readArgs_protocol (readArgs_cons (readArgs_cons readArgs_nil
    (readOption_j (getHostportChain id pm) _)) (readOption_dport hall _)) (h.protocol pm hpm))
    (hostportComment (getPodFullName pod) pm)
  change readArgs (jumpWords id (getPodFullName pod) pm) = _ at hread
  rw [← hargs, ← readRule_join (plain_jumpWords h hpm id) (by simp [jumpWords])] at hread
  refine ⟨_, hread, rfl, fun pkt => ?_⟩
  have hvalue : Nat.ofDigitChars 10 (itoa pm.hostPort) 0 = n := by rw [hn, ofDigitChars_itoa]
  have hiff : pm.hostPort = pkt.dport ↔ n = pkt.dport := by omega
  simp only [hvalue, hiff, Bool.and_true, Bool.and_eq_true, beq_iff_eq, eq_comm (a := pkt.protocol)]

theorem readRule_masq (h : pod.WellFormed) (hip : to16 pod.ip ≠ none) (pm : PortMapping) :
    ∃ r, readRule (masqRule (getPodFullName pod) (ipString pod.ip) pm) = some r ∧ r.target = some kubeMarkMasqChain := by
  have hw := normalizeArg_ruleWords
  have hargs : (masqWords (getPodFullName pod) (ipString pod.ip) pm).map normalizeArg =
      ["-m".toList, "comment", "--comment", hostportComment (getPodFullName pod) pm, "-s",
        normalizeArg (ipString pod.ip), "-j", kubeMarkMasqChain] := by
    simp only [masqWords, List.map_cons, List.map_nil, hw "-m" (by decide), hw "comment" (by decide),
      hw "--comment" (by decide), hw "-s" (by decide), hw "-j" (by decide),
      hw kubeMarkMasqChain (by decide), h.normalizeArg_comment pm]
  have haddress := singleAddress_normalizeArg (fun c hc => isAddressChar_of_mem_ipString hip hc) (ipString_ne_nil pod.ip)
  have hread := readArgs_comment (readArgs_cons (readArgs_cons readArgs_nil (readOption_j kubeMarkMasqChain _))
    (readOption_s haddress _)) (hostportComment (getPodFullName pod) pm)
  rw [← hargs, ← readRule_join (plain_masqWords h hip pm) (by simp [masqWords])] at hread
  exact ⟨_, hread, rfl⟩

theorem readRule_dnat (h : pod.WellFormed) (hpm : pm ∈ pod.portMappings) (hip : to16 pod.ip ≠ none) :
    ∃ r, readRule (dnatRule (getPodFullName pod) (ipString pod.ip) pm) = some r ∧ r.target = some "DNAT".toList ∧
      r.destination = some (joinHostPort (ipString pod.ip) (itoa pm.containerPort)) ∧
      ∀ pkt, r.hits pkt = true ↔ toLower pm.protocol = pkt.protocol ∧
        (isWildcard pm.hostIP = true ∨ parseIPSloppy pm.hostIP = some pkt.dst) := by
  have hw := normalizeArg_ruleWords
  have hdestination : normalizeArg (joinHostPort (ipString pod.ip) (itoa pm.containerPort)) =
      joinHostPort (ipString pod.ip) (itoa pm.containerPort) :=
    normalizeArg_of_not_ip (.word (isWord_joinHostPort hip _)) (parseIPWith_joinHostPort hip _ false)
  have hargs : (dnatArgs (getPodFullName pod) pm ++
        ["--to-destination".toList, joinHostPort (ipString pod.ip) (itoa pm.containerPort)]).map normalizeArg =
      "-m".toList :: "comment" :: "--comment" :: hostportComment (getPodFullName pod) pm :: "-m" ::
        toLower pm.protocol :: "-p" :: toLower pm.protocol ::
        ((if isWildcard pm.hostIP then [] else ["-d".toList, normalizeArg pm.hostIP]) ++ ["-j".toList, "DNAT",
          "--to-destination", joinHostPort (ipString pod.ip) (itoa pm.containerPort)]) := by
    have haddress : (if isWildcard pm.hostIP then [] else ["-d".toList, pm.hostIP]).map normalizeArg =
        if isWildcard pm.hostIP then [] else ["-d".toList, normalizeArg pm.hostIP] := by
      split
      · rfl
      · rw [List.map_cons, hw "-d".toList (by decide)]
        rfl
    simp only [dnatArgs, List.map_append, List.map_cons, List.map_nil, haddress, List.cons_append, List.nil_append,
      List.append_assoc, hw "-m".toList (by decide), hw "comment" (by decide), hw "--comment" (by decide),
      hw "-p" (by decide), hw "-j" (by decide), hw "DNAT" (by decide),
      hw "--to-destination" (by decide), h.normalizeArg_comment pm, h.normalizeArg_protocol hpm, hdestination]
  have htarget := readArgs_cons (readArgs_cons readArgs_nil
    (readOption_destination (joinHostPort (ipString pod.ip) (itoa pm.containerPort)) _)) (readOption_j "DNAT".toList _)
  obtain ⟨r, hr, hjump, hdest, hhits⟩ : ∃ r, readArgs ((if isWildcard pm.hostIP then [] else
        ["-d".toList, normalizeArg pm.hostIP]) ++ ["-j".toList, "DNAT", "--to-destination",
          joinHostPort (ipString pod.ip) (itoa pm.containerPort)]) = some r ∧ r.target = some "DNAT".toList ∧
      r.destination = some (joinHostPort (ipString pod.ip) (itoa pm.containerPort)) ∧
      ∀ pkt, r.hits pkt = true ↔ isWildcard pm.hostIP = true ∨ parseIPSloppy pm.hostIP = some pkt.dst := by
    split
    · rename_i hwild
      exact ⟨_, htarget, rfl, rfl, fun pkt => by simp [hwild]⟩
    · rename_i hwild
      have hne : pm.hostIP ≠ [] := fun hnil => hwild (by rw [hnil]; rfl)
      have haddress := singleAddress_normalizeArg (h.isAddressChar_hostIP hpm) hne
      exact ⟨_, readArgs_cons htarget (readOption_d haddress _), rfl, rfl, fun pkt => by simp [hwild]⟩
  have hread := readArgs_comment (readArgs_protocol hr (h.protocol pm hpm)) (hostportComment (getPodFullName pod) pm)
  rw [← hargs, ← readRule_join (plain_dnatRule h hpm hip) (by simp)] at hread
  refine ⟨_, hread, hjump, hdest, fun pkt => ?_⟩
  simp only [Bool.and_eq_true, beq_iff_eq, hhits, eq_comm (a := pkt.protocol)]

end

/-! ### The packets of a pod -/

/-- A packet of the pod's address family for a mapping of the pod: its port, its protocol and its host
    IP, or any address of the family. The port of a pod in the host's network is its own. -/
def Serves (pod : PodPortMapping) (pkt : Packet) (pm : PortMapping) : Prop :=
  pod.hostNetwork = false ∧ pm ∈ pod.portMappings ∧ pm.hostPort = pkt.dport ∧ toLower pm.protocol = pkt.protocol ∧
    isIPv6 pkt.dst = isIPv6 pod.ip ∧
    (pm.hostIP = [] ∨ isIPv6String pm.hostIP = isIPv6 pkt.dst ∧
      (isWildcard pm.hostIP = true ∨ parseIPSloppy pm.hostIP = some pkt.dst))

instance (pod : PodPortMapping) (pkt : Packet) (pm : PortMapping) : Decidable (Serves pod pkt pm) :=
  inferInstanceAs (Decidable (_ ∧ _))

/-- The verdict sends the packet to the pod. -/
def Reaches (pod : PodPortMapping) (pkt : Packet) (verdict : Option Verdict) : Prop :=
  ∃ pm, Serves pod pkt pm ∧ verdict = some (.dnat (joinHostPort (ipString pod.ip) (itoa pm.containerPort)))

/-- The hash tells the hostports of a pod apart, as `getHostportChain` relies on. -/
def DistinctChains (id : Text) (pod : PodPortMapping) : Prop :=
  ∀ pm ∈ pod.portMappings, ∀ pm' ∈ pod.portMappings, getHostportChain id pm = getHostportChain id pm' →
    pm.hostPort = pm'.hostPort ∧ toLower pm.protocol = toLower pm'.protocol ∧ pm.hostIP = pm'.hostIP

theorem findSome?_of_forall {α β : Type} {P : Option β → Prop} {f : α → Option β} {l : List α}
    (h : ∀ x ∈ l, f x = none ∨ P (f x)) (hsome : ∃ x ∈ l, f x ≠ none) : P (l.findSome? f) := by
  cases hf : l.findSome? f with
  | none =>
    obtain ⟨x, hx, hne⟩ := hsome
    exact absurd (List.findSome?_eq_none_iff.mp hf x hx) hne
  | some b =>
    obtain ⟨x, hx, hb⟩ := List.exists_of_findSome?_eq_some hf
    rcases h x hx with hnone | hP
    · rw [hnone] at hb
      cases hb
    · exact hb ▸ hP

section
variable {env : Env FakeTables} {id : Text} {pod : PodPortMapping} {pm : PortMapping} {pkt : Packet}

theorem Serves.gathered (h : Serves pod pkt pm) : pm ∈ gatherHostportMappings pod (isIPv6 pod.ip) := by
  obtain ⟨-, hmem, hport, -, hfam, hdst⟩ := h
  refine List.mem_filter.mpr ⟨hmem, ?_⟩
  have hpos := pkt.dport_pos
  have hhostPort : 0 < pm.hostPort := by omega
  rw [Bool.and_eq_true, decide_eq_true_eq, Bool.or_eq_true, beq_iff_eq, beq_iff_eq, ← hfam]
  exact ⟨hhostPort, hdst.imp_right And.left⟩

theorem serves_iff (hnet : pod.hostNetwork = false) (hfam : isIPv6 pkt.dst = isIPv6 pod.ip)
    (hpm : pm ∈ gatherHostportMappings pod (isIPv6 pod.ip)) :
    Serves pod pkt pm ↔ (toLower pm.protocol = pkt.protocol ∧ pm.hostPort = pkt.dport) ∧
      (isWildcard pm.hostIP = true ∨ parseIPSloppy pm.hostIP = some pkt.dst) := by
  obtain ⟨hmem, hgather⟩ := List.mem_filter.mp hpm
  rw [Bool.and_eq_true, Bool.or_eq_true, beq_iff_eq, beq_iff_eq, ← hfam] at hgather
  constructor
  · rintro ⟨-, -, hport, hproto, -, hnil | ⟨-, hdst⟩⟩
    · exact ⟨⟨hproto, hport⟩, Or.inl (by rw [hnil]; rfl)⟩
    · exact ⟨⟨hproto, hport⟩, hdst⟩
  · rintro ⟨⟨hproto, hport⟩, hdst⟩
    exact ⟨hnet, hmem, hport, hproto, hfam, hgather.2.imp_right fun h => ⟨h, hdst⟩⟩

section
variable (foreign : Packet → Text → Option Verdict) (m : ChainMap) (jump : Text → Option Verdict)

theorem masqVerdict (h : pod.WellFormed) (hip : to16 pod.ip ≠ none) (pm : PortMapping) (pkt : Packet) :
    ruleVerdict foreign m jump pkt (masqRule (getPodFullName pod) (ipString pod.ip) pm) = none := by
  obtain ⟨rule, hread, htarget⟩ := readRule_masq h hip pm
  rw [ruleVerdict, hread]
  simp only [htarget]
  split
  · rfl
  · rfl

theorem dnatVerdict (h : pod.WellFormed) (hpm : pm ∈ pod.portMappings) (hip : to16 pod.ip ≠ none) (pkt : Packet) :
    ruleVerdict foreign m jump pkt (dnatRule (getPodFullName pod) (ipString pod.ip) pm) =
      if toLower pm.protocol = pkt.protocol ∧ (isWildcard pm.hostIP = true ∨ parseIPSloppy pm.hostIP = some pkt.dst) then
        some (.dnat (joinHostPort (ipString pod.ip) (itoa pm.containerPort)))
      else none := by
  obtain ⟨rule, hread, htarget, hdest, hhits⟩ := readRule_dnat h hpm hip
  rw [ruleVerdict, hread]
  simp only [htarget, hdest, if_true, hhits]

theorem jumpVerdict (h : pod.WellFormed) (hpm : pm ∈ pod.portMappings) (hport : 0 < pm.hostPort) (id : Text)
    (hchain : (m (getHostportChain id pm)).isSome) (pkt : Packet) :
    ruleVerdict foreign m jump pkt (jumpRule id (getPodFullName pod) pm) =
      if toLower pm.protocol = pkt.protocol ∧ pm.hostPort = pkt.dport then jump (getHostportChain id pm) else none := by
  have hnotDNAT : getHostportChain id pm ≠ "DNAT".toList := fun heq => by
    have hhead := head_getHostportChain id pm
    rw [heq] at hhead
    exact absurd hhead (by decide)
  have hnotMark : getHostportChain id pm ≠ kubeMarkMasqChain := fun heq => by
    have hpre : kubeHostportChainPrefix <+: kubeMarkMasqChain := heq ▸ List.prefix_append _ _
    exact absurd hpre (by decide)
  have hpre : hasPrefix (getHostportChain id pm) kubeHostportChainPrefix = true := hasPrefix_append _ _
  obtain ⟨rule, hread, htarget, hhits⟩ := readRule_jump h hpm hport id
  rw [ruleVerdict, hread]
  simp only [htarget, if_neg hnotDNAT, if_neg hnotMark, hpre, hchain, Bool.and_self, if_true, hhits]

end

/-- What the manager has made of the pod, with what it was asked for. -/
structure AddedPod (env : Env FakeTables) (id : Text) (pod : PodPortMapping) (m m' : ChainMap) : Prop
    extends Added env id pod m m' where
  wellFormed : pod.WellFormed
  hostNetwork : pod.hostNetwork = false
  ip : to16 pod.ip ≠ none
  family : isIPv6 pod.ip = env.iptables.isIPv6
  distinct : DistinctChains id pod

namespace AddedPod
variable {m m' : ChainMap}

theorem ownVerdict (h : AddedPod env id pod m m') (foreign : Packet → Text → Option Verdict)
    (hfam : isIPv6 pkt.dst = isIPv6 pod.ip) (hpm : pm ∈ gatherHostportMappings pod (isIPv6 pod.ip))
    (hport : toLower pm.protocol = pkt.protocol ∧ pm.hostPort = pkt.dport) (depth : Nat) :
    (Serves pod pkt pm → Reaches pod pkt (chainVerdict foreign m' pkt (depth + 1) (getHostportChain id pm))) ∧
      (¬Serves pod pkt pm → chainVerdict foreign m' pkt (depth + 1) (getHostportChain id pm) = none) := by
  have hchain : getHostportChain id pm ∈ podChains env id pod := List.mem_map.mpr ⟨pm, h.family ▸ hpm, rfl⟩
  rw [chainVerdict, h.own _ hchain, Option.getD_some]
  -- The mappings of the chain serve the same packets, so that its rules all have a right verdict or none.
  have hdnat : ∀ pm' ∈ gatherHostportMappings pod (isIPv6 pod.ip), getHostportChain id pm' = getHostportChain id pm →
      (Serves pod pkt pm' ↔ Serves pod pkt pm) ∧
      (toLower pm'.protocol = pkt.protocol ∧ (isWildcard pm'.hostIP = true ∨ parseIPSloppy pm'.hostIP = some pkt.dst) ↔
        Serves pod pkt pm) := by
    intro pm' hpm' heq
    obtain ⟨hhostPort, hproto, hhostIP⟩ := h.distinct pm' (List.mem_of_mem_filter hpm') pm (List.mem_of_mem_filter hpm) heq
    rw [serves_iff h.hostNetwork hfam hpm', serves_iff h.hostNetwork hfam hpm, hhostPort, hproto, hhostIP]
    exact ⟨Iff.rfl, fun hh => ⟨hport, hh.2⟩, fun hh => ⟨hport.1, hh.2⟩⟩
  have hrules : ∀ r ∈ podRules env id pod (getHostportChain id pm),
      ruleVerdict foreign m' (chainVerdict foreign m' pkt depth) pkt r = none ∨
        Serves pod pkt pm ∧ Reaches pod pkt (ruleVerdict foreign m' (chainVerdict foreign m' pkt depth) pkt r) := by
    intro r hr
    rw [podRules, mem_mappingRules, ← h.family] at hr
    obtain ⟨pm', hpm', heq, rfl | rfl⟩ := hr.resolve_left List.not_mem_nil
    · exact Or.inl (masqVerdict foreign m' _ h.wellFormed h.ip pm' pkt)
    · rw [dnatVerdict foreign m' _ h.wellFormed (List.mem_of_mem_filter hpm') h.ip]
      split
      · rename_i hhit
        have hs := (hdnat pm' hpm' heq).2.mp hhit
        exact Or.inr ⟨hs, pm', (hdnat pm' hpm' heq).1.mpr hs, rfl⟩
      · exact Or.inl rfl
  constructor
  · intro hs
    refine findSome?_of_forall (fun r hr => (hrules r hr).imp_right And.right)
      ⟨dnatRule (getPodFullName pod) (ipString pod.ip) pm, ?_, ?_⟩
    · rw [podRules, mem_mappingRules, ← h.family]
      exact Or.inr ⟨pm, hpm, rfl, Or.inr rfl⟩
    · rw [dnatVerdict foreign m' _ h.wellFormed (List.mem_of_mem_filter hpm) h.ip, if_pos ((hdnat pm hpm rfl).2.mpr hs)]
      exact Option.some_ne_none _
  · intro hs
    rw [List.findSome?_eq_none_iff]
    exact fun r hr => (hrules r hr).resolve_right fun hh => hs hh.1

theorem jumpVerdict (h : AddedPod env id pod m m') (foreign : Packet → Text → Option Verdict)
    (hfam : isIPv6 pkt.dst = isIPv6 pod.ip) (hpm : pm ∈ gatherHostportMappings pod (isIPv6 pod.ip)) (depth : Nat) :
    (Serves pod pkt pm → Reaches pod pkt
      (ruleVerdict foreign m' (chainVerdict foreign m' pkt (depth + 1)) pkt (jumpRule id (getPodFullName pod) pm))) ∧
    (¬Serves pod pkt pm →
      ruleVerdict foreign m' (chainVerdict foreign m' pkt (depth + 1)) pkt (jumpRule id (getPodFullName pod) pm) = none) := by
  obtain ⟨hmem, hgather⟩ := List.mem_filter.mp hpm
  rw [Bool.and_eq_true, decide_eq_true_eq] at hgather
  have hchain : getHostportChain id pm ∈ podChains env id pod := List.mem_map.mpr ⟨pm, h.family ▸ hpm, rfl⟩
  have hsome : (m' (getHostportChain id pm)).isSome := by
    rw [h.own _ hchain]
    rfl
  rw [Hostport.jumpVerdict foreign m' _ h.wellFormed hmem hgather.1 id hsome]
  split
  · rename_i hport
    exact h.ownVerdict foreign hfam hpm hport depth
  · rename_i hport
    exact ⟨fun hs => absurd ((serves_iff h.hostNetwork hfam hpm).mp hs).1 hport, fun _ => rfl⟩

end AddedPod

end

/-! ### Adding a pod -/

/-- The table before a call, with the chains of the pod holding the rules of its mappings. -/
def withPod (env : Env FakeTables) (id : Text) (pod : PodPortMapping) (m : ChainMap) : ChainMap :=
  fun chain => if chain ∈ hostportChains env id (some pod) then some (podRules env id pod chain) else m chain

/-- The rules of KUBE-HOSTPORTS in front of the first jump of a mapping that serves the packet. -/
def rulesAhead (id : Text) (pod : PodPortMapping) (pkt : Packet) (rules : List Text) : List Text :=
  rules.takeWhile fun r =>
    !pod.portMappings.any fun pm => decide (Serves pod pkt pm) && r == jumpRule id (getPodFullName pod) pm

def verdictAhead (foreign : Packet → Text → Option Verdict) (depth : Nat) (env : Env FakeTables) (id : Text)
    (pod : PodPortMapping) (m : ChainMap) (pkt : Packet) : Option Verdict :=
  (rulesAhead id pod pkt ((m kubeHostportsChain).getD [])).findSome?
    (ruleVerdict foreign (withPod env id pod m) (chainVerdict foreign (withPod env id pod m) pkt (depth + 1)) pkt)

/-- Nothing that KUBE-HOSTPORTS held before takes the packet away from the pod: a jump for it is new, or
    the rules in front of the old jump let it pass. -/
def Unobstructed (foreign : Packet → Text → Option Verdict) (depth : Nat) (env : Env FakeTables) (id : Text)
    (pod : PodPortMapping) (m : ChainMap) (pkt : Packet) : Prop :=
  (∃ pm, Serves pod pkt pm ∧ jumpRule id (getPodFullName pod) pm ∉ (m kubeHostportsChain).getD []) ∨
    verdictAhead foreign depth env id pod m pkt = none ∨ Reaches pod pkt (verdictAhead foreign depth env id pod m pkt)

section
variable {env : Env FakeTables} {id : Text} {pod : PodPortMapping} {pkt : Packet} {m m' : ChainMap}

theorem Reaches.or {verdict : Option Verdict} (h : Reaches pod pkt verdict) (rest : Option Verdict) : verdict.or rest = verdict := by
  obtain ⟨pm, -, rfl⟩ := h
  rfl

theorem AddedPod.eq_withPod (h : AddedPod env id pod m m') {chain : Text}
    (hchain : hasPrefix chain kubeHostportChainPrefix = true) : m' chain = withPod env id pod m chain := by
  have hchains : hostportChains env id (some pod) = podChains env id pod := by simp [hostportChains, h.hostNetwork]
  rw [withPod, hchains]
  split
  · exact h.own chain ‹_›
  · refine h.others chain ?_ ?_ ‹_›
    · rintro rfl
      revert hchain
      decide
    · have hcheck : ∀ c ∈ systemChains, hasPrefix c kubeHostportChainPrefix = false := by decide
      intro hmem
      rw [hcheck chain hmem] at hchain
      cases hchain

theorem rulesAhead_append {rules : List Text} {pm : PortMapping} (hs : Serves pod pkt pm)
    (hmem : jumpRule id (getPodFullName pod) pm ∈ rules) :
    ∃ pm' rest, Serves pod pkt pm' ∧ rules = rulesAhead id pod pkt rules ++ jumpRule id (getPodFullName pod) pm' :: rest := by
  let other : Text → Bool := fun r =>
    !pod.portMappings.any fun pm => decide (Serves pod pkt pm) && r == jumpRule id (getPodFullName pod) pm
  have hsplit : rulesAhead id pod pkt rules ++ rules.dropWhile other = rules := List.takeWhile_append_dropWhile
  have hne : rules.dropWhile other ≠ [] := by
    rw [ne_eq, List.dropWhile_eq_nil_iff]
    intro hall
    have hother := hall _ hmem
    simp only [other, Bool.not_eq_true', List.any_eq_false] at hother
    exact hother pm hs.2.1 (by simp [hs])
  have hhead := List.head_dropWhile_not other hne
  simp only [other, Bool.not_eq_false', List.any_eq_true, Bool.and_eq_true, decide_eq_true_eq, beq_iff_eq] at hhead
  obtain ⟨pm', -, hs', heq⟩ := hhead
  refine ⟨pm', (rules.dropWhile other).tail, hs', ?_⟩
  rw [← heq, List.cons_head_tail]
  exact hsplit.symm

/-- A packet for a mapping reaches the pod if and only if nothing that was there before takes it away. -/
theorem AddedPod.reaches_iff (h : AddedPod env id pod m m') (foreign : Packet → Text → Option Verdict) (depth : Nat)
    {pm : PortMapping} (hs : Serves pod pkt pm) :
    Reaches pod pkt (chainVerdict foreign m' pkt (depth + 2) kubeHostportsChain) ↔
      Unobstructed foreign depth env id pod m pkt := by
  have hfam := hs.2.2.2.2.1
  obtain ⟨new, hjumps, hnew, hall⟩ :=
    jumpRules_eq id (getPodFullName pod) (gatherHostportMappings pod (isIPv6 pod.ip)) ((m kubeHostportsChain).getD [])
  have hverdict : chainVerdict foreign m' pkt (depth + 2) kubeHostportsChain =
      (new ++ (m kubeHostportsChain).getD []).findSome? (ruleVerdict foreign m' (chainVerdict foreign m' pkt (depth + 1)) pkt) := by
    rw [chainVerdict, h.hostports, ← h.family, hjumps, Option.getD_some]
  have hcongr : ruleVerdict foreign (withPod env id pod m) (chainVerdict foreign (withPod env id pod m) pkt (depth + 1)) pkt =
      ruleVerdict foreign m' (chainVerdict foreign m' pkt (depth + 1)) pkt :=
    funext fun rule => (verdicts_congr (fun chain hchain => h.eq_withPod hchain) foreign pkt (depth + 1) rule).symm
  rw [hverdict, List.findSome?_append, Unobstructed, verdictAhead, hcongr]
  have hjump := fun pm' (hpm' : pm' ∈ gatherHostportMappings pod (isIPv6 pod.ip)) => h.jumpVerdict foreign hfam hpm' depth
  by_cases hfirst : ∃ pm, Serves pod pkt pm ∧ jumpRule id (getPodFullName pod) pm ∉ (m kubeHostportsChain).getD []
  · -- The new jumps are all of the pod, and one of them serves the packet.
    obtain ⟨pm₁, hs₁, hnot⟩ := hfirst
    have hreach : Reaches pod pkt
        (new.findSome? (ruleVerdict foreign m' (chainVerdict foreign m' pkt (depth + 1)) pkt)) := by
      refine findSome?_of_forall (fun r hr => ?_) ⟨jumpRule id (getPodFullName pod) pm₁, ?_, ?_⟩
      · obtain ⟨-, pm', hpm', rfl⟩ := hnew r hr
        by_cases hs' : Serves pod pkt pm'
        · exact Or.inr ((hjump pm' hpm').1 hs')
        · exact Or.inl ((hjump pm' hpm').2 hs')
      · exact (List.mem_append.mp (hall pm₁ hs₁.gathered)).resolve_right hnot
      · obtain ⟨_, -, heq⟩ := (hjump pm₁ hs₁.gathered).1 hs₁
        rw [heq]
        exact Option.some_ne_none _
    rw [hreach.or]
    exact ⟨fun _ => Or.inl ⟨pm₁, hs₁, hnot⟩, fun _ => hreach⟩
  · -- The new jumps let the packet pass, so that the old rules decide.
    have hold : ∀ pm', Serves pod pkt pm' → jumpRule id (getPodFullName pod) pm' ∈ (m kubeHostportsChain).getD [] :=
      fun pm' hs' => not_not.mp fun hnot => hfirst ⟨pm', hs', hnot⟩
    have hpass : new.findSome? (ruleVerdict foreign m' (chainVerdict foreign m' pkt (depth + 1)) pkt) = none := by
      rw [List.findSome?_eq_none_iff]
      intro r hr
      obtain ⟨hnot, pm', hpm', rfl⟩ := hnew r hr
      exact (hjump pm' hpm').2 fun hs' => hnot (hold pm' hs')
    obtain ⟨pm₂, rest, hs₂, hrules⟩ := rulesAhead_append hs (hold pm hs)
    have hreach := (hjump pm₂ hs₂.gathered).1 hs₂
    obtain ⟨_, -, hsome⟩ := (hjump pm₂ hs₂.gathered).1 hs₂
    have hdecide : ((m kubeHostportsChain).getD []).findSome?
          (ruleVerdict foreign m' (chainVerdict foreign m' pkt (depth + 1)) pkt) =
        ((rulesAhead id pod pkt ((m kubeHostportsChain).getD [])).findSome?
          (ruleVerdict foreign m' (chainVerdict foreign m' pkt (depth + 1)) pkt)).or
          (ruleVerdict foreign m' (chainVerdict foreign m' pkt (depth + 1)) pkt (jumpRule id (getPodFullName pod) pm₂)) := by
      conv_lhs => rw [hrules]
      rw [List.findSome?_append, List.findSome?_cons, hsome]
    rw [hpass, Option.none_or, hdecide]
    cases (rulesAhead id pod pkt ((m kubeHostportsChain).getD [])).findSome?
        (ruleVerdict foreign m' (chainVerdict foreign m' pkt (depth + 1)) pkt) with
    | none => exact ⟨fun _ => Or.inr (Or.inl rfl), fun _ => hreach⟩
    | some verdict =>
      rw [Option.some_or]
      exact ⟨fun hr => Or.inr (Or.inr hr), fun hu => (hu.resolve_left hfirst).resolve_left (Option.some_ne_none _)⟩

end

/-- The packets for every mapping of the pod reach it through KUBE-HOSTPORTS, and the chains of the other
    pods are as they were. -/
structure AddServes (foreign : Packet → Text → Option Verdict) (depth : Nat) (env : Env FakeTables) (id : Text)
    (pod : PodPortMapping) (before after : ChainMap) : Prop where
  reaches : ∀ pkt pm, Serves pod pkt pm → Reaches pod pkt (chainVerdict foreign after pkt (depth + 2) kubeHostportsChain)
  others : ∀ chain, hasPrefix chain kubeHostportChainPrefix = true → chain ∉ hostportChains env id (some pod) →
    after chain = before chain

/-- In every table in normal form, an `Add` that returns nil brings the packets for the mappings of the pod
    to it and leaves the chains of other pods alone, if and only if no rule that stood in KUBE-HOSTPORTS in
    front of a jump of the pod takes such a packet away. -/
theorem add_serves_iff {v6 : Bool} {env : Env FakeTables} {id nat : Text} {pod : PodPortMapping} {s : State FakeTables}
    (hc : (Call.add env id (some pod) nat).OnFake v6) (hm : Regular s.tables.nat) (hdistinct : DistinctChains id pod)
    (hnil : (add env id (some pod) nat s).1 = none) (foreign : Packet → Text → Option Verdict) (depth : Nat) :
    AddServes foreign depth env id pod s.tables.nat (add env id (some pod) nat s).2.tables.nat ↔
      ∀ pkt pm, Serves pod pkt pm → Unobstructed foreign depth env id pod s.tables.nat pkt := by
  rcases add_nat hc hm hnil with ⟨htables, hnone⟩ | ⟨p, hp, hwell, hnet, hip, hfam, hadded⟩
  · -- A pod without hostports of its family.
    have hserves : ∀ pkt pm, ¬Serves pod pkt pm := by
      intro pkt pm hs
      rcases hnone pod rfl with hnet | hgather
      · rw [hs.1] at hnet
        cases hnet
      · have hmem := hs.gathered
        rw [hgather] at hmem
        cases hmem
    exact ⟨fun _ pkt pm hs => absurd hs (hserves pkt pm),
      fun _ => ⟨fun pkt pm hs => absurd hs (hserves pkt pm), fun chain _ _ => by rw [htables]⟩⟩
  · cases hp
    have h : AddedPod env id pod s.tables.nat (add env id (some pod) nat s).2.tables.nat :=
      { toAdded := hadded, wellFormed := hwell, hostNetwork := hnet, ip := hip, family := hfam, distinct := hdistinct }
    constructor
    · exact fun hserves pkt pm hs => (h.reaches_iff foreign depth hs).mp (hserves.reaches pkt pm hs)
    · refine fun hfree => ⟨fun pkt pm hs => (h.reaches_iff foreign depth hs).mpr (hfree pkt pm hs), fun chain hchain hother => ?_⟩
      rw [h.eq_withPod hchain, withPod, if_neg hother]

theorem webPod_distinct : DistinctChains "web" webPod := by
  have hone : ∀ pm ∈ webPod.portMappings, pm = ⟨80, 8080, "tcp", []⟩ := by decide
  intro pm hpm pm' hpm' _
  rw [hone pm hpm, hone pm' hpm']
  exact ⟨rfl, rfl, rfl⟩

/-- On an empty table every packet for the pod reaches it. -/
theorem add_serves_iff_web :
    (add (fakeHost false) "web" (some webPod) [] (State.initial ∅)).1 = none ∧
      AddServes (fun _ _ => none) 0 (fakeHost false) "web" webPod (State.initial (∅ : FakeTables)).tables.nat
        (add (fakeHost false) "web" (some webPod) [] (State.initial ∅)).2.tables.nat := by
  obtain ⟨hnil, -⟩ := webAdded_run
  have hregular : Regular (State.initial (∅ : FakeTables)).tables.nat := Regular.empty
  refine ⟨hnil, (add_serves_iff webCall_onFake hregular webPod_distinct hnil _ 0).mpr fun pkt pm hs => ?_⟩
  exact Or.inl ⟨pm, hs, List.not_mem_nil⟩

/-- The tables after `Add` of two pods for one hostport, each by a manager that has just started. -/
def staleTables : FakeTables := (add (fakeHost false) "api" (some apiPod) [] (State.initial webAdded.tables)).2.tables

def webPacket : Packet :=
  { protocol := "tcp", dport := 80, dport_pos := by decide, src := v4InV6 ++ [192, 168, 1, 7],
    dst := v4InV6 ++ [192, 168, 1, 1] }

/-- The jump of the pod is there, behind the one of the other pod, and stays there when the pod is added
    again: its packets go to the other pod. -/
theorem add_leaves_jump_behind :
    (add (fakeHost false) "web" (some webPod) [] (State.initial staleTables)).1 = none ∧
      Serves webPod webPacket ⟨80, 8080, "tcp", []⟩ ∧
      chainVerdict (fun _ _ => none) (add (fakeHost false) "web" (some webPod) [] (State.initial staleTables)).2.tables.nat
        webPacket 2 kubeHostportsChain = some (.dnat "10.0.0.2:9090") ∧
      ¬AddServes (fun _ _ => none) 0 (fakeHost false) "web" webPod staleTables.nat
        (add (fakeHost false) "web" (some webPod) [] (State.initial staleTables)).2.tables.nat := by
  have hrun : (add (fakeHost false) "web" (some webPod) [] (State.initial staleTables)).1 = none ∧
      Serves webPod webPacket ⟨80, 8080, "tcp", []⟩ ∧
      chainVerdict (fun _ _ => none) (add (fakeHost false) "web" (some webPod) [] (State.initial staleTables)).2.tables.nat
        webPacket 2 kubeHostportsChain = some (.dnat "10.0.0.2:9090") ∧
      ∀ pm ∈ webPod.portMappings, joinHostPort (ipString webPod.ip) (itoa pm.containerPort) ≠ "10.0.0.2:9090" := by
    decide +kernel
  obtain ⟨hnil, hserves, hverdict, hdestinations⟩ := hrun
  refine ⟨hnil, hserves, hverdict, fun h => ?_⟩
  obtain ⟨pm, hpm, heq⟩ := h.reaches _ _ hserves
  rw [hverdict, Option.some.injEq, Verdict.dnat.injEq] at heq
  exact hdestinations pm hpm.2.1 heq.symm

end CriDockerd.Hostport
