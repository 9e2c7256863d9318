import CriDockerd.Kubenet.Dedup
import Mathlib.Data.List.Basic

/-! The dedup rules of kubenet while pods are set up at the same time. Rules that accept go to the front of the chain
    and rules that drop to its end, so whatever the order of the commands no packet of a gateway meets a rule that drops
    it first. -/

namespace CriDockerd.Kubenet.Dedup
open Text NetIP

/-! ### What the chain does with a packet -/

/-- The verdict of the first rule that applies to a packet and has one. -/
def verdict {P : Type} (applies : Rule → P → Bool) (rules : List Rule) (packet : P) : Option Target :=
  rules.findSome? fun r => if applies r packet then r.target else none

/-- No rule that accepts comes after one that drops. -/
def Ordered (rules : List Rule) : Prop := rules.Pairwise fun a b => a.target = some .drop → b.target ≠ some .accept

section
variable {P : Type} {applies : Rule → P → Bool} {packet : P} {rules : List Rule} {r : Rule}

theorem verdict_accept (h : Ordered rules) (hr : r ∈ rules) (htarget : r.target = some .accept)
    (happlies : applies r packet = true) : verdict applies rules packet = some .accept := by
  induction rules with
  | nil => cases hr
  | cons x rules ih =>
    obtain ⟨hx, hrules⟩ := List.pairwise_cons.mp h
    rw [verdict, List.findSome?_cons]
    rcases List.mem_cons.mp hr with rfl | hmem
    · rw [if_pos happlies, htarget]
    · by_cases happ : applies x packet = true
      · rw [if_pos happ]
        cases hxt : x.target with
        | none => exact ih hrules hmem
        | some target =>
          cases target with
          | accept => rfl
          | drop => exact absurd htarget (hx r hmem hxt)
      · rw [if_neg happ]
        exact ih hrules hmem

theorem verdict_drop (hnone : ∀ x ∈ rules, x.target = some .accept → applies x packet = false) (hr : r ∈ rules)
    (htarget : r.target = some .drop) (happlies : applies r packet = true) :
    verdict applies rules packet = some .drop := by
  induction rules with
  | nil => cases hr
  | cons x rules ih =>
    have hrest := ih fun y hy => hnone y (List.mem_cons_of_mem x hy)
    rw [verdict, List.findSome?_cons]
    rcases List.mem_cons.mp hr with rfl | hmem
    · rw [if_pos happlies, htarget]
    · by_cases happ : applies x packet = true
      · rw [if_pos happ]
        cases hxt : x.target with
        | none => exact hrest hmem
        | some target =>
          cases target with
          | accept =>
            rw [hnone x List.mem_cons_self hxt] at happ
            cases happ
          | drop => rfl
      · rw [if_neg happ]
        exact hrest hmem

end

/-! ### The rules of a sync -/

theorem hasSuffix_dedupRule (mac : List UInt8) (v6 : Bool) (src : Text) (hsrc : '\n' ∉ src) (target : Target) :
    hasSuffix (dedupRule mac v6 src hsrc target).line (" -j " ++ target.name) = true := by
  obtain ⟨middle, h⟩ := join_dedupArgs mac v6 src target
  exact hasSuffix_iff.mpr ⟨"-p" ++ middle, h.symm⟩

theorem target_dedupRule (mac : List UInt8) (v6 : Bool) (src : Text) (hsrc : '\n' ∉ src) (target : Target) :
    (dedupRule mac v6 src hsrc target).target = some target := by
  have hsuffix := hasSuffix_dedupRule mac v6 src hsrc target
  rw [Rule.target]
  cases target with
  | accept => rw [if_pos hsuffix]
  | drop =>
    have hnot : hasSuffix (dedupRule mac v6 src hsrc .drop).line (" -j " ++ Target.accept.name) ≠ true := by
      intro haccept
      -- Of two endings of one line the shorter ends the longer one.
      have := List.suffix_of_suffix_length_le (hasSuffix_iff.mp hsuffix) (hasSuffix_iff.mp haccept) (by decide)
      revert this
      decide
    rw [if_neg hnot, if_pos hsuffix]

theorem target_acceptRule (mac : List UInt8) (gw : IP) : (acceptRule mac gw).target = some .accept :=
  target_dedupRule mac _ _ _ _

theorem target_dropRule (mac : List UInt8) (gw : IP) (podCIDR : IPNet) : (dropRule mac gw podCIDR).target = some .drop :=
  target_dedupRule mac _ _ _ _

/-- A rule that is not taken for a heading of the listing. -/
def Rule.IsOption (r : Rule) : Prop := r.line.head? = some '-'

theorem isOption_dedupRule (mac : List UInt8) (v6 : Bool) (src : Text) (hsrc : '\n' ∉ src) (target : Target) :
    (dedupRule mac v6 src hsrc target).IsOption := by
  obtain ⟨middle, h⟩ := join_dedupArgs mac v6 src target
  rw [Rule.IsOption, show (dedupRule mac v6 src hsrc target).line = _ from h]
  rfl

/-! ### The listing -/

theorem mem_of_checkIfRuleExists {chain : Chain} {rules : List Rule} {rule : Rule} (hrule : rule.IsOption)
    (h : checkIfRuleExists (listing chain rules) rule.line = true) : rule ∈ rules := by
  have hchain : '\n' ∉ chain.name := by cases chain <;> decide
  have hlength : '\n' ∉ itoa (rules.length : Int) := fun h => absurd (isDigit_of_mem_itoa h) (by decide)
  have hlines : ∀ l ∈ ["Bridge table: filter".toList, [],
      "Bridge chain: " ++ chain.name ++ ", entries: " ++ itoa rules.length ++ ", policy: ACCEPT"] ++
      rules.map Rule.line, '\n' ∉ l := by
    intro l hl
    simp only [List.mem_append, List.mem_cons, List.not_mem_nil, or_false, List.mem_map] at hl
    rcases hl with (rfl | rfl | rfl) | ⟨r, -, rfl⟩
    · decide
    · decide
    · simp only [List.mem_append, not_or]
      exact ⟨⟨⟨⟨by decide, hchain⟩, by decide⟩, hlength⟩, by decide⟩
    · exact r.oneLine
  rw [checkIfRuleExists, listing, split_unlines hlines, List.any_eq_true] at h
  obtain ⟨l, hl, htrim⟩ := h
  have htrim : trimSpace l = rule.line := beq_iff_eq.mp htrim
  -- The line is one of a rule: the headings start otherwise.
  have hdash : (trimSpace l).head? = some '-' := by rw [htrim, hrule]
  simp only [List.mem_append, List.mem_cons, List.not_mem_nil, or_false, List.mem_map] at hl
  rcases hl with ((rfl | rfl | rfl) | ⟨r, hr, rfl⟩) | rfl
  · exact absurd hdash (by decide)
  · exact absurd hdash (by decide)
  · have hwords := trimSpace_words (by decide : IsWord "Bridge") (by decide : IsWord "ACCEPT")
      (" chain: " ++ chain.name ++ ", entries: " ++ itoa rules.length ++ ", policy: ")
    have hheading : "Bridge chain: " ++ chain.name ++ ", entries: " ++ itoa rules.length ++
        ", policy: ACCEPT" = "Bridge" ++ (" chain: " ++ chain.name ++ ", entries: " ++
        itoa rules.length ++ ", policy: ") ++ "ACCEPT" := by
      simp only [List.append_assoc]
      rfl
    rw [hheading, hwords] at hdash
    exact absurd hdash (by simp)
  · rw [r.trimmed] at htrim
    have : r = rule := by
      cases r
      cases rule
      cases htrim
      rfl
    exact this ▸ hr
  · exact absurd hdash (by decide)

/-! ### What the steps of a sync change -/

/-- Steps that keep the order of the chain and add rules that accept only out of a given set. -/
structure Tidy (added : Rule → Prop) (s t : State) : Prop where
  ordered : Ordered (s.dedup.getD []) → Ordered (t.dedup.getD [])
  origin : ∀ r ∈ t.dedup.getD [], r.target = some .accept → r ∈ s.dedup.getD [] ∨ added r

/-- Steps that take no rule away once the plugin has its runner. -/
structure Kept (s t : State) : Prop where
  ebtables : s.ebtables = true → t.ebtables = true
  output : s.ebtables = true → s.output ⊆ t.output
  dedup : s.ebtables = true → s.dedup.getD [] ⊆ t.dedup.getD []

namespace Tidy
variable {added : Rule → Prop} {s t u : State}

theorem refl (s : State) : Tidy added s s := ⟨id, fun _ hr _ => Or.inl hr⟩

theorem trans (hst : Tidy added s t) (htu : Tidy added t u) : Tidy added s u :=
  ⟨htu.ordered ∘ hst.ordered, fun r hr htarget => (htu.origin r hr htarget).elim (hst.origin r · htarget) Or.inr⟩

end Tidy

namespace Kept
variable {s t u : State}

theorem refl (s : State) : Kept s s := ⟨id, fun _ => List.Subset.refl _, fun _ => List.Subset.refl _⟩

theorem rules (h : Kept s t) (hs : s.ebtables = true) (chain : Chain) : (s.rules chain).getD [] ⊆ (t.rules chain).getD [] := by
  cases chain with
  | output => exact h.output hs
  | dedup => exact h.dedup hs

theorem trans (hst : Kept s t) (htu : Kept t u) : Kept s u :=
  ⟨htu.ebtables ∘ hst.ebtables, fun h => List.Subset.trans (hst.output h) (htu.output (hst.ebtables h)),
    fun h => List.Subset.trans (hst.dedup h) (htu.dedup (hst.ebtables h))⟩

end Kept

/-- A rule of the chain goes to the end that its target asks for. -/
def Fits (added : Rule → Prop) (position : Position) (chain : Chain) (rule : Rule) : Prop :=
  chain = .dedup → position = .prepend ∧ rule.target = some .accept ∧ added rule ∨
    position = .append ∧ rule.target = some .drop

section
variable {added : Rule → Prop} {position : Position} {chain : Chain} {rule : Rule}

theorem tidy_setRules {s : State} {rules : List Rule} (hs : s.rules chain = some rules)
    (h : Fits added position chain rule) : Tidy added s (s.setRules chain (insertRule rule rules position)) := by
  cases chain with
  | output => exact ⟨id, fun _ hr _ => Or.inl hr⟩
  | dedup =>
    have hdedup : s.dedup.getD [] = rules := by rw [show s.dedup = some rules from hs, Option.getD_some]
    rcases h rfl with ⟨rfl, htarget, hadded⟩ | ⟨rfl, htarget⟩
    · refine ⟨fun hordered => ?_, fun r hr _ => ?_⟩
      · rw [hdedup] at hordered
        refine List.pairwise_cons.mpr ⟨fun b _ hdrop => ?_, hordered⟩
        rw [htarget] at hdrop
        cases hdrop
      · rw [hdedup]
        exact (List.mem_cons.mp hr).elim (fun h => Or.inr (h ▸ hadded)) Or.inl
    · refine ⟨fun hordered => ?_, fun r hr haccept => ?_⟩
      · rw [hdedup] at hordered
        refine List.pairwise_append.mpr ⟨hordered, List.pairwise_singleton _ _, fun a _ b hb _ haccept => ?_⟩
        rw [List.mem_singleton.mp hb, htarget] at haccept
        cases haccept
      · rw [hdedup]
        refine (List.mem_append.mp hr).elim Or.inl fun h => ?_
        rw [List.mem_singleton.mp h, htarget] at haccept
        cases haccept

theorem kept_setRules {s : State} {rules : List Rule} (hs : s.rules chain = some rules) :
    Kept s (s.setRules chain (insertRule rule rules position)) := by
  have hsub : rules ⊆ insertRule rule rules position := by
    cases position with
    | prepend => exact List.subset_cons_self rule rules
    | append => exact List.subset_append_left rules [rule]
  cases chain with
  | output =>
    refine ⟨id, fun _ => ?_, fun _ => List.Subset.refl _⟩
    rw [Option.some.inj hs]
    exact hsub
  | dedup =>
    refine ⟨id, fun _ => List.Subset.refl _, fun _ => ?_⟩
    rw [show s.dedup = some rules from hs]
    exact hsub

theorem always_listRules (ok : Bool) : (listRules ok chain rule).Always (Tidy added) :=
  Thread.Always.atom Tidy.refl

theorem always_addRule (ok : Bool) (h : Fits added position chain rule) :
    (addRule ok position chain rule).Always (Tidy added) := by
  refine Thread.Always.atom fun s => ?_
  split
  · rename_i rules hs
    exact tidy_setRules hs h
  · exact Tidy.refl s

theorem always_ensureRule (env : EnsureEnv) (h : Fits added position chain rule) :
    (ensureRule env position chain rule).Always (Tidy added) := by
  refine Thread.Always.bind (always_listRules env.list) fun listed => ?_
  cases listed with
  | true => trivial
  | false => exact always_addRule env.change h

end

theorem always_ensureChain (added : Rule → Prop) (env : EnsureEnv) : (ensureChain env).Always (Tidy added) := by
  refine Thread.Always.bind (Thread.Always.atom Tidy.refl) fun listed => ?_
  cases listed with
  | true => trivial
  | false =>
    refine Thread.Always.atom fun s => ?_
    split
    · exact ⟨fun _ => List.Pairwise.nil, fun r hr => absurd hr List.not_mem_nil⟩
    · exact Tidy.refl s

theorem tidy_flush (added : Rule → Prop) (s : State) : Tidy added s { s with dedup := s.dedup.map fun _ => [] } := by
  have hnil : (s.dedup.map fun _ => ([] : List Rule)).getD [] = [] := by cases s.dedup <;> rfl
  refine ⟨fun _ => ?_, fun r hr => ?_⟩
  · show Ordered ((s.dedup.map fun _ => ([] : List Rule)).getD [])
    rw [hnil]
    exact List.Pairwise.nil
  · rw [show _ = ([] : List Rule) from hnil] at hr
    cases hr

theorem always_ensureRunner (added : Rule → Prop) (env : SyncEnv) : (ensureRunner env).Always (Tidy added) := by
  refine Thread.Always.bind (Thread.Always.atom Tidy.refl) fun runner => ?_
  cases runner with
  | true => trivial
  | false =>
    refine Thread.Always.bind (Thread.Always.atom fun s => ⟨id, fun _ hr _ => Or.inl hr⟩) fun _ => ?_
    refine Thread.Always.atom fun s => ?_
    split
    · exact tidy_flush added s
    · exact Tidy.refl s

theorem always_ensureGateways {added : Rule → Prop} (env : SyncEnv) {macAddr : List UInt8} {networks : List (IP × IPNet)}
    (h : ∀ n ∈ networks, added (acceptRule macAddr n.1)) (idx : Nat) :
    (ensureGateways env macAddr idx networks).Always (Tidy added) := by
  induction networks generalizing idx with
  | nil => trivial
  | cons n networks ih =>
    obtain ⟨gw, podCIDR⟩ := n
    rw [ensureGateways]
    refine Thread.Always.bind (always_ensureRule _ fun _ =>
      Or.inl ⟨rfl, target_acceptRule macAddr gw, h _ List.mem_cons_self⟩) fun accepted => ?_
    cases accepted with
    | false => trivial
    | true =>
      refine Thread.Always.bind (always_ensureRule _ fun _ => Or.inr ⟨rfl, target_dropRule macAddr gw podCIDR⟩)
        fun dropped => ?_
      cases dropped with
      | false => trivial
      | true => exact ih (fun n hn => h n (List.mem_cons_of_mem _ hn)) (idx + 1)

theorem always_syncEbtablesDedupRules {added : Rule → Prop} (env : SyncEnv) {macAddr : List UInt8}
    {networks : List (IP × IPNet)} (h : ∀ n ∈ networks, added (acceptRule macAddr n.1)) :
    (syncEbtablesDedupRules env macAddr networks).Always (Tidy added) := by
  refine Thread.Always.bind (always_ensureRunner added env) fun _ => ?_
  split
  · trivial
  · refine Thread.Always.bind (always_ensureChain added env.chain) fun chain => ?_
    cases chain with
    | false => trivial
    | true =>
      refine Thread.Always.bind (always_ensureRule env.jump nofun) fun jump => ?_
      cases jump with
      | false => trivial
      | true => exact always_ensureGateways env h 0

/-! ### What a sync achieves -/

/-- Among threads that take no rule away, a thread ends with a result for which a property holds. -/
def Achieves {α : Type} (t : Thread State α) (post : α → State → Prop) (s : State) : Prop :=
  t.Ensures Kept Kept (fun a u => u.ebtables = true ∧ post a u) s

namespace Achieves
variable {α β : Type} {s : State}

theorem pure {a : α} {post : α → State → Prop} (hs : s.ebtables = true) (h : ∀ u, Kept s u → post a u) :
    Achieves (Pure.pure a) post s := fun u hu => ⟨hu.ebtables hs, h u hu⟩

theorem atom {op : State → α × State} {post : α → State → Prop} (hs : s.ebtables = true)
    (h : ∀ u, u.ebtables = true → Kept u (op u).2 ∧ ∀ v, Kept (op u).2 v → post (op u).1 v) :
    Achieves (Thread.atom op) post s := by
  intro u hu
  have hebtables := hu.ebtables hs
  obtain ⟨hop, hpost⟩ := h u hebtables
  exact ⟨hop, fun v hv => ⟨hv.ebtables (hop.ebtables hebtables), hpost v hv⟩⟩

theorem mono {t : Thread State α} {post post' : α → State → Prop} (ht : Achieves t post s)
    (h : ∀ a u, Kept s u → post a u → post' a u) : Achieves t post' s :=
  (Thread.Ensures.since ht (fun _ _ _ => Kept.trans) (fun _ _ => id) (Kept.refl s)).mono
    fun a u hu => ⟨hu.2.1, h a u hu.1 hu.2.2⟩

/-- What one thread has achieved stays while the next one runs. -/
theorem bind {t : Thread State α} {k : α → Thread State β} {mid : α → State → Prop} {post : β → State → Prop}
    (ht : Achieves t mid s) (hk : ∀ a u, Kept s u → u.ebtables = true → mid a u → Achieves (k a) post u) :
    Achieves (t >>= k) post s :=
  Thread.Ensures.bind Kept.refl ((ht.since (fun _ _ _ => Kept.trans) (fun _ _ => id) (Kept.refl s)).mono
    fun a u hu => hk a u hu.1 hu.2.1 hu.2.2)

end Achieves

section
variable {s : State} {chain : Chain} {rule : Rule}

/-- The rule is in the chain if the answer is yes. -/
def Present (chain : Chain) (rule : Rule) (found : Bool) (s : State) : Prop :=
  found = true → rule ∈ (s.rules chain).getD []

theorem achieves_listRules (ok : Bool) (hrule : rule.IsOption) (hs : s.ebtables = true) :
    Achieves (listRules ok chain rule) (Present chain rule) s := by
  refine Achieves.atom hs fun u hu => ⟨Kept.refl u, fun v hv hfound => hv.rules hu chain ?_⟩
  obtain ⟨-, hany⟩ := Bool.and_eq_true_iff.mp hfound
  obtain ⟨rules, hrules, hexists⟩ := (Option.any_eq_true _ _).mp hany
  rw [hrules, Option.getD_some]
  exact mem_of_checkIfRuleExists hrule hexists

theorem mem_setRules (s : State) (chain : Chain) (rule : Rule) (rules : List Rule) (position : Position) :
    rule ∈ ((s.setRules chain (insertRule rule rules position)).rules chain).getD [] := by
  have hmem : rule ∈ insertRule rule rules position := by
    cases position with
    | prepend => exact List.mem_cons_self
    | append => exact List.mem_append_right rules (List.mem_singleton_self rule)
  cases chain <;> exact hmem

theorem achieves_addRule (ok : Bool) (position : Position) (hs : s.ebtables = true) :
    Achieves (addRule ok position chain rule) (Present chain rule) s := by
  refine Achieves.atom hs fun u hu => ?_
  split
  · rename_i rules hrules
    have hkept : Kept u (u.setRules chain (insertRule rule rules position)) := kept_setRules hrules
    exact ⟨hkept, fun v hv _ => hv.rules (hkept.ebtables hu) chain (mem_setRules u chain rule rules position)⟩
  · exact ⟨Kept.refl u, fun v _ => nofun⟩

theorem achieves_ensureRule (env : EnsureEnv) (position : Position) (hrule : rule.IsOption) (hs : s.ebtables = true) :
    Achieves (ensureRule env position chain rule) (Present chain rule) s := by
  refine (achieves_listRules env.list hrule hs).bind fun listed u _ hu hlisted => ?_
  cases listed with
  | true => exact Achieves.pure hu fun v hv _ => hv.rules hu chain (hlisted rfl)
  | false => exact achieves_addRule env.change position hu

end

theorem achieves_ensureChain (env : EnsureEnv) {s : State} (hs : s.ebtables = true) :
    Achieves (ensureChain env) (fun _ _ => True) s := by
  have hlist : Achieves (.atom fun u => (env.list && u.dedup.isSome, u)) (fun _ _ => True) s :=
    Achieves.atom hs fun u _ => ⟨Kept.refl u, fun _ _ => trivial⟩
  refine hlist.bind fun listed u _ hu _ => ?_
  cases listed with
  | true => exact Achieves.pure hu fun _ _ => trivial
  | false =>
    refine Achieves.atom hu fun v _ => ?_
    split
    · rename_i hnone
      refine ⟨⟨id, fun _ => List.Subset.refl _, fun _ => ?_⟩, fun _ _ => trivial⟩
      rw [hnone]
      exact List.nil_subset _
    · exact ⟨Kept.refl v, fun _ _ => trivial⟩

/-- The state holds the rules of a sync. -/
structure Holds (macAddr : List UInt8) (networks : List (IP × IPNet)) (s : State) : Prop where
  accept : ∀ n ∈ networks, acceptRule macAddr n.1 ∈ s.dedup.getD []
  drop : ∀ n ∈ networks, dropRule macAddr n.1 n.2 ∈ s.dedup.getD []

theorem achieves_ensureGateways (env : SyncEnv) (macAddr : List UInt8) (networks : List (IP × IPNet)) (idx : Nat) {s : State}
    (hs : s.ebtables = true) :
    Achieves (ensureGateways env macAddr idx networks) (fun done u => done = true → Holds macAddr networks u) s := by
  induction networks generalizing idx s with
  | nil => exact Achieves.pure hs fun u _ _ => ⟨nofun, nofun⟩
  | cons n networks ih =>
    obtain ⟨gw, podCIDR⟩ := n
    rw [ensureGateways]
    refine (achieves_ensureRule (env.accept idx) .prepend (isOption_dedupRule _ _ _ _ _) hs).bind
      fun accepted u _ hu haccept => ?_
    cases accepted with
    | false => exact Achieves.pure hu fun v hv => nofun
    | true =>
      refine (achieves_ensureRule (env.drop idx) .append (isOption_dedupRule _ _ _ _ _) hu).bind
        fun dropped v huv hv hdrop => ?_
      cases dropped with
      | false => exact Achieves.pure hv fun w hw => nofun
      | true =>
        refine (ih (idx + 1) hv).mono fun done w hvw hdone h => ?_
        have hrest := hdone h
        refine ⟨List.forall_mem_cons.mpr ⟨?_, hrest.accept⟩, List.forall_mem_cons.mpr ⟨?_, hrest.drop⟩⟩
        · exact hvw.dedup hv (huv.dedup hu (haccept rfl))
        · exact hvw.dedup hv (hdrop rfl)

theorem achieves_syncEbtablesDedupRules (env : SyncEnv) (macAddr : List UInt8) (networks : List (IP × IPNet)) {s : State}
    (hs : s.ebtables = true) :
    Achieves (syncEbtablesDedupRules env macAddr networks)
      (fun done u => done = true → jumpRule ∈ u.output ∧ Holds macAddr networks u) s := by
  have hrunner : Achieves (ensureRunner env) (fun _ _ => True) s := by
    have hread : Achieves (.atom fun u => (u.ebtables, u)) (fun runner _ => runner = true) s :=
      Achieves.atom hs fun u hu => ⟨Kept.refl u, fun _ _ => hu⟩
    refine hread.bind fun runner u _ hu hrunner => ?_
    rw [hrunner]
    exact Achieves.pure hu fun _ _ => trivial
  refine hrunner.bind fun _ u _ hu _ => ?_
  split
  · exact Achieves.pure hu fun v _ => nofun
  · refine (achieves_ensureChain env.chain hu).bind fun chain v _ hv _ => ?_
    cases chain with
    | false => exact Achieves.pure hv fun w _ => nofun
    | true =>
      refine (achieves_ensureRule env.jump .append (rfl : jumpRule.IsOption) hv).bind fun jump w _ hw hjump => ?_
      cases jump with
      | false => exact Achieves.pure hw fun x _ => nofun
      | true =>
        refine (achieves_ensureGateways env macAddr networks 0 hw).mono fun done x hwx hdone h => ?_
        exact ⟨hwx.output hw (hjump rfl), hdone h⟩

/-! ### Syncs at the same time -/

/-- A call of `syncEbtablesDedupRules`. -/
structure Sync where
  env : SyncEnv
  macAddr : List UInt8
  networks : List (IP × IPNet)

def Sync.thread (c : Sync) : Thread State Bool := syncEbtablesDedupRules c.env c.macAddr c.networks

section
variable {ι : Type} [DecidableEq ι] {calls : ι → Sync} {s : State} {p : Thread.Pool State ι Bool}

/-- A rule that one of the syncs adds for a gateway. -/
def OfGateway (calls : ι → Sync) (r : Rule) : Prop := ∃ i, ∃ n ∈ (calls i).networks, r = acceptRule (calls i).macAddr n.1

theorem tidy_reaches (h : Thread.Pool.Reaches ⟨s, fun i => (calls i).thread⟩ p) : Tidy (OfGateway calls) s p.state :=
  h.always Tidy.refl (fun _ _ _ => Tidy.trans) fun i =>
    always_syncEbtablesDedupRules (calls i).env fun n hn => ⟨i, n, hn, rfl⟩

theorem holds_of_done (hs : s.ebtables = true) (h : Thread.Pool.Reaches ⟨s, fun i => (calls i).thread⟩ p) {i : ι}
    (hdone : p.threads i = .done true) : jumpRule ∈ p.state.output ∧ Holds (calls i).macAddr (calls i).networks p.state := by
  have hstart (i : ι) : Achieves (calls i).thread (fun done u => done = true →
      jumpRule ∈ u.output ∧ Holds (calls i).macAddr (calls i).networks u) s := achieves_syncEbtablesDedupRules _ _ _ hs
  have hensures := Thread.Pool.Reaches.ensures (fun _ => Kept.refl) (fun _ _ _ _ => Kept.trans) (fun _ _ _ _ _ => id)
    hstart h i
  rw [hdone] at hensures
  exact (hensures p.state (Kept.refl _)).2 rfl

/-- Pods are set up at the same time by a plugin that has its runner, the commands of their syncs coming in any order
    and failing at any time. In the chain that is reached a packet that a rule accepts is accepted whatever else
    applies to it. Once the sync of a pod has got to its end, packets of the pod's gateways are accepted and
    those of its network that come from no gateway are dropped, and so it stays. -/
theorem syncEbtablesDedupRules_verdict {P : Type} (applies : Rule → P → Bool) (hs : s.ebtables = true)
    (hordered : Ordered (s.dedup.getD [])) (h : Thread.Pool.Reaches ⟨s, fun i => (calls i).thread⟩ p) :
    (∀ r ∈ p.state.dedup.getD [], r.target = some .accept → ∀ packet, applies r packet = true →
      verdict applies (p.state.dedup.getD []) packet = some .accept) ∧
    ∀ i, p.threads i = .done true → jumpRule ∈ p.state.output ∧ ∀ n ∈ (calls i).networks, ∀ packet,
      (applies (acceptRule (calls i).macAddr n.1) packet = true →
        verdict applies (p.state.dedup.getD []) packet = some .accept) ∧
      (applies (dropRule (calls i).macAddr n.1 n.2) packet = true →
        (∀ r, r ∈ s.dedup.getD [] ∧ r.target = some .accept ∨ OfGateway calls r → applies r packet = false) →
        verdict applies (p.state.dedup.getD []) packet = some .drop) := by
  have htidy := tidy_reaches h
  have hsorted := htidy.ordered hordered
  refine ⟨fun r hr htarget packet happlies => verdict_accept hsorted hr htarget happlies, fun i hdone => ?_⟩
  obtain ⟨hjump, hholds⟩ := holds_of_done hs h hdone
  refine ⟨hjump, fun n hn packet => ⟨fun happlies => ?_, fun happlies hnone => ?_⟩⟩
  · exact verdict_accept hsorted (hholds.accept n hn) (target_acceptRule _ _) happlies
  · refine verdict_drop (fun r hr htarget => hnone r ?_) (hholds.drop n hn) (target_dropRule _ _ _) happlies
    exact (htidy.origin r hr htarget).imp_left fun hr => ⟨hr, htarget⟩

end

/-- A pod behind the gateway `10.1.0.1`, whose listings all fail. -/
def listingsFail : Sync where
  env := {
    flush := true, version := true, chain := ⟨false, true⟩, jump := ⟨false, true⟩
    accept := fun _ => ⟨false, true⟩, drop := fun _ => ⟨false, true⟩
  }
  macAddr := [0x0a, 0x58, 0x0a, 0x01, 0x00, 0x01]
  networks := podNetworks (some ⟨[10, 1, 0, 7], [255, 255, 255, 0], [10, 1, 0, 1]⟩) none

/-- Two such pods while the first sync gets to its end. -/
def twoPods : Thread.Pool State Bool Bool :=
  [false, true, true, true, true, true, false, true, true, true, true].foldl (fun p i => p.advance i)
    ⟨⟨true, [], none⟩, fun _ => listingsFail.thread⟩

/-- Of the rules that apply to a packet of the gateway the first accepts; one of another source in the network is dropped. -/
theorem syncEbtablesDedupRules_verdict_twoPods :
    verdict (fun _ _ => true) (twoPods.state.dedup.getD []) () = some .accept ∧
    verdict (fun r _ => decide (r.target = some .drop)) (twoPods.state.dedup.getD []) () = some .drop := by
  have hreaches : Thread.Pool.Reaches ⟨⟨true, [], none⟩, fun _ => listingsFail.thread⟩ twoPods :=
    List.foldlRecOn _ _ (Reachable.start rfl) fun _ hp _ _ => Reachable.call hp trivial
  have hdone : twoPods.threads true = .done true := rfl
  have hordered : Ordered ((⟨true, [], none⟩ : State).dedup.getD []) := List.Pairwise.nil
  have hn : ([10, 1, 0, 1], { ip := [10, 1, 0, 0], mask := [255, 255, 255, 0] }) ∈ listingsFail.networks := by decide
  have haccept := ((syncEbtablesDedupRules_verdict (fun _ (_ : Unit) => true) rfl hordered hreaches).2 true hdone).2 _ hn ()
  have hdrop := ((syncEbtablesDedupRules_verdict (fun r (_ : Unit) => decide (r.target = some .drop)) rfl hordered
    hreaches).2 true hdone).2 _ hn ()
  refine ⟨haccept.1 rfl, hdrop.2 (decide_eq_true (target_dropRule _ _ _)) fun r hr => decide_eq_false ?_⟩
  rcases hr with ⟨hr, -⟩ | ⟨i, n, -, rfl⟩
  · cases hr
  · rw [target_acceptRule]
    decide

end CriDockerd.Kubenet.Dedup
