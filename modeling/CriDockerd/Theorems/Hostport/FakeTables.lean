import CriDockerd.Theorems.Hostport.Normalize
import CriDockerd.Theorems.Hostport.Payload

/-! The fake iptables as an abstract NAT table, a map from chains to rules. Every line of a restore is an
    operation on the map, and the rules and chains of an output of `SaveInto` are those of the map. -/

namespace CriDockerd.Hostport
open Text NetIP

/-- A table: the rules of each chain that exists. -/
abbrev ChainMap := Text → Option (List Text)

/-! ### Operations on a table -/

/-- A rule is added at its end of a chain, unless the chain holds it. -/
def insertRule (position : RulePosition) (rule : Text) (rules : List Text) : List Text :=
  if rule ∈ rules then rules
  else match position with
    | .prepend => rule :: rules
    | .append => rules ++ [rule]

theorem mem_insertRule {position : RulePosition} {rule r : Text} {rules : List Text} :
    r ∈ insertRule position rule rules ↔ r = rule ∨ r ∈ rules := by
  unfold insertRule
  split
  · rename_i hmem
    exact ⟨Or.inr, fun h => h.elim (fun heq => heq ▸ hmem) fun h => h⟩
  · cases position with
    | prepend => simp
    | append => simp [or_comm]

theorem insertRule_of_mem {position : RulePosition} {rule : Text} {rules : List Text} (h : rule ∈ rules) :
    insertRule position rule rules = rules := if_pos h

namespace ChainMap

def ensure (m : ChainMap) (chain : Text) : ChainMap := Function.update m chain (some ((m chain).getD []))

def flush (m : ChainMap) (chain : Text) : ChainMap := Function.update m chain (some [])

def delete (m : ChainMap) (chain : Text) : ChainMap := Function.update m chain none

def addRule (m : ChainMap) (position : RulePosition) (chain rule : Text) : ChainMap :=
  Function.update m chain (some (insertRule position rule ((m chain).getD [])))

end ChainMap

namespace FakeTables

/-- The NAT table of the fake. -/
def nat (f : FakeTables) : ChainMap := fun chain => (f.lookup tableNAT).bind fun table => table.lookup chain

variable {f : FakeTables} {chain : Text}

theorem getChain_of_none (h : f.nat chain = none) : ∃ err, f.getChain tableNAT chain = .error err := by
  unfold nat at h
  unfold getChain getTable
  cases htable : f.lookup tableNAT with
  | none => exact ⟨_, rfl⟩
  | some table =>
    rw [htable, Option.bind_some] at h
    simp only [h]
    exact ⟨_, rfl⟩

theorem getChain_of_some {rules : List Text} (h : f.nat chain = some rules) :
    ∃ table, f.lookup tableNAT = some table ∧ f.getChain tableNAT chain = .ok (table, rules) := by
  unfold nat at h
  unfold getChain getTable
  cases htable : f.lookup tableNAT with
  | none =>
    rw [htable] at h
    cases h
  | some table =>
    rw [htable, Option.bind_some] at h
    refine ⟨table, rfl, ?_⟩
    simp only [h]

theorem rules_eq (f : FakeTables) (chain : Text) : f.rules tableNAT chain = (f.nat chain).getD [] := by
  unfold rules
  cases h : f.nat chain with
  | none =>
    obtain ⟨err, herr⟩ := getChain_of_none h
    rw [herr]
    rfl
  | some rules =>
    obtain ⟨table, -, hok⟩ := getChain_of_some h
    rw [hok]
    rfl

theorem nat_setChain (f : FakeTables) (chain : Text) (rules : List Text) :
    (f.setChain tableNAT chain rules).nat = Function.update f.nat chain (some rules) := by
  funext c
  simp only [nat, setChain, AList.lookup_insert, Option.bind_some]
  by_cases hc : c = chain
  · rw [hc, Function.update_self, AList.lookup_insert]
  · rw [Function.update_of_ne hc, AList.lookup_insert_ne hc, nat]
    cases f.lookup tableNAT with
    | none => rfl
    | some table => rfl

theorem nat_ensureChain (f : FakeTables) (chain : Text) : (f.ensureChain tableNAT chain).nat = f.nat.ensure chain := by
  unfold ensureChain ChainMap.ensure
  cases h : f.nat chain with
  | none =>
    obtain ⟨err, herr⟩ := getChain_of_none h
    rw [herr]
    exact nat_setChain f chain []
  | some rules =>
    obtain ⟨table, -, hok⟩ := getChain_of_some h
    rw [hok, Option.getD_some, ← h, Function.update_eq_self]

theorem flushChain_eq {rules : List Text} (h : f.nat chain = some rules) :
    ∃ f', f.flushChain tableNAT chain = .ok f' ∧ f'.nat = f.nat.flush chain := by
  obtain ⟨table, -, hok⟩ := getChain_of_some h
  unfold flushChain
  rw [hok]
  exact ⟨_, rfl, nat_setChain f chain []⟩

theorem deleteChain_of_some {rules : List Text} (h : f.nat chain = some rules) :
    ∃ f', f.deleteChain tableNAT chain = .ok f' ∧ f'.nat = f.nat.delete chain := by
  obtain ⟨table, htable, hok⟩ := getChain_of_some h
  unfold deleteChain
  rw [hok]
  refine ⟨_, rfl, ?_⟩
  funext c
  simp only [nat, ChainMap.delete, AList.lookup_insert, Option.bind_some]
  by_cases hc : c = chain
  · rw [hc, Function.update_self, AList.lookup_erase]
  · rw [Function.update_of_ne hc, AList.lookup_erase_ne hc, nat, htable, Option.bind_some]

theorem deleteChain_of_none (h : f.nat chain = none) : ∃ err, f.deleteChain tableNAT chain = .error err := by
  obtain ⟨err, herr⟩ := getChain_of_none h
  unfold deleteChain
  rw [herr]
  exact ⟨err, rfl⟩

theorem ensureRule_ok {position : RulePosition} {rule r : Text} (h : normalizeRule rule = .ok r) :
    ∃ f', f.ensureRule position tableNAT chain rule = (none, f') ∧ f'.nat = f.nat.addRule position chain r := by
  have hensure := nat_ensureChain f chain
  have hrules : (f.ensureChain tableNAT chain).rules tableNAT chain = (f.nat chain).getD [] := by
    rw [rules_eq, hensure, ChainMap.ensure, Function.update_self, Option.getD_some]
  unfold ensureRule
  simp only [h, hrules]
  unfold ChainMap.addRule insertRule
  split
  · exact ⟨_, rfl, hensure⟩
  · cases position with
    | prepend =>
      refine ⟨_, rfl, ?_⟩
      rw [nat_setChain, hensure, ChainMap.ensure, Function.update_idem]
    | append =>
      refine ⟨_, rfl, ?_⟩
      rw [nat_setChain, hensure, ChainMap.ensure, Function.update_idem]

end FakeTables

/-! ### The lines of a restore -/

inductive RestoreOp where
  | declare (chain : Text) (flushes : Bool)
  | rule (position : RulePosition) (chain rule : Text)
  | delete (chain : Text)
  | skip
  deriving DecidableEq, Repr

/-- What an operation makes of a table; deleting a chain that is not there fails. -/
def RestoreOp.apply : RestoreOp → ChainMap → Option ChainMap
  | .declare chain flushes, m => some (if flushes then m.flush chain else m.ensure chain)
  | .rule position chain r, m => some (m.addRule position chain r)
  | .delete chain, m => if (m chain).isSome then some (m.delete chain) else none
  | .skip, m => some m

def applyAll : List RestoreOp → ChainMap → Option ChainMap
  | [], m => some m
  | op :: ops, m => (op.apply m).bind (applyAll ops)

theorem applyAll_append (ops rest : List RestoreOp) (m : ChainMap) :
    applyAll (ops ++ rest) m = (applyAll ops m).bind (applyAll rest) := by
  induction ops generalizing m with
  | nil => rfl
  | cons op ops ih =>
    rw [List.cons_append, applyAll, applyAll, Option.bind_assoc]
    exact congrArg _ (funext ih)

theorem applyAll_of_same {ops : List RestoreOp} {m : ChainMap} (h : ∀ op ∈ ops, op.apply m = some m) (rest : List RestoreOp) :
    applyAll (ops ++ rest) m = applyAll rest m := by
  induction ops with
  | nil => rfl
  | cons op ops ih =>
    rw [List.cons_append, applyAll, h op List.mem_cons_self, Option.bind_some]
    exact ih fun op hop => h op (List.mem_cons_of_mem _ hop)

def RulePosition.option : RulePosition → Text
  | .prepend => "-I"
  | .append => "-A"

def ruleLine (position : RulePosition) (chain rule : Text) : Text := position.option ++ ' ' :: chain ++ ' ' :: rule

/-- How the lines that the manager writes are read. -/
inductive Reads (allLines : Text) : Text → RestoreOp → Prop
  | declare {chain : Text} (hchain : ' ' ∉ chain) :
    Reads allLines (makeChainLine chain) (.declare chain
      (!FakeTables.isBuiltinChain tableNAT chain && !contains allLines ("-X " ++ chain)))
  | rule {position : RulePosition} {chain rule r : Text} (hchain : ' ' ∉ chain)
      (hrule : FakeTables.normalizeRule rule = .ok r) : Reads allLines (ruleLine position chain rule) (.rule position chain r)
  | delete {chain : Text} (hchain : ' ' ∉ chain) : Reads allLines (deleteLine chain) (.delete chain)
  | value : Reads allLines emptyStruct .skip

namespace FakeTables
variable {f f' : FakeTables} {allLines : Text}

/-- One line inside of the NAT table. -/
def restoreLine (f : FakeTables) (allLines line : Text) : Option GoError × FakeTables :=
  if hasPrefix line [':'] then f.restoreChain allLines false tableNAT line
  else if hasPrefix line "-A" then f.restoreRule .append "-A" tableNAT line
  else if hasPrefix line "-I" then f.restoreRule .prepend "-I" tableNAT line
  else if hasPrefix line "-X" then f.restoreDelete tableNAT line
  else (none, f)

theorem restoreLoop_line {line : Text} {rest : List Text} (hcomment : hasPrefix line ['#'] = false)
    (htable : hasPrefix line ['*'] = false) (hcommit : line ≠ "COMMIT") :
    restoreLoop allLines [] false (line :: rest) tableNAT f =
      match f.restoreLine allLines line with
      | (some err, f) => (some err, f)
      | (none, f) => restoreLoop allLines [] false rest tableNAT f := by
  have hnat : tableNAT ≠ [] := by decide
  rw [restoreLoop]
  simp only [hcomment, htable, hcommit, hnat, Bool.false_eq_true, if_false, ne_eq, not_true_eq_false, false_and]
  rfl

theorem restoreLine_declare (allLines : Text) {chain : Text} (hchain : ' ' ∉ chain) (f : FakeTables) :
    ∃ f', f.restoreLine allLines (makeChainLine chain) = (none, f') ∧
      f'.nat = (if (!isBuiltinChain tableNAT chain && !contains allLines ("-X " ++ chain)) = true
        then f.nat.flush chain else f.nat.ensure chain) := by
  have hname : (split ((makeChainLine chain).drop 1) ' ').headD [] = chain := by
    show ((chain ++ ' ' :: "- [0:0]").splitOn ' ').headD [] = chain
    rw [List.splitOn_append_cons_self_of_not_mem hchain]
    rfl
  have hensure := nat_ensureChain f chain
  have hsome : (f.ensureChain tableNAT chain).nat chain = some ((f.nat chain).getD []) := by
    rw [hensure, ChainMap.ensure, Function.update_self]
  show ∃ f', f.restoreChain allLines false tableNAT (makeChainLine chain) = (none, f') ∧ _
  unfold restoreChain
  simp only [hname, Bool.false_eq_true, if_false]
  split
  · obtain ⟨f', hflush, hnat⟩ := flushChain_eq hsome
    rw [hflush]
    refine ⟨f', rfl, ?_⟩
    rw [hnat, hensure, ChainMap.flush, ChainMap.ensure, Function.update_idem, ChainMap.flush]
  · exact ⟨_, rfl, hensure⟩

theorem restoreRule_eq {position : RulePosition} {chain rule r : Text} (hchain : ' ' ∉ chain)
    (hrule : normalizeRule rule = .ok r) (f : FakeTables) :
    ∃ f', f.restoreRule position position.option tableNAT (ruleLine position chain rule) = (none, f') ∧
      f'.nat = f.nat.addRule position chain r := by
  have hoption : ' ' ∉ position.option := by cases position <;> decide
  have hsplit : split (ruleLine position chain rule) ' ' = position.option :: chain :: split rule ' ' := by
    have hline : ruleLine position chain rule = position.option ++ ' ' :: (chain ++ ' ' :: rule) := by simp [ruleLine]
    rw [hline, split, List.splitOn_append_cons_self_of_not_mem hoption, List.splitOn_append_cons_self_of_not_mem hchain]
    rfl
  have htrim : trimPrefix (ruleLine position chain rule) (position.option ++ ' ' :: chain ++ [' ']) = rule := by
    have hline : ruleLine position chain rule = (position.option ++ ' ' :: chain ++ [' ']) ++ rule := by simp [ruleLine]
    rw [hline, trimPrefix_append]
  obtain ⟨part, parts, hparts⟩ := List.exists_cons_of_ne_nil (List.splitOn_ne_nil ' ' rule)
  unfold restoreRule
  rw [hsplit, split, hparts]
  simp only [htrim]
  exact ensureRule_ok hrule

theorem restoreLine_rule (allLines : Text) {position : RulePosition} {chain rule r : Text} (hchain : ' ' ∉ chain)
    (hrule : normalizeRule rule = .ok r) (f : FakeTables) :
    ∃ f', f.restoreLine allLines (ruleLine position chain rule) = (none, f') ∧
      f'.nat = f.nat.addRule position chain r := by
  cases position with
  | append => exact restoreRule_eq hchain hrule f
  | prepend => exact restoreRule_eq hchain hrule f

theorem restoreLine_delete (allLines : Text) {chain : Text} (hchain : ' ' ∉ chain) (f : FakeTables) :
    (∃ f', f.restoreLine allLines (deleteLine chain) = (none, f') ∧ (f.nat chain).isSome ∧ f'.nat = f.nat.delete chain) ∨
      ∃ err, f.restoreLine allLines (deleteLine chain) = (some err, f) ∧ f.nat chain = none := by
  have hsplit : split (deleteLine chain) ' ' = ["-X".toList, chain] := by
    have hline : deleteLine chain = "-X" ++ ' ' :: chain := by simp [deleteLine]
    rw [hline, split, List.splitOn_append_cons_self_of_not_mem (by decide), List.splitOn_eq_singleton hchain]
  have hread : f.restoreLine allLines (deleteLine chain) = f.restoreDelete tableNAT (deleteLine chain) := rfl
  rw [hread]
  unfold restoreDelete
  rw [hsplit]
  cases h : f.nat chain with
  | none =>
    obtain ⟨err, herr⟩ := deleteChain_of_none h
    simp only [herr]
    exact Or.inr ⟨err, rfl, trivial⟩
  | some rules =>
    obtain ⟨f', hok, hnat⟩ := deleteChain_of_some h
    simp only [hok]
    exact Or.inl ⟨f', rfl, rfl, hnat⟩

theorem restoreLine_reads {line : Text} {op : RestoreOp} (h : Reads allLines line op) (f : FakeTables) :
    (∃ f', f.restoreLine allLines line = (none, f') ∧ op.apply f.nat = some f'.nat) ∨
      ∃ err, f.restoreLine allLines line = (some err, f) ∧ op.apply f.nat = none := by
  cases h with
  | declare hchain =>
    obtain ⟨f', hline, hnat⟩ := restoreLine_declare allLines hchain f
    exact Or.inl ⟨f', hline, by rw [RestoreOp.apply, hnat]⟩
  | rule hchain hrule =>
    obtain ⟨f', hline, hnat⟩ := restoreLine_rule allLines hchain hrule f
    exact Or.inl ⟨f', hline, by rw [RestoreOp.apply, hnat]⟩
  | delete hchain =>
    rcases restoreLine_delete allLines hchain f with ⟨f', hline, hsome, hnat⟩ | ⟨err, hline, hnone⟩
    · exact Or.inl ⟨f', hline, by rw [RestoreOp.apply, if_pos hsome, hnat]⟩
    · exact Or.inr ⟨err, hline, by simp [RestoreOp.apply, hnone]⟩
  | value => exact Or.inl ⟨f, rfl, rfl⟩

theorem Reads.plain {line : Text} {op : RestoreOp} (h : Reads allLines line op) :
    hasPrefix line ['#'] = false ∧ hasPrefix line ['*'] = false ∧ line ≠ "COMMIT" := by
  cases h with
  | declare => exact ⟨rfl, rfl, by simp [makeChainLine]⟩
  | @rule position =>
    cases position <;> exact ⟨rfl, rfl, by simp [ruleLine, RulePosition.option]⟩
  | delete => exact ⟨rfl, rfl, by simp [deleteLine]⟩
  | value => exact ⟨rfl, rfl, by decide⟩

theorem restoreLoop_reads {ls : List Text} {ops : List RestoreOp} (h : List.Forall₂ (Reads allLines) ls ops)
    {e : Option GoError} (hf : restoreLoop allLines [] false (ls ++ ["COMMIT".toList]) tableNAT f = (e, f')) :
    e = none ∧ applyAll ops f.nat = some f'.nat ∨
      e ≠ none ∧ applyAll ops f.nat = none ∧ ∃ done rest, ops = done ++ rest ∧ applyAll done f.nat = some f'.nat := by
  induction h generalizing f with
  | nil =>
    have hcommit : restoreLoop allLines [] false ["COMMIT".toList] tableNAT f = (none, f) := rfl
    rw [List.nil_append, hcommit] at hf
    cases hf
    exact Or.inl ⟨rfl, rfl⟩
  | @cons line op ls ops hline _ ih =>
    obtain ⟨hcomment, htable, hcommit⟩ := Reads.plain hline
    rw [List.cons_append, restoreLoop_line hcomment htable hcommit] at hf
    rcases restoreLine_reads hline f with ⟨f₁, hok, happly⟩ | ⟨err, herr, happly⟩
    · rw [hok] at hf
      simp only [applyAll, happly, Option.bind_some]
      rcases ih hf with ⟨he, hall⟩ | ⟨he, hnone, done, rest, hops, hdone⟩
      · exact Or.inl ⟨he, hall⟩
      · refine Or.inr ⟨he, hnone, op :: done, rest, by rw [hops, List.cons_append], ?_⟩
        rw [applyAll, happly, Option.bind_some, hdone]
    · rw [herr] at hf
      cases hf
      exact Or.inr ⟨by simp, by simp [applyAll, happly], [], op :: ops, rfl, rfl⟩

theorem restore_reads {data : Text} {ls : List Text} {ops : List RestoreOp}
    (hdata : lines data = "*nat".toList :: ls ++ ["COMMIT".toList]) (h : List.Forall₂ (Reads data) ls ops)
    {e : Option GoError} (hf : f.restore [] data false = (e, f')) :
    e = none ∧ applyAll ops f.nat = some f'.nat ∨
      e ≠ none ∧ applyAll ops f.nat = none ∧ ∃ done rest, ops = done ++ rest ∧ applyAll done f.nat = some f'.nat := by
  refine restoreLoop_reads h ?_
  rw [restore, hdata, List.cons_append] at hf
  exact hf

end FakeTables

/-! ### What a table keeps -/

/-- A table that iptables-save prints and iptables-restore reads back: chain names are words, a rule is
    one line, and the rules of hostport chains are in their normal form. -/
structure Regular (m : ChainMap) : Prop where
  names : ∀ chain rules, m chain = some rules → IsWord chain
  oneLine : ∀ chain rules, m chain = some rules → ∀ r ∈ rules, '\n' ∉ r
  normal : ∀ chain rules, m chain = some rules → isHostportChain chain = true →
    ∀ r ∈ rules, FakeTables.normalizeRule r = .ok r

def RestoreOp.Regular : RestoreOp → Prop
  | .declare chain _ => IsWord chain
  | .rule _ chain r => IsWord chain ∧ '\n' ∉ r ∧ (isHostportChain chain = true → FakeTables.normalizeRule r = .ok r)
  | .delete _ => True
  | .skip => True

namespace Regular
variable {m m' : ChainMap} {chain : Text}

theorem empty : Regular fun _ => none := ⟨by simp, by simp, by simp⟩

theorem update (h : Regular m) {rules : List Text} (hname : IsWord chain) (hline : ∀ r ∈ rules, '\n' ∉ r)
    (hnormal : isHostportChain chain = true → ∀ r ∈ rules, FakeTables.normalizeRule r = .ok r) :
    Regular (Function.update m chain (some rules)) := by
  refine ⟨fun c rs hc => ?_, fun c rs hc => ?_, fun c rs hc => ?_⟩ <;>
    by_cases heq : c = chain
  · exact heq ▸ hname
  · rw [Function.update_of_ne heq] at hc
    exact h.names c rs hc
  · subst heq
    rw [Function.update_self] at hc
    cases hc
    exact hline
  · rw [Function.update_of_ne heq] at hc
    exact h.oneLine c rs hc
  · subst heq
    rw [Function.update_self] at hc
    cases hc
    exact hnormal
  · rw [Function.update_of_ne heq] at hc
    exact h.normal c rs hc

theorem flush (h : Regular m) (hname : IsWord chain) : Regular (m.flush chain) :=
  h.update hname (by simp) (by simp)

theorem ensure (h : Regular m) (hname : IsWord chain) : Regular (m.ensure chain) := by
  cases hm : m chain with
  | none => exact h.update hname (by simp [hm]) (by simp [hm])
  | some rules =>
    refine h.update hname ?_ ?_
    · simpa [hm] using h.oneLine chain rules hm
    · simpa [hm] using h.normal chain rules hm

theorem addRule (h : Regular m) {position : RulePosition} {r : Text} (hname : IsWord chain) (hline : '\n' ∉ r)
    (hnormal : isHostportChain chain = true → FakeTables.normalizeRule r = .ok r) :
    Regular (m.addRule position chain r) := by
  have hold := h.ensure hname
  refine h.update hname (fun x hx => ?_) (fun hc x hx => ?_)
  · rcases mem_insertRule.mp hx with rfl | hx
    · exact hline
    · exact hold.oneLine chain _ (Function.update_self ..) x hx
  · rcases mem_insertRule.mp hx with rfl | hx
    · exact hnormal hc
    · exact hold.normal chain _ (Function.update_self ..) hc x hx

theorem delete (h : Regular m) (chain : Text) : Regular (m.delete chain) := by
  have hkept : ∀ c rs, m.delete chain c = some rs → m c = some rs := by
    intro c rs hc
    by_cases heq : c = chain
    · subst heq
      rw [ChainMap.delete, Function.update_self] at hc
      cases hc
    · rwa [ChainMap.delete, Function.update_of_ne heq] at hc
  exact ⟨fun c rs hc => h.names c rs (hkept c rs hc), fun c rs hc => h.oneLine c rs (hkept c rs hc),
    fun c rs hc => h.normal c rs (hkept c rs hc)⟩

theorem apply (h : Regular m) {op : RestoreOp} (hop : op.Regular) (hm : op.apply m = some m') : Regular m' := by
  cases op with
  | declare chain flushes =>
    cases hm
    split
    · exact h.flush hop
    · exact h.ensure hop
  | rule position chain r =>
    cases hm
    exact h.addRule hop.1 hop.2.1 hop.2.2
  | delete chain =>
    rw [RestoreOp.apply] at hm
    split at hm
    · cases hm
      exact h.delete chain
    · cases hm
  | skip =>
    cases hm
    exact h

theorem applyAll (h : Regular m) {ops : List RestoreOp} (hops : ∀ op ∈ ops, op.Regular)
    (hm : applyAll ops m = some m') : Regular m' := by
  induction ops generalizing m with
  | nil =>
    cases hm
    exact h
  | cons op ops ih =>
    obtain ⟨m₁, hm₁, hrest⟩ := Option.bind_eq_some_iff.mp hm
    exact ih (h.apply (hops op List.mem_cons_self) hm₁) (fun op hop => hops op (List.mem_cons_of_mem _ hop)) hrest

end Regular

/-! ### The chains of a printed table -/

theorem afterDeclaration_of_ne {c : Char} {rest : Text} (h : c ≠ '\n') :
    afterDeclaration (c :: rest) = afterDeclaration rest := by
  rw [afterDeclaration]
  rintro _ heq
  exact absurd heq h

theorem afterDeclaration_append {x : Text} (hx : '\n' ∉ x) (rest : Text) :
    afterDeclaration (x ++ rest) = afterDeclaration rest := by
  induction x with
  | nil => rfl
  | cons c x ih =>
    rw [List.mem_cons, not_or] at hx
    rw [List.cons_append, afterDeclaration_of_ne (Ne.symm hx.1), ih hx.2]

theorem afterDeclaration_newline {rest : Text} (h : ∀ d, rest ≠ ':' :: d) :
    afterDeclaration ('\n' :: rest) = afterDeclaration rest := by
  rw [afterDeclaration]
  intro d _ heq
  exact h d heq

/-- The names in the declarations among some lines. -/
def declaredIn (ls : List Text) : List Text :=
  ls.filterMap fun line =>
    match line with
    | ':' :: d => some (d.takeWhile (· ≠ ' '))
    | _ => none

theorem declaredIn_cons_of_ne {line : Text} {ls : List Text} (h : ∀ d, line ≠ ':' :: d) :
    declaredIn (line :: ls) = declaredIn ls := by
  unfold declaredIn
  rw [List.filterMap_cons_none]
  split
  · exact absurd rfl (h _)
  · rfl

theorem getChainsLoop_unlines {ls : List Text} (hls : ∀ l ∈ ls, '\n' ∉ l ∧ ∀ d, l = ':' :: d → ' ' ∈ d) {x : Text}
    (hx : '\n' ∉ x) {fuel : Nat} (hfuel : (declaredIn ls).length < fuel) :
    getChainsLoop fuel (x ++ '\n' :: unlines ls) = declaredIn ls := by
  induction ls generalizing x fuel with
  | nil =>
    obtain ⟨fuel, rfl⟩ : ∃ n, fuel = n + 1 := ⟨fuel - 1, by omega⟩
    rw [getChainsLoop, afterDeclaration_append hx]
    rfl
  | cons l ls ih =>
    obtain ⟨fuel, rfl⟩ : ∃ n, fuel = n + 1 := ⟨fuel - 1, by omega⟩
    obtain ⟨hl, hspace⟩ := hls l List.mem_cons_self
    have hrest := fun m hm => hls m (List.mem_cons_of_mem l hm)
    by_cases hd : ∃ d, l = ':' :: d
    · obtain ⟨d, rfl⟩ := hd
      obtain ⟨c, e, hc, rfl⟩ : ∃ c e, ' ' ∉ c ∧ d = c ++ ' ' :: e := by
        obtain ⟨c, e, heq, hc⟩ := List.eq_append_cons_of_mem (hspace d rfl)
        exact ⟨c, e, hc, heq⟩
      have hnames : declaredIn ((':' :: (c ++ ' ' :: e)) :: ls) = c :: declaredIn ls := by
        show (c ++ ' ' :: e).takeWhile (· ≠ ' ') :: declaredIn ls = _
        rw [takeWhile_ne hc]
      have hafter : afterDeclaration (x ++ '\n' :: unlines ((':' :: (c ++ ' ' :: e)) :: ls)) =
          some (c ++ ' ' :: (e ++ '\n' :: unlines ls)) := by
        rw [afterDeclaration_append hx, unlines_cons]
        simp [afterDeclaration]
      rw [hnames] at hfuel ⊢
      rw [getChainsLoop, hafter]
      simp only [takeWhile_ne hc, dropWhile_ne hc]
      have he : '\n' ∉ ' ' :: e := fun h => hl (by simp at h; simp [h])
      rw [← List.cons_append, ih hrest he (by simpa using hfuel)]
    · have hno : ∀ d, l ≠ ':' :: d := fun d h => hd ⟨d, h⟩
      rw [declaredIn_cons_of_ne hno] at hfuel ⊢
      have hafter : afterDeclaration (x ++ '\n' :: unlines (l :: ls)) = afterDeclaration (l ++ '\n' :: unlines ls) := by
        rw [afterDeclaration_append hx, unlines_cons, afterDeclaration_newline]
        intro d heq
        cases l with
        | nil => simp at heq
        | cons c l =>
          rw [List.cons_append, List.cons.injEq] at heq
          exact hno l (by rw [heq.1])
      rw [← ih hrest hl hfuel, getChainsLoop, hafter, getChainsLoop]

/-! ### Printed tables -/

/-- The lines that `SaveInto` prints for the chains of a table. -/
def saveLines (chains : List (Text × List Text)) : List Text :=
  "*nat".toList :: chains.map (fun chain => makeChainLine chain.1) ++
    chains.flatMap (fun chain => FakeTables.saveChain chain.1 chain.2) ++ ["COMMIT".toList]

/-- The chains of a list are those of a table. -/
def Lists (chains : List (Text × List Text)) (m : ChainMap) : Prop :=
  ∀ chain rules, (chain, rules) ∈ chains ↔ m chain = some rules

theorem FakeTable.mem_walk {table : FakeTable} {chain : Text} {rules : List Text} :
    (chain, rules) ∈ table.walk ↔ table.lookup chain = some rules := by
  rw [← Option.mem_def, AList.mem_lookup_iff]
  simp only [FakeTable.walk, List.mem_map, Prod.mk.injEq]
  constructor
  · rintro ⟨x, hx, rfl, rfl⟩
    exact hx
  · exact fun h => ⟨_, h, rfl, rfl⟩

theorem FakeTables.saveInto_ok {f : FakeTables} {order : FakeTable → List (Text × List Text)} {data : Text}
    (horder : ∀ table, (order table).Perm table.walk) (h : f.saveInto order tableNAT = .ok data) :
    ∃ chains, Lists chains f.nat ∧ data = unlines (saveLines chains) := by
  unfold FakeTables.saveInto FakeTables.getTable at h
  cases htable : f.lookup tableNAT with
  | none =>
    rw [htable] at h
    cases h
  | some table =>
    rw [htable] at h
    cases h
    refine ⟨order table, fun chain rules => ?_, rfl⟩
    rw [(horder table).mem_iff, FakeTable.mem_walk, FakeTables.nat, htable, Option.bind_some]

section
variable {m : ChainMap} {chains : List (Text × List Text)}

theorem mem_ruleLines {line : Text} :
    line ∈ chains.flatMap (fun chain => FakeTables.saveChain chain.1 chain.2) ↔
      ∃ chain rules r, (chain, rules) ∈ chains ∧ r ∈ rules ∧ line = ruleLine .append chain r := by
  simp only [List.mem_flatMap, FakeTables.saveChain, List.mem_map]
  constructor
  · rintro ⟨⟨chain, rules⟩, hchain, r, hr, rfl⟩
    exact ⟨chain, rules, r, hchain, hr, rfl⟩
  · rintro ⟨chain, rules, r, hchain, hr, rfl⟩
    exact ⟨(chain, rules), hchain, r, hr, rfl⟩

theorem not_newline_saveLines (hm : Regular m) (hl : Lists chains m) : ∀ line ∈ saveLines chains, '\n' ∉ line := by
  simp only [saveLines, List.cons_append, List.forall_mem_cons, List.forall_mem_append]
  refine ⟨by decide, ⟨?_, ?_⟩, by decide, by simp⟩
  · intro line hline
    obtain ⟨chain, hchain, rfl⟩ := List.mem_map.mp hline
    exact not_newline_makeChainLine ((hm.names _ _ ((hl _ _).mp hchain)).not_mem_of_isSpace (by decide))
  · intro line hline
    obtain ⟨chain, rules, r, hchain, hr, rfl⟩ := mem_ruleLines.mp hline
    have hname : '\n' ∉ chain := (hm.names _ _ ((hl _ _).mp hchain)).not_mem_of_isSpace (by decide)
    have hrule : '\n' ∉ r := hm.oneLine _ _ ((hl _ _).mp hchain) r hr
    simp [ruleLine, RulePosition.option, hname, hrule]

theorem isHostportRule_ruleLine (chain r : Text) :
    isHostportRule (ruleLine .append chain r) = isHostportChain chain := by
  have hp : ∀ p : Text, ' ' ∉ p → hasPrefix (ruleLine .append chain r) ("-A ".toList ++ p) = hasPrefix chain p := by
    intro p hp
    show hasPrefix (chain ++ ' ' :: r) p = hasPrefix chain p
    exact hasPrefix_append_space hp
  rw [isHostportRule, isHostportChain, hp _ (by decide), hp _ (by decide), Bool.or_comm]

theorem mem_existingRules (hm : Regular m) (hl : Lists chains m) {line : Text} :
    line ∈ existingRules (unlines (saveLines chains)) ↔
      ∃ chain rules r, m chain = some rules ∧ r ∈ rules ∧ isHostportChain chain = true ∧ line = ruleLine .append chain r := by
  rw [existingRules, List.mem_filter, split_unlines (not_newline_saveLines hm hl)]
  constructor
  · rintro ⟨hmem, hrule⟩
    have hopt : ∀ c t, line = c :: t → c = '-' := by
      intro c t heq
      have : hasPrefix line ['-'] = true := by
        rw [isHostportRule, Bool.or_eq_true] at hrule
        rcases hrule with h | h <;>
          exact hasPrefix_iff.mpr (List.IsPrefix.trans ⟨_, rfl⟩ (hasPrefix_iff.mp h))
      obtain ⟨u, hu⟩ := hasPrefix_iff.mp this
      rw [heq] at hu
      exact (List.cons.inj hu).1.symm
    simp only [saveLines, List.cons_append, List.mem_cons, List.mem_append, List.not_mem_nil, or_false] at hmem
    rcases hmem with rfl | ((hdecl | hline) | rfl) | rfl
    · exact absurd (hopt _ _ rfl) (by decide)
    · obtain ⟨chain, -, rfl⟩ := List.mem_map.mp hdecl
      exact absurd (hopt _ _ rfl) (by decide)
    · obtain ⟨chain, rules, r, hchain, hr, rfl⟩ := mem_ruleLines.mp hline
      rw [isHostportRule_ruleLine] at hrule
      exact ⟨chain, rules, r, (hl _ _).mp hchain, hr, hrule, rfl⟩
    · exact absurd (hopt _ _ rfl) (by decide)
    · exact absurd hrule (by decide)
  · rintro ⟨chain, rules, r, hchain, hr, hhost, rfl⟩
    refine ⟨?_, by rw [isHostportRule_ruleLine, hhost]⟩
    have hline := mem_ruleLines.mpr ⟨chain, rules, r, (hl _ _).mpr hchain, hr, rfl⟩
    simp only [saveLines, List.cons_append, List.mem_cons, List.mem_append]
    exact Or.inr (Or.inl (Or.inl (Or.inr hline)))

theorem declaredIn_saveLines (hm : Regular m) (hl : Lists chains m) :
    declaredIn (saveLines chains).tail = chains.map (·.1) := by
  have hrules : declaredIn (chains.flatMap (fun chain => FakeTables.saveChain chain.1 chain.2) ++ ["COMMIT".toList]) = [] := by
    rw [declaredIn, List.filterMap_eq_nil_iff]
    intro line hline
    rcases List.mem_append.mp hline with hline | hline
    · obtain ⟨chain, rules, r, -, -, rfl⟩ := mem_ruleLines.mp hline
      rfl
    · rw [List.mem_singleton.mp hline]
      rfl
  have hdecls : ∀ cs : List (Text × List Text), (∀ c ∈ cs, ' ' ∉ c.1) →
      declaredIn (cs.map fun chain => makeChainLine chain.1) = cs.map (·.1) := by
    intro cs hcs
    induction cs with
    | nil => rfl
    | cons c cs ih =>
      rw [List.map_cons, List.map_cons, ← ih fun d hd => hcs d (List.mem_cons_of_mem _ hd)]
      exact congrArg (· :: _) (declared_makeChainLine (hcs c List.mem_cons_self))
  have htail : (saveLines chains).tail = chains.map (fun chain => makeChainLine chain.1) ++
      (chains.flatMap (fun chain => FakeTables.saveChain chain.1 chain.2) ++ ["COMMIT".toList]) := by
    simp [saveLines]
  rw [htail, declaredIn, List.filterMap_append, ← declaredIn, ← declaredIn, hrules, List.append_nil]
  exact hdecls chains fun c hc => (hm.names c.1 c.2 ((hl _ _).mp hc)).not_space

theorem mem_getChainsFromTable (hm : Regular m) (hl : Lists chains m) {chain : Text} :
    chain ∈ getChainsFromTable (unlines (saveLines chains)) ↔ ∃ rules, m chain = some rules := by
  have hline := not_newline_saveLines hm hl
  have htext : unlines (saveLines chains) = "*nat".toList ++ '\n' :: unlines (saveLines chains).tail := by
    simp [saveLines]
  have hspace : ∀ l ∈ (saveLines chains).tail, '\n' ∉ l ∧ ∀ d, l = ':' :: d → ' ' ∈ d := by
    intro l hmem
    refine ⟨hline l (List.mem_of_mem_tail hmem), fun d hd => ?_⟩
    simp only [saveLines, List.cons_append, List.tail_cons, List.mem_append, List.mem_singleton] at hmem
    rcases hmem with (hdecl | hrule) | rfl
    · obtain ⟨c, -, rfl⟩ := List.mem_map.mp hdecl
      obtain rfl : c.1 ++ " - [0:0]".toList = d := (List.cons.inj hd).2
      simp
    · obtain ⟨c, rules, r, -, -, rfl⟩ := mem_ruleLines.mp hrule
      cases (List.cons.inj hd).1
    · cases (List.cons.inj hd).1
  have hfuel : (declaredIn (saveLines chains).tail).length < (unlines (saveLines chains)).length := by
    rw [declaredIn_saveLines hm hl, List.length_map, htext]
    have hle : (saveLines chains).tail.length ≤ (unlines (saveLines chains).tail).length := by
      generalize (saveLines chains).tail = ls
      induction ls with
      | nil => simp
      | cons l ls ih =>
        simp only [unlines_cons, List.length_append, List.length_cons]
        omega
    have hlen : chains.length ≤ (saveLines chains).tail.length := by
      simp [saveLines]
    simp only [List.length_append, List.length_cons]
    omega
  rw [getChainsFromTable, List.mem_dedup]
  have hloop : getChainsLoop (unlines (saveLines chains)).length (unlines (saveLines chains)) = chains.map (·.1) := by
    rw [← declaredIn_saveLines hm hl, ← getChainsLoop_unlines hspace (x := "*nat".toList) (by decide) hfuel, ← htext]
  rw [hloop]
  constructor
  · intro h
    obtain ⟨c, hc, rfl⟩ := List.mem_map.mp h
    exact ⟨c.2, (hl _ _).mp hc⟩
  · rintro ⟨rules, h⟩
    exact List.mem_map.mpr ⟨(chain, rules), (hl _ _).mpr h, rfl⟩

theorem mem_existingChains (hm : Regular m) (hl : Lists chains m) {chain : Text} :
    chain ∈ (existingChains (unlines (saveLines chains))).map (·.1) ↔
      isHostportChain chain = true ∧ ∃ rules, m chain = some rules := by
  rw [← mem_getChainsFromTable hm hl]
  simp [existingChains, and_comm]

end

end CriDockerd.Hostport
