import CriDockerd.Kubenet.PodCIDR

/-! Whether the networks of the kubenet plugin are those of one event. The networks of an event are appended to the
    list of the plugin as they are parsed, and stay there when a later one is not parsed or when the config is not
    accepted. They then go into the config of the event that is accepted. -/

namespace CriDockerd.Kubenet
open Text NetIP

/-! ### The networks of an event -/

section
variable (settings : Settings)

def networks (podCIDR : Text) : Option (List IPNet) :=
  (splitCIDRs settings podCIDR).mapM fun currentPodCIDR => (parseCIDR currentPodCIDR).map (·.2)

/-- An event gives the plugin its config. -/
def AcceptedAfter (before : List Event) (event : Event) : Prop :=
  (deliverAll settings before).netConfig = none ∧ (deliverAll settings (before ++ [event])).netConfig.isSome = true

/-- There is no config and no network, or both are those of the event that was accepted. -/
def OfOneEvent (events : List Event) : Prop :=
  ((deliverAll settings events).netConfig = none ∧ (deliverAll settings events).podCIDRs = []) ∨
  ∃ before event later podCIDR nets, events = before ++ event :: later ∧ AcceptedAfter settings before event ∧
    event.podCIDR = some podCIDR ∧ networks settings podCIDR = some nets ∧
    deliverAll settings events = { netConfig := some (netConfigTemplate settings nets), podCIDRs := nets }

/-- The event is no change of the CIDR, or its first CIDR is not parsed. -/
def NothingParsed (event : Event) : Prop :=
  event.name = podCIDRChange → ∀ podCIDR, event.podCIDR = some podCIDR →
    ∀ first rest, splitCIDRs settings podCIDR = first :: rest → parseCIDR first = none

/-- All CIDRs of the event are parsed, and a config of its networks is accepted. -/
def Accepted (event : Event) : Prop :=
  event.name = podCIDRChange ∧ ∃ podCIDR nets, event.podCIDR = some podCIDR ∧ networks settings podCIDR = some nets ∧
    event.confFromBytes (netConfigTemplate settings nets) = none

/-- Nothing is parsed of the events before the one that is accepted. -/
def CleanEvents : List Event → Prop
  | [] => True
  | event :: later => Accepted settings event ∨ NothingParsed settings event ∧ CleanEvents later

end

/-! ### One event -/

section
variable {settings : Settings} {event : Event} {events : List Event} {s : Config} {cidrs : List Text} {nets l : List IPNet}

theorem splitCIDRs_ne_nil (settings : Settings) (podCIDR : Text) : splitCIDRs settings podCIDR ≠ [] := by
  have hsplit : split podCIDR ',' ≠ [] := List.splitOn_ne_nil _ _
  unfold splitCIDRs
  dsimp only
  split
  · intro htake
    obtain ⟨first, rest, hcons⟩ := List.exists_cons_of_ne_nil hsplit
    rw [hcons] at htake
    cases htake
  · exact hsplit

theorem appendCIDRs_parsed (h : appendCIDRs cidrs nets = (true, l)) :
    ∃ new, (cidrs.mapM fun c => (parseCIDR c).map (·.2)) = some new ∧ l = nets ++ new := by
  induction cidrs generalizing nets with
  | nil =>
    cases h
    exact ⟨[], rfl, (List.append_nil _).symm⟩
  | cons c rest ih =>
    rw [appendCIDRs] at h
    split at h
    · cases h
    · rename_i ip cidr hparse
      obtain ⟨new, hrest, rfl⟩ := ih h
      refine ⟨cidr :: new, ?_, List.append_assoc _ _ _⟩
      simp [List.mapM_cons, hparse, hrest]

theorem appendCIDRs_of_parsed {new : List IPNet} (h : (cidrs.mapM fun c => (parseCIDR c).map (·.2)) = some new)
    (nets : List IPNet) : appendCIDRs cidrs nets = (true, nets ++ new) := by
  induction cidrs generalizing nets new with
  | nil =>
    cases h
    exact congrArg (true, ·) (List.append_nil nets).symm
  | cons c rest ih =>
    rw [List.mapM_cons] at h
    cases hparse : parseCIDR c with
    | none => simp [hparse] at h
    | some parsed =>
      cases hrest : rest.mapM fun c => (parseCIDR c).map (·.2) with
      | none => simp [hparse, hrest] at h
      | some tail =>
        have hnew : new = parsed.2 :: tail := by simpa [hparse, hrest] using h.symm
        rw [hnew, appendCIDRs, hparse]
        dsimp only
        rw [ih hrest, List.append_assoc, List.singleton_append]

theorem appendCIDRs_grows (cidrs : List Text) (nets : List IPNet) : nets <+: (appendCIDRs cidrs nets).2 := by
  induction cidrs generalizing nets with
  | nil => exact List.prefix_rfl
  | cons c rest ih =>
    rw [appendCIDRs]
    split
    · exact List.prefix_rfl
    · exact (List.prefix_append _ _).trans (ih _)

/-- A list that is not parsed to its end leaves at least what it was, with the first network if that is parsed. -/
theorem appendCIDRs_failed {first : Text} {rest : List Text} (h : appendCIDRs (first :: rest) nets = (false, [])) :
    parseCIDR first = none := by
  rw [appendCIDRs] at h
  split at h
  · assumption
  · rename_i ip cidr hparse
    have hprefix := appendCIDRs_grows rest (nets ++ [cidr])
    rw [h] at hprefix
    simp at hprefix

theorem deliver_of_netConfig (h : s.netConfig.isSome = true) : event.deliver settings s = s := by
  simp only [Event.deliver, h, if_true]
  split
  · rfl
  · split <;> rfl

theorem foldl_of_netConfig (h : s.netConfig.isSome = true) (events : List Event) :
    events.foldl (fun s event => event.deliver settings s) s = s := by
  induction events with
  | nil => rfl
  | cons event later ih => rw [List.foldl_cons, deliver_of_netConfig h, ih]

section
variable {podCIDR : Text} {ok : Bool} (hname : event.name = podCIDRChange) (hpodCIDR : event.podCIDR = some podCIDR)
  (happend : appendCIDRs (splitCIDRs settings podCIDR) [] = (ok, l))
include hname hpodCIDR happend

theorem deliver_failed (hok : ok = false) : event.deliver settings newConfig = { netConfig := none, podCIDRs := l } := by
  unfold Event.deliver
  simp only [hname, hpodCIDR, happend, hok, newConfig, ne_eq, not_true_eq_false, if_false, Option.isSome_none, Bool.false_eq_true]

theorem deliver_refused (hok : ok = true) {err : GoError} (hconf : event.confFromBytes (netConfigTemplate settings l) = some err) :
    event.deliver settings newConfig = { netConfig := none, podCIDRs := l } := by
  unfold Event.deliver
  simp only [hname, hpodCIDR, happend, hok, hconf, newConfig, ne_eq, not_true_eq_false, if_false, Option.isSome_none,
    Bool.false_eq_true]

theorem deliver_accepted (hok : ok = true) (hconf : event.confFromBytes (netConfigTemplate settings l) = none) :
    event.deliver settings newConfig = { netConfig := some (netConfigTemplate settings l), podCIDRs := l } := by
  unfold Event.deliver
  simp only [hname, hpodCIDR, happend, hok, hconf, newConfig, ne_eq, not_true_eq_false, if_false, Option.isSome_none,
    Bool.false_eq_true]

end

theorem NothingParsed.deliver (h : NothingParsed settings event) : event.deliver settings newConfig = newConfig := by
  by_cases hname : event.name = podCIDRChange
  · cases hpodCIDR : event.podCIDR with
    | none => simp only [Event.deliver, hname, hpodCIDR, ne_eq, not_true_eq_false, if_false]
    | some podCIDR =>
      obtain ⟨first, rest, hsplit⟩ := List.exists_cons_of_ne_nil (splitCIDRs_ne_nil settings podCIDR)
      refine deliver_failed hname hpodCIDR ?_ rfl
      rw [hsplit, appendCIDRs, h hname podCIDR hpodCIDR first rest hsplit]
  · exact if_pos hname

/-- What the first event that is not ignored does: it is accepted, or nothing of it is parsed, or it leaves networks
    without a config. -/
theorem deliver_cases (settings : Settings) (event : Event) :
    Accepted settings event ∨ NothingParsed settings event ∨
      (event.deliver settings newConfig).netConfig = none ∧ (event.deliver settings newConfig).podCIDRs ≠ [] := by
  by_cases hname : event.name = podCIDRChange
  · cases hpodCIDR : event.podCIDR with
    | none =>
      refine Or.inr (Or.inl fun _ podCIDR hsome => ?_)
      rw [hpodCIDR] at hsome
      cases hsome
    | some podCIDR =>
      obtain ⟨first, rest, hsplit⟩ := List.exists_cons_of_ne_nil (splitCIDRs_ne_nil settings podCIDR)
      cases happend : appendCIDRs (splitCIDRs settings podCIDR) [] with
      | mk ok l =>
        cases ok with
        | false =>
          by_cases hl : l = []
          · subst hl
            refine Or.inr (Or.inl fun _ podCIDR' hpodCIDR' first' rest' hsplit' => ?_)
            cases hpodCIDR.symm.trans hpodCIDR'
            rw [hsplit'] at happend
            exact appendCIDRs_failed happend
          · rw [deliver_failed hname hpodCIDR happend rfl]
            exact Or.inr (Or.inr ⟨rfl, hl⟩)
        | true =>
          obtain ⟨new, hnew, hl⟩ := appendCIDRs_parsed happend
          obtain rfl : l = new := hl
          cases hconf : event.confFromBytes (netConfigTemplate settings l) with
          | none => exact Or.inl ⟨hname, podCIDR, l, hpodCIDR, hnew, hconf⟩
          | some err =>
            rw [deliver_refused hname hpodCIDR happend rfl hconf]
            refine Or.inr (Or.inr ⟨rfl, ?_⟩)
            rintro rfl
            rw [hsplit, List.mapM_cons] at hnew
            cases hparse : parseCIDR first <;> simp [hparse, Option.bind_eq_some_iff] at hnew
  · exact Or.inr (Or.inl fun hchange => absurd hchange hname)

end

/-! ### Sequences -/

section
variable {settings : Settings} {event : Event} {events : List Event}

theorem deliverAll_cons : deliverAll settings (event :: events) =
    events.foldl (fun s event => event.deliver settings s) (event.deliver settings newConfig) := rfl

theorem deliverAll_nothingParsed (h : NothingParsed settings event) :
    deliverAll settings (event :: events) = deliverAll settings events := by
  rw [deliverAll_cons, h.deliver]
  rfl

theorem Accepted.ofOneEvent (h : Accepted settings event) : OfOneEvent settings (event :: events) := by
  obtain ⟨hname, podCIDR, nets, hpodCIDR, hnets, hconf⟩ := h
  have hdeliver := deliver_accepted hname hpodCIDR (appendCIDRs_of_parsed hnets []) rfl hconf
  refine Or.inr ⟨[], event, events, podCIDR, nets, rfl, ⟨rfl, ?_⟩, hpodCIDR, hnets, ?_⟩
  · rw [List.nil_append, deliverAll_cons, hdeliver]
    rfl
  · rw [deliverAll_cons, hdeliver]
    exact foldl_of_netConfig rfl events

theorem NothingParsed.ofOneEvent_iff (h : NothingParsed settings event) :
    OfOneEvent settings (event :: events) ↔ OfOneEvent settings events := by
  unfold OfOneEvent
  rw [deliverAll_nothingParsed h]
  refine or_congr_right ⟨?_, ?_⟩
  · rintro ⟨before, accepted, later, podCIDR, nets, hevents, haccepted, hrest⟩
    cases before with
    | nil =>
      have hset := haccepted.2
      cases hevents
      rw [List.nil_append, deliverAll_nothingParsed h] at hset
      cases hset
    | cons first before =>
      cases hevents
      refine ⟨before, accepted, later, podCIDR, nets, rfl, ?_, hrest⟩
      rw [AcceptedAfter, List.cons_append, deliverAll_nothingParsed h, deliverAll_nothingParsed h] at haccepted
      exact haccepted
  · rintro ⟨before, accepted, later, podCIDR, nets, hevents, haccepted, hrest⟩
    refine ⟨event :: before, accepted, later, podCIDR, nets, congrArg (event :: ·) hevents, ?_, hrest⟩
    rw [AcceptedAfter, List.cons_append, deliverAll_nothingParsed h, deliverAll_nothingParsed h]
    exact haccepted

/-- After each event of a sequence the networks and the config are those of one event exactly if nothing is parsed of
    the events before the one that is accepted. -/
theorem deliverAll_ofOneEvent_iff (settings : Settings) (events : List Event) :
    (∀ delivered, delivered <+: events → OfOneEvent settings delivered) ↔ CleanEvents settings events := by
  induction events with
  | nil =>
    refine ⟨fun _ => trivial, fun _ delivered hdelivered => ?_⟩
    rw [List.prefix_nil.mp hdelivered]
    exact Or.inl ⟨rfl, rfl⟩
  | cons event later ih =>
    constructor
    · intro h
      rcases deliver_cases settings event with haccepted | hnothing | ⟨hnone, hleft⟩
      · exact Or.inl haccepted
      · refine Or.inr ⟨hnothing, ih.mp fun delivered hdelivered => ?_⟩
        exact hnothing.ofOneEvent_iff.mp (h _ (List.cons_prefix_cons.mpr ⟨rfl, hdelivered⟩))
      · rcases h [event] (List.cons_prefix_cons.mpr ⟨rfl, List.nil_prefix⟩) with ⟨-, hempty⟩ |
          ⟨before, accepted, rest, podCIDR, nets, -, -, -, -, hset⟩
        · exact absurd hempty hleft
        · have hconfig := congrArg Config.netConfig hset
          rw [show deliverAll settings [event] = event.deliver settings newConfig from rfl, hnone] at hconfig
          cases hconfig
    · intro hclean delivered hdelivered
      rcases List.prefix_cons_iff.mp hdelivered with rfl | ⟨delivered, rfl, hlater⟩
      · exact Or.inl ⟨rfl, rfl⟩
      · rcases hclean with haccepted | ⟨hnothing, hclean⟩
        · exact haccepted.ofOneEvent
        · exact hnothing.ofOneEvent_iff.mpr (ih.mpr hclean delivered hlater)

end

def cidrChange (podCIDR : Text) : Event where
  name := podCIDRChange
  details := [(podCIDRChangeDetail, .string podCIDR)]
  confFromBytes _ := none

def dualStack : Settings := { mtu := 1460, hairpinMode := .hairpinVeth, ipv6DualStackEnabled := true }

def net24 (a b c : UInt8) : IPNet := { ip := [a, b, c, 0], mask := [255, 255, 255, 0] }

/-- A CIDR that is not parsed comes after one that is: the network of the first one stays, without a config, and gets
    into the config of the next event. -/
theorem rejected_event_leaves_network :
    deliverAll dualStack [cidrChange "10.0.0.0/24,bogus"] = { netConfig := none, podCIDRs := [net24 10 0 0] } ∧
    (deliverAll dualStack [cidrChange "10.0.0.0/24,bogus", cidrChange "10.1.1.0/24"]).podCIDRs =
      [net24 10 0 0, net24 10 1 1] ∧
    ¬OfOneEvent dualStack [cidrChange "10.0.0.0/24,bogus"] ∧
    networks dualStack "10.1.1.0/24" = some [net24 10 1 1] := by
  have hfirst : deliverAll dualStack [cidrChange "10.0.0.0/24,bogus"] =
      { netConfig := none, podCIDRs := [net24 10 0 0] } := by
    decide +kernel
  refine ⟨hfirst, by decide +kernel, ?_, by decide +kernel⟩
  rintro (⟨-, hempty⟩ | ⟨before, accepted, later, podCIDR, nets, -, -, -, -, hset⟩)
  · rw [hfirst] at hempty
    cases hempty
  · rw [hfirst] at hset
    cases hset

end CriDockerd.Kubenet
