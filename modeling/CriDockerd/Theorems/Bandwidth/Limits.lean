import CriDockerd.Theorems.Bandwidth.Leaks

/-! Whether a CIDR is limited as requested after ReconcileCIDR has returned nil. A filter for the CIDR, in either
    direction and of any rate, is taken for all that was requested; so a direction that an earlier call has failed to
    limit is not limited by the next one, and another rate is not set. -/

namespace CriDockerd.Bandwidth
open Text NetIP

def MatchesCIDR (cidr : Text) (f : U32Filter) : Prop := ∃ ip, parseCIDRSloppy cidr = some (ip, f.network.net)

/-- A direction is limited as requested: a filter matches the CIDR in it, and points to a class of the rate. -/
def LimitedTo (s : Interface) (cidr : Text) (direction : Direction) (quantity : Option Int) : Prop :=
  ∀ q ∈ quantity, ∃ f ∈ s.filters, f.direction = direction ∧ MatchesCIDR cidr f ∧
    ∃ c ∈ s.classes, c.id = f.classid ∧ c.rate = makeKBitString q

structure Limited (s : Interface) (cidr : Text) (upload download : Option Int) : Prop where
  download : LimitedTo s cidr .dst download
  upload : LimitedTo s cidr .src upload

section
variable {env : Env} {w w' : World} {s t : Interface} {cidr : Text} {direction : Direction} {quantity upload download : Option Int}

theorem LimitedTo.mono (h : LimitedTo s cidr direction quantity) (hfilters : s.filters ⊆ t.filters)
    (hclasses : s.classes ⊆ t.classes) : LimitedTo t cidr direction quantity := by
  intro q hq
  obtain ⟨f, hf, hdirection, hmatches, c, hc, hid⟩ := h q hq
  exact ⟨f, hfilters hf, hdirection, hmatches, c, hclasses hc, hid⟩

theorem limitDirection_limits {ip : IP} {net : IPNet} (hparse : parseCIDRSloppy cidr = some (ip, net))
    (h : limitDirection env cidr direction quantity w = (none, w')) :
    LimitedTo w'.iface cidr direction quantity ∧ w.iface.filters ⊆ w'.iface.filters ∧ w.iface.classes ⊆ w'.iface.classes := by
  cases quantity with
  | none =>
    cases h
    refine ⟨?_, List.Subset.refl _, List.Subset.refl _⟩
    rintro q ⟨⟩
  | some quantity =>
    rcases limitDirection_cases env w cidr direction quantity with ⟨err, w'', herr, -⟩ |
      ⟨class_, node, network, entries, -, hclass, -, hnetwork, hok⟩
    · rw [herr] at h
      cases h
    · rw [hok] at h
      cases h
      refine ⟨?_, List.subset_append_left _ _, List.subset_append_left _ _⟩
      rintro q ⟨⟩
      refine ⟨_, List.mem_append_right _ List.mem_cons_self, rfl, ⟨ip, ?_⟩, _, List.mem_append_right _ List.mem_cons_self, ?_, rfl⟩
      · rw [hparse, env.tc.network_eq hnetwork hparse]
      · rw [id_ofID hclass.pos, classid_eq]

theorem limit_limits {ip : IP} {net : IPNet} (hparse : parseCIDRSloppy cidr = some (ip, net))
    (h : limit env cidr upload download w = (none, w')) : Limited w'.iface cidr upload download := by
  unfold limit at h
  cases hdownload : limitDirection env cidr .dst download w with
  | mk err w₁ =>
    rw [hdownload] at h
    cases err with
    | some err => cases h
    | none =>
      obtain ⟨hdst, -⟩ := limitDirection_limits hparse hdownload
      obtain ⟨hsrc, hfilters, hclasses⟩ := limitDirection_limits hparse h
      exact ⟨hdst.mono hfilters hclasses, hsrc⟩

/-- Whatever is on the interface and whichever commands fail: if ReconcileCIDR returns nil, the CIDR is limited as
    requested exactly if no filter matched it before, or it was so already. -/
theorem reconcileCIDR_limited_iff (h : reconcileCIDR env cidr upload download w = (none, w')) :
    Limited w'.iface cidr upload download ↔
      (∀ f ∈ w.iface.filters, ¬MatchesCIDR cidr f) ∨ Limited w.iface cidr upload download := by
  unfold reconcileCIDR at h
  rcases findCIDRClass_cases env w cidr with ⟨err, ok, hfind⟩ | ⟨entries, ip, net, hparse, hreads, hfind⟩
  · rw [hfind] at h
    cases h
  · rw [hfind] at h
    have hmatches : ∀ f ∈ w.iface.filters, MatchesCIDR cidr f ↔ f ∈ w.iface.filters.filter fun f => f.network.net = net := by
      intro f hf
      rw [MatchesCIDR, hparse]
      constructor
      · rintro ⟨_, ⟨⟩⟩
        exact List.mem_filter.mpr ⟨hf, decide_eq_true rfl⟩
      · intro hmem
        exact ⟨ip, by rw [decide_eq_true_iff.mp (List.mem_filter.mp hmem).2]⟩
    cases entries with
    | nil =>
      -- Nothing is found, so no filter matches.
      refine ⟨fun _ => Or.inl fun f hf hmatch => ?_, fun _ => limit_limits hparse h⟩
      have hmem := (hmatches f hf).mp hmatch
      rw [List.forall₂_nil_right_iff.mp hreads] at hmem
      cases hmem
    | cons entry entries =>
      -- A filter that is found matches, and nothing is changed.
      cases h
      refine ⟨Or.inr, fun hbefore => hbefore.resolve_left fun hnone => ?_⟩
      obtain ⟨f, rest, -, -, hfilter⟩ := List.forall₂_cons_right_iff.mp hreads
      have hmem : f ∈ w.iface.filters.filter fun f => f.network.net = net := hfilter ▸ List.mem_cons_self
      have hf := (List.mem_filter.mp hmem).1
      exact hnone f hf ((hmatches f hf).mpr hmem)

end

def reconcilePod (env : Env) (upload download : Int) (w : World) : Option GoError × World :=
  reconcileCIDR env "10.0.0.2/32" (some upload) (some download) w

theorem reconcileCIDR_limited_iff_first :
    (reconcilePod (failingAt []) 1000000 2000000 World.initial).1 = none ∧
    Limited (reconcilePod (failingAt []) 1000000 2000000 World.initial).2.iface "10.0.0.2/32" (some 1000000)
      (some 2000000) := by
  have hnil : (reconcilePod (failingAt []) 1000000 2000000 World.initial).1 = none := by decide +kernel
  refine ⟨hnil, (reconcileCIDR_limited_iff (Prod.ext hnil rfl)).mpr (Or.inl fun f hf => ?_)⟩
  exact absurd hf List.not_mem_nil

/-- The command that adds the second class fails; at the next call nothing fails and nil is returned, but there is no
    limit for the upload. Nor is a new rate set when nothing has failed at all. -/
theorem reconcileCIDR_leaves_unlimited :
    let failed := reconcilePod (failingAt [5]) 1000000 2000000 World.initial
    let retried := reconcilePod (failingAt [5]) 1000000 2000000 failed.2
    let limited := reconcilePod (failingAt []) 1000000 2000000 World.initial
    let changed := reconcilePod (failingAt []) 1000000 9000000 limited.2
    failed.1 ≠ none ∧ retried.1 = none ∧
      ¬Limited retried.2.iface "10.0.0.2/32" (some 1000000) (some 2000000) ∧
    limited.1 = none ∧ changed.1 = none ∧
      ¬Limited changed.2.iface "10.0.0.2/32" (some 1000000) (some 9000000) := by
  intro failed retried limited changed
  refine ⟨by decide +kernel, by decide +kernel, fun h => ?_, by decide +kernel, by decide +kernel, fun h => ?_⟩
  · have hdirections : ∀ f ∈ retried.2.iface.filters, f.direction = .dst := by decide +kernel
    obtain ⟨f, hf, hsrc, -⟩ := h.upload 1000000 rfl
    rw [hdirections f hf] at hsrc
    cases hsrc
  · have hrates : ∀ c ∈ changed.2.iface.classes, c.rate ≠ makeKBitString 9000000 := by decide +kernel
    obtain ⟨f, -, -, -, c, hc, -, hrate⟩ := h.download 9000000 rfl
    exact hrates c hc hrate

end CriDockerd.Bandwidth
