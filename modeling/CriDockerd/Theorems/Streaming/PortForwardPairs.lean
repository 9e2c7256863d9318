import CriDockerd.Theorems.Streaming.PortForward

/-! Port forwarding for clients that keep to the protocol: the streams of a request come in time, and there is at most one of each
    type. Then no stream is refused, and each request is forwarded with its own two streams, however the requests are mixed. -/

namespace CriDockerd.Streaming.PortForward
open Text

variable {h : Handler} {s : System} {stream : Stream} {p q : Nat}

/-! ### Clients -/

/-- At most one stream of each type for a request. -/
def OneOfEach (streams : List Stream) : Prop :=
  streams.Pairwise fun a b => requestID a = requestID b → a.streamType ≠ b.streamType

theorem OneOfEach.perm {streams streams' : List Stream} (hone : OneOfEach streams) (hperm : streams.Perm streams') :
    OneOfEach streams' :=
  (hperm.pairwise_iff fun hab heq htype => hab heq.symm htype.symm).mp hone

theorem OneOfEach.suffix {streams streams' : List Stream} (hone : OneOfEach streams) (hsuffix : streams' <:+ streams) :
    OneOfEach streams' := List.Pairwise.sublist hsuffix.sublist hone

theorem Paired.not_assigned (hs : Paired s) (hone : OneOfEach (accepted s.history)) (hloop : s.loop.streams = [stream])
    {x : Stream} (hx : (s.pairs p).Has x) (hrequest : requestID stream = requestID x) : stream.streamType ≠ x.streamType := by
  have hplaces := hone.perm hs.conserved.perm
  rw [hloop, OneOfEach, List.append_assoc, List.append_assoc, List.pairwise_append] at hplaces
  have hrest := (List.pairwise_append.mp hplaces.2.1).2.2 stream List.mem_cons_self x
  refine hrest (List.mem_append_right _ (List.mem_map.mpr ⟨(p, x), ?_, rfl⟩)) hrequest
  exact (hs.conserved.taken p x).mpr hx

theorem Paired.request_of_assigned (hs : Paired s) {x : Stream} (hx : (p, x) ∈ assigned s.history) :
    requestID x = (s.pairs p).requestID := by
  rcases (hs.conserved.taken p x).mp hx with hx | hx
  · exact ((hs.filled.valid p).data x hx).request
  · exact ((hs.filled.valid p).error x hx).request

/-! ### Runs without timeouts -/

/-- Monitors leave when their pair is complete; until then the pair is in the map. There is one pair for a request, and no
    stream is refused. -/
structure Kept (s : System) : Prop where
  phase : ∀ m ∈ s.monitors, m.phase = .waiting ∨ m.phase = .leaving ∧ (s.pairs m.pair).complete = true
  open_ : ∀ p, p < s.nextPair → (s.pairs p).complete = false → p ∈ s.monitors.map (·.pair)
  unique : ∀ p q, p < s.nextPair → q < s.nextPair → (s.pairs p).requestID = (s.pairs q).requestID → p = q
  refused : refused s.history = []

theorem Kept.initial : Kept System.initial where
  phase _ hm := absurd hm List.not_mem_nil
  open_ _ hp := absurd hp (Nat.not_lt_zero _)
  unique _ _ hp := absurd hp (Nat.not_lt_zero _)
  refused := rfl

theorem Kept.same {s' : System} (hk : Kept s) (hmonitors : s'.monitors = s.monitors) (hpairs : s'.pairs = s.pairs)
    (hnext : s'.nextPair = s.nextPair) (hrefused : PortForward.refused s'.history = PortForward.refused s.history) : Kept s' where
  phase := by rw [hmonitors, hpairs]; exact hk.phase
  open_ := by rw [hmonitors, hpairs, hnext]; exact hk.open_
  unique := by rw [hpairs, hnext]; exact hk.unique
  refused := hrefused.trans hk.refused

theorem Kept.printError (hk : Kept s) (p : Nat) (msg : Text) : Kept (s.printError p msg) := by
  unfold System.printError
  split
  · exact hk
  · exact hk.same rfl rfl rfl rfl

theorem Kept.leave (hk : Kept s) {m : Monitor} (hm : m ∈ s.monitors) (hcomplete : (s.pairs m.pair).complete = true) :
    Kept (s.moveMonitor m .leaving) where
  phase m' hm' := by
    rcases List.mem_cons.mp hm' with rfl | hm'
    · exact Or.inr ⟨rfl, hcomplete⟩
    · exact hk.phase m' (List.mem_of_mem_erase hm')
  open_ p hp hopen := (moveMonitor_pairs hm .leaving).mem_iff.mpr (hk.open_ p hp hopen)
  unique := hk.unique
  refused := hk.refused

theorem Kept.remove (hk : Kept s) {m : Monitor} (hm : m ∈ s.monitors) (hphase : m.phase = .leaving) (request : Text) :
    Kept ({ s with monitors := s.monitors.erase m }.removeStreamPair request) where
  phase m' hm' := hk.phase m' (List.mem_of_mem_erase hm')
  open_ p hp hopen := by
    have hcomplete : (s.pairs m.pair).complete = true := by
      rcases hk.phase m hm with hwaiting | hleaving
      · rw [hphase] at hwaiting
        cases hwaiting
      · exact hleaving.2
    have hmem := ((List.perm_cons_erase hm).map (·.pair)).mem_iff.mp (hk.open_ p hp hopen)
    refine (List.mem_cons.mp hmem).resolve_left ?_
    rintro rfl
    cases hopen.symm.trans hcomplete
  unique := hk.unique
  refused := hk.refused

/-- A request that is not in the map is new: an older pair for it would be complete, and the client would have sent a third
    stream. -/
theorem Kept.lookUp (hk : Kept s) (hs : Paired s) (hone : OneOfEach (accepted s.history)) (hloop : s.loop = .received stream) :
    Kept (s.lookUp stream) := by
  cases hentry : s.streamPairs (requestID stream) with
  | some p =>
    rw [lookUp_known hentry]
    exact hk.same rfl rfl rfl rfl
  | none =>
    have hnew : ∀ q, q < s.nextPair → (s.pairs q).requestID ≠ requestID stream := by
      intro q hq hrequest
      have hcomplete : (s.pairs q).complete = true := by
        by_contra hopen
        have hwatched := hk.open_ q hq (Bool.eq_false_iff.mpr hopen)
        have hmapped := hs.mapped.monitored q hwatched
        rw [hrequest, hentry] at hmapped
        cases hmapped
      obtain ⟨herror, hdata⟩ := (hs.filled.valid q).complete.mp hcomplete
      obtain ⟨e, he⟩ := Option.ne_none_iff_exists'.mp herror
      obtain ⟨d, hd⟩ := Option.ne_none_iff_exists'.mp hdata
      have hstreams : s.loop.streams = [stream] := by rw [hloop]; rfl
      have hok : httpStreamReceived stream = none := by simpa [hloop, Loop.Holds] using hs.loop
      have hfite := (hs.filled.valid q).error e he
      have hfitd := (hs.filled.valid q).data d hd
      rcases streamType_of_accepted hok with htype | htype
      · exact hs.not_assigned hone hstreams (Or.inr he) (hrequest.symm.trans hfite.request.symm) (htype.trans hfite.streamType.symm)
      · exact hs.not_assigned hone hstreams (Or.inl hd) (hrequest.symm.trans hfitd.request.symm) (htype.trans hfitd.streamType.symm)
    rw [lookUp_new hentry]
    constructor
    case phase =>
      intro m hm
      rcases List.mem_cons.mp hm with rfl | hm
      · exact Or.inl rfl
      · have hne : m.pair ≠ s.nextPair := Nat.ne_of_lt (hs.mapped.allocated m.pair (List.mem_map.mpr ⟨m, hm, rfl⟩))
        dsimp only
        rw [Function.update_of_ne hne]
        exact hk.phase m hm
    case open_ =>
      intro p hp hopen
      by_cases hpn : p = s.nextPair
      · rw [hpn]
        exact List.mem_cons_self
      · dsimp only at hopen
        rw [Function.update_of_ne hpn] at hopen
        exact List.mem_cons_of_mem _ (hk.open_ p (Nat.lt_of_le_of_ne (Nat.le_of_lt_succ hp) hpn) hopen)
    case unique =>
      intro p q hp hq hrequest
      dsimp only at hrequest
      by_cases hpn : p = s.nextPair
      · subst hpn
        by_cases hqn : q = s.nextPair
        · exact hqn.symm
        · rw [Function.update_self, Function.update_of_ne hqn] at hrequest
          exact absurd hrequest.symm (hnew q (Nat.lt_of_le_of_ne (Nat.le_of_lt_succ hq) hqn))
      · have hp' := Nat.lt_of_le_of_ne (Nat.le_of_lt_succ hp) hpn
        rw [Function.update_of_ne hpn] at hrequest
        by_cases hqn : q = s.nextPair
        · subst hqn
          rw [Function.update_self] at hrequest
          exact absurd hrequest (hnew p hp')
        · rw [Function.update_of_ne hqn] at hrequest
          exact hk.unique p q hp' (Nat.lt_of_le_of_ne (Nat.le_of_lt_succ hq) hqn) hrequest
    case refused => exact hk.refused

/-- The place for a stream is free. -/
theorem Kept.addStream (hk : Kept s) (hs : Paired s) (hone : OneOfEach (accepted s.history)) (hloop : s.loop = .add stream p) :
    Kept (s.addStream stream p) := by
  have hholds := hs.loop
  rw [hloop] at hholds
  obtain ⟨hok, hp, hrequest⟩ := hholds
  unfold System.addStream
  rcases (hs.filled.valid p).add hok hrequest with ⟨err, x, hadd, hx, htype⟩ | ⟨pair, hadd, -, hsame, hopen, -, -⟩
  · have hstreams : s.loop.streams = [stream] := by rw [hloop]; rfl
    have hrequestx := hs.request_of_assigned ((hs.conserved.taken p x).mpr hx)
    exact absurd htype.symm (hs.not_assigned hone hstreams hx (hrequest.trans hrequestx.symm))
  · rw [hadd]
    have hrequests : ∀ q, (Function.update s.pairs p pair q).requestID = (s.pairs q).requestID := by
      intro q
      by_cases hq : q = p
      · subst hq
        rw [Function.update_self, hsame]
      · rw [Function.update_of_ne hq]
    constructor
    case phase =>
      intro m hm
      rcases hk.phase m hm with hwaiting | ⟨hleaving, hcomplete⟩
      · exact Or.inl hwaiting
      · refine Or.inr ⟨hleaving, ?_⟩
        show (Function.update s.pairs p pair m.pair).complete = true
        rw [Function.update_of_ne]
        · exact hcomplete
        · rintro hm
          rw [hm, hopen] at hcomplete
          cases hcomplete
    case open_ =>
      intro q hq hstill
      refine hk.open_ q hq ?_
      by_cases hqp : q = p
      · rw [hqp]
        exact hopen
      · have hother : (Function.update s.pairs p pair q).complete = false := hstill
        rwa [Function.update_of_ne hqp] at hother
    case unique =>
      intro q r hq hr heq
      exact hk.unique q r hq hr ((hrequests q).symm.trans (heq.trans (hrequests r)))
    case refused => exact hk.refused

/-! ### Histories grow -/

theorem printError_history (p : Nat) (msg : Text) (s : System) : s.history <:+ (s.printError p msg).history := by
  unfold System.printError
  split
  · exact List.suffix_refl _
  · exact List.suffix_cons _ _

theorem lookUp_history (stream : Stream) (s : System) : (s.lookUp stream).history = s.history := by
  cases hentry : s.streamPairs (requestID stream) with
  | some p => rw [lookUp_known hentry]
  | none => rw [lookUp_new hentry]

theorem addStream_history (stream : Stream) (p : Nat) (s : System) : s.history <:+ (s.addStream stream p).history := by
  unfold System.addStream
  split
  · exact List.suffix_refl _
  · exact List.suffix_cons _ _
  · exact List.suffix_cons _ _

theorem Effect.history {step : Step} {s' : System} (heffect : Effect h s step s') : s.history <:+ s'.history := by
  cases heffect with
  | getStreamPair => rw [lookUp_history]
  | add => exact addStream_history _ _ s
  | printError => exact printError_history _ _ s
  | printTimeout => exact printError_history _ _ (s.moveMonitor _ .leaving)
  | arrive | invoke | failed | closeError | closeData => exact List.suffix_cons _ _
  | _ => exact List.suffix_refl _

theorem runAll_history (steps : List Step) (s : System) : s.history <:+ (runAll h steps s).history := by
  induction steps generalizing s with
  | nil => exact List.suffix_refl _
  | cons step steps ih =>
    rw [runAll]
    split
    · exact List.suffix_refl _
    · exact (step.effect h s).history.trans (ih _)

/-! ### Runs -/

theorem Kept.effect (hk : Kept s) (hs : Paired s) (hone : OneOfEach (accepted s.history)) {step : Step}
    (htime : ∀ m, step ≠ .timeout m) {s' : System} (heffect : Effect h s step s') : Kept s' := by
  cases heffect with
  | none => exact hk
  | getStreamPair hloop => exact hk.lookUp hs hone hloop
  | add hloop => exact hk.addStream hs hone hloop
  | printError => exact (hk.printError _ _).same rfl rfl rfl rfl
  | timeout => exact absurd rfl (htime _)
  | printTimeout hm hphase =>
    -- No monitor has timed out.
    rcases hk.phase _ hm with hwaiting | ⟨hleaving, -⟩
    · cases hphase.symm.trans hwaiting
    · cases hphase.symm.trans hleaving
  | complete hm hcomplete => exact hk.leave hm hcomplete
  | remove hm hphase => exact hk.remove hm hphase _
  | _ => exact hk.same rfl rfl rfl rfl

theorem Kept.runAll (hk : Kept s) (hs : Paired s) {steps : List Step} (htime : ∀ m, Step.timeout m ∉ steps)
    (hone : OneOfEach (accepted (runAll h steps s).history)) : Kept (runAll h steps s) := by
  induction steps generalizing s with
  | nil => exact hk
  | cons step steps ih =>
    have hnow : OneOfEach (accepted s.history) := hone.suffix ((runAll_history (step :: steps) s).filterMap _)
    rw [PortForward.runAll, hs.panicked, if_neg Bool.false_ne_true] at hone ⊢
    have hnext := hk.effect hs hnow (fun m hm => htime m (hm ▸ List.mem_cons_self)) (step.effect h s)
    refine ih hnext (hs.step step) (fun m hm => ?_) hone
    exact htime m (List.mem_cons_of_mem _ hm)

theorem Kept.forwarded (hk : Kept s) (hs : Paired s) {d e : Stream} (hd : (p, d) ∈ assigned s.history)
    (he : (q, e) ∈ assigned s.history) (hdata : d.streamType = streamTypeData) (herror : e.streamType = streamTypeError)
    (hrequest : requestID d = requestID e) :
    p = q ∧ ((∃ port, (p, port, d) ∈ invoked s.history) ∨ ⟨p, .starting⟩ ∈ s.forwards) := by
  have hne : streamTypeData ≠ streamTypeError := by decide
  have hmade : ∀ r x, (s.pairs r).Has x → r < s.nextPair := by
    intro r x hx
    by_contra hr
    rw [hs.filled.blank r (Nat.le_of_not_lt hr)] at hx
    rcases hx with hx | hx <;> cases hx
  have hhasd := (hs.conserved.taken p d).mp hd
  have hhase := (hs.conserved.taken q e).mp he
  have hd' : (s.pairs p).dataStream = some d := by
    refine hhasd.resolve_right fun hx => ?_
    exact hne (hdata.symm.trans ((hs.filled.valid p).error d hx).streamType)
  have he' : (s.pairs q).errorStream = some e := by
    refine hhase.resolve_left fun hx => ?_
    exact hne (((hs.filled.valid q).data e hx).streamType.symm.trans herror)
  have hpq : p = q := by
    refine hk.unique p q (hmade p d hhasd) (hmade q e hhase) ?_
    rw [← ((hs.filled.valid p).data d hd').request, ← ((hs.filled.valid q).error e he').request, hrequest]
  subst hpq
  refine ⟨rfl, ?_⟩
  have hcomplete : (s.pairs p).complete = true := (hs.filled.valid p).complete.mpr ⟨by rw [he']; nofun, by rw [hd']; nofun⟩
  have hcount := hs.forwarded.count p
  rw [hcomplete, if_pos rfl] at hcount
  by_cases hinvoked : ((invoked s.history).map (·.1)).count p = 0
  · right
    have hstarting : 0 < (starting s.forwards).count p := by omega
    obtain ⟨⟨f, phase⟩, hf, hpair⟩ := List.mem_map.mp (List.count_pos_iff.mp hstarting)
    obtain ⟨hmem, hphase⟩ := List.mem_filter.mp hf
    obtain rfl : phase = .starting := of_decide_eq_true hphase
    obtain rfl : f = p := hpair
    exact hmem
  · left
    obtain ⟨⟨r, port, d'⟩, hx, hr⟩ := List.mem_map.mp (List.count_pos_iff.mp (Nat.pos_of_ne_zero hinvoked))
    obtain rfl : r = p := hr
    have hd'' := (hs.forwarded.invoked r port d' hx).1
    rw [hd'] at hd''
    cases hd''
    exact ⟨port, hx⟩

/-- A client that sends at most one stream of each type for a request, and both of them in time: no stream is refused, and the
    streams of a request are forwarded together. -/
theorem runAll_forwards (h : Handler) (steps : List Step) (htime : ∀ m, Step.timeout m ∉ steps)
    (hone : OneOfEach (accepted (runAll h steps System.initial).history)) :
    refused (runAll h steps System.initial).history = [] ∧
      ∀ p q d e, (p, d) ∈ assigned (runAll h steps System.initial).history →
        (q, e) ∈ assigned (runAll h steps System.initial).history →
        d.streamType = streamTypeData → e.streamType = streamTypeError → requestID d = requestID e →
        p = q ∧ ((∃ port, (p, port, d) ∈ invoked (runAll h steps System.initial).history) ∨
          ⟨p, .starting⟩ ∈ (runAll h steps System.initial).forwards) := by
  have hk := Kept.initial.runAll Paired.initial htime hone
  have hs : Paired (runAll h steps System.initial) := Paired.initial.runAll steps
  exact ⟨hk.refused, fun p q d e hd he hdata herror hrequest => hk.forwarded hs hd he hdata herror hrequest⟩

def exampleStream (identifier : UInt32) (streamType requestID : String) : Stream :=
  { identifier, port := "80", streamType := streamType.toList, requestID := requestID.toList }

/-- The streams of two requests, mixed; the monitor of the first request takes its pair out in between. -/
def exampleSteps : List Step :=
  let arrived (stream : Stream) : List Step := [.arrive stream, .receive, .getStreamPair, .add]
  arrived (exampleStream 1 "error" "0") ++ arrived (exampleStream 3 "error" "1") ++ arrived (exampleStream 5 "data" "0") ++
    [.complete ⟨0, .waiting⟩, .remove ⟨0, .leaving⟩, .invoke ⟨0, .starting⟩] ++ arrived (exampleStream 7 "data" "1")

theorem runAll_forwards_mixed :
    (∀ m, Step.timeout m ∉ exampleSteps) ∧
      OneOfEach (accepted (runAll ⟨[], [], []⟩ exampleSteps System.initial).history) ∧
      refused (runAll ⟨[], [], []⟩ exampleSteps System.initial).history = [] := by
  have htime : ∀ m, Step.timeout m ∉ exampleSteps := by
    intro m
    simp [exampleSteps]
  have hone : OneOfEach (accepted (runAll ⟨[], [], []⟩ exampleSteps System.initial).history) := by
    unfold OneOfEach
    decide +kernel
  exact ⟨htime, hone, (runAll_forwards ⟨[], [], []⟩ exampleSteps htime hone).1⟩

/-! ### Older clients -/

theorem requestID_legacy (hok : httpStreamReceived stream = none) (hlegacy : stream.requestID = []) :
    stream.streamType = streamTypeError ∧ requestID stream = itoa stream.identifier.toNat ∨
      stream.streamType = streamTypeData ∧ requestID stream = itoa ((stream.identifier.toNat : Int) - 2) := by
  unfold requestID
  rw [if_neg (by simpa using hlegacy)]
  rcases streamType_of_accepted hok with htype | htype
  · exact Or.inl ⟨htype, by rw [if_pos htype]⟩
  · refine Or.inr ⟨htype, ?_⟩
    rw [if_neg (by rw [htype]; decide), if_pos htype]

theorem requestID_eq_iff {d e : Stream} (hd : httpStreamReceived d = none) (he : httpStreamReceived e = none)
    (hlegacyd : d.requestID = []) (hlegacye : e.requestID = []) (hdata : d.streamType = streamTypeData)
    (herror : e.streamType = streamTypeError) : requestID d = requestID e ↔ d.identifier.toNat = e.identifier.toNat + 2 := by
  have hne : streamTypeData ≠ streamTypeError := by decide
  obtain ⟨htype, -⟩ | ⟨-, hd⟩ := requestID_legacy hd hlegacyd
  · exact absurd (hdata.symm.trans htype) hne
  obtain ⟨-, he⟩ | ⟨htype, -⟩ := requestID_legacy he hlegacye
  · rw [hd, he]
    constructor
    · intro heq
      have hint := itoa_int_inj heq
      omega
    · intro heq
      exact congrArg itoa (by omega)
  · exact absurd (htype.symm.trans herror) hne

theorem oneOfEach_legacy {streams : List Stream} (hok : ∀ x ∈ streams, httpStreamReceived x = none)
    (hlegacy : ∀ x ∈ streams, x.requestID = []) (hids : (streams.map (·.identifier)).Nodup) : OneOfEach streams := by
  refine List.Pairwise.imp_of_mem ?_ (List.pairwise_map.mp hids)
  intro a b ha hb hne hrequest htype
  apply hne
  apply UInt32.toNat_inj.mp
  have herr : streamTypeData ≠ streamTypeError := by decide
  obtain ⟨hta, hra⟩ | ⟨hta, hra⟩ := requestID_legacy (hok a ha) (hlegacy a ha)
  · obtain ⟨-, hrb⟩ | ⟨htb, -⟩ := requestID_legacy (hok b hb) (hlegacy b hb)
    · exact itoa_inj (hra.symm.trans (hrequest.trans hrb))
    · exact absurd (htb.symm.trans (htype.symm.trans hta)) herr
  · obtain ⟨htb, -⟩ | ⟨-, hrb⟩ := requestID_legacy (hok b hb) (hlegacy b hb)
    · exact absurd (hta.symm.trans (htype.trans htb)) herr
    · have hint := itoa_int_inj (hra.symm.trans (hrequest.trans hrb))
      omega

/-- A client that sends no request IDs, on a connection that gives each stream an identifier of its own: the pairs are those of
    an error stream and the data stream whose identifier is larger by 2, and they are forwarded. -/
theorem runAll_legacy (h : Handler) (steps : List Step) (htime : ∀ m, Step.timeout m ∉ steps)
    (hlegacy : ∀ x ∈ accepted (runAll h steps System.initial).history, x.requestID = [])
    (hids : ((accepted (runAll h steps System.initial).history).map (·.identifier)).Nodup) :
    refused (runAll h steps System.initial).history = [] ∧
      ∀ p q d e, (p, d) ∈ assigned (runAll h steps System.initial).history →
        (q, e) ∈ assigned (runAll h steps System.initial).history →
        d.streamType = streamTypeData → e.streamType = streamTypeError →
        (p = q ↔ d.identifier.toNat = e.identifier.toNat + 2) ∧
          (p = q → (∃ port, (p, port, d) ∈ invoked (runAll h steps System.initial).history) ∨
            ⟨p, .starting⟩ ∈ (runAll h steps System.initial).forwards) := by
  have hs : Paired (runAll h steps System.initial) := Paired.initial.runAll steps
  have hk := Kept.initial.runAll Paired.initial htime (oneOfEach_legacy hs.conserved.ok hlegacy hids)
  refine ⟨hk.refused, fun p q d e hd he hdata herror => ?_⟩
  have hmem : ∀ r x, (r, x) ∈ assigned (runAll h steps System.initial).history →
      x ∈ accepted (runAll h steps System.initial).history := by
    intro r x hx
    exact hs.conserved.perm.mem_iff.mpr (List.mem_append_right _ (List.mem_map.mpr ⟨(r, x), hx, rfl⟩))
  have hrequest := requestID_eq_iff (hs.conserved.ok d (hmem p d hd)) (hs.conserved.ok e (hmem q e he)) (hlegacy d (hmem p d hd))
    (hlegacy e (hmem q e he)) hdata herror
  have hpair : p = q → requestID d = requestID e := by
    rintro rfl
    exact (hs.request_of_assigned hd).trans (hs.request_of_assigned he).symm
  refine ⟨⟨fun hpq => hrequest.mp (hpair hpq), fun hid => ?_⟩, fun hpq => ?_⟩
  · exact (hk.forwarded hs hd he hdata herror (hrequest.mpr hid)).1
  · exact (hk.forwarded hs hd he hdata herror (hpair hpq)).2

/-- The streams of two requests without IDs, one after the other. -/
def legacySteps : List Step :=
  let arrived (stream : Stream) : List Step := [.arrive stream, .receive, .getStreamPair, .add]
  arrived (exampleStream 1 "error" "") ++ arrived (exampleStream 3 "data" "") ++ [.invoke ⟨0, .starting⟩] ++
    arrived (exampleStream 5 "error" "") ++ arrived (exampleStream 7 "data" "")

theorem runAll_legacy_two :
    (∀ m, Step.timeout m ∉ legacySteps) ∧
      (∀ x ∈ accepted (runAll ⟨[], [], []⟩ legacySteps System.initial).history, x.requestID = []) ∧
      ((accepted (runAll ⟨[], [], []⟩ legacySteps System.initial).history).map (·.identifier)).Nodup ∧
      refused (runAll ⟨[], [], []⟩ legacySteps System.initial).history = [] := by
  have htime : ∀ m, Step.timeout m ∉ legacySteps := by
    intro m
    simp [legacySteps]
  have hlegacy : ∀ x ∈ accepted (runAll ⟨[], [], []⟩ legacySteps System.initial).history, x.requestID = [] := by
    decide +kernel
  have hids : ((accepted (runAll ⟨[], [], []⟩ legacySteps System.initial).history).map (·.identifier)).Nodup := by
    decide +kernel
  exact ⟨htime, hlegacy, hids, (runAll_legacy ⟨[], [], []⟩ legacySteps htime hlegacy hids).1⟩

end CriDockerd.Streaming.PortForward
