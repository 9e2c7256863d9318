import Mathlib.Data.List.Nodup
import Mathlib.Data.List.Perm.Basic
import CriDockerd.Streaming.PortForward

/-! Port forwarding over all orders of the steps of its goroutines. A monitor's pair is the entry of the map for its request
    until the monitor takes it out, so that a monitor never takes out the pair of another one; a pair becomes complete once,
    and is forwarded then; and a stream that is accepted is in one place at a time, and ends in one pair or is refused. -/

namespace CriDockerd.Streaming.PortForward
open Text

variable {h : Handler} {s : System} {history : List Event} {stream : Stream} {p : Nat}

/-! ### Histories -/

def Event.accepted? : Event → Option Stream
  | .accepted stream => some stream
  | _ => none

def Event.assigned? : Event → Option (Nat × Stream)
  | .assigned p stream => some (p, stream)
  | _ => none

def Event.refused? : Event → Option Stream
  | .refused _ stream => some stream
  | _ => none

def Event.invoked? : Event → Option (Nat × Int × Stream)
  | .invoked p port stream => some (p, port, stream)
  | _ => none

def accepted (history : List Event) : List Stream := history.filterMap Event.accepted?

def assigned (history : List Event) : List (Nat × Stream) := history.filterMap Event.assigned?

def refused (history : List Event) : List Stream := history.filterMap Event.refused?

/-- The calls of the forwarder: the pair, the port and the stream. -/
def invoked (history : List Event) : List (Nat × Int × Stream) := history.filterMap Event.invoked?

def Loop.streams : Loop → List Stream
  | .received stream => [stream]
  | .add stream _ => [stream]
  | _ => []

/-! ### What is accepted -/

theorem streamType_of_accepted (hok : httpStreamReceived stream = none) :
    stream.streamType = streamTypeError ∨ stream.streamType = streamTypeData := by
  unfold httpStreamReceived at hok
  split at hok
  · cases hok
  · split at hok
    · cases hok
    · split at hok
      · cases hok
      · split at hok
        · cases hok
        · split at hok
          · cases hok
          · rename_i hvalid
            by_contra hneither
            exact hvalid (not_or.mp hneither)

theorem port_of_accepted (hok : httpStreamReceived stream = none) :
    ∃ port : Nat, Strconv.parseUint 65535 stream.port = .ok port ∧ 1 ≤ port ∧ port ≤ 65535 ∧
      Strconv.parseInt 2147483648 stream.port = ((port : Int), none) := by
  unfold httpStreamReceived at hok
  split at hok
  · cases hok
  · split at hok
    · cases hok
    · rename_i port hport
      split at hok
      · cases hok
      · rename_i hpos
        exact ⟨port, hport, Nat.le_of_not_lt hpos, Strconv.parseUint_le hport, Strconv.parseInt_of_parseUint hport (by decide)⟩

/-! ### Pairs -/

/-- A stream that a pair may hold in its place for this type. -/
structure Fits (stream : Stream) (streamType request : Text) : Prop where
  accepted : httpStreamReceived stream = none
  streamType : stream.streamType = streamType
  request : requestID stream = request

namespace StreamPair
variable {pair : StreamPair}

/-- A pair holds streams of its own request, each in its place, and is complete when it holds both. -/
structure Valid (pair : StreamPair) : Prop where
  data : ∀ d, pair.dataStream = some d → Fits d streamTypeData pair.requestID
  error : ∀ e, pair.errorStream = some e → Fits e streamTypeError pair.requestID
  complete : pair.complete = true ↔ pair.errorStream ≠ none ∧ pair.dataStream ≠ none

def Has (pair : StreamPair) (stream : Stream) : Prop := pair.dataStream = some stream ∨ pair.errorStream = some stream

theorem Valid.new (request : Text) : (newPortForwardPair request).Valid where
  data _ hd := nomatch hd
  error _ he := nomatch he
  complete := by simp [newPortForwardPair]

theorem checkComplete_eq (hopen : pair.complete = false) :
    pair.checkComplete =
      (.ok (pair.errorStream.isSome && pair.dataStream.isSome),
        { pair with complete := pair.errorStream.isSome && pair.dataStream.isSome }) := by
  obtain ⟨request, dataStream, errorStream, complete⟩ := pair
  obtain rfl : complete = false := hopen
  cases errorStream with
  | none => rfl
  | some e =>
    cases dataStream with
    | none => rfl
    | some d => rfl

/-- What `add` does with a stream of the pair's request: its place is taken, or it is put there. -/
theorem Valid.add (hv : pair.Valid) (hok : httpStreamReceived stream = none) (hreq : PortForward.requestID stream = pair.requestID) :
    (∃ err x, pair.add stream = (.error err, pair) ∧ pair.Has x ∧ x.streamType = stream.streamType) ∨
    ∃ pair', pair.add stream = (.ok pair'.complete, pair') ∧ pair'.Valid ∧ pair'.requestID = pair.requestID ∧
      pair.complete = false ∧ ¬pair.Has stream ∧ ∀ x, pair'.Has x ↔ x = stream ∨ pair.Has x := by
  have hne : streamTypeData ≠ streamTypeError := by decide
  unfold StreamPair.add
  rcases streamType_of_accepted hok with htype | htype
  · rw [if_pos htype]
    cases herr : pair.errorStream with
    | some x => exact Or.inl ⟨_, x, rfl, Or.inr herr, (hv.error x herr).streamType.trans htype.symm⟩
    | none =>
      have hopen : pair.complete = false := by simpa [herr] using mt hv.complete.mp
      rw [if_neg (fun hsome => hsome rfl), @checkComplete_eq { pair with errorStream := some stream } hopen]
      refine Or.inr ⟨{ pair with errorStream := some stream, complete := pair.dataStream.isSome }, rfl, ⟨hv.data, ?_, ?_⟩, rfl, hopen,
        ?_, fun x => ?_⟩
      · intro e he
        cases he
        exact ⟨hok, htype, hreq⟩
      · simp [Option.isSome_iff_ne_none]
      · rintro (hhas | hhas)
        · exact hne ((hv.data stream hhas).streamType.symm.trans htype)
        · rw [herr] at hhas
          cases hhas
      · simp only [Has, herr, Option.some.injEq, reduceCtorEq, false_or, eq_comm, or_comm]
  · rw [if_neg (fun heq => hne (htype.symm.trans heq)), if_pos htype]
    cases hdata : pair.dataStream with
    | some x => exact Or.inl ⟨_, x, rfl, Or.inl hdata, (hv.data x hdata).streamType.trans htype.symm⟩
    | none =>
      have hopen : pair.complete = false := by simpa [hdata] using mt hv.complete.mp
      rw [if_neg (fun hsome => hsome rfl), @checkComplete_eq { pair with dataStream := some stream } hopen]
      refine Or.inr ⟨{ pair with dataStream := some stream, complete := pair.errorStream.isSome }, ?_, ⟨?_, hv.error, ?_⟩, rfl, hopen,
        ?_, fun x => ?_⟩
      · rw [Option.isSome_some, Bool.and_true]
      · intro d hd
        cases hd
        exact ⟨hok, htype, hreq⟩
      · simp [Option.isSome_iff_ne_none]
      · rintro (hhas | hhas)
        · rw [hdata] at hhas
          cases hhas
        · exact hne (htype.symm.trans (hv.error stream hhas).streamType)
      · simp only [Has, hdata, Option.some.injEq, reduceCtorEq, false_or, eq_comm]

end StreamPair

/-! ### The invariant -/

/-- All pairs are valid, and those that are not made yet are blank. -/
structure Filled (pairs : Nat → StreamPair) (nextPair : Nat) : Prop where
  valid : ∀ p, (pairs p).Valid
  blank : ∀ p, nextPair ≤ p → pairs p = newPortForwardPair []

/-- The entries of the map are the pairs that are watched by a monitor, each by one, under their requests. -/
structure Mapped (streamPairs : Text → Option Nat) (pairs : Nat → StreamPair) (nextPair : Nat) (watched : List Nat) : Prop where
  entry : ∀ id p, streamPairs id = some p → (pairs p).requestID = id ∧ p ∈ watched
  monitored : ∀ p ∈ watched, streamPairs (pairs p).requestID = some p
  nodup : watched.Nodup
  allocated : ∀ p ∈ watched, p < nextPair

/-- The pairs whose forwarding has begun, but not called the forwarder yet. -/
def starting (forwards : List Forward) : List Nat := (forwards.filter (·.phase = .starting)).map (·.pair)

/-- A pair is forwarded when it is complete: once it has been, or is about to be. -/
structure Forwarded (pairs : Nat → StreamPair) (forwards : List Forward) (history : List Event) : Prop where
  count : ∀ p, ((invoked history).map (·.1)).count p + (starting forwards).count p = if (pairs p).complete then 1 else 0
  invoked : ∀ p port d, (p, port, d) ∈ PortForward.invoked history →
    (pairs p).dataStream = some d ∧ port = (Strconv.parseInt 2147483648 d.port).1
  running : ∀ f ∈ forwards, (pairs f.pair).complete = true

/-- What the main loop has in hand. -/
def Loop.Holds (pairs : Nat → StreamPair) (nextPair : Nat) : Loop → Prop
  | .received stream => httpStreamReceived stream = none
  | .add stream p => httpStreamReceived stream = none ∧ p < nextPair ∧ requestID stream = (pairs p).requestID
  | _ => True

/-- Every stream that was accepted is in the channel, with the loop, refused, or in the pair that has taken it. -/
structure Conserved (streamChan : List Stream) (loop : Loop) (pairs : Nat → StreamPair) (history : List Event) : Prop where
  ok : ∀ stream ∈ accepted history, httpStreamReceived stream = none
  perm : (accepted history).Perm (streamChan ++ loop.streams ++ refused history ++ (assigned history).map (·.2))
  taken : ∀ p stream, (p, stream) ∈ assigned history ↔ (pairs p).Has stream

theorem Conserved.chan {streamChan : List Stream} {loop : Loop} {pairs : Nat → StreamPair}
    (hc : Conserved streamChan loop pairs history) (hx : stream ∈ streamChan) : httpStreamReceived stream = none := by
  refine hc.ok stream (hc.perm.mem_iff.mpr ?_)
  rw [List.append_assoc, List.append_assoc]
  exact List.mem_append_left _ hx

structure Paired (s : System) : Prop where
  panicked : s.panicked = false
  filled : Filled s.pairs s.nextPair
  mapped : Mapped s.streamPairs s.pairs s.nextPair (s.monitors.map (·.pair))
  forwarded : Forwarded s.pairs s.forwards s.history
  loop : s.loop.Holds s.pairs s.nextPair
  conserved : Conserved s.streamChan s.loop s.pairs s.history

theorem Paired.initial : Paired System.initial where
  panicked := rfl
  filled := ⟨fun _ => .new [], fun _ _ => rfl⟩
  mapped :=
    { entry := fun _ _ he => nomatch he
      monitored := fun _ hp => absurd hp List.not_mem_nil
      nodup := List.nodup_nil
      allocated := fun _ hp => absurd hp List.not_mem_nil }
  forwarded := ⟨fun _ => rfl, fun _ _ _ hx => absurd hx List.not_mem_nil, fun _ hf => absurd hf List.not_mem_nil⟩
  loop := trivial
  conserved := by
    refine ⟨fun _ hs => absurd hs List.not_mem_nil, List.Perm.nil, fun p stream => ?_⟩
    simp [System.initial, assigned, StreamPair.Has, newPortForwardPair]

/-! ### The map and the monitors -/

section
variable {streamPairs : Text → Option Nat} {pairs pairs' : Nat → StreamPair} {nextPair : Nat} {watched watched' : List Nat}

theorem Mapped.perm (hm : Mapped streamPairs pairs nextPair watched) (hperm : watched'.Perm watched) :
    Mapped streamPairs pairs nextPair watched' where
  entry id p hp := ⟨(hm.entry id p hp).1, hperm.mem_iff.mpr (hm.entry id p hp).2⟩
  monitored p hp := hm.monitored p (hperm.mem_iff.mp hp)
  nodup := hperm.nodup_iff.mpr hm.nodup
  allocated p hp := hm.allocated p (hperm.mem_iff.mp hp)

theorem Mapped.congr (hm : Mapped streamPairs pairs nextPair watched)
    (hrequest : ∀ p, (pairs' p).requestID = (pairs p).requestID) : Mapped streamPairs pairs' nextPair watched where
  entry id p hp := ⟨(hrequest p).trans (hm.entry id p hp).1, (hm.entry id p hp).2⟩
  monitored p hp := by rw [hrequest]; exact hm.monitored p hp
  nodup := hm.nodup
  allocated := hm.allocated

theorem Mapped.insert (hm : Mapped streamPairs pairs nextPair watched) {request : Text} (hnone : streamPairs request = none) :
    Mapped (Function.update streamPairs request (some nextPair))
      (Function.update pairs nextPair (newPortForwardPair request)) (nextPair + 1) (nextPair :: watched) := by
  have hfresh : ∀ p ∈ watched, p ≠ nextPair := fun p hp => Nat.ne_of_lt (hm.allocated p hp)
  constructor
  case entry =>
    intro id p hp
    by_cases hid : id = request
    · subst hid
      rw [Function.update_self] at hp
      cases hp
      rw [Function.update_self]
      exact ⟨rfl, List.mem_cons_self⟩
    · rw [Function.update_of_ne hid] at hp
      obtain ⟨hrequest, hwatched⟩ := hm.entry id p hp
      rw [Function.update_of_ne (hfresh p hwatched)]
      exact ⟨hrequest, List.mem_cons_of_mem _ hwatched⟩
  case monitored =>
    intro p hp
    rcases List.mem_cons.mp hp with rfl | hp
    · rw [Function.update_self]
      exact Function.update_self _ _ _
    · have hentry := hm.monitored p hp
      rw [Function.update_of_ne (hfresh p hp), Function.update_of_ne]
      · exact hentry
      · intro hrequest
        rw [hrequest, hnone] at hentry
        cases hentry
  case nodup => exact List.nodup_cons.mpr ⟨fun hp => hfresh _ hp rfl, hm.nodup⟩
  case allocated =>
    intro p hp
    rcases List.mem_cons.mp hp with rfl | hp
    · exact Nat.lt_succ_self _
    · exact Nat.lt_succ_of_lt (hm.allocated p hp)

/-- A monitor takes its own pair out of the map, and no other. -/
theorem Mapped.remove (hm : Mapped streamPairs pairs nextPair (p :: watched)) :
    Mapped (Function.update streamPairs (pairs p).requestID none) pairs nextPair watched := by
  have hself := hm.monitored p List.mem_cons_self
  constructor
  case entry =>
    intro id q hq
    by_cases hid : id = (pairs p).requestID
    · rw [hid, Function.update_self] at hq
      cases hq
    · rw [Function.update_of_ne hid] at hq
      obtain ⟨hrequest, hwatched⟩ := hm.entry id q hq
      refine ⟨hrequest, (List.mem_cons.mp hwatched).resolve_left ?_⟩
      rintro rfl
      exact hid hrequest.symm
  case monitored =>
    intro q hq
    have hentry := hm.monitored q (List.mem_cons_of_mem _ hq)
    rw [Function.update_of_ne]
    · exact hentry
    · intro hrequest
      rw [hrequest, hself] at hentry
      cases hentry
      exact (List.nodup_cons.mp hm.nodup).1 hq
  case nodup => exact (List.nodup_cons.mp hm.nodup).2
  case allocated => exact fun q hq => hm.allocated q (List.mem_cons_of_mem _ hq)

end

theorem moveMonitor_pairs {m : Monitor} {monitors : List Monitor} (hm : m ∈ monitors) (phase : MonitorPhase) :
    (({ m with phase } :: monitors.erase m).map (·.pair)).Perm (monitors.map (·.pair)) :=
  ((List.perm_cons_erase hm).map (·.pair)).symm

/-! ### Forwarding -/

section
variable {pairs : Nat → StreamPair} {forwards forwards' : List Forward} {f : Forward}

theorem starting_cons (f : Forward) (forwards : List Forward) :
    (starting (f :: forwards)).count p = (starting forwards).count p + if f.phase = .starting ∧ f.pair = p then 1 else 0 := by
  unfold starting
  by_cases hphase : f.phase = .starting
  · rw [List.filter_cons_of_pos (by simpa using hphase), List.map_cons, List.count_cons]
    simp [hphase]
  · rw [List.filter_cons_of_neg (by simpa using hphase)]
    simp [hphase]

theorem starting_erase (hf : f ∈ forwards) (p : Nat) :
    (starting forwards).count p = (starting (forwards.erase f)).count p + if f.phase = .starting ∧ f.pair = p then 1 else 0 := by
  rw [← starting_cons]
  exact (((List.perm_cons_erase hf).filter _).map _).count_eq p

theorem Forwarded.record (hf : Forwarded pairs forwards history) {e : Event} (he : e.invoked? = none) :
    Forwarded pairs forwards (e :: history) := by
  have hinvoked : PortForward.invoked (e :: history) = PortForward.invoked history := List.filterMap_cons_none he
  exact ⟨by rw [hinvoked]; exact hf.count, by rw [hinvoked]; exact hf.invoked, hf.running⟩

theorem Forwarded.move (hf : Forwarded pairs forwards history) (hmem : f ∈ forwards) (hphase : f.phase ≠ .starting)
    {phase : ForwardPhase} (hphase' : phase ≠ .starting) : Forwarded pairs ({ f with phase } :: forwards.erase f) history where
  count p := by
    rw [starting_cons, if_neg (fun hc => hphase' hc.1), ← hf.count p, starting_erase hmem, if_neg (fun hc => hphase hc.1)]
  invoked := hf.invoked
  running g hg := by
    rcases List.mem_cons.mp hg with rfl | hg
    · exact hf.running f hmem
    · exact hf.running g (List.mem_of_mem_erase hg)

theorem Forwarded.erase (hf : Forwarded pairs forwards history) (hmem : f ∈ forwards) (hphase : f.phase ≠ .starting) :
    Forwarded pairs (forwards.erase f) history where
  count p := by rw [← hf.count p, starting_erase hmem, if_neg (fun hc => hphase hc.1), Nat.add_zero]
  invoked := hf.invoked
  running g hg := hf.running g (List.mem_of_mem_erase hg)

theorem Forwarded.invoke (hf : Forwarded pairs forwards history) (hmem : f ∈ forwards) (hphase : f.phase = .starting)
    {d : Stream} (hd : (pairs f.pair).dataStream = some d) {port : Int} (hport : port = (Strconv.parseInt 2147483648 d.port).1) :
    Forwarded pairs ({ f with phase := .forwarding port } :: forwards.erase f) (.invoked f.pair port d :: history) where
  count p := by
    have hcount := hf.count p
    rw [starting_erase hmem] at hcount
    rw [starting_cons, if_neg (fun hc => nomatch hc.1), ← hcount]
    simp only [PortForward.invoked, Event.invoked?, List.filterMap_cons, List.map_cons, List.count_cons, hphase, true_and,
      beq_iff_eq]
    omega
  invoked p port' d' hx := by
    rcases List.mem_cons.mp hx with heq | hx
    · obtain ⟨rfl, hrest⟩ := Prod.mk.inj heq
      obtain ⟨rfl, rfl⟩ := Prod.mk.inj hrest
      exact ⟨hd, hport⟩
    · exact hf.invoked p port' d' hx
  running g hg := by
    rcases List.mem_cons.mp hg with rfl | hg
    · exact hf.running f hmem
    · exact hf.running g (List.mem_of_mem_erase hg)

theorem Forwarded.not_invoked (hf : Forwarded pairs forwards history) (hopen : (pairs p).complete = false) {port : Int}
    {d : Stream} : (p, port, d) ∉ PortForward.invoked history := by
  intro hmem
  have hcount := hf.count p
  rw [hopen, if_neg Bool.false_ne_true] at hcount
  have hpos : 0 < ((PortForward.invoked history).map (·.1)).count p := List.count_pos_iff.mpr (List.mem_map.mpr ⟨_, hmem, rfl⟩)
  omega

/-- A pair that was not complete takes a stream, and is forwarded if it is complete now. -/
theorem Forwarded.add (hf : Forwarded pairs forwards history) (hopen : (pairs p).complete = false) (pair : StreamPair) :
    Forwarded (Function.update pairs p pair) (if pair.complete then ⟨p, .starting⟩ :: forwards else forwards) history where
  count q := by
    have hcount := hf.count q
    by_cases hq : q = p
    · subst hq
      rw [hopen, if_neg Bool.false_ne_true] at hcount
      rw [Function.update_self]
      cases hcomplete : pair.complete with
      | true =>
        rw [if_pos rfl, if_pos rfl, starting_cons, if_pos ⟨rfl, rfl⟩]
        omega
      | false => exact hcount
    · rw [Function.update_of_ne hq, ← hcount]
      cases hcomplete : pair.complete with
      | true => rw [if_pos rfl, starting_cons, if_neg (fun hc => hq hc.2.symm), Nat.add_zero]
      | false => rfl
  invoked q port d hx := by
    have hq : q ≠ p := by
      rintro rfl
      exact hf.not_invoked hopen hx
    rw [Function.update_of_ne hq]
    exact hf.invoked q port d hx
  running g hg := by
    have hold : ∀ g ∈ forwards, (Function.update pairs p pair g.pair).complete = true := by
      intro g hg
      have hrunning := hf.running g hg
      rw [Function.update_of_ne]
      · exact hrunning
      · rintro rfl
        rw [hopen] at hrunning
        cases hrunning
    cases hcomplete : pair.complete with
    | true =>
      rw [hcomplete, if_pos rfl] at hg
      rcases List.mem_cons.mp hg with rfl | hg
      · rw [Function.update_self]
        exact hcomplete
      · exact hold g hg
    | false =>
      rw [hcomplete, if_neg Bool.false_ne_true] at hg
      exact hold g hg

end

/-! ### Where streams are -/

section
variable {streamChan : List Stream} {loop loop' : Loop} {pairs : Nat → StreamPair}

theorem Conserved.setLoop (hc : Conserved streamChan loop pairs history) (hloop : loop'.streams = loop.streams) :
    Conserved streamChan loop' pairs history := ⟨hc.ok, by rw [hloop]; exact hc.perm, hc.taken⟩

theorem Conserved.record (hc : Conserved streamChan loop pairs history) {e : Event} (haccepted : e.accepted? = none)
    (hassigned : e.assigned? = none) (hrefused : e.refused? = none) : Conserved streamChan loop pairs (e :: history) where
  ok := by
    rw [accepted, List.filterMap_cons_none haccepted]
    exact hc.ok
  perm := by
    rw [accepted, assigned, refused, List.filterMap_cons_none haccepted, List.filterMap_cons_none hassigned,
      List.filterMap_cons_none hrefused]
    exact hc.perm
  taken := by
    rw [assigned, List.filterMap_cons_none hassigned]
    exact hc.taken

theorem Conserved.newPair (hc : Conserved streamChan loop pairs history) (hblank : pairs p = newPortForwardPair [])
    (request : Text) : Conserved streamChan loop (Function.update pairs p (newPortForwardPair request)) history where
  ok := hc.ok
  perm := hc.perm
  taken q x := by
    rw [hc.taken]
    by_cases hq : q = p
    · subst hq
      rw [Function.update_self, hblank]
      exact Iff.rfl
    · rw [Function.update_of_ne hq]

theorem Conserved.accept (hc : Conserved streamChan loop pairs history) (hok : httpStreamReceived stream = none) :
    Conserved (streamChan ++ [stream]) loop pairs (.accepted stream :: history) where
  ok x hx := by
    rcases List.mem_cons.mp hx with rfl | hx
    · exact hok
    · exact hc.ok x hx
  perm := by
    refine List.perm_iff_count.mpr fun x => ?_
    have hcount := hc.perm.count_eq x
    simp only [accepted, assigned, refused, Event.accepted?, Event.assigned?, Event.refused?, List.filterMap_cons,
      List.count_append, List.count_cons, List.count_nil] at hcount ⊢
    omega
  taken := hc.taken

theorem Conserved.receive {rest : List Stream} (hc : Conserved (stream :: rest) .select pairs history) :
    Conserved rest (.received stream) pairs history where
  ok := hc.ok
  perm := by
    refine List.perm_iff_count.mpr fun x => ?_
    have hcount := hc.perm.count_eq x
    simp only [Loop.streams, List.count_append, List.count_cons, List.count_nil] at hcount ⊢
    omega
  taken := hc.taken

theorem Conserved.refuse (hc : Conserved streamChan (.add stream p) pairs history) (msg : Text) :
    Conserved streamChan (.failed p msg) pairs (.refused p stream :: history) where
  ok := hc.ok
  perm := by
    refine List.perm_iff_count.mpr fun x => ?_
    have hcount := hc.perm.count_eq x
    simp only [accepted, assigned, refused, Event.accepted?, Event.assigned?, Event.refused?, List.filterMap_cons, Loop.streams,
      List.count_append, List.count_cons, List.count_nil] at hcount ⊢
    omega
  taken := hc.taken

theorem Conserved.assign (hc : Conserved streamChan (.add stream p) pairs history) {pair : StreamPair}
    (hhas : ∀ x, pair.Has x ↔ x = stream ∨ (pairs p).Has x) :
    Conserved streamChan .select (Function.update pairs p pair) (.assigned p stream :: history) where
  ok := hc.ok
  perm := by
    refine List.perm_iff_count.mpr fun x => ?_
    have hcount := hc.perm.count_eq x
    simp only [accepted, assigned, refused, Event.accepted?, Event.assigned?, Event.refused?, List.filterMap_cons, Loop.streams,
      List.map_cons, List.count_append, List.count_cons, List.count_nil] at hcount ⊢
    omega
  taken q x := by
    show (q, x) ∈ (p, stream) :: assigned history ↔ _
    rw [List.mem_cons, hc.taken, Prod.mk.injEq]
    by_cases hq : q = p
    · subst hq
      rw [Function.update_self, hhas]
      simp
    · rw [Function.update_of_ne hq]
      simp [hq]

end

/-! ### Steps -/

/-- What a goroutine writes to a stream, or that it closes it, is only seen from outside. -/
theorem Paired.record (hs : Paired s) {e : Event} (hinvoked : e.invoked? = none) (haccepted : e.accepted? = none)
    (hassigned : e.assigned? = none) (hrefused : e.refused? = none) : Paired (s.record e) where
  panicked := hs.panicked
  filled := hs.filled
  mapped := hs.mapped
  forwarded := hs.forwarded.record hinvoked
  loop := hs.loop
  conserved := hs.conserved.record haccepted hassigned hrefused

theorem Paired.printError (hs : Paired s) (p : Nat) (msg : Text) : Paired (s.printError p msg) := by
  unfold System.printError
  split
  · exact hs
  · exact hs.record rfl rfl rfl rfl

theorem Paired.setLoop (hs : Paired s) {loop : Loop} (hstreams : loop.streams = s.loop.streams)
    (hholds : loop.Holds s.pairs s.nextPair) : Paired { s with loop } where
  panicked := hs.panicked
  filled := hs.filled
  mapped := hs.mapped
  forwarded := hs.forwarded
  loop := hholds
  conserved := hs.conserved.setLoop hstreams

theorem Paired.moveMonitor (hs : Paired s) {m : Monitor} (hm : m ∈ s.monitors) (phase : MonitorPhase) :
    Paired (s.moveMonitor m phase) where
  panicked := hs.panicked
  filled := hs.filled
  mapped := hs.mapped.perm (moveMonitor_pairs hm phase)
  forwarded := hs.forwarded
  loop := hs.loop
  conserved := hs.conserved

theorem Paired.remove (hs : Paired s) {m : Monitor} (hm : m ∈ s.monitors) :
    Paired ({ s with monitors := s.monitors.erase m }.removeStreamPair (s.pairs m.pair).requestID) where
  panicked := hs.panicked
  filled := hs.filled
  mapped := (hs.mapped.perm ((List.perm_cons_erase hm).map (·.pair)).symm).remove
  forwarded := hs.forwarded
  loop := hs.loop
  conserved := hs.conserved

theorem Paired.accept (hs : Paired s) (hok : httpStreamReceived stream = none) :
    Paired ({ s with streamChan := s.streamChan ++ [stream] }.record (.accepted stream)) where
  panicked := hs.panicked
  filled := hs.filled
  mapped := hs.mapped
  forwarded := hs.forwarded.record rfl
  loop := hs.loop
  conserved := hs.conserved.accept hok

theorem Paired.receive (hs : Paired s) {rest : List Stream} (hloop : s.loop = .select) (hchan : s.streamChan = stream :: rest) :
    Paired { s with loop := .received stream, streamChan := rest } where
  panicked := hs.panicked
  filled := hs.filled
  mapped := hs.mapped
  forwarded := hs.forwarded
  loop := hs.conserved.chan (hchan ▸ List.mem_cons_self)
  conserved := by
    have hconserved := hs.conserved
    rw [hloop, hchan] at hconserved
    exact hconserved.receive

theorem lookUp_known (hentry : s.streamPairs (requestID stream) = some p) :
    s.lookUp stream = { s with loop := .add stream p } := by
  rw [System.lookUp, System.getStreamPair, hentry]
  rfl

theorem lookUp_new (hnone : s.streamPairs (requestID stream) = none) :
    s.lookUp stream =
      { s with streamPairs := Function.update s.streamPairs (requestID stream) (some s.nextPair)
               pairs := Function.update s.pairs s.nextPair (newPortForwardPair (requestID stream))
               nextPair := s.nextPair + 1
               loop := .add stream s.nextPair
               monitors := ⟨s.nextPair, .waiting⟩ :: s.monitors } := by
  rw [System.lookUp, System.getStreamPair, hnone]
  rfl

theorem Paired.lookUp (hs : Paired s) (hloop : s.loop = .received stream) : Paired (s.lookUp stream) := by
  have hok : httpStreamReceived stream = none := by simpa [hloop, Loop.Holds] using hs.loop
  have hconserved := hs.conserved
  rw [hloop] at hconserved
  cases hentry : s.streamPairs (requestID stream) with
  | some p =>
    rw [lookUp_known hentry]
    obtain ⟨hrequest, hwatched⟩ := hs.mapped.entry _ _ hentry
    exact
      { panicked := hs.panicked
        filled := hs.filled
        mapped := hs.mapped
        forwarded := hs.forwarded
        loop := ⟨hok, hs.mapped.allocated p hwatched, hrequest.symm⟩
        conserved := hconserved.setLoop rfl }
  | none =>
    have hblank := hs.filled.blank s.nextPair (Nat.le_refl _)
    have hopen : (s.pairs s.nextPair).complete = false := by rw [hblank]; rfl
    rw [lookUp_new hentry]
    refine
      { panicked := hs.panicked
        filled := ⟨fun p => ?_, fun p hp => ?_⟩
        mapped := hs.mapped.insert hentry
        forwarded := hs.forwarded.add hopen (newPortForwardPair (requestID stream))
        loop := ⟨hok, Nat.lt_succ_self _, by dsimp only; rw [Function.update_self]; rfl⟩
        conserved := (hconserved.newPair hblank (requestID stream)).setLoop rfl }
    · by_cases hp : p = s.nextPair
      · subst hp
        dsimp only
        rw [Function.update_self]
        exact .new _
      · dsimp only
        rw [Function.update_of_ne hp]
        exact hs.filled.valid p
    · dsimp only
      rw [Function.update_of_ne (Nat.ne_of_gt hp)]
      exact hs.filled.blank p (Nat.le_of_succ_le hp)

theorem Paired.addStream (hs : Paired s) (hloop : s.loop = .add stream p) : Paired (s.addStream stream p) := by
  have hholds := hs.loop
  have hconserved := hs.conserved
  rw [hloop] at hholds hconserved
  obtain ⟨hok, hp, hrequest⟩ := hholds
  unfold System.addStream
  rcases (hs.filled.valid p).add hok hrequest with ⟨err, x, hadd, -⟩ | ⟨pair, hadd, hvalid, hsame, hopen, -, hhas⟩
  · rw [hadd]
    exact
      { panicked := hs.panicked
        filled := hs.filled
        mapped := hs.mapped
        forwarded := hs.forwarded.record rfl
        loop := trivial
        conserved := hconserved.refuse _ }
  · rw [hadd]
    refine
      { panicked := hs.panicked
        filled := ⟨fun q => ?_, fun q hq => ?_⟩
        mapped := hs.mapped.congr fun q => ?_
        forwarded := (hs.forwarded.add hopen pair).record rfl
        loop := trivial
        conserved := hconserved.assign hhas }
    · show (Function.update s.pairs p pair q).Valid
      by_cases hq : q = p
      · subst hq
        rw [Function.update_self]
        exact hvalid
      · rw [Function.update_of_ne hq]
        exact hs.filled.valid q
    · show Function.update s.pairs p pair q = _
      rw [Function.update_of_ne (Nat.ne_of_gt (Nat.lt_of_lt_of_le hp hq))]
      exact hs.filled.blank q hq
    · show (Function.update s.pairs p pair q).requestID = _
      by_cases hq : q = p
      · subst hq
        rw [Function.update_self, hsame]
      · rw [Function.update_of_ne hq]

theorem Paired.moveForward (hs : Paired s) {f : Forward} (hf : f ∈ s.forwards) (hphase : f.phase ≠ .starting)
    {phase : ForwardPhase} (hphase' : phase ≠ .starting) : Paired (s.moveForward f phase) where
  panicked := hs.panicked
  filled := hs.filled
  mapped := hs.mapped
  forwarded := hs.forwarded.move hf hphase hphase'
  loop := hs.loop
  conserved := hs.conserved

theorem Paired.streams (hs : Paired s) {f : Forward} (hf : f ∈ s.forwards) :
    ∃ e d, (s.pairs f.pair).errorStream = some e ∧ (s.pairs f.pair).dataStream = some d := by
  obtain ⟨herror, hdata⟩ := (hs.filled.valid f.pair).complete.mp (hs.forwarded.running f hf)
  obtain ⟨e, he⟩ := Option.ne_none_iff_exists'.mp herror
  obtain ⟨d, hd⟩ := Option.ne_none_iff_exists'.mp hdata
  exact ⟨e, d, he, hd⟩

theorem Paired.invoke (hs : Paired s) {f : Forward} (hf : f ∈ s.forwards) (hphase : f.phase = .starting) {d : Stream}
    (hd : (s.pairs f.pair).dataStream = some d) {port : Int} (hport : port = (Strconv.parseInt 2147483648 d.port).1) :
    Paired ((s.moveForward f (.forwarding port)).record (.invoked f.pair port d)) where
  panicked := hs.panicked
  filled := hs.filled
  mapped := hs.mapped
  forwarded := hs.forwarded.invoke hf hphase hd hport
  loop := hs.loop
  conserved := hs.conserved.record rfl rfl rfl

theorem Paired.closeData (hs : Paired s) {f : Forward} (hf : f ∈ s.forwards) (hphase : f.phase ≠ .starting) (d : Stream) :
    Paired ({ s with forwards := s.forwards.erase f }.record (.closed d)) where
  panicked := hs.panicked
  filled := hs.filled
  mapped := hs.mapped
  forwarded := (hs.forwarded.erase hf hphase).record rfl
  loop := hs.loop
  conserved := hs.conserved.record rfl rfl rfl

/-- What a step does to the system; `missing` is the panic of a goroutine that forwards a pair without one of its streams. -/
inductive Effect (h : Handler) (s : System) : Step → System → Prop where
  | none (step : Step) : Effect h s step s
  | arrive {stream : Stream} (hok : httpStreamReceived stream = none) :
    Effect h s (.arrive stream) ({ s with streamChan := s.streamChan ++ [stream] }.record (.accepted stream))
  | closeConn (hloop : s.loop = .select) : Effect h s .closeConn { s with loop := .done }
  | receive {stream : Stream} {rest : List Stream} (hloop : s.loop = .select) (hchan : s.streamChan = stream :: rest) :
    Effect h s .receive { s with loop := .received stream, streamChan := rest }
  | getStreamPair {stream : Stream} (hloop : s.loop = .received stream) : Effect h s .getStreamPair (s.lookUp stream)
  | add {stream : Stream} {p : Nat} (hloop : s.loop = .add stream p) : Effect h s .add (s.addStream stream p)
  | printError {p : Nat} {msg : Text} (hloop : s.loop = .failed p msg) :
    Effect h s .printError { s.printError p msg with loop := .select }
  | timeout {m : Monitor} (hm : m ∈ s.monitors) : Effect h s (.timeout m) (s.moveMonitor m .timedOut)
  | printTimeout {m : Monitor} (hm : m ∈ s.monitors) (hphase : m.phase = .timedOut) (msg : Text) :
    Effect h s (.printTimeout m) ((s.moveMonitor m .leaving).printError m.pair msg)
  | complete {m : Monitor} (hm : m ∈ s.monitors) (hcomplete : (s.pairs m.pair).complete = true) :
    Effect h s (.complete m) (s.moveMonitor m .leaving)
  | remove {m : Monitor} (hm : m ∈ s.monitors) (hphase : m.phase = .leaving) :
    Effect h s (.remove m) ({ s with monitors := s.monitors.erase m }.removeStreamPair (s.pairs m.pair).requestID)
  | invoke {f : Forward} {d : Stream} {port : Int} (hf : f ∈ s.forwards) (hphase : f.phase = .starting)
    (hd : (s.pairs f.pair).dataStream = some d) (hport : port = (Strconv.parseInt 2147483648 d.port).1) :
    Effect h s (.invoke f) ((s.moveForward f (.forwarding port)).record (.invoked f.pair port d))
  | forwarded {f : Forward} (hf : f ∈ s.forwards) (hphase : f.phase ≠ .starting) :
    Effect h s (.forwarded f Option.none) (s.moveForward f .closingError)
  | failed {f : Forward} (hf : f ∈ s.forwards) (hphase : f.phase ≠ .starting) (err : GoError) (e : Stream) (msg : Text) :
    Effect h s (.forwarded f (some err)) ((s.moveForward f .closingError).record (.wrote e msg))
  | closeError {f : Forward} (hf : f ∈ s.forwards) (hphase : f.phase ≠ .starting) (e : Stream) :
    Effect h s (.closeError f) ((s.moveForward f .closingData).record (.closed e))
  | closeData {f : Forward} (hf : f ∈ s.forwards) (hphase : f.phase ≠ .starting) (d : Stream) :
    Effect h s (.closeData f) ({ s with forwards := s.forwards.erase f }.record (.closed d))
  | missing {f : Forward} (step : Step) (hf : f ∈ s.forwards)
    (hnone : (s.pairs f.pair).errorStream = Option.none ∨ (s.pairs f.pair).dataStream = Option.none) :
    Effect h s step { s with panicked := true }

theorem Effect.ite {step : Step} {s' : System} {c : Prop} [Decidable c] (hc : c → Effect h s step s') :
    Effect h s step (if c then s' else s) := by
  split
  · exact hc ‹c›
  · exact .none step

theorem invokeForwarder_effect {f : Forward} (hf : f ∈ s.forwards) (hphase : f.phase = .starting) :
    Effect h s (.invoke f) (s.invokeForwarder f) := by
  unfold System.invokeForwarder
  split
  · rename_i hnone
    exact .missing _ hf (.inr hnone)
  · rename_i hd
    exact .invoke hf hphase hd rfl

theorem forwarderReturns_effect {f : Forward} (hf : f ∈ s.forwards) (hphase : f.phase ≠ .starting) (port : Int)
    (err : Option GoError) : Effect h s (.forwarded f err) (s.forwarderReturns h f port err) := by
  unfold System.forwarderReturns
  split
  · exact .forwarded hf hphase
  · rename_i hnone
    exact .missing _ hf (.inl hnone)
  · exact .failed hf hphase _ _ _

theorem closeError_effect (f : Forward) : Effect h s (.closeError f) ((Step.closeError f).run h s) := by
  rw [Step.run]
  split
  · exact .ite fun hf => .closeError hf.1 (by rw [hf.2]; nofun) _
  · rename_i hnone
    exact .ite fun hf => .missing _ hf.1 (.inl hnone)

theorem closeData_effect (f : Forward) : Effect h s (.closeData f) ((Step.closeData f).run h s) := by
  rw [Step.run]
  split
  · exact .ite fun hf => .closeData hf.1 (by rw [hf.2]; nofun) _
  · rename_i hnone
    exact .ite fun hf => .missing _ hf.1 (.inr hnone)

theorem Step.effect (h : Handler) (step : Step) (s : System) : Effect h s step (step.run h s) := by
  cases step with
  | arrive stream => exact .ite fun hroom => .arrive hroom.1
  | closeConn => exact .ite .closeConn
  | receive =>
    rw [Step.run]
    split
    · exact .receive ‹_› ‹_›
    · exact .none _
  | getStreamPair =>
    rw [Step.run]
    split
    · exact .getStreamPair ‹_›
    · exact .none _
  | add =>
    rw [Step.run]
    split
    · exact .add ‹_›
    · exact .none _
  | printError =>
    rw [Step.run]
    split
    · exact .printError ‹_›
    · exact .none _
  | timeout m => exact .ite fun hm => .timeout hm.1
  | printTimeout m => exact .ite fun hm => .printTimeout hm.1 hm.2 _
  | complete m => exact .ite fun hm => .complete hm.1 hm.2.2
  | remove m => exact .ite fun hm => .remove hm.1 hm.2
  | invoke f => exact .ite fun hf => invokeForwarder_effect hf.1 hf.2
  | forwarded f err =>
    rw [Step.run]
    split
    · rename_i port hphase
      exact .ite fun hf => forwarderReturns_effect hf (by rw [hphase]; nofun) port err
    · exact .none _
  | closeError f => exact closeError_effect f
  | closeData f => exact closeData_effect f

theorem Paired.afterError (hs : Paired s) {msg : Text} (hloop : s.loop = .failed p msg) :
    Paired { s.printError p msg with loop := .select } := by
  refine (hs.printError p msg).setLoop ?_ trivial
  have hsame : (s.printError p msg).loop = s.loop := by
    unfold System.printError
    split <;> rfl
  rw [hsame, hloop]
  rfl

theorem Paired.effect (hs : Paired s) {step : Step} {s' : System} (heffect : Effect h s step s') : Paired s' := by
  cases heffect with
  | none => exact hs
  | arrive hok => exact hs.accept hok
  | closeConn hloop => exact hs.setLoop (by rw [hloop]; rfl) trivial
  | receive hloop hchan => exact hs.receive hloop hchan
  | getStreamPair hloop => exact hs.lookUp hloop
  | add hloop => exact hs.addStream hloop
  | printError hloop => exact hs.afterError hloop
  | timeout hm => exact hs.moveMonitor hm .timedOut
  | printTimeout hm _ msg => exact (hs.moveMonitor hm .leaving).printError _ msg
  | complete hm => exact hs.moveMonitor hm .leaving
  | remove hm => exact hs.remove hm
  | invoke hf hphase hd hport => exact hs.invoke hf hphase hd hport
  | forwarded hf hphase => exact hs.moveForward hf hphase nofun
  | failed hf hphase err e msg =>
    have hmoved : Paired (s.moveForward _ .closingError) := hs.moveForward hf hphase nofun
    exact hmoved.record rfl rfl rfl rfl
  | closeError hf hphase e =>
    have hmoved : Paired (s.moveForward _ .closingData) := hs.moveForward hf hphase nofun
    exact hmoved.record rfl rfl rfl rfl
  | closeData hf hphase d => exact hs.closeData hf hphase d
  | missing _ hf hnone =>
    obtain ⟨e, d, he, hd⟩ := hs.streams hf
    rw [he, hd] at hnone
    exact hnone.elim nofun nofun

theorem Paired.step (hs : Paired s) (step : Step) : Paired (step.run h s) := hs.effect (step.effect h s)

theorem Paired.runAll (hs : Paired s) (steps : List Step) : Paired (runAll h steps s) := by
  induction steps generalizing s with
  | nil => exact hs
  | cons step steps ih =>
    rw [PortForward.runAll, hs.panicked, if_neg Bool.false_ne_true]
    exact ih (hs.step step)

/-- What holds whenever the goroutines have made some steps. -/
structure Safe (s : System) : Prop where
  /-- No goroutine panics: no channel is closed twice, and no stream is missing where one is used. -/
  panicked : s.panicked = false
  /-- The pair that a monitor takes out of the map is its own. -/
  monitored : ∀ m ∈ s.monitors, s.streamPairs (s.pairs m.pair).requestID = some m.pair
  /-- An entry of the map has one monitor. -/
  entry : ∀ id p, s.streamPairs id = some p → (s.pairs p).requestID = id ∧ (s.monitors.map (·.pair)).count p = 1
  /-- No pair is forwarded twice. -/
  once : ((invoked s.history).map (·.1)).Nodup
  /-- A pair is forwarded with its data stream and the port that this asks for; its two streams are of one request. -/
  forwarded : ∀ p port d, (p, port, d) ∈ invoked s.history → ∃ e, (p, d) ∈ assigned s.history ∧ (p, e) ∈ assigned s.history ∧
    d.streamType = streamTypeData ∧ e.streamType = streamTypeError ∧ requestID d = requestID e ∧
    Strconv.parseUint 65535 d.port = .ok port.toNat ∧ 1 ≤ port ∧ port ≤ 65535
  /-- No stream is lost and none is used twice. -/
  conserved : (accepted s.history).Perm
    (s.streamChan ++ s.loop.streams ++ refused s.history ++ (assigned s.history).map (·.2))

theorem Paired.once (hs : Paired s) : ((invoked s.history).map (·.1)).Nodup := by
  refine List.nodup_iff_count_le_one.mpr fun p => ?_
  have hcount := hs.forwarded.count p
  split at hcount <;> omega

theorem Paired.invoked_streams (hs : Paired s) {port : Int} {d : Stream} (hx : (p, port, d) ∈ invoked s.history) :
    ∃ e, (p, d) ∈ assigned s.history ∧ (p, e) ∈ assigned s.history ∧ Fits d streamTypeData (s.pairs p).requestID ∧
      Fits e streamTypeError (s.pairs p).requestID := by
  have hcomplete : (s.pairs p).complete = true := by
    by_contra hopen
    exact hs.forwarded.not_invoked (Bool.eq_false_iff.mpr hopen) hx
  obtain ⟨e, he⟩ := Option.ne_none_iff_exists'.mp ((hs.filled.valid p).complete.mp hcomplete).1
  have hd := (hs.forwarded.invoked p port d hx).1
  exact ⟨e, (hs.conserved.taken p d).mpr (Or.inl hd), (hs.conserved.taken p e).mpr (Or.inr he), (hs.filled.valid p).data d hd,
    (hs.filled.valid p).error e he⟩

theorem Paired.safe (hs : Paired s) : Safe s where
  panicked := hs.panicked
  monitored m hm := hs.mapped.monitored m.pair (List.mem_map.mpr ⟨m, hm, rfl⟩)
  entry id p hp := by
    obtain ⟨hrequest, hwatched⟩ := hs.mapped.entry id p hp
    exact ⟨hrequest, List.count_eq_one_of_mem hs.mapped.nodup hwatched⟩
  once := hs.once
  forwarded p port d hx := by
    obtain ⟨e, hd, he, hdata, herror⟩ := hs.invoked_streams hx
    obtain ⟨n, hport, hpos, hmax, hint⟩ := port_of_accepted hdata.accepted
    obtain rfl : port = n := (hs.forwarded.invoked p port d hx).2.trans (congrArg Prod.fst hint)
    exact ⟨e, hd, he, hdata.streamType, herror.streamType, hdata.request.trans herror.request.symm, hport, by omega, by omega⟩
  conserved := hs.conserved.perm

/-- In every order of the steps of the main loop, of the monitors, of the forwarding goroutines and of the client. -/
theorem runAll_safe (h : Handler) (steps : List Step) : Safe (runAll h steps System.initial) :=
  (Paired.initial.runAll steps).safe

end CriDockerd.Streaming.PortForward
