import Mathlib.Data.List.Nodup
import Mathlib.Data.List.Perm.Subperm
import CriDockerd.Streaming.RemoteCommand

/-! The streams of a session over all orders of the steps. The loop counts replies: it returns as soon as the replies to as many
    streams as are expected have been sent. If the client opens one stream of each type that it asked for, these are all of them;
    the count does not tell that they are, and a session may start that has no stream for its status. -/

namespace CriDockerd.Streaming.RemoteCommand

variable {h : Handler} {expected : Nat} {opened : List Stream} {sys : System}

/-! ### Streams and their types -/

def Context.get (ctx : Context) : StreamType → Option Stream
  | .error => ctx.writeStatus.map (·.2)
  | .stdin => ctx.stdinStream
  | .stdout => ctx.stdoutStream
  | .stderr => ctx.stderrStream
  | .resize => ctx.resizeStream

@[simp] theorem Context.get_set_self (h : Handler) (ctx : Context) (stream : Stream) (t : StreamType) :
    (ctx.set h stream t).get t = some stream := by
  cases t <;> rfl

@[simp] theorem Context.get_set_of_ne (h : Handler) (ctx : Context) (stream : Stream) {t t' : StreamType} (hne : t ≠ t') :
    (ctx.set h stream t).get t' = ctx.get t' := by
  cases t <;> cases t' <;> first | rfl | exact absurd rfl hne

def StreamType.header : StreamType → Text
  | .error => "error"
  | .stdin => "stdin"
  | .stdout => "stdout"
  | .stderr => "stderr"
  | .resize => "resize"

theorem header_injective : Function.Injective StreamType.header := by
  intro t t' heq
  cases t <;> cases t' <;> first | rfl | exact absurd heq (by decide)

theorem eq_header_of_typeOf {streamType : Text} {t : StreamType} (ht : h.typeOf streamType = some t) : streamType = t.header := by
  unfold Handler.typeOf at ht
  repeat' split at ht
  all_goals cases ht
  all_goals first | assumption | exact And.right ‹_›

/-- A stream of a type that the handler knows. -/
def Handler.known (h : Handler) (s : Stream) : Bool := (h.typeOf s.streamType).isSome

/-- The types of the streams that a client asks for. -/
def requested (opts : Options) (h : Handler) : List StreamType :=
  .error :: ((if opts.stdin then [.stdin] else []) ++ (if opts.stdout then [.stdout] else []) ++
    (if opts.stderr then [.stderr] else []) ++ if opts.tty && h.supportsTerminalResizing then [.resize] else [])

theorem length_requested (opts : Options) (h : Handler) : (requested opts h).length = expectedStreams opts h := by
  simp only [requested, expectedStreams, List.length_cons, List.length_append, apply_ite List.length, List.length_nil, Nat.zero_add]
  omega

def Step.opens : Step → List Stream
  | .stream s => [s]
  | .replySent _ => []
  | .wake _ => []
  | .stop _ => []
  | .reply _ => []
  | .expired => []

def streamsOf (steps : List Step) : List Stream := steps.flatMap Step.opens

/-! ### The invariant -/

/-- The streams that the loop has taken; each has a goroutine. -/
def System.taken (sys : System) : List Stream := sys.waiting ++ sys.notifying ++ sys.notified ++ sys.stopped

/-- What holds of the loop and its goroutines, when the client has opened the streams `opened`. -/
structure Waits (h : Handler) (expected : Nat) (opened : List Stream) (sys : System) : Prop where
  count : sys.receivedStreams = sys.notified.length
  running : sys.result = none → sys.receivedStreams < expected ∧ sys.stopped = []
  returned : ∀ ctx, sys.result = some (.ok ctx) → sys.receivedStreams = expected ∧ ctx = sys.ctx
  replied : ∀ s, s ∈ sys.notifying ∨ s ∈ sys.notified → s ∈ sys.replySent
  subperm : sys.taken.Subperm opened
  all : sys.result = none → sys.taken.Perm (opened.filter h.known)
  typed : ∀ s ∈ sys.taken, ∃ t, h.typeOf s.streamType = some t ∧ sys.ctx.get t ≠ none
  held : ∀ t s, sys.ctx.get t = some s → s ∈ sys.taken ∧ h.typeOf s.streamType = some t

theorem waits_start (hexpected : 0 < expected) : Waits h expected [] {} where
  count := rfl
  running _ := ⟨hexpected, rfl⟩
  returned _ hctx := nomatch hctx
  replied s hs := by simp at hs
  subperm := List.Subperm.refl []
  all _ := List.Perm.refl []
  typed s hs := by simp [System.taken] at hs
  held t s hs := by cases t <;> cases hs

section
variable {s : Stream}

theorem Waits.open_unknown (w : Waits h expected opened sys) (hs : sys.result = none → h.known s = false) :
    Waits h expected (opened ++ [s]) sys :=
  { w with
    subperm := w.subperm.trans (List.sublist_append_left opened [s]).subperm
    all := fun hrun => by rw [List.filter_append, List.filter_singleton, hs hrun]; simpa using w.all hrun }

theorem Waits.receive (w : Waits h expected opened sys) (hrun : sys.result = none) :
    Waits h expected (opened ++ [s]) (sys.receive h s) := by
  unfold System.receive
  split
  · rename_i hnone
    exact w.open_unknown fun _ => by rw [Handler.known, hnone, Option.isSome_none]
  · rename_i t ht
    have hknown : h.known s = true := by rw [Handler.known, ht, Option.isSome_some]
    exact
      { count := w.count
        running := w.running
        returned := fun ctx hctx => absurd (hrun.symm.trans hctx) nofun
        replied := w.replied
        subperm := ((List.subperm_cons s).mpr w.subperm).trans (List.perm_append_singleton s opened).symm.subperm
        all := by
          intro _
          rw [List.filter_append, List.filter_singleton, hknown]
          exact ((w.all hrun).cons s).trans (List.perm_append_singleton s _).symm
        typed := by
          intro r hr
          rcases List.mem_cons.mp hr with rfl | hr
          · exact ⟨t, ht, by simp⟩
          · obtain ⟨t', ht', hget⟩ := w.typed r hr
            refine ⟨t', ht', ?_⟩
            by_cases hne : t = t'
            · subst hne
              simp
            · rwa [Context.get_set_of_ne h sys.ctx s hne]
        held := by
          intro t' r hr
          by_cases hne : t = t'
          · subst hne
            rw [Context.get_set_self, Option.some.injEq] at hr
            subst hr
            exact ⟨List.mem_cons_self, ht⟩
          · rw [Context.get_set_of_ne h sys.ctx s hne] at hr
            obtain ⟨hmem, htype⟩ := w.held t' r hr
            exact ⟨List.mem_cons_of_mem s hmem, htype⟩ }

theorem Waits.moved {sys' : System} (w : Waits h expected opened sys) (htaken : sys'.taken.Perm sys.taken) (hctx : sys'.ctx = sys.ctx)
    (hcount : sys'.receivedStreams = sys'.notified.length)
    (hrunning : sys'.result = none → sys'.receivedStreams < expected ∧ sys'.stopped = [])
    (hreturned : ∀ ctx, sys'.result = some (.ok ctx) → sys'.receivedStreams = expected ∧ ctx = sys'.ctx)
    (hreplied : ∀ s, s ∈ sys'.notifying ∨ s ∈ sys'.notified → s ∈ sys'.replySent)
    (hresult : sys'.result = none → sys.result = none) : Waits h expected opened sys' where
  count := hcount
  running := hrunning
  returned := hreturned
  replied := hreplied
  subperm := htaken.subperm.trans w.subperm
  all hrun := htaken.trans (w.all (hresult hrun))
  typed s hs := hctx ▸ w.typed s (htaken.subset hs)
  held t s hs := by
    obtain ⟨hmem, htype⟩ := w.held t s (hctx ▸ hs)
    exact ⟨htaken.symm.subset hmem, htype⟩

def System.wake (sys : System) (s : Stream) : System :=
  { sys with waiting := sys.waiting.erase s, notifying := s :: sys.notifying }

theorem taken_wake (hs : s ∈ sys.waiting) : (sys.wake s).taken.Perm sys.taken := by
  have hmove : (sys.waiting.erase s ++ s :: sys.notifying).Perm (sys.waiting ++ sys.notifying) :=
    List.perm_middle.trans ((List.perm_cons_erase hs).symm.append_right sys.notifying)
  exact (hmove.append_right sys.notified).append_right sys.stopped

theorem Waits.wake (w : Waits h expected opened sys) (hs : s ∈ sys.waiting) (hreply : s ∈ sys.replySent) :
    Waits h expected opened (sys.wake s) := by
  refine w.moved (taken_wake hs) rfl w.count w.running w.returned ?_ id
  rintro r (hr | hr)
  · rcases List.mem_cons.mp hr with rfl | hr
    · exact hreply
    · exact w.replied r (.inl hr)
  · exact w.replied r (.inr hr)

theorem Waits.stop (w : Waits h expected opened sys) (hs : s ∈ sys.waiting) (hrun : sys.result ≠ none) :
    Waits h expected opened { sys with waiting := sys.waiting.erase s, stopped := s :: sys.stopped } := by
  refine w.moved ?_ rfl w.count (fun hnone => absurd hnone hrun) w.returned w.replied id
  exact List.perm_middle.trans
    ((((List.perm_cons_erase hs).symm.append_right sys.notifying).append_right sys.notified).append_right sys.stopped)

theorem Waits.finish (w : Waits h expected opened sys) (err : GoError) : Waits h expected opened (sys.finish (.error err)) :=
  w.moved (List.Perm.refl _) rfl w.count nofun (fun _ hctx => by cases hctx) w.replied nofun

theorem taken_receiveReply (hs : s ∈ sys.notifying) : (sys.receiveReply h expected s).taken.Perm sys.taken := by
  have hpair : (sys.notifying.erase s ++ s :: sys.notified).Perm (sys.notifying ++ sys.notified) :=
    List.perm_middle.trans ((List.perm_cons_erase hs).symm.append_right sys.notified)
  have hmove : (sys.waiting ++ sys.notifying.erase s ++ s :: sys.notified ++ sys.stopped).Perm sys.taken := by
    simpa only [System.taken, List.append_assoc] using (hpair.append_left sys.waiting).append_right sys.stopped
  unfold System.receiveReply
  dsimp only
  split <;> exact hmove

theorem receiveReply_cases :
    (sys.receivedStreams + 1 = expected ∧ (sys.receiveReply h expected s).result = some (.ok sys.ctx)) ∨
    (sys.receivedStreams + 1 ≠ expected ∧ (sys.receiveReply h expected s).result = sys.result) := by
  unfold System.receiveReply
  dsimp only
  split
  · rename_i hall
    exact .inl ⟨hall, rfl⟩
  · rename_i hmore
    exact .inr ⟨hmore, rfl⟩

theorem receiveReply_fields :
    (sys.receiveReply h expected s).ctx = sys.ctx ∧
      (sys.receiveReply h expected s).receivedStreams = sys.receivedStreams + 1 ∧
      (sys.receiveReply h expected s).notifying = sys.notifying.erase s ∧
      (sys.receiveReply h expected s).notified = s :: sys.notified ∧
      (sys.receiveReply h expected s).stopped = sys.stopped ∧
      (sys.receiveReply h expected s).replySent = sys.replySent := by
  unfold System.receiveReply
  dsimp only
  split <;> exact ⟨rfl, rfl, rfl, rfl, rfl, rfl⟩

theorem Waits.receiveReply (w : Waits h expected opened sys) (hs : s ∈ sys.notifying) (hrun : sys.result = none) :
    Waits h expected opened (sys.receiveReply h expected s) := by
  obtain ⟨hctx, hreceived, hnotifying, hnotified, hstopped, hsent⟩ := @receiveReply_fields h expected sys s
  obtain ⟨hlt, hnostop⟩ := w.running hrun
  refine w.moved (taken_receiveReply hs) hctx ?_ ?_ ?_ ?_ fun _ => hrun
  · rw [hreceived, hnotified, w.count, List.length_cons]
  · intro hnone
    rcases @receiveReply_cases h expected sys s with ⟨-, hresult⟩ | ⟨hmore, -⟩
    · exact absurd (hnone.symm.trans hresult) nofun
    · rw [hreceived, hstopped]
      exact ⟨by omega, hnostop⟩
  · intro ctx hok
    rcases @receiveReply_cases h expected sys s with ⟨hall, hresult⟩ | ⟨-, hresult⟩
    · rw [hresult, Option.some.injEq, Except.ok.injEq] at hok
      exact ⟨hreceived.trans hall, hok.symm.trans hctx.symm⟩
    · exact absurd (hrun.symm.trans (hresult.symm.trans hok)) nofun
  · rw [hnotifying, hnotified, hsent]
    rintro r (hr | hr)
    · exact w.replied r (.inl (List.mem_of_mem_erase hr))
    · rcases List.mem_cons.mp hr with rfl | hr
      · exact w.replied r (.inl hs)
      · exact w.replied r (.inr hr)

theorem Waits.step (w : Waits h expected opened sys) (step : Step) :
    Waits h expected (opened ++ step.opens) (step.run h expected sys) := by
  cases step with
  | stream s =>
    rw [Step.run]
    split
    · rename_i hrun
      exact w.receive hrun
    · rename_i hrun
      exact w.open_unknown fun hnone => absurd hnone hrun
  | replySent s =>
    rw [Step.opens, List.append_nil]
    exact w.moved (List.Perm.refl _) rfl w.count w.running w.returned
      (fun r hr => List.mem_cons_of_mem s (w.replied r hr)) id
  | wake s =>
    rw [Step.opens, List.append_nil, Step.run]
    split
    · rename_i hs
      exact w.wake hs.1 hs.2
    · exact w
  | stop s =>
    rw [Step.opens, List.append_nil, Step.run]
    split
    · rename_i hs
      exact w.stop hs.1 hs.2
    · exact w
  | reply s =>
    rw [Step.opens, List.append_nil, Step.run]
    split
    · rename_i hs
      exact w.receiveReply hs.1 hs.2
    · exact w
  | expired =>
    rw [Step.opens, List.append_nil, Step.run]
    split
    · exact w.finish errTimedOut
    · exact w

end

theorem Waits.steps (w : Waits h expected opened sys) (steps : List Step) :
    Waits h expected (opened ++ streamsOf steps) (steps.foldl (fun sys step => step.run h expected sys) sys) := by
  induction steps generalizing opened sys with
  | nil => rwa [streamsOf, List.flatMap_nil, List.append_nil]
  | cons step steps ih =>
    rw [streamsOf, List.flatMap_cons, ← List.append_assoc]
    exact ih (w.step step)

theorem waitForStreams_waits (hexpected : 0 < expected) (steps : List Step) :
    Waits h expected (streamsOf steps) (waitForStreams h expected steps) :=
  (waits_start hexpected).steps steps

/-! ### Sessions -/

theorem expectedStreams_pos (opts : Options) : 0 < expectedStreams opts h := by
  rw [← length_requested]
  exact Nat.succ_pos _

def Step.replies : Step → List Stream
  | .stream _ => []
  | .replySent s => [s]
  | .wake _ => []
  | .stop _ => []
  | .reply _ => []
  | .expired => []

theorem Step.run_replySent (step : Step) : (step.run h expected sys).replySent = step.replies ++ sys.replySent := by
  cases step <;> rw [Step.run]
  case stream s =>
    split
    · unfold System.receive
      split <;> rfl
    · rfl
  case reply s =>
    split
    · exact receiveReply_fields.2.2.2.2.2
    · rfl
  all_goals first | rfl | (split <;> rfl)

theorem foldl_run_replySent {s : Stream} {steps : List Step}
    (hs : s ∈ (steps.foldl (fun sys step => step.run h expected sys) sys).replySent) :
    Step.replySent s ∈ steps ∨ s ∈ sys.replySent := by
  induction steps generalizing sys with
  | nil => exact .inr hs
  | cons step steps ih =>
    rcases ih hs with hmem | hmem
    · exact .inl (List.mem_cons_of_mem step hmem)
    · rw [Step.run_replySent, List.mem_append] at hmem
      refine hmem.imp_left fun hmem => ?_
      cases step <;> simp only [Step.replies, List.mem_singleton, List.not_mem_nil] at hmem
      subst hmem
      exact List.mem_cons_self

theorem replySent_mem {s : Stream} (steps : List Step) (hs : s ∈ (waitForStreams h expected steps).replySent) :
    Step.replySent s ∈ steps := (foldl_run_replySent hs).resolve_right List.not_mem_nil

theorem mem_taken {s : Stream} :
    s ∈ sys.taken ↔ s ∈ sys.waiting ∨ s ∈ sys.notifying ∨ s ∈ sys.notified ∨ s ∈ sys.stopped := by
  simp only [System.taken, List.mem_append, or_assoc]

/-- If the client opens one stream of each type that it asks for, a loop that returns has taken them all, and has heard of each
    of them. -/
theorem Waits.all_taken {opts : Options} {ctx : Context} (w : Waits h (expectedStreams opts h) opened sys)
    (hok : sys.result = some (.ok ctx)) (hnodup : (opened.map (·.streamType)).Nodup)
    (htypes : ∀ s ∈ opened, ∃ t ∈ requested opts h, h.typeOf s.streamType = some t) :
    (∀ t ∈ requested opts h, ∃ s ∈ sys.notified, ctx.get t = some s) ∧ sys.waiting = [] ∧ sys.notifying = [] := by
  obtain ⟨hreceived, rfl⟩ := w.returned ctx hok
  have hnotified : sys.notified.length = (requested opts h).length := by rw [← w.count, hreceived, length_requested]
  have hheaders : (sys.taken.map (·.streamType)).Subperm ((requested opts h).map StreamType.header) := by
    apply List.Nodup.subperm
    · obtain ⟨l, hperm, hsub⟩ := w.subperm
      exact (hperm.map _).nodup_iff.mp (hnodup.sublist (hsub.map _))
    · intro header hmem
      obtain ⟨s, hs, rfl⟩ := List.mem_map.mp hmem
      obtain ⟨t, ht, htype⟩ := htypes s (w.subperm.subset hs)
      rw [eq_header_of_typeOf htype]
      exact List.mem_map_of_mem ht
  have hlength : sys.taken.length = (requested opts h).length := by
    have hle := hheaders.length_le
    rw [List.length_map, List.length_map] at hle
    simp only [System.taken, List.length_append] at hle ⊢
    omega
  have hnone : sys.waiting = [] ∧ sys.notifying = [] ∧ sys.stopped = [] := by
    simp only [System.taken, List.length_append] at hlength
    refine ⟨?_, ?_, ?_⟩ <;> apply List.eq_nil_of_length_eq_zero <;> omega
  obtain ⟨hwaiting, hnotifying, hstopped⟩ := hnone
  refine ⟨?_, hwaiting, hnotifying⟩
  intro t ht
  have hperm := hheaders.perm_of_length_le (by rw [List.length_map, List.length_map, hlength])
  obtain ⟨s, hs, hheader⟩ := List.mem_map.mp (hperm.symm.subset (List.mem_map_of_mem ht))
  obtain ⟨t', htype, hget⟩ := w.typed s hs
  obtain rfl : t = t' := header_injective (hheader.symm.trans (eq_header_of_typeOf htype))
  obtain ⟨r, hr⟩ := Option.ne_none_iff_exists'.mp hget
  refine ⟨r, ?_, hr⟩
  have hmem := (w.held t r hr).1
  rw [mem_taken, hwaiting, hnotifying, hstopped] at hmem
  simpa using hmem

/-- A session that starts has heard of as many streams as are expected, and holds streams that the client opened, each under its
    type. If the client opens at most one stream of each type that it asks for, and no others, the session holds all of them,
    no goroutine is left behind, and the status of the command finds its stream. -/
theorem waitForStreams_session (opts : Options) (steps : List Step) {ctx : Context}
    (hok : (waitForStreams h (expectedStreams opts h) steps).result = some (.ok ctx)) :
    (∃ replied : List Stream, replied.length = expectedStreams opts h ∧ replied.Subperm (streamsOf steps) ∧
      ∀ s ∈ replied, h.typeOf s.streamType ≠ none ∧ Step.replySent s ∈ steps) ∧
    (∀ t s, ctx.get t = some s → s ∈ streamsOf steps ∧ h.typeOf s.streamType = some t) ∧
    (((streamsOf steps).map (·.streamType)).Nodup →
      (∀ s ∈ streamsOf steps, ∃ t ∈ requested opts h, h.typeOf s.streamType = some t) →
      (∀ t ∈ requested opts h, ∃ s, ctx.get t = some s ∧ Step.replySent s ∈ steps) ∧
        (waitForStreams h (expectedStreams opts h) steps).waiting = [] ∧
        (waitForStreams h (expectedStreams opts h) steps).notifying = [] ∧
        ∀ exec, serveExec ctx exec ≠ .panic) := by
  have w := @waitForStreams_waits h (expectedStreams opts h) (expectedStreams_pos opts) steps
  have hsent := fun s => @replySent_mem h (expectedStreams opts h) s steps
  generalize waitForStreams h (expectedStreams opts h) steps = sys at hok w hsent ⊢
  obtain ⟨hreceived, hctx⟩ := w.returned ctx hok
  refine ⟨⟨sys.notified, w.count ▸ hreceived, ?_, ?_⟩, ?_, ?_⟩
  · have hsub : sys.notified.Sublist sys.taken :=
      (List.sublist_append_right _ sys.notified).trans (List.sublist_append_left _ sys.stopped)
    exact hsub.subperm.trans w.subperm
  · intro s hs
    obtain ⟨t, ht, -⟩ := w.typed s (mem_taken.mpr (.inr (.inr (.inl hs))))
    exact ⟨by rw [ht]; exact nofun, hsent s (w.replied s (.inr hs))⟩
  · intro t s hget
    obtain ⟨hmem, htype⟩ := w.held t s (hctx ▸ hget)
    exact ⟨w.subperm.subset hmem, htype⟩
  · intro hnodup htypes
    obtain ⟨hall, hwaiting, hnotifying⟩ := w.all_taken hok hnodup htypes
    refine ⟨?_, hwaiting, hnotifying, ?_⟩
    · intro t ht
      obtain ⟨s, hs, hget⟩ := hall t ht
      exact ⟨s, hget, hsent s (w.replied s (.inr hs))⟩
    · intro exec
      obtain ⟨s, -, hget⟩ := hall .error List.mem_cons_self
      obtain ⟨status, hstatus, -⟩ := Option.map_eq_some_iff.mp hget
      rw [serveExec, hstatus]
      exact nofun

/-- A client that asks for stdin opens its two streams, and the replies are sent in the other order. -/
def stdinSteps : List Step :=
  let input : Stream := ⟨1, "stdin"⟩
  let error : Stream := ⟨3, "error"⟩
  [.stream input, .stream error, .replySent error, .wake error, .replySent input, .reply error, .wake input, .reply input]

theorem waitForStreams_session_stdin :
    ∃ s, Context.get
        { stdinStream := some ⟨1, "stdin"⟩, writeStatus := some (.v4, ⟨3, "error"⟩) } .stdin = some s ∧
        Step.replySent s ∈ stdinSteps :=
  ((@waitForStreams_session .v4 ⟨true, false, false, false⟩ stdinSteps
    { stdinStream := some ⟨1, "stdin"⟩, writeStatus := some (.v4, ⟨3, "error"⟩) } (by decide)).2.2
    (by decide) (by decide)).1 .stdin (by decide)

/-! ### Enough streams -/

/-- A step that needs nothing from the client: the reply to one of its streams is sent, found sent or counted. -/
def Step.Answers (streams : List Stream) (step : Step) : Prop :=
  ∃ s ∈ streams, step = .replySent s ∨ step = .wake s ∨ step = .reply s

/-- From one state to another one more reply is counted, and the loop goes on or returns. -/
structure Counted (h : Handler) (expected : Nat) (opened : List Stream) (sys sys' : System) : Prop where
  waits : Waits h expected opened sys'
  ctx : sys'.ctx = sys.ctx
  received : sys'.receivedStreams = sys.receivedStreams + 1
  taken : sys'.taken.length = sys.taken.length
  result : sys'.result = some (.ok sys.ctx) ∨ sys'.result = none

theorem Waits.counted (w : Waits h expected opened sys) (hrun : sys.result = none) {s : Stream} (hs : s ∈ sys.notifying) :
    Counted h expected opened sys (Step.run h expected (.reply s) sys) := by
  rw [Step.run, if_pos ⟨hs, hrun⟩]
  refine ⟨w.receiveReply hs hrun, receiveReply_fields.1, receiveReply_fields.2.1, (taken_receiveReply hs).length_eq, ?_⟩
  rcases @receiveReply_cases h expected sys s with ⟨-, hresult⟩ | ⟨-, hresult⟩
  · exact .inl hresult
  · exact .inr (hresult.trans hrun)

theorem Waits.advance (w : Waits h expected opened sys) (hrun : sys.result = none) (hmany : expected ≤ sys.taken.length) :
    ∃ steps : List Step, (∀ step ∈ steps, step.Answers opened) ∧
      Counted h expected opened sys (steps.foldl (fun sys step => step.run h expected sys) sys) := by
  obtain ⟨hlt, hstopped⟩ := w.running hrun
  have hmem {s : Stream} (hs : s ∈ sys.taken) : s ∈ opened := w.subperm.subset hs
  by_cases hnotifying : sys.notifying = []
  · have hwaiting : sys.waiting ≠ [] := by
      intro hwaiting
      simp only [System.taken, hnotifying, hwaiting, hstopped, List.nil_append, List.append_nil, ← w.count] at hmany
      omega
    obtain ⟨s, hs⟩ := List.exists_mem_of_ne_nil _ hwaiting
    -- Its reply is sent first.
    have w₁ := w.step (.replySent s)
    rw [Step.opens, List.append_nil, Step.run] at w₁
    have hsent : Step.run h expected (.replySent s) sys = { sys with replySent := s :: sys.replySent } := rfl
    have hwake : Step.run h expected (.wake s) { sys with replySent := s :: sys.replySent } =
        System.wake { sys with replySent := s :: sys.replySent } s := by
      rw [Step.run, if_pos ⟨hs, List.mem_cons_self⟩]
      rfl
    have hcounted := (w₁.wake hs List.mem_cons_self).counted hrun List.mem_cons_self
    refine ⟨[.replySent s, .wake s, .reply s], ?_, ?_⟩
    · intro step hstep
      simp only [List.mem_cons, List.not_mem_nil, or_false] at hstep
      exact ⟨s, hmem (mem_taken.mpr (.inl hs)), hstep⟩
    · rw [List.foldl_cons, List.foldl_cons, List.foldl_cons, List.foldl_nil, hsent, hwake]
      exact { hcounted with taken := hcounted.taken.trans (taken_wake hs).length_eq }
  · obtain ⟨s, hs⟩ := List.exists_mem_of_ne_nil _ hnotifying
    refine ⟨[.reply s], ?_, w.counted hrun hs⟩
    intro step hstep
    rw [List.mem_singleton] at hstep
    exact ⟨s, hmem (mem_taken.mpr (.inr (.inl hs))), .inr (.inr hstep)⟩

theorem Waits.completes (w : Waits h expected opened sys) (hrun : sys.result = none) (hmany : expected ≤ sys.taken.length) :
    ∃ steps : List Step, (∀ step ∈ steps, step.Answers opened) ∧
      (steps.foldl (fun sys step => step.run h expected sys) sys).result = some (.ok sys.ctx) := by
  -- Each advance leaves one reply fewer to be counted.
  induction hleft : expected - sys.receivedStreams generalizing sys with
  | zero =>
    have hlt := (w.running hrun).1
    omega
  | succ left ih =>
    obtain ⟨steps, hsteps, hcounted⟩ := w.advance hrun hmany
    rcases hcounted.result with hok | hnone
    · exact ⟨steps, hsteps, hok⟩
    · have hreceived := hcounted.received
      obtain ⟨more, hmore, hok⟩ := ih hcounted.waits hnone (hcounted.taken ▸ hmany) (by omega)
      refine ⟨steps ++ more, ?_, ?_⟩
      · intro step hstep
        exact (List.mem_append.mp hstep).elim (hsteps step) (hmore step)
      · rw [List.foldl_append, hok, hcounted.ctx]

theorem serveExec_panic_iff {ctx : Context} {exec : Context → ExecResult} :
    serveExec ctx exec = .panic ↔ ctx.get .error = none := by
  unfold serveExec Context.get
  cases ctx.writeStatus with
  | none => exact ⟨fun _ => rfl, fun _ => rfl⟩
  | some status => exact ⟨nofun, nofun⟩

theorem Waits.get_error_iff (w : Waits h expected opened sys) (hrun : sys.result = none) :
    sys.ctx.get .error = none ↔ ∀ s ∈ opened, s.streamType ≠ "error" := by
  constructor
  · intro hnone s hs herror
    have htype : h.typeOf s.streamType = some .error := by rw [herror]; rfl
    have htaken : s ∈ sys.taken :=
      (w.all hrun).symm.subset (List.mem_filter.mpr ⟨hs, by rw [Handler.known, htype, Option.isSome_some]⟩)
    obtain ⟨t, ht, hget⟩ := w.typed s htaken
    obtain rfl : StreamType.error = t := Option.some.inj (htype.symm.trans ht)
    exact hget hnone
  · intro hother
    by_contra hget
    obtain ⟨s, hs⟩ := Option.ne_none_iff_exists'.mp hget
    obtain ⟨hmem, htype⟩ := w.held .error s hs
    exact hother s (w.subperm.subset hmem) (eq_header_of_typeOf htype)

/-- A loop that has not returned, and has been given as many streams of known types as are expected, needs nothing more from the
    client: whatever their types are, it returns once the replies are sent. The session has a stream for its status exactly if one
    of them was for errors; without it the status is a panic. -/
theorem waitForStreams_completes (opts : Options) (steps : List Step)
    (hrun : (waitForStreams h (expectedStreams opts h) steps).result = none)
    (hmany : expectedStreams opts h ≤ ((streamsOf steps).filter h.known).length) :
    ∃ (more : List Step) (ctx : Context), (∀ step ∈ more, step.Answers (streamsOf steps)) ∧
      (waitForStreams h (expectedStreams opts h) (steps ++ more)).result = some (.ok ctx) ∧
      ∀ exec, serveExec ctx exec = .panic ↔ ∀ s ∈ streamsOf steps, s.streamType ≠ "error" := by
  have w := @waitForStreams_waits h (expectedStreams opts h) (expectedStreams_pos opts) steps
  obtain ⟨more, hmore, hok⟩ := w.completes hrun (by rwa [(w.all hrun).length_eq])
  refine ⟨more, _, hmore, by rw [waitForStreams, List.foldl_append]; exact hok, ?_⟩
  intro exec
  rw [serveExec_panic_iff, w.get_error_iff hrun]

/-- A client that opens stdin twice, and no stream for errors. -/
theorem waitForStreams_completes_twice :
    ∃ (more : List Step) (ctx : Context),
      (waitForStreams .v4 2 ([.stream ⟨1, "stdin"⟩, .stream ⟨3, "stdin"⟩] ++ more)).result = some (.ok ctx) ∧
        serveExec ctx (fun _ => .success) = .panic := by
  obtain ⟨more, ctx, -, hok, hpanic⟩ := @waitForStreams_completes .v4 ⟨true, false, false, false⟩
    [.stream ⟨1, "stdin"⟩, .stream ⟨3, "stdin"⟩] (by decide) (by decide)
  exact ⟨more, ctx, hok, (hpanic _).mpr (by decide)⟩

end CriDockerd.Streaming.RemoteCommand
