import Mathlib.Data.List.Basic
import CriDockerd.Libdocker.Pull

/-! When the reporter ends a pull. It never does so as long as the daemon reports progress in time, and then the pull returns
    what the daemon answers. If the daemon falls silent it depends on the last message: the reporter cancels the pull at the
    first tick after the deadline while the image is downloaded, never while it is extracted, and a tick before the first
    message ends the process. -/

namespace CriDockerd.Libdocker.Pull
open Libdocker (JSONMessage PullEvent)

variable {deadline : Int} {p : Pull}

/-! ### The daemon's answer -/

def ends : PullEvent → Option (Option GoError)
  | .message msg => msg.error.map some
  | .eof => some none
  | .failed err => some (some err)
  | .tick => none
  | .stop => none

/-- What the pull returns for the daemon's answer. -/
def answer : List (Int × PullEvent) → Option (Option GoError)
  | [] => none
  | e :: events =>
    match ends e.2 with
    | some result => some result
    | none => answer events

def messageOf : Int × PullEvent → Option (Int × JSONMessage)
  | (t, .message msg) => some (t, msg)
  | _ => none

/-- The messages about the progress, up to the end of the answer. -/
def messages : List (Int × PullEvent) → List (Int × JSONMessage)
  | [] => []
  | e :: events =>
    match ends e.2 with
    | some _ => []
    | none => (messageOf e).toList ++ messages events

theorem answer_append (events : List (Int × PullEvent)) (e : Int × PullEvent) :
    answer (events ++ [e]) = (answer events).or (ends e.2) := by
  induction events with
  | nil =>
    simp only [List.nil_append, answer]
    cases ends e.2 <;> rfl
  | cons d events ih =>
    simp only [List.cons_append, answer]
    cases ends d.2 with
    | none => exact ih
    | some result => rfl

theorem messages_append {events : List (Int × PullEvent)} (h : answer events = none) (more : List (Int × PullEvent)) :
    messages (events ++ more) = messages events ++ messages more := by
  induction events with
  | nil => rfl
  | cons d events ih =>
    simp only [answer] at h
    simp only [List.cons_append, messages]
    cases hends : ends d.2 with
    | none =>
      rw [hends] at h
      rw [ih h, List.append_assoc]
    | some result =>
      rw [hends] at h
      cases h

theorem messages_append_of_ended {events : List (Int × PullEvent)} (h : answer events ≠ none) (more : List (Int × PullEvent)) :
    messages (events ++ more) = messages events := by
  induction events with
  | nil => exact absurd rfl h
  | cons d events ih =>
    simp only [answer] at h
    simp only [List.cons_append, messages]
    cases hends : ends d.2 with
    | none =>
      rw [hends] at h
      rw [ih h]
    | some result => rfl

/-! ### Runs -/

theorem run_append (events : List (Int × PullEvent)) (e : Int × PullEvent) :
    run deadline (events ++ [e]) p = step deadline (run deadline events p) e := List.foldl_concat ..

/-- What a pull knows of the answer. -/
structure Reads (start : Int) (events : List (Int × PullEvent)) (p : Pull) : Prop where
  result : p.result = answer events
  message : p.message = (messages events).getLast?.map (·.2)
  timestamp : p.timestamp = ((messages events).getLast?.map (·.1)).getD start

theorem reads_start (start : Int) : Reads start [] (.start start) := ⟨rfl, rfl, rfl⟩

theorem Reads.skip {start : Int} {events : List (Int × PullEvent)} {p' : Pull} (h : Reads start events p) {e : Int × PullEvent}
    (he : answer events ≠ none ∨ ends e.2 = none ∧ messageOf e = none) (hresult : p'.result = p.result)
    (hmessage : p'.message = p.message) (htimestamp : p'.timestamp = p.timestamp) : Reads start (events ++ [e]) p' := by
  have hmessages : messages (events ++ [e]) = messages events := by
    by_cases hanswer : answer events = none
    · obtain ⟨hends, hnone⟩ := he.resolve_left (not_not.mpr hanswer)
      rw [messages_append hanswer, messages, hends, hnone]
      exact List.append_nil _
    · exact messages_append_of_ended hanswer _
  have hanswer : answer (events ++ [e]) = answer events := by
    rw [answer_append]
    rcases he with hended | ⟨hends, -⟩
    · obtain ⟨result, hsome⟩ := Option.ne_none_iff_exists'.mp hended
      rw [hsome]
      rfl
    · rw [hends, Option.or_none]
  exact ⟨hresult.trans (h.result.trans hanswer.symm), by rw [hmessage, h.message, hmessages],
    by rw [htimestamp, h.timestamp, hmessages]⟩

theorem Reads.finish {start : Int} {events : List (Int × PullEvent)} {p' : Pull} (h : Reads start events p) {e : Int × PullEvent}
    {result : Option GoError} (hanswer : answer events = none) (he : ends e.2 = some result) (hresult : p'.result = some result)
    (hmessage : p'.message = p.message) (htimestamp : p'.timestamp = p.timestamp) : Reads start (events ++ [e]) p' := by
  have hmessages : messages (events ++ [e]) = messages events := by
    rw [messages_append hanswer, messages, he]
    exact List.append_nil _
  refine ⟨?_, by rw [hmessage, h.message, hmessages], by rw [htimestamp, h.timestamp, hmessages]⟩
  rw [hresult, answer_append, hanswer, he]
  rfl

theorem report_keeps (now : Int) : (p.report deadline now).result = p.result ∧ (p.report deadline now).message = p.message ∧
    (p.report deadline now).timestamp = p.timestamp := by
  unfold report
  split
  · exact ⟨rfl, rfl, rfl⟩
  · dsimp only
    split <;> exact ⟨rfl, rfl, rfl⟩

theorem Reads.step {start : Int} {events : List (Int × PullEvent)} (h : Reads start events p) (hp : p.reporter ≠ .crashed)
    (e : Int × PullEvent) : Reads start (events ++ [e]) (p.step deadline e) := by
  obtain ⟨now, e⟩ := e
  have hended (hresult : ¬p.result = none) : answer events ≠ none := h.result ▸ hresult
  rw [Pull.step, if_neg hp]
  cases e with
  | message msg =>
    dsimp only
    split
    · rename_i hresult
      have hanswer : answer events = none := h.result ▸ hresult
      unfold receive
      split
      · rename_i err herr
        exact h.finish hanswer (by rw [ends, herr]; rfl) rfl rfl rfl
      · rename_i herr
        have hends : ends (.message msg) = none := by rw [ends, herr]; rfl
        have hmessages : messages (events ++ [(now, .message msg)]) = messages events ++ [(now, msg)] := by
          rw [messages_append hanswer, messages, hends]
          rfl
        refine ⟨?_, by rw [hmessages, List.getLast?_concat]; rfl, by rw [hmessages, List.getLast?_concat]; rfl⟩
        rw [answer_append, hanswer, hends]
        exact hresult
    · rename_i hresult
      exact h.skip (.inl (hended hresult)) rfl rfl rfl
  | eof | failed err =>
    dsimp only
    split
    · rename_i hresult
      exact h.finish (h.result ▸ hresult) rfl rfl rfl rfl
    · rename_i hresult
      exact h.skip (.inl (hended hresult)) rfl rfl rfl
  | tick =>
    dsimp only
    split
    · obtain ⟨hresult, hmessage, htimestamp⟩ := @report_keeps deadline p now
      exact h.skip (.inr ⟨rfl, rfl⟩) hresult hmessage htimestamp
    · exact h.skip (.inr ⟨rfl, rfl⟩) rfl rfl rfl
  | stop =>
    dsimp only
    split <;> exact h.skip (.inr ⟨rfl, rfl⟩) rfl rfl rfl

/-! ### Progress in time -/

/-- Times do not go back. -/
def Ordered (events : List (Int × PullEvent)) : Prop := events.Pairwise fun d e => d.1 ≤ e.1

/-- At every tick there is a message that is not older than the deadline. -/
def InTime (deadline : Int) (events : List (Int × PullEvent)) : Prop :=
  ∀ pre t post, events = pre ++ (t, .tick) :: post → ∃ r ∈ messages pre, t - r.1 ≤ deadline

theorem inTime_append {events : List (Int × PullEvent)} {e : Int × PullEvent} :
    InTime deadline (events ++ [e]) ↔ InTime deadline events ∧ (e.2 = .tick → ∃ r ∈ messages events, e.1 - r.1 ≤ deadline) := by
  constructor
  · intro h
    refine ⟨fun pre t post heq => h pre t (post ++ [e]) (by rw [heq, List.append_assoc]; rfl), ?_⟩
    intro htick
    obtain ⟨t, e⟩ := e
    obtain rfl : e = .tick := htick
    exact h events t [] rfl
  · rintro ⟨h, he⟩ pre t post heq
    rcases List.eq_nil_or_concat' post with rfl | ⟨post, d, rfl⟩
    · obtain ⟨rfl, htick⟩ := List.append_inj' heq rfl
      obtain rfl := List.singleton_inj.mp htick
      exact he rfl
    · rw [← List.cons_append, ← List.append_assoc] at heq
      obtain ⟨rfl, -⟩ := List.append_inj' heq rfl
      exact h pre t post rfl

theorem messages_sublist (events : List (Int × PullEvent)) :
    ((messages events).map fun r => (r.1, PullEvent.message r.2)).Sublist events := by
  induction events with
  | nil => exact List.Sublist.slnil
  | cons e events ih =>
    obtain ⟨t, e⟩ := e
    rw [messages]
    split
    · exact List.nil_sublist _
    · cases e with
      | message msg => exact ih.cons_cons (t, .message msg)
      | eof => exact ih.cons (t, .eof)
      | failed err => exact ih.cons (t, .failed err)
      | tick => exact ih.cons (t, .tick)
      | stop => exact ih.cons (t, .stop)

theorem Ordered.le_getLast {events : List (Int × PullEvent)} (h : Ordered events) {r : Int × JSONMessage} (hr : r ∈ messages events) :
    ∃ last, (messages events).getLast? = some last ∧ r.1 ≤ last.1 := by
  have hmapped : ((messages events).map fun r => (r.1, PullEvent.message r.2)).Pairwise fun d e => d.1 ≤ e.1 :=
    h.sublist (messages_sublist events)
  have hpairwise := List.pairwise_map.mp hmapped
  have hne : messages events ≠ [] := List.ne_nil_of_mem hr
  refine ⟨(messages events).getLast hne, List.getLast?_eq_getLast_of_ne_nil hne, ?_⟩
  rw [← List.dropLast_append_getLast hne, List.pairwise_append] at hpairwise
  rw [← List.dropLast_append_getLast hne, List.mem_append, List.mem_singleton] at hr
  rcases hr with hr | rfl
  · exact hpairwise.2.2 r hr _ (List.mem_singleton.mpr rfl)
  · exact Int.le_refl _

theorem report_inTime {msg : JSONMessage} {now : Int} (hmessage : p.message = some msg) (htime : now - p.timestamp ≤ deadline) :
    (p.report deadline now).reporter = p.reporter := by
  unfold report
  rw [hmessage]
  dsimp only
  rw [if_neg (fun hlate => absurd hlate.2 (Int.not_lt.mpr htime))]

theorem run_inTime_reads {start : Int} {events : List (Int × PullEvent)} (hordered : Ordered events) (htime : InTime deadline events) :
    ((run deadline events (.start start)).reporter = .running ∨ (run deadline events (.start start)).reporter = .stopped) ∧
      Reads start events (run deadline events (.start start)) := by
  induction events using List.reverseRecOn with
  | nil => exact ⟨.inl rfl, reads_start start⟩
  | append_singleton events e ih =>
    obtain ⟨hbefore, htick⟩ := inTime_append.mp htime
    obtain ⟨hreporter, hreads⟩ := ih (hordered.sublist (List.sublist_append_left _ _)) hbefore
    rw [run_append]
    generalize run deadline events (.start start) = p at hreporter hreads
    have hp : p.reporter ≠ .crashed := by rcases hreporter with h | h <;> rw [h] <;> exact nofun
    refine ⟨?_, hreads.step hp e⟩
    obtain ⟨now, e⟩ := e
    rw [step, if_neg hp]
    cases e with
    | message msg =>
      dsimp only
      split
      · unfold receive
        split <;> exact hreporter
      · exact hreporter
    | eof =>
      dsimp only
      split <;> exact hreporter
    | failed err =>
      dsimp only
      split <;> exact hreporter
    | tick =>
      obtain ⟨r, hr, hle⟩ := htick rfl
      obtain ⟨last, hlast, hnewer⟩ := Ordered.le_getLast (hordered.sublist (List.sublist_append_left _ _)) hr
      have hmessage : p.message = some last.2 := by rw [hreads.message, hlast]; rfl
      have htimestamp : p.timestamp = last.1 := by rw [hreads.timestamp, hlast]; rfl
      dsimp only
      split
      · rw [report_inTime hmessage (by omega)]
        exact hreporter
      · exact hreporter
    | stop =>
      dsimp only
      split
      · exact .inr rfl
      · exact hreporter

/-- The deadline never ends a pull that makes progress: it returns what the daemon answers. -/
theorem run_inTime {start : Int} {events : List (Int × PullEvent)} (hordered : Ordered events) (htime : InTime deadline events) :
    ((run deadline events (.start start)).reporter = .running ∨ (run deadline events (.start start)).reporter = .stopped) ∧
      (run deadline events (.start start)).result = answer events :=
  ⟨(run_inTime_reads hordered htime).1, (run_inTime_reads hordered htime).2.result⟩

def pulled : List (Int × PullEvent) :=
  [(1, .message ⟨"Downloading", none⟩), (10, .tick), (15, .message ⟨"Downloading", none⟩), (20, .tick), (22, .eof)]

theorem run_inTime_pulled : (run 60 pulled (.start 0)).result = some none := by
  refine (run_inTime ?_ ?_).2
  · unfold Ordered pulled
    decide
  · have hstart : InTime 60 [] := fun pre t post heq => by simp at heq
    have hone : InTime 60 ([] ++ pulled.take 1) := inTime_append.mpr ⟨hstart, by decide⟩
    have htwo : InTime 60 (pulled.take 1 ++ [(10, .tick)]) :=
      inTime_append.mpr ⟨hone, fun _ => ⟨(1, ⟨"Downloading", none⟩), by decide, by decide⟩⟩
    have hthree : InTime 60 (pulled.take 2 ++ [(15, .message ⟨"Downloading", none⟩)]) :=
      inTime_append.mpr ⟨htwo, by decide⟩
    have hfour : InTime 60 (pulled.take 3 ++ [(20, .tick)]) :=
      inTime_append.mpr ⟨hthree, fun _ => ⟨(15, ⟨"Downloading", none⟩), by decide, by decide⟩⟩
    have hfive : InTime 60 (pulled.take 4 ++ [(22, .eof)]) := inTime_append.mpr ⟨hfour, by decide⟩
    exact hfive

/-! ### A silent daemon -/

/-- At a tick the newest message was about the extraction. -/
def Extracted (events : List (Int × PullEvent)) : Prop :=
  ∃ pre t post, events = pre ++ (t, .tick) :: post ∧ ∃ last, (messages pre).getLast? = some last ∧ last.2.status = extracting

theorem extracted_append {events : List (Int × PullEvent)} {e : Int × PullEvent} :
    Extracted (events ++ [e]) ↔ Extracted events ∨
      e.2 = .tick ∧ ∃ last, (messages events).getLast? = some last ∧ last.2.status = extracting := by
  constructor
  · rintro ⟨pre, t, post, heq, hlast⟩
    rcases List.eq_nil_or_concat' post with rfl | ⟨post, d, rfl⟩
    · obtain ⟨rfl, htick⟩ := List.append_inj' heq rfl
      obtain rfl := List.singleton_inj.mp htick
      exact .inr ⟨rfl, hlast⟩
    · rw [← List.cons_append, ← List.append_assoc] at heq
      obtain ⟨rfl, -⟩ := List.append_inj' heq rfl
      exact .inl ⟨pre, t, post, rfl, hlast⟩
  · rintro (⟨pre, t, post, rfl, hlast⟩ | ⟨htick, hlast⟩)
    · exact ⟨pre, t, post ++ [e], by simp, hlast⟩
    · obtain ⟨t, e⟩ := e
      obtain rfl : e = .tick := htick
      exact ⟨events, t, [], rfl, hlast⟩

theorem report_of_none (now : Int) (h : p.message = none) : (p.report deadline now).reporter = .crashed := by
  rw [report, h]

theorem report_of_late {msg : JSONMessage} {now : Int} (h : p.message = some msg) (hdownloaded : p.downloaded = false)
    (hstatus : msg.status ≠ extracting) (hlate : deadline < now - p.timestamp) : (p.report deadline now).reporter = .canceled := by
  rw [report, h]
  dsimp only
  rw [hdownloaded, Bool.false_or, decide_eq_false hstatus, if_pos ⟨rfl, hlate⟩]

theorem report_of_downloaded {msg : JSONMessage} (now : Int) (h : p.message = some msg)
    (hdownloaded : p.downloaded = true ∨ msg.status = extracting) : (p.report deadline now).reporter = p.reporter := by
  have htrue : (p.downloaded || decide (msg.status = extracting)) = true := by simpa using hdownloaded
  rw [report, h]
  dsimp only
  rw [if_neg]
  rintro ⟨hfalse, -⟩
  rw [htrue] at hfalse
  exact absurd hfalse (by decide)

theorem report_downloaded {msg : JSONMessage} (now : Int) (h : p.message = some msg) :
    (p.report deadline now).downloaded = true ↔ p.downloaded = true ∨ msg.status = extracting := by
  rw [report, h]
  dsimp only
  split <;> simp

/-- The reporter runs on only if it ran. At a tick it has seen a message. -/
theorem step_running {e : Int × PullEvent} (h : (p.step deadline e).reporter = .running) :
    p.reporter = .running ∧
      (e.2 ≠ .tick ∧ (p.step deadline e).downloaded = p.downloaded ∨
        e.2 = .tick ∧ ∃ msg, p.message = some msg ∧
          ((p.step deadline e).downloaded = true ↔ p.downloaded = true ∨ msg.status = extracting)) := by
  obtain ⟨now, e⟩ := e
  by_cases hp : p.reporter = .crashed
  · rw [step, if_pos hp, hp] at h
    cases h
  rw [step, if_neg hp] at h ⊢
  cases e with
  | message msg =>
    dsimp only at h ⊢
    split at h
    · rename_i hresult
      rw [if_pos hresult]
      unfold receive at h ⊢
      split at h
      · exact ⟨h, .inl ⟨nofun, rfl⟩⟩
      · exact ⟨h, .inl ⟨nofun, rfl⟩⟩
    · rename_i hresult
      rw [if_neg hresult]
      exact ⟨h, .inl ⟨nofun, rfl⟩⟩
  | eof | failed err =>
    dsimp only at h ⊢
    split at h
    · rename_i hresult
      rw [if_pos hresult]
      exact ⟨h, .inl ⟨nofun, rfl⟩⟩
    · rename_i hresult
      rw [if_neg hresult]
      exact ⟨h, .inl ⟨nofun, rfl⟩⟩
  | tick =>
    dsimp only at h ⊢
    split at h
    · rename_i hrunning
      rw [if_pos hrunning]
      cases hmessage : p.message with
      | none =>
        rw [report_of_none now hmessage] at h
        cases h
      | some msg => exact ⟨hrunning, .inr ⟨rfl, msg, rfl, report_downloaded now hmessage⟩⟩
    · rename_i hrunning
      exact absurd h hrunning
  | stop =>
    dsimp only at h ⊢
    split at h
    · cases h
    · rename_i hstop
      rw [if_neg hstop]
      exact ⟨h, .inl ⟨nofun, rfl⟩⟩

theorem run_running {start : Int} {events : List (Int × PullEvent)} (hrun : (run deadline events (.start start)).reporter = .running) :
    Reads start events (run deadline events (.start start)) ∧
      ((run deadline events (.start start)).downloaded = true ↔ Extracted events) := by
  induction events using List.reverseRecOn with
  | nil =>
    refine ⟨reads_start start, nofun, ?_⟩
    rintro ⟨pre, t, post, heq, -⟩
    simp at heq
  | append_singleton events e ih =>
    rw [run_append] at hrun ⊢
    obtain ⟨hbefore, hstep⟩ := step_running hrun
    obtain ⟨hreads, hdownloaded⟩ := ih hbefore
    generalize run deadline events (.start start) = p at hbefore hstep hreads hdownloaded ⊢
    refine ⟨hreads.step (by rw [hbefore]; exact nofun) e, ?_⟩
    rw [extracted_append, ← hdownloaded]
    rcases hstep with ⟨hother, hsame⟩ | ⟨htick, msg, hmessage, hafter⟩
    · rw [hsame]
      exact ⟨.inl, fun h => h.resolve_right fun htick => hother htick.1⟩
    · rw [hreads.message, Option.map_eq_some_iff] at hmessage
      obtain ⟨last, hlast, rfl⟩ := hmessage
      rw [hafter, hlast]
      simp [htick]

/-- The reporter at the ticks `times`, when nothing else happens. -/
def ticks (times : List Int) : List (Int × PullEvent) := times.map fun t => (t, .tick)

theorem step_tick (t : Int) : p.step deadline (t, .tick) = if p.reporter = .running then p.report deadline t else p := by
  unfold step
  by_cases hcrashed : p.reporter = .crashed
  · rw [if_pos hcrashed, hcrashed, if_neg nofun]
  · rw [if_neg hcrashed]

theorem run_ticks_cons (t : Int) (times : List Int) :
    run deadline (ticks (t :: times)) p = run deadline (ticks times) (p.step deadline (t, .tick)) := rfl

theorem run_ticks_of_ended (h : p.reporter ≠ .running) (times : List Int) : run deadline (ticks times) p = p := by
  induction times with
  | nil => rfl
  | cons t times ih => rw [run_ticks_cons, step_tick, if_neg h, ih]

theorem run_ticks_of_none (hrun : p.reporter = .running) (h : p.message = none) {times : List Int} (htimes : times ≠ []) :
    (run deadline (ticks times) p).reporter = .crashed := by
  obtain ⟨t, times, rfl⟩ := List.exists_cons_of_ne_nil htimes
  have hcrashed := @report_of_none deadline p t h
  rw [run_ticks_cons, step_tick, if_pos hrun, run_ticks_of_ended (by rw [hcrashed]; exact nofun), hcrashed]

theorem run_ticks_of_downloaded {msg : JSONMessage} (hrun : p.reporter = .running) (h : p.message = some msg)
    (hdownloaded : p.downloaded = true ∨ msg.status = extracting) (times : List Int) :
    (run deadline (ticks times) p).reporter = .running := by
  induction times generalizing p with
  | nil => exact hrun
  | cons t times ih =>
    rw [run_ticks_cons, step_tick, if_pos hrun]
    refine ih ?_ (report_keeps t |>.2.1.trans h) (.inl ((report_downloaded t h).mpr hdownloaded))
    rw [report_of_downloaded t h hdownloaded, hrun]

theorem run_ticks_of_downloading {msg : JSONMessage} (hrun : p.reporter = .running) (h : p.message = some msg)
    (hdownloaded : p.downloaded = false) (hstatus : msg.status ≠ extracting) (times : List Int) :
    (run deadline (ticks times) p).reporter = .canceled ↔ ∃ t ∈ times, deadline < t - p.timestamp := by
  induction times generalizing p with
  | nil =>
    have hstart : (run deadline (ticks []) p).reporter = .running := hrun
    rw [hstart]
    exact ⟨nofun, fun ⟨_, ht, _⟩ => absurd ht List.not_mem_nil⟩
  | cons t times ih =>
    rw [run_ticks_cons, step_tick, if_pos hrun]
    by_cases hlate : deadline < t - p.timestamp
    · have hcanceled := report_of_late h hdownloaded hstatus hlate
      rw [run_ticks_of_ended (by rw [hcanceled]; exact nofun), hcanceled]
      exact ⟨fun _ => ⟨t, List.mem_cons_self, hlate⟩, fun _ => rfl⟩
    · obtain ⟨-, hmessage, htimestamp⟩ := @report_keeps deadline p t
      have hstill : (p.report deadline t).downloaded = false := by
        rw [← Bool.not_eq_true, report_downloaded t h, hdownloaded]
        simpa using hstatus
      have hrunning : (p.report deadline t).reporter = .running := by
        rw [report_inTime h (Int.not_lt.mp hlate), hrun]
      rw [ih hrunning (hmessage.trans h) hstill, htimestamp, List.exists_mem_cons_iff, or_iff_right hlate]

/-- A daemon that falls silent, at any point of a pull whose reporter runs. Before its first message a tick ends the process;
    if the last message is about the extraction, or a tick has seen one that was, the pull is waited for; otherwise it is
    canceled at a tick after the deadline, and only then. -/
theorem run_silent {start : Int} {events : List (Int × PullEvent)}
    (hrun : (run deadline events (.start start)).reporter = .running) (times : List Int) :
    (messages events = [] → times ≠ [] → (run deadline (events ++ ticks times) (.start start)).reporter = .crashed) ∧
    ∀ last, (messages events).getLast? = some last →
      (Extracted events ∨ last.2.status = extracting →
        (run deadline (events ++ ticks times) (.start start)).reporter = .running) ∧
      (¬Extracted events → last.2.status ≠ extracting →
        ((run deadline (events ++ ticks times) (.start start)).reporter = .canceled ↔ ∃ t ∈ times, deadline < t - last.1)) := by
  have happend : run deadline (events ++ ticks times) (.start start) =
      run deadline (ticks times) (run deadline events (.start start)) := List.foldl_append
  obtain ⟨hreads, hdownloaded⟩ := run_running hrun
  rw [happend]
  generalize run deadline events (.start start) = p at hrun hreads hdownloaded ⊢
  refine ⟨?_, ?_⟩
  · intro hnone htimes
    exact run_ticks_of_none hrun (by rw [hreads.message, hnone]; rfl) htimes
  · intro last hlast
    have hmessage : p.message = some last.2 := by rw [hreads.message, hlast]; rfl
    have htimestamp : p.timestamp = last.1 := by rw [hreads.timestamp, hlast]; rfl
    refine ⟨?_, ?_⟩
    · intro hextracted
      exact run_ticks_of_downloaded hrun hmessage (hextracted.imp hdownloaded.mpr id) times
    · intro hextracted hstatus
      have hfalse : p.downloaded = false := Bool.eq_false_iff.mpr (mt hdownloaded.mp hextracted)
      rw [run_ticks_of_downloading hrun hmessage hfalse hstatus, htimestamp]

/-- A layer is downloaded, and the reporter has looked at it once. -/
def downloading : List (Int × PullEvent) := [(1, .message ⟨"Downloading", none⟩), (10, .tick)]

/-- The daemon falls silent, and a tick comes more than sixty seconds after its message. -/
theorem run_silent_downloading : (run 60 (downloading ++ ticks [20, 70]) (.start 0)).reporter = .canceled := by
  have hrun : (run 60 downloading (.start 0)).reporter = .running := by decide
  have hextracted : ¬Extracted downloading := fun h => absurd ((run_running hrun).2.mpr h) (by decide)
  have hcanceled := ((run_silent hrun [20, 70]).2 (1, ⟨"Downloading", none⟩) rfl).2 hextracted (by decide)
  exact hcanceled.mpr ⟨70, by decide, by decide⟩

end CriDockerd.Libdocker.Pull
