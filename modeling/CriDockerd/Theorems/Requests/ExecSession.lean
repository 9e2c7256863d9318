import CriDockerd.Core.ExecSession
import CriDockerd.Theorems.Requests.Streams

/-! What the goroutines of an exec come to in any order of their steps: the result that ExecInContainer returns is one of the
    sequential model of `ExecSync`, and when it comes from StartExec all output has been written before. -/

namespace CriDockerd.Core.ExecSession
open Text Libdocker Exec

section
variable {σ : Type} {r : Request σ} {E : DockerError → Prop} {w₀ : σ} {s : State σ}

/-! ### The invariant -/

/-- The output is on its way, if it is wanted. -/
inductive Copies (r : Request σ) (s : State σ) : Prop
  | copying (hr : r.hasOutput = true) (h : s.output = .copying)
  | sending (hr : r.hasOutput = true) {err : Option GoError} (h : s.output = .sending err)
  | unwanted (hr : r.hasOutput = false) (h : s.output = .idle)

/-- Why StartExec has returned what it has. -/
inductive Ended (r : Request σ) (s : State σ) : Option DockerError → Prop
  | refused {err : DockerError} (ha : s.attached = false) (ho : s.output = .idle) (hs : s.resizer ≠ .forwarding) :
    Ended r s (some err)
  | copied {err : Option GoError} (ha : s.attached = true) (hs : s.resizer = .forwarding) (hr : r.hasOutput = true)
    (ho : s.output = .received err) : Ended r s (err.map .other)
  | closed (ha : s.attached = true) (hs : s.resizer = .forwarding) (hr : r.hasOutput = false) (ho : s.output = .idle)
    (hi : s.input = .closed) : Ended r s none

/-- How far StartExec is, and what the others have done by then. -/
inductive Phase (r : Request σ) (s : State σ) : Prop
  | attaching (h : s.startExec = .attaching) (ha : s.attached = false) (ho : s.output = .idle) (hs : s.resizer ≠ .forwarding)
  | sending (h : s.startExec = .sending) (ha : s.attached = true) (ho : s.output = .idle) (hs : s.resizer ≠ .forwarding)
  | holding (h : s.startExec = .holding) (ha : s.attached = true) (hs : s.resizer = .forwarding) (ho : Copies r s)
    (hi : s.input ≠ .idle)
  | receiving (h : s.startExec = .receiving) (ha : s.attached = true) (hs : s.resizer = .forwarding) (hr : r.hasOutput = true)
    (ho : Copies r s)
  | returned {err : Option DockerError} (h : s.startExec = .returned err) (he : Ended r s err)

/-- What ExecInContainer returns for what it has waited for. -/
def outcome (r : Request σ) : Started → Option ExecError
  | .expired err => some (.docker err)
  | .returned (some err) => some (.docker err)
  | .returned none => (inspectLoop r.inspectExec maxRetries 0).1

/-- How far ExecInContainer is; the context may have ended with the errors of `E`. -/
inductive MainPhase (r : Request σ) (E : DockerError → Prop) (s : State σ) : Prop
  | selecting (h : s.main = .selecting) (hs : s.resizer ≠ .ended)
  | inspecting (h : s.main = .inspecting) (he : s.startExec = .returned none) (hs : s.resizer ≠ .ended)
  | expired {err : DockerError} (h : s.main = .returned (outcome r (.expired err))) (hctx : E err)
  | returned {err : Option DockerError} (h : s.main = .returned (outcome r (.returned err))) (he : s.startExec = .returned err)

/-- What has been written is what the output has come to. -/
inductive Written (r : Request σ) (w₀ : σ) (s : State σ) : Prop
  | idle (h : s.output = .idle) (hw : s.written = w₀)
  | copying (h : s.output = .copying) (hw : s.written = w₀)
  | sending {err : Option GoError} (h : s.output = .sending err)
    (hw : redirectResponseToOutputStream r.tty r.stdout r.stderr r.resp w₀ = some (err, s.written))
  | received {err : Option GoError} (h : s.output = .received err)
    (hw : redirectResponseToOutputStream r.tty r.stdout r.stderr r.resp w₀ = some (err, s.written))

theorem Copies.congr (h : Copies r s) {t : State σ} (ho : t.output = s.output) : Copies r t := by
  cases h with
  | copying hr h => exact .copying hr (ho.trans h)
  | sending hr h => exact .sending hr (ho.trans h)
  | unwanted hr h => exact .unwanted hr (ho.trans h)

/-- The input may come to its end meanwhile, and a resizer that still waits. -/
theorem Phase.congr (h : Phase r s) {t : State σ} (he : t.startExec = s.startExec) (ha : t.attached = s.attached)
    (ho : t.output = s.output) (hi : t.input = s.input ∨ t.input = .closed)
    (hs : t.resizer = s.resizer ∨ s.resizer = .waiting ∧ t.resizer = .ended) : Phase r t := by
  have hnot (h : s.resizer ≠ .forwarding) : t.resizer ≠ .forwarding := by
    rcases hs with hs | ⟨-, hs⟩ <;> rw [hs]
    · exact h
    · nofun
  have hforwarding (h : s.resizer = .forwarding) : t.resizer = .forwarding := by
    rcases hs with hs | ⟨hwaiting, -⟩
    · exact hs.trans h
    · cases hwaiting.symm.trans h
  have hclosed (h : s.input = .closed) : t.input = .closed := hi.elim (·.trans h) id
  cases h with
  | attaching h ha' ho' hs' => exact .attaching (he.trans h) (ha.trans ha') (ho.trans ho') (hnot hs')
  | sending h ha' ho' hs' => exact .sending (he.trans h) (ha.trans ha') (ho.trans ho') (hnot hs')
  | holding h ha' hs' ho' hi' =>
    refine .holding (he.trans h) (ha.trans ha') (hforwarding hs') (ho'.congr ho) ?_
    rcases hi with hi | hi <;> rw [hi]
    · exact hi'
    · nofun
  | receiving h ha' hs' hr ho' => exact .receiving (he.trans h) (ha.trans ha') (hforwarding hs') hr (ho'.congr ho)
  | returned h hended =>
    refine .returned (he.trans h) ?_
    cases hended with
    | refused ha' ho' hs' => exact .refused (ha.trans ha') (ho.trans ho') (hnot hs')
    | copied ha' hs' hr ho' => exact .copied (ha.trans ha') (hforwarding hs') hr (ho.trans ho')
    | closed ha' hs' hr ho' hi' => exact .closed (ha.trans ha') (hforwarding hs') hr (ho.trans ho') (hclosed hi')

/-- Sizes are forwarded only after Docker has started the exec. -/
theorem Phase.attached_of_forwarding (h : Phase r s) (hs : s.resizer = .forwarding) : s.attached = true := by
  cases h with
  | attaching _ _ _ hs' => exact absurd hs hs'
  | sending _ ha _ _ => exact ha
  | holding _ ha _ _ _ => exact ha
  | receiving _ ha _ _ _ => exact ha
  | returned _ he =>
    cases he with
    | refused _ _ hs' => exact absurd hs hs'
    | copied ha _ _ _ => exact ha
    | closed ha _ _ _ _ => exact ha

theorem MainPhase.congr (h : MainPhase r E s) {t : State σ} (hmain : t.main = s.main) (he : t.startExec = s.startExec)
    (hs : t.resizer = s.resizer) : MainPhase r E t := by
  cases h with
  | selecting h hs' => exact .selecting (hmain.trans h) (hs ▸ hs')
  | inspecting h he' hs' => exact .inspecting (hmain.trans h) (he.trans he') (hs ▸ hs')
  | expired h hctx => exact .expired (hmain.trans h) hctx
  | returned h he' => exact .returned (hmain.trans h) (he.trans he')

theorem Written.congr (h : Written r w₀ s) {t : State σ} (ho : t.output = s.output) (hw : t.written = s.written) :
    Written r w₀ t := by
  cases h with
  | idle h hs => exact .idle (ho.trans h) (hw.trans hs)
  | copying h hs => exact .copying (ho.trans h) (hw.trans hs)
  | sending h hs => exact .sending (ho.trans h) (hw ▸ hs)
  | received h hs => exact .received (ho.trans h) (hw ▸ hs)

theorem Written.eq_of_idle (h : Written r w₀ s) (hidle : s.output = .idle) : s.written = w₀ := by
  cases h with
  | idle _ hw => exact hw
  | copying ho | sending ho | received ho => cases hidle.symm.trans ho

structure Inv (r : Request σ) (E : DockerError → Prop) (w₀ : σ) (s : State σ) : Prop where
  phase : Phase r s
  main : MainPhase r E s
  written : Written r w₀ s
  resizes : s.resizes ≠ [] → s.attached = true

theorem Inv.initial : Inv r E w₀ { written := w₀ } :=
  ⟨.attaching rfl rfl rfl nofun, .selecting rfl nofun, .idle rfl rfl, fun h => absurd rfl h⟩

/-! ### The steps -/

theorem MainPhase.waits (h : MainPhase r E s) (he : ∀ err, s.startExec ≠ .returned err) {t : State σ} (hmain : t.main = s.main)
    (hresizer : t.resizer ≠ .ended ∨ t.resizer = s.resizer) : MainPhase r E t := by
  have hended (hs : s.resizer ≠ .ended) : t.resizer ≠ .ended := hresizer.elim id fun heq => heq ▸ hs
  cases h with
  | selecting h hs => exact .selecting (hmain.trans h) (hended hs)
  | inspecting h hreturned hs => exact absurd hreturned (he none)
  | expired h hctx => exact .expired (hmain.trans h) hctx
  | returned h hreturned => exact absurd hreturned (he _)

theorem Inv.attach (h : Inv r E w₀ s) (err : Option DockerError) : Inv r E w₀ (attach err s) := by
  unfold ExecSession.attach
  split
  · rename_i err hstart
    have hnot (e) : s.startExec ≠ .returned e := by simp [hstart]
    cases h.phase with
    | attaching _ ha ho hs =>
      exact ⟨.returned rfl (.refused ha ho hs), h.main.waits hnot rfl (.inr rfl), h.written.congr rfl rfl, h.resizes⟩
    | sending he | holding he | receiving he | returned he => cases hstart.symm.trans he
  · rename_i hstart
    have hnot (e) : s.startExec ≠ .returned e := by simp [hstart]
    cases h.phase with
    | attaching _ ha ho hs =>
      exact ⟨.sending rfl rfl ho hs, h.main.waits hnot rfl (.inr rfl), h.written.congr rfl rfl, fun _ => rfl⟩
    | sending he | holding he | receiving he | returned he => cases hstart.symm.trans he
  · exact h

theorem Inv.execStarted (h : Inv r E w₀ s) : Inv r E w₀ (execStarted r s) := by
  unfold ExecSession.execStarted
  split
  · rename_i hready
    have hnot (e) : s.startExec ≠ .returned e := by simp [hready.1]
    cases h.phase with
    | sending _ ha ho _ =>
      refine ⟨.holding rfl ha rfl ?_ nofun, h.main.waits hnot rfl (.inl nofun), ?_, h.resizes⟩
      · cases hr : r.hasOutput with
        | true => exact .copying hr (by simp)
        | false => exact .unwanted hr (by simp)
      · have hw := h.written.eq_of_idle ho
        cases hr : r.hasOutput with
        | true => exact .copying (by simp) hw
        | false => exact .idle (by simp) hw
    | attaching he | holding he | receiving he | returned he => cases hready.1.symm.trans he
  · exact h

theorem Inv.done (h : Inv r E w₀ s) : Inv r E w₀ (done s) := by
  unfold ExecSession.done
  split
  · rename_i err hmain hresizer
    refine ⟨h.phase.congr rfl rfl rfl (.inl rfl) (.inr ⟨hresizer, rfl⟩), ?_, h.written.congr rfl rfl, h.resizes⟩
    cases h.main with
    | selecting h | inspecting h => cases hmain.symm.trans h
    | expired h hctx => exact .expired h hctx
    | returned h he => exact .returned h he
  · exact h

theorem Inv.resize (h : Inv r E w₀ s) (size : TerminalSize) : Inv r E w₀ (resize size s) := by
  unfold ExecSession.resize
  split
  · exact h
  · rename_i hready
    have hforwarding : s.resizer = .forwarding := by
      by_contra hne
      exact hready (.inl hne)
    exact ⟨h.phase.congr rfl rfl rfl (.inl rfl) (.inl rfl), h.main.congr rfl rfl rfl, h.written.congr rfl rfl,
      fun _ => h.phase.attached_of_forwarding hforwarding⟩

theorem Inv.copied (h : Inv r E w₀ s) : Inv r E w₀ (copied r s) := by
  unfold ExecSession.copied
  split
  · rename_i err written hcopying hredirect
    have hw : s.written = w₀ := by
      cases h.written with
      | copying _ hw => exact hw
      | idle ho | sending ho | received ho => cases hcopying.symm.trans ho
    rw [hw] at hredirect
    have hcopies (ho : Copies r s) : Copies r { s with output := .sending err, written } := by
      cases ho with
      | copying hr _ => exact .sending hr rfl
      | sending hr _ => exact .sending hr rfl
      | unwanted _ h => cases hcopying.symm.trans h
    have hnot (e) : s.startExec ≠ .returned e := by
      intro hreturned
      cases h.phase with
      | returned _ he =>
        cases he with
        | refused _ ho | copied _ _ _ ho | closed _ _ _ ho => cases hcopying.symm.trans ho
      | attaching he | sending he | holding he | receiving he => cases hreturned.symm.trans he
    refine ⟨?_, h.main.waits hnot rfl (.inr rfl), .sending rfl hredirect, h.resizes⟩
    cases h.phase with
    | attaching _ _ ho | sending _ _ ho => cases hcopying.symm.trans ho
    | holding he ha hs ho hi => exact .holding he ha hs (hcopies ho) hi
    | receiving he ha hs hr ho => exact .receiving he ha hs hr (hcopies ho)
    | returned he _ => exact absurd he (hnot _)
  · exact h

theorem Inv.stdinClosed (h : Inv r E w₀ s) : Inv r E w₀ (stdinClosed s) := by
  unfold ExecSession.stdinClosed
  split
  · exact ⟨h.phase.congr rfl rfl rfl (.inr rfl) (.inl rfl), h.main.congr rfl rfl rfl, h.written.congr rfl rfl, h.resizes⟩
  · exact h

theorem Inv.receiveStdout (h : Inv r E w₀ s) : Inv r E w₀ (receiveStdout s) := by
  unfold ExecSession.receiveStdout
  split
  · rename_i err hsending
    split
    · rename_i hready
      have hnot (e) : s.startExec ≠ .returned e := by
        rcases hready with h | h <;> simp [h]
      obtain ⟨ha, hs, hr⟩ : s.attached = true ∧ s.resizer = .forwarding ∧ r.hasOutput = true := by
        cases h.phase with
        | holding _ ha hs ho _ =>
          cases ho with
          | copying hr | sending hr => exact ⟨ha, hs, hr⟩
          | unwanted _ ho => cases hsending.symm.trans ho
        | receiving _ ha hs hr _ => exact ⟨ha, hs, hr⟩
        | attaching he | sending he | returned he => rcases hready with h | h <;> cases h.symm.trans he
      refine ⟨.returned rfl (.copied ha hs hr rfl), h.main.waits hnot rfl (.inr rfl), ?_, h.resizes⟩
      cases h.written with
      | sending ho hw =>
        cases hsending.symm.trans ho
        exact .received rfl hw
      | idle ho | copying ho | received ho => cases hsending.symm.trans ho
    · exact h
  · exact h

theorem Inv.stdinDone (h : Inv r E w₀ s) : Inv r E w₀ (stdinDone r s) := by
  unfold ExecSession.stdinDone
  split
  · rename_i hready
    have hnot (e) : s.startExec ≠ .returned e := by simp [hready.1]
    refine ⟨?_, h.main.waits hnot rfl (.inr rfl), h.written.congr rfl rfl, h.resizes⟩
    cases h.phase with
    | holding _ ha hs ho hi =>
      cases hr : r.hasOutput with
      | true => exact .receiving (by simp) ha hs hr (ho.congr rfl)
      | false =>
        have hidle : s.output = .idle := by
          cases ho with
          | copying hr' | sending hr' => cases hr.symm.trans hr'
          | unwanted _ hidle => exact hidle
        exact .returned (by simp) (.closed ha hs hr hidle hready.2)
    | attaching he | sending he | receiving he | returned he => cases hready.1.symm.trans he
  · exact h

theorem Inv.ctxDone (h : Inv r E w₀ s) {err : DockerError} (hctx : s.main = .selecting → E err) :
    Inv r E w₀ (ctxDone err s) := by
  unfold ExecSession.ctxDone
  split
  · rename_i hmain
    exact ⟨h.phase.congr rfl rfl rfl (.inl rfl) (.inl rfl), .expired rfl (hctx hmain), h.written.congr rfl rfl, h.resizes⟩
  · exact h

theorem Inv.execErr (h : Inv r E w₀ s) : Inv r E w₀ (execErr s) := by
  have hselecting (hmain : s.main = .selecting) : s.resizer ≠ .ended := by
    cases h.main with
    | selecting _ hs => exact hs
    | inspecting h | expired h | returned h => cases hmain.symm.trans h
  unfold ExecSession.execErr
  split
  · rename_i err hmain he
    exact ⟨h.phase.congr rfl rfl rfl (.inl rfl) (.inl rfl), .returned rfl he, h.written.congr rfl rfl, h.resizes⟩
  · rename_i hmain he
    exact ⟨h.phase.congr rfl rfl rfl (.inl rfl) (.inl rfl), .inspecting rfl he (hselecting hmain),
      h.written.congr rfl rfl, h.resizes⟩
  · exact h

theorem Inv.inspected (h : Inv r E w₀ s) : Inv r E w₀ (inspected r s) := by
  unfold ExecSession.inspected
  split
  · rename_i hmain
    refine ⟨h.phase.congr rfl rfl rfl (.inl rfl) (.inl rfl), ?_, h.written.congr rfl rfl, h.resizes⟩
    cases h.main with
    | inspecting _ he _ => exact .returned rfl he
    | selecting h | expired h | returned h => cases hmain.symm.trans h
  · exact h

/-- A step keeps the invariant, if the errors of `E` include that of a context which ExecInContainer finds done. -/
theorem Inv.step (h : Inv r E w₀ s) {step : Step} (hctx : ∀ err, step = .ctxDone err → s.main = .selecting → E err) :
    Inv r E w₀ (step.run r s) := by
  cases step with
  | attach err => exact h.attach err
  | execStarted => exact h.execStarted
  | done => exact h.done
  | resize size => exact h.resize size
  | copied => exact h.copied
  | stdinClosed => exact h.stdinClosed
  | receiveStdout => exact h.receiveStdout
  | stdinDone => exact h.stdinDone
  | ctxDone err => exact h.ctxDone (hctx err rfl)
  | execErr => exact h.execErr
  | inspected => exact h.inspected

/-- The context has ended with this error in the run, while ExecInContainer waited for it. -/
def Expired (r : Request σ) (w₀ : σ) (steps : List Step) (err : DockerError) : Prop :=
  ∃ before after, steps = before ++ .ctxDone err :: after ∧ (run r before { written := w₀ }).main = .selecting

theorem Inv.rest {steps made todo : List Step} (hsteps : steps = made ++ todo)
    (h : Inv r (Expired r w₀ steps) w₀ (run r made { written := w₀ })) :
    Inv r (Expired r w₀ steps) w₀ (run r steps { written := w₀ }) := by
  induction todo generalizing made with
  | nil =>
    obtain rfl : steps = made := by rw [hsteps, List.append_nil]
    exact h
  | cons step todo ih =>
    refine @ih (made ++ [step]) (by rw [hsteps, List.append_assoc]; rfl) ?_
    have hrun : run r (made ++ [step]) { written := w₀ } = step.run r (run r made { written := w₀ }) := List.foldl_concat ..
    rw [hrun]
    exact h.step fun err heq hmain => ⟨made, todo, heq ▸ hsteps, hmain⟩

theorem run_inv (r : Request σ) (w₀ : σ) (steps : List Step) : Inv r (Expired r w₀ steps) w₀ (run r steps { written := w₀ }) :=
  @Inv.rest _ r w₀ steps [] steps rfl .initial

/-! ### The result -/

theorem execInContainer_outcome {env : ExecEnv} {started : Started} (hcreate : env.createExec = none)
    (hinspect : env.inspectExec = r.inspectExec) (hstart : ∀ ctx, env.startExec ctx = started) (ctx : Option Int)
    (timeout : Duration) : (execInContainer env ctx timeout).1 = outcome r started := by
  unfold execInContainer
  rw [hcreate]
  dsimp only
  rw [hstart]
  cases started with
  | expired err => rfl
  | returned err =>
    cases err with
    | some err => rfl
    | none =>
      show (inspectLoop env.inspectExec maxRetries 0).1 = _
      rw [hinspect]
      rfl

theorem Inv.ended (h : Inv r E w₀ s) {err : Option DockerError} (he : s.startExec = .returned err) :
    (s.attached = false ∧ err ≠ none ∧ s.written = w₀) ∨
    (r.hasOutput = true ∧ ∃ e, err = e.map .other ∧
      redirectResponseToOutputStream r.tty r.stdout r.stderr r.resp w₀ = some (e, s.written)) ∨
    (r.hasOutput = false ∧ err = none ∧ s.input = .closed) := by
  cases h.phase with
  | returned he' hended =>
    cases he.symm.trans he'
    cases hended with
    | refused ha ho hs =>
      exact .inl ⟨ha, nofun, h.written.eq_of_idle ho⟩
    | copied ha hs hr ho =>
      refine .inr (.inl ⟨hr, _, rfl, ?_⟩)
      cases h.written with
      | received ho' hw =>
        cases ho.symm.trans ho'
        exact hw
      | idle ho' | copying ho' | sending ho' => cases ho.symm.trans ho'
    | closed ha hs hr ho hi => exact .inr (.inr ⟨hr, rfl, hi⟩)
  | attaching h | sending h | holding h | receiving h => cases he.symm.trans h

/-- The size that a step asks for, if it has an extent. -/
def Step.size? : Step → Option TerminalSize
  | .resize size => if size.height < 1 ∨ size.width < 1 then none else some size
  | _ => none

theorem resizer_step (step : Step) :
    ((step.run r s).resizes = s.resizes ∨
      ∃ size, step.size? = some size ∧ (step.run r s).resizes = s.resizes ++ [size]) ∧
    (s.resizer = .ended → (step.run r s).resizer = .ended) := by
  cases step with
  | attach err => simp only [Step.run, attach]; split <;> exact ⟨.inl rfl, id⟩
  | execStarted =>
    simp only [Step.run, execStarted]
    split
    · rename_i hready
      exact ⟨.inl rfl, fun hended => by simp [hended] at hready⟩
    · exact ⟨.inl rfl, id⟩
  | done =>
    simp only [Step.run, done]
    split
    · exact ⟨.inl rfl, fun _ => rfl⟩
    · exact ⟨.inl rfl, id⟩
  | resize size =>
    simp only [Step.run, resize, Step.size?]
    split
    · exact ⟨.inl rfl, id⟩
    · rename_i hready
      exact ⟨.inr ⟨size, if_neg fun h => hready (.inr h), rfl⟩, id⟩
  | copied => simp only [Step.run, copied]; split <;> exact ⟨.inl rfl, id⟩
  | stdinClosed => simp only [Step.run, stdinClosed]; split <;> exact ⟨.inl rfl, id⟩
  | receiveStdout =>
    simp only [Step.run, receiveStdout]
    split
    · split <;> exact ⟨.inl rfl, id⟩
    · exact ⟨.inl rfl, id⟩
  | stdinDone => simp only [Step.run, stdinDone]; split <;> exact ⟨.inl rfl, id⟩
  | ctxDone err => simp only [Step.run, ctxDone]; split <;> exact ⟨.inl rfl, id⟩
  | execErr => simp only [Step.run, execErr]; split <;> exact ⟨.inl rfl, id⟩
  | inspected => simp only [Step.run, inspected]; split <;> exact ⟨.inl rfl, id⟩

theorem resizes_run (steps : List Step) :
    ∃ sent, (run r steps s).resizes = s.resizes ++ sent ∧ sent.Sublist (steps.filterMap Step.size?) := by
  induction steps generalizing s with
  | nil => exact ⟨[], (List.append_nil _).symm, List.Sublist.refl _⟩
  | cons step steps ih =>
    obtain ⟨sent, hsent, hsub⟩ := @ih (step.run r s)
    rw [show run r (step :: steps) s = run r steps (step.run r s) from rfl, hsent]
    rcases (@resizer_step _ r s step).1 with h | ⟨size, hsize, h⟩
    · refine ⟨sent, by rw [h], hsub.trans ?_⟩
      rw [List.filterMap_cons]
      split
      · exact List.Sublist.refl _
      · exact List.sublist_cons_self _ _
    · refine ⟨size :: sent, by rw [h, List.append_assoc]; rfl, ?_⟩
      rw [List.filterMap_cons, hsize]
      exact hsub.cons_cons size

/-- A step that the goroutines make among themselves. -/
def Step.Internal : Step → Prop
  | .execStarted | .receiveStdout | .stdinDone | .execErr | .inspected => True
  | .attach _ | .done | .resize _ | .copied | .stdinClosed | .ctxDone _ => False

/-- What StartExec waits for when Docker has started the exec. -/
def ending (r : Request σ) : Step := if r.hasOutput then .copied else .stdinClosed

/-- ExecInContainer can return without anything but internal steps and the end that StartExec waits for. -/
def Completes (r : Request σ) (s : State σ) : Prop :=
  ∃ more res, (∀ step ∈ more, step.Internal ∨ step = ending r) ∧ (run r more s).main = .returned res

theorem Completes.cons (step : Step) (hstep : step.Internal ∨ step = ending r) (h : Completes r (step.run r s)) :
    Completes r s := by
  obtain ⟨more, res, hmore, hres⟩ := h
  exact ⟨step :: more, res, List.forall_mem_cons.mpr ⟨hstep, hmore⟩, hres⟩

theorem completes_returned {err : Option DockerError} (hmain : s.main = .selecting) (he : s.startExec = .returned err) :
    Completes r s := by
  refine .cons .execErr (.inl trivial) ?_
  cases err with
  | some err => exact ⟨[], some (.docker err), nofun, by simp only [run, List.foldl_nil, Step.run, execErr, hmain, he]⟩
  | none =>
    have hstep : Step.execErr.run r s = { s with main := .inspecting } := by simp only [Step.run, execErr, hmain, he]
    rw [hstep]
    exact .cons .inspected (.inl trivial) ⟨[], _, nofun, rfl⟩

theorem completes_sending {err : Option GoError} (hmain : s.main = .selecting) (ho : s.output = .sending err)
    (he : s.startExec = .holding ∨ s.startExec = .receiving) : Completes r s := by
  refine .cons .receiveStdout (.inl trivial) ?_
  have hstep : Step.receiveStdout.run r s =
      { s with output := .received err, startExec := .returned (err.map .other) } := by
    simp only [Step.run, receiveStdout, ho, if_pos he]
  rw [hstep]
  exact completes_returned hmain rfl

/-- The end of the output is enough when it is wanted, whatever the input does. -/
theorem completes_copies (hmain : s.main = .selecting)
    (ho : Copies r s) (hr : r.hasOutput = true) (he : s.startExec = .holding ∨ s.startExec = .receiving) : Completes r s := by
  cases ho with
  | copying _ h =>
    obtain ⟨⟨err, written⟩, hredirect⟩ := redirectResponseToOutputStream_isSome r.tty r.stdout r.stderr r.resp s.written
    refine .cons .copied (.inr (if_pos hr).symm) ?_
    have hstep : Step.copied.run r s = copied r s := rfl
    rw [hstep, copied, h, hredirect]
    exact completes_sending hmain rfl he
  | sending _ h => exact completes_sending hmain h he
  | unwanted h _ => cases hr.symm.trans h

theorem completes_holding (hmain : s.main = .selecting)
    (he : s.startExec = .holding) (ho : Copies r s) (hi : s.input ≠ .idle) : Completes r s := by
  cases hr : r.hasOutput with
  | true => exact completes_copies hmain ho hr (.inl he)
  | false =>
    have hclosed (t : State σ) (hmain : t.main = .selecting) (he : t.startExec = .holding) (hi : t.input = .closed) :
        Completes r t := by
      refine .cons .stdinDone (.inl trivial) ?_
      have hstep : Step.stdinDone.run r t = { t with startExec := .returned none } := by
        simp only [Step.run, stdinDone, if_pos (And.intro he hi), hr, Bool.false_eq_true, if_false]
      rw [hstep]
      exact completes_returned hmain rfl
    cases hinput : s.input with
    | idle => exact absurd hinput hi
    | closed => exact hclosed s hmain he hinput
    | copying =>
      refine .cons .stdinClosed (.inr (by simp [ending, hr])) ?_
      have hstep : Step.stdinClosed.run r s = { s with input := .closed } := by
        simp only [Step.run, stdinClosed, if_pos hinput]
      rw [hstep]
      exact hclosed _ hmain he rfl

/-- No order of the steps leads to a deadlock: when Docker has answered, ExecInContainer can always return, and all that it
    still needs from outside is the end of the output or, if no output is wanted, the end of the input. -/
theorem run_completes {steps : List Step}
    (hanswer : (run r steps { written := w₀ }).startExec ≠ .attaching) :
    ∃ more res, (∀ step ∈ more, step.Internal ∨ step = ending r) ∧
      (run r (steps ++ more) { written := w₀ }).main = .returned res := by
  have hinv := run_inv r w₀ steps
  simp only [run, List.foldl_append]
  show Completes r (run r steps { written := w₀ })
  generalize run r steps { written := w₀ } = s at hinv hanswer ⊢
  cases hinv.main with
  | expired h _ => exact ⟨[], _, nofun, h⟩
  | returned h _ => exact ⟨[], _, nofun, h⟩
  | inspecting h _ _ =>
    refine .cons .inspected (.inl trivial) ⟨[], (inspectLoop r.inspectExec maxRetries 0).1, nofun, ?_⟩
    simp only [run, List.foldl_nil, Step.run, inspected, if_pos h]
  | selecting hmain hended =>
    cases hinv.phase with
    | attaching h _ _ _ => exact absurd h hanswer
    | sending h ha ho hs =>
      have hwaiting : s.resizer = .waiting := by
        cases hresizer : s.resizer with
        | waiting => rfl
        | forwarding => exact absurd hresizer hs
        | ended => exact absurd hresizer hended
      refine .cons .execStarted (.inl trivial) ?_
      have hnext := hinv.execStarted
      have hstep : (Step.execStarted.run r s).startExec = .holding ∧ (Step.execStarted.run r s).main = .selecting := by
        simp only [Step.run, execStarted, if_pos (And.intro h hwaiting), hmain, and_self]
      cases hnext.phase with
      | holding _ _ _ ho hi => exact completes_holding hstep.2 hstep.1 ho hi
      | attaching he | sending he | receiving he | returned he => cases hstep.1.symm.trans he
    | holding h _ _ ho hi => exact completes_holding hmain h ho hi
    | receiving h _ _ hr ho => exact completes_copies hmain ho hr (.inr h)
    | returned h _ => exact completes_returned hmain h

/-! ### An exec that nobody waits for -/

theorem resizer_ended_run (h : s.resizer = .ended) (steps : List Step) : (run r steps s).resizer = .ended := by
  induction steps generalizing s with
  | nil => exact h
  | cons step steps ih => exact ih ((resizer_step step).2 h)

/-- If ExecInContainer has returned because of its context, and its resizer has seen that, before Docker has answered, then
    StartExec waits for ever when Docker starts the exec: nobody receives `execStarted`, nothing of the output is
    read, and the connection is not closed. -/
theorem run_stuck {steps : List Step} (h : (run r steps { written := w₀ }).resizer = .ended) {more : List Step}
    (ha : (run r (steps ++ more) { written := w₀ }).attached = true) :
    (run r (steps ++ more) { written := w₀ }).startExec = .sending ∧ (run r (steps ++ more) { written := w₀ }).written = w₀ := by
  have hinv := run_inv r w₀ (steps ++ more)
  have hended : (run r (steps ++ more) { written := w₀ }).resizer = .ended := by
    rw [show run r (steps ++ more) { written := w₀ } = run r more (run r steps { written := w₀ }) from List.foldl_append ..]
    exact resizer_ended_run h more
  generalize run r (steps ++ more) { written := w₀ } = s at hinv hended ha ⊢
  cases hinv.phase with
  | sending he _ ho _ => exact ⟨he, hinv.written.eq_of_idle ho⟩
  | attaching _ hnot => cases ha.symm.trans hnot
  | holding _ _ hs | receiving _ _ hs => cases hended.symm.trans hs
  | returned _ he =>
    cases he with
    | refused hnot => cases ha.symm.trans hnot
    | copied _ hs | closed _ hs => cases hended.symm.trans hs

end

/-! ### An exec with output -/

def collected : Request (List UInt8 × List UInt8) where
  tty := false
  stdout := some fun p s => ((p.length, none), (s.1 ++ p, s.2))
  stderr := some fun p s => ((p.length, none), (s.1, s.2 ++ p))
  resp := cutSource
  inspectExec _ := .ok ⟨false, 0⟩

def unendedInput : List Step :=
  [.resize ⟨1, 1⟩, .attach none, .execStarted, .resize ⟨0, 24⟩, .resize ⟨80, 24⟩, .copied, .receiveStdout, .execErr, .inspected]

theorem run_completes_collected : ∃ more res, (∀ step ∈ more, step.Internal ∨ step = .copied) ∧
    (run collected ([.attach none] ++ more) { written := ([], []) }).main = .returned res :=
  @run_completes _ collected ([], []) [.attach none] (by decide)

/-- The context is done before Docker answers. -/
theorem run_stuck_collected : (run collected ([.ctxDone (.deadlineExceeded []), .done] ++ [.attach none, .execStarted, .copied])
    { written := ([], []) }).startExec = .sending :=
  (@run_stuck _ collected ([], []) [.ctxDone (.deadlineExceeded []), .done] rfl [.attach none, .execStarted, .copied] rfl).1

end CriDockerd.Core.ExecSession
