import CriDockerd.Core.Logs
import CriDockerd.Theorems.Requests.Streams

/-! What a request for container logs gets: the output up to the limit, each byte on its stream, and no error when it is the limit
    that ends it. The tail of a log is what a ring buffer keeps of the output. -/

namespace CriDockerd.Core
open Libdocker

/-! ### Writes under a limit -/

/-- The writes that a limit of `n` bytes lets through; empty ones are dropped, and the last may be cut. -/
def clip : (n : Nat) → List Frame → List Frame
  | _, [] => []
  | n, f :: fs =>
    if f.payload = [] then clip n fs
    else if f.payload.length ≤ n then f :: clip (n - f.payload.length) fs
    else if n = 0 then []
    else [{ f with payload := f.payload.take n }]

theorem tagged_clip (n : Nat) (fs : List Frame) : tagged (clip n fs) = (tagged fs).take n := by
  induction fs generalizing n with
  | nil => exact List.take_nil.symm
  | cons f fs ih =>
    rw [clip, tagged_cons, List.take_append, List.length_map]
    split
    · rename_i hempty
      rw [ih, hempty, List.map_nil, List.take_nil, List.nil_append, List.length_nil, Nat.sub_zero]
    split
    · rename_i hfit
      have hall : (f.payload.map (f.toStderr, ·)).take n = f.payload.map (f.toStderr, ·) :=
        List.take_of_length_le (by rwa [List.length_map])
      rw [tagged_cons, ih, hall]
    · rename_i hlong
      rw [Nat.sub_eq_zero_of_le (by omega), List.take_zero, List.append_nil, ← List.map_take]
      split
      · rename_i hzero
        rw [hzero]
        rfl
      · exact List.append_nil _

section
variable {σ : Type} {w : Writer σ} (hw : w.WritesAll) {p : List UInt8} {limit : Int} {s : σ}
include hw

theorem writeFrame_limited_fits (hp : p ≠ []) (hfit : p.length ≤ limit.toNat) :
    writeFrame (SharedWriteLimiter.writer ⟨w⟩) p (limit, s) = (none, limit - p.length, (w p s).2) := by
  have hpos : 0 < p.length := List.length_pos_of_ne_nil hp
  obtain ⟨rfl, -⟩ | ⟨-, hlimit, -⟩ | ⟨-, hlimit, n, err, s', hdelegate, heq⟩ := SharedWriteLimiter.write_cases p (limit, s) ⟨w⟩
  · exact absurd rfl hp
  · dsimp only at hlimit
    omega
  · dsimp only at hlimit hdelegate heq
    rw [List.take_of_length_le hfit] at hdelegate heq
    have hall := hw p s
    rw [hdelegate] at hall
    obtain ⟨rfl, rfl⟩ := Prod.mk.inj hall
    rw [writeFrame, SharedWriteLimiter.writer, heq, hdelegate]
    have hle : ¬limit < p.length := by omega
    have hn : (0 : Int) < p.length := by omega
    simp only [hle, and_false, if_false, if_pos hn, ne_eq, not_true_eq_false]
    congr 2
    omega

theorem writeFrame_limited_cut (hp : p ≠ []) (hlong : ¬p.length ≤ limit.toNat) :
    ∃ left, writeFrame (SharedWriteLimiter.writer ⟨w⟩) p (limit, s) =
      (some errMaximumWrite, left, if limit.toNat = 0 then s else (w (p.take limit.toNat) s).2) := by
  obtain ⟨rfl, -⟩ | ⟨-, hlimit, heq⟩ | ⟨-, hlimit, n, err, s', hdelegate, heq⟩ := SharedWriteLimiter.write_cases p (limit, s) ⟨w⟩
  · exact absurd rfl hp
  · dsimp only at hlimit
    have hzero : limit.toNat = 0 := Int.toNat_of_nonpos hlimit
    refine ⟨limit, ?_⟩
    rw [writeFrame, SharedWriteLimiter.writer, heq, if_pos hzero]
  · dsimp only at hlimit hdelegate heq
    have hall := hw (p.take limit.toNat) s
    rw [hdelegate] at hall
    obtain ⟨rfl, rfl⟩ := Prod.mk.inj hall
    have hlt : limit < p.length := by omega
    have hne : limit.toNat ≠ 0 := by omega
    refine ⟨((SharedWriteLimiter.mk w).write p (limit, s)).2.1, ?_⟩
    rw [writeFrame, SharedWriteLimiter.writer, heq, hdelegate, if_neg hne]
    simp only [hlt, and_self, if_true]

end

theorem lawful_limited {σ : Type} {w : Writer σ} (hw : w.WritesAll) : (SharedWriteLimiter.writer ⟨w⟩).Lawful := by
  intro p s
  rw [SharedWriteLimiter.writer]
  obtain ⟨rfl, heq⟩ | ⟨-, -, heq⟩ | ⟨-, -, n, err, s', hdelegate, heq⟩ := SharedWriteLimiter.write_cases p s ⟨w⟩
  · rw [heq]
    exact ⟨Int.le_refl 0, Int.le_refl 0⟩
  · rw [heq]
    exact ⟨Int.le_refl 0, Int.natCast_nonneg _⟩
  · have hlawful := hw.lawful (p.take s.1.toNat) s.2
    dsimp only at hdelegate
    rw [hdelegate, List.length_take] at hlawful
    rw [heq]
    dsimp only at hlawful ⊢
    omega

section
variable {σ : Type} {out err : Writer σ} (hout : out.WritesAll) (herr : err.WritesAll)
include hout herr

/-- Frames that are written under a limit: what it lets through is delivered, and if that is not all the error says so. -/
theorem demux_limited (ending : Option GoError) (tail : Tail) (fs : List Frame) (written : Nat) (limit : Int) (s : σ) :
    ∃ left, outcome (demux (SharedWriteLimiter.writer ⟨out⟩) (SharedWriteLimiter.writer ⟨err⟩) ending tail fs written (limit, s)) =
      (if (tagged fs).length ≤ limit.toNat then tail.err ending else some errMaximumWrite,
        left, deliver out err (clip limit.toNat fs) s) := by
  induction fs generalizing written limit s with
  | nil =>
    have hall : (tagged []).length ≤ limit.toNat := Nat.zero_le _
    refine ⟨limit, ?_⟩
    rw [if_pos hall]
    exact Prod.ext (tail.result_err ending written) rfl
  | cons f fs ih =>
    have hw := f.writer_writesAll hout herr
    have hwriter : f.writer (SharedWriteLimiter.writer ⟨out⟩) (SharedWriteLimiter.writer ⟨err⟩) =
        SharedWriteLimiter.writer ⟨f.writer out err⟩ := by
      unfold Frame.writer
      split <;> rfl
    rw [demux, hwriter, tagged_cons, List.length_append, List.length_map, clip]
    by_cases hempty : f.payload = []
    · have hwrite : writeFrame (SharedWriteLimiter.writer ⟨f.writer out err⟩) [] (limit, s) = (none, limit, s) := rfl
      rw [if_pos hempty, hempty, hwrite, List.length_nil, Nat.zero_add]
      exact ih _ limit s
    rw [if_neg hempty]
    by_cases hfit : f.payload.length ≤ limit.toNat
    · rw [if_pos hfit, writeFrame_limited_fits hw hempty hfit]
      obtain ⟨left, hrest⟩ := ih (written + f.payload.length) (limit - f.payload.length) (f.writer out err f.payload s).2
      have hleft : (limit - (f.payload.length : Int)).toNat = limit.toNat - f.payload.length := by omega
      rw [hleft] at hrest
      refine ⟨left, hrest.trans ?_⟩
      congr 1
      apply ite_congr ?_ (fun _ => rfl) (fun _ => rfl)
      rw [eq_iff_iff]
      omega
    · obtain ⟨left, hcut⟩ := @writeFrame_limited_cut _ _ hw _ limit s hempty hfit
      have hlong : ¬f.payload.length + (tagged fs).length ≤ limit.toNat := by omega
      refine ⟨left, ?_⟩
      rw [hcut, if_neg hfit, if_neg hlong]
      by_cases hzero : limit.toNat = 0
      · rw [if_pos hzero, if_pos hzero]
        rfl
      · rw [if_neg hzero, if_neg hzero]
        rfl

end

/-! ### Requests -/

/-- What a limit leaves of the output. -/
def limitTo {α : Type} : Option Int → List α → List α
  | none, xs => xs
  | some limit, xs => xs.take limit.toNat

theorem tail_err_ne {ending : Option GoError} (hending : ending ≠ some errMaximumWrite) (tail : Tail) :
    tail.err ending ≠ some errMaximumWrite := by
  cases tail with
  | cut =>
    cases ending with
    | none => exact hending
    | some err => exact hending
  | unrecognized b =>
    intro h
    have htext := GoError.text.inj (Option.some.inj h)
    cases congrArg List.head? htext
  | systemerr msg =>
    intro h
    have htext := GoError.text.inj (Option.some.inj h)
    cases congrArg List.head? htext

section
variable {σ : Type} {env : LogsEnv} {id : Text} {tty : Bool} {src : Source}

theorem getContainerLogs_unlimited {opts : PodLogOptions} (hlimit : opts.limitBytes = none)
    (hinspect : env.inspectContainer id = .ok tty) (hlogs : env.containerLogs id (logsOptions env.now opts) = .ok src)
    (hsrc : src.Orderly) {stdout stderr : Writer σ} (hout : stdout.WritesAll) (herr : stderr.WritesAll) (s : σ) :
    ∃ writes, tagged writes = output tty src.bytes ∧ getContainerLogs env id opts stdout stderr s =
      some ((outputTail tty src.bytes).err src.ending, deliver stdout stderr writes s) := by
  obtain ⟨fs, htagged, hredirect⟩ := @redirectResponseToOutputStream_eq _ tty src hsrc (some stdout) (some stderr) hout.lawful s
  refine ⟨fs, htagged, ?_⟩
  rw [getContainerLogs, hinspect]
  dsimp only
  rw [hlimit]
  dsimp only [logs]
  rw [hlogs]
  exact hredirect.trans (congrArg some (demux_writesAll hout herr _ _ _ _ _))

theorem getContainerLogs_limited {opts : PodLogOptions} {limit : Int} (hlimit : opts.limitBytes = some limit)
    (hinspect : env.inspectContainer id = .ok tty) (hlogs : env.containerLogs id (logsOptions env.now opts) = .ok src)
    (hsrc : src.Orderly) (hending : src.ending ≠ some errMaximumWrite) {stdout stderr : Writer σ} (hout : stdout.WritesAll)
    (herr : stderr.WritesAll) (s : σ) :
    ∃ writes, tagged writes = (output tty src.bytes).take limit.toNat ∧ getContainerLogs env id opts stdout stderr s =
      some (if tagged writes = output tty src.bytes then (outputTail tty src.bytes).err src.ending else none,
        deliver stdout stderr writes s) := by
  obtain ⟨fs, htagged, hredirect⟩ :=
    @redirectResponseToOutputStream_eq _ tty src hsrc (some (SharedWriteLimiter.writer ⟨stdout⟩))
      (some (SharedWriteLimiter.writer ⟨stderr⟩)) (lawful_limited hout) (limit, s)
  obtain ⟨left, hdemux⟩ := demux_limited hout herr src.ending (outputTail tty src.bytes) fs 0 limit s
  have hall : tagged (clip limit.toNat fs) = output tty src.bytes ↔ (tagged fs).length ≤ limit.toNat := by
    rw [← htagged, tagged_clip, List.take_eq_self_iff]
  refine ⟨clip limit.toNat fs, by rw [tagged_clip, htagged], ?_⟩
  rw [getContainerLogs, hinspect]
  dsimp only
  rw [hlimit]
  dsimp only [logs, sharedLimitWriter, Option.map_some]
  rw [hlogs]
  dsimp only
  rw [hredirect]
  dsimp only [Option.map_some, Option.getD_some]
  rw [hdemux]
  dsimp only
  by_cases hle : (tagged fs).length ≤ limit.toNat
  · rw [if_pos hle, if_pos (hall.mpr hle), if_neg (tail_err_ne hending _)]
  · rw [if_neg hle, if_neg (mt hall.mp hle), if_pos rfl]

/-- The output of a container that a request gets: up to the limit every byte is written, in its order and to the writer of its
    stream. If the limit cuts off some of it there is no error, otherwise the error is that at the end of the output. -/
theorem getContainerLogs_output {opts : PodLogOptions} (hinspect : env.inspectContainer id = .ok tty)
    (hlogs : env.containerLogs id (logsOptions env.now opts) = .ok src) (hsrc : src.Orderly)
    (hending : src.ending ≠ some errMaximumWrite) {stdout stderr : Writer σ} (hout : stdout.WritesAll) (herr : stderr.WritesAll)
    (s : σ) :
    ∃ writes, tagged writes = limitTo opts.limitBytes (output tty src.bytes) ∧
      getContainerLogs env id opts stdout stderr s =
        some (if tagged writes = output tty src.bytes then (outputTail tty src.bytes).err src.ending else none,
          deliver stdout stderr writes s) := by
  cases hlimit : opts.limitBytes with
  | none =>
    obtain ⟨writes, htagged, hresult⟩ := getContainerLogs_unlimited hlimit hinspect hlogs hsrc hout herr s
    exact ⟨writes, htagged, by rw [hresult, if_pos htagged]⟩
  | some limit => exact getContainerLogs_limited hlimit hinspect hlogs hsrc hending hout herr s

end

def twoStreams : LogsEnv where
  now := 0
  inspectContainer _ := .ok false
  containerLogs _ _ := .ok cutSource

theorem frames_cutSource : frames cutSource.bytes = ([⟨false, [104, 105]⟩, ⟨true, [33]⟩], .cut) := by
  have hcut : frames [1, 0, 0, 0] = ([], .cut) := @frames_cut .stdout [0] [1, 0, 0, 0] (by decide) (by decide) (by decide)
  have hwrites := @frames_stdWrites [(.stdout, [104, 105]), (.stderr, [33])] (by decide) [1, 0, 0, 0]
  rw [hcut] at hwrites
  exact hwrites

theorem output_cutSource : output false cutSource.bytes = [(false, 104), (false, 105), (true, 33)] := by
  rw [output, if_neg Bool.false_ne_true, frames_cutSource]
  rfl

theorem getContainerLogs_output_two :
    ∃ writes, tagged writes = [(false, 104), (false, 105)] ∧
      getContainerLogs twoStreams [] { limitBytes := some 2 } (fun p s => ((p.length, none), (s.1 ++ p, s.2)))
          (fun p s => ((p.length, none), (s.1, s.2 ++ p))) ([], []) =
        some (none, deliver (fun p s => ((p.length, none), (s.1 ++ p, s.2)))
          (fun p s => ((p.length, none), (s.1, s.2 ++ p))) writes ([], [])) := by
  obtain ⟨writes, htagged, hresult⟩ := @getContainerLogs_output _ twoStreams [] false cutSource { limitBytes := some 2 } rfl rfl
    rfl (by decide) (fun p s => ((p.length, none), (s.1 ++ p, s.2))) (fun p s => ((p.length, none), (s.1, s.2 ++ p)))
    (fun _ _ => rfl) (fun _ _ => rfl) ([], [])
  have htwo : tagged writes = [(false, 104), (false, 105)] := by
    rw [htagged, output_cutSource]
    rfl
  refine ⟨writes, htwo, hresult.trans ?_⟩
  rw [htwo, output_cutSource, if_neg (by decide)]

/-! ### The tail of a log -/

theorem deliver_circbuf {b : Circbuf.Buffer UInt8} {h : List UInt8} (hb : b.Holds h) (writes : List Frame) :
    (deliver circbufWriter circbufWriter writes b).Holds (h ++ (tagged writes).map (·.2)) ∧
      (deliver circbufWriter circbufWriter writes b).size = b.size := by
  induction writes generalizing b h with
  | nil => exact ⟨by rwa [tagged, List.flatMap_nil, List.map_nil, List.append_nil], rfl⟩
  | cons f writes ih =>
    have hwriter : f.writer circbufWriter circbufWriter = circbufWriter := by
      unfold Frame.writer
      split <;> rfl
    have hwrite : deliver circbufWriter circbufWriter (f :: writes) b = deliver circbufWriter circbufWriter writes (b.write f.payload) := by
      unfold deliver
      rw [List.foldl_cons, hwriter]
      rfl
    obtain ⟨hholds, hsize⟩ := ih (hb.write f.payload)
    rw [hwrite, tagged_cons, List.map_append, List.map_map]
    refine ⟨?_, hsize⟩
    have hpayload : f.payload.map ((·.2) ∘ (f.toStderr, ·)) = f.payload := List.map_id _
    rwa [hpayload, ← List.append_assoc]

/-- The tail of a log is the last bytes of its output, those of both streams in their order, unless the output ends with an
    error. -/
theorem getContainerLogTail_output {env : LogsEnv} {id : Text} {tty : Bool} {src : Source}
    (hinspect : env.inspectContainer id = .ok tty)
    (hlogs : env.containerLogs id (logsOptions env.now { tailLines := some 80 }) = .ok src) (hsrc : src.Orderly) :
    (∀ err, (outputTail tty src.bytes).err src.ending = some err → getContainerLogTail env id = some (.error err)) ∧
      ((outputTail tty src.bytes).err src.ending = none →
        getContainerLogTail env id = some (.ok (Circbuf.lastN 2048 ((output tty src.bytes).map (·.2))))) := by
  have hall : circbufWriter.WritesAll := fun _ _ => rfl
  have hnew := Circbuf.Buffer.newBuffer_holds (0 : UInt8) (show 0 < maxContainerTerminationMessageLogLength by decide)
  obtain ⟨writes, htagged, hresult⟩ := getContainerLogs_unlimited rfl hinspect hlogs hsrc hall hall
    (.newBuffer 0 maxContainerTerminationMessageLogLength (by decide))
  obtain ⟨hholds, hsize⟩ := deliver_circbuf hnew writes
  rw [List.nil_append, htagged] at hholds
  have htail : getContainerLogTail env id = Option.map _ (some _) := congrArg (Option.map _) hresult
  rw [htail]
  constructor
  · intro err herr
    rw [herr]
    rfl
  · intro hnone
    rw [hnone]
    refine congrArg (some ∘ Except.ok) (hholds.bytes_eq.trans ?_)
    rw [hsize]
    rfl

theorem getContainerLogTail_output_two : getContainerLogTail twoStreams [] = some (.ok [104, 105, 33]) := by
  have htail : (outputTail false cutSource.bytes).err cutSource.ending = none := by
    rw [outputTail, if_neg Bool.false_ne_true, frames_cutSource]
    rfl
  have hresult := (@getContainerLogTail_output twoStreams [] false cutSource rfl rfl rfl).2 htail
  rw [output_cutSource] at hresult
  exact hresult

end CriDockerd.Core
