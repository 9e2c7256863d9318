import CriDockerd.Libdocker.Streams
import CriDockerd.Theorems.Requests.Limiter

/-! What becomes of the output that the daemon sends. However its bytes are cut into reads, the frames in them are written one
    after the other, each to the writer of its stream, until a write fails or no complete frame is left. -/

namespace CriDockerd.Libdocker
open CriDockerd.Core (Writer)

/-! ### Sources -/

namespace Source

/-- The bytes up to the first error. -/
def bytes : Source → List UInt8
  | [] => []
  | c :: src =>
    match c.err with
    | none => c.data ++ bytes src
    | some _ => c.data

/-- The error that the source ends with, if it is not the end of the data. -/
def ending : Source → Option GoError
  | [] => none
  | c :: src =>
    match c.err with
    | none => ending src
    | some .eof => none
    | some (.failed err) => some err

/-- The end of the data may come with data, another error comes alone. -/
def Orderly : Source → Prop
  | [] => True
  | c :: src =>
    match c.err with
    | none => Orderly src
    | some .eof => src = []
    | some (.failed _) => c.data = []

/-! A read that takes the first bytes of a chunk leaves the rest of it. -/

section
variable {data : List UInt8} {err : Option ReadError} {src : Source}

theorem bytes_drop (n : Nat) : data.take n ++ bytes (⟨data.drop n, err⟩ :: src) = bytes (⟨data, err⟩ :: src) := by
  cases err <;> simp [bytes, ← List.append_assoc]

theorem ending_drop (n : Nat) : ending (⟨data.drop n, err⟩ :: src) = ending (⟨data, err⟩ :: src) := by
  cases err with
  | none => rfl
  | some e => cases e <;> rfl

theorem Orderly.drop (h : Orderly (⟨data, err⟩ :: src)) (n : Nat) : Orderly (⟨data.drop n, err⟩ :: src) := by
  cases err with
  | none => exact h
  | some e =>
    cases e with
    | eof => exact h
    | failed e =>
      obtain rfl : data = [] := h
      exact List.drop_nil

end

end Source

/-- What `fill` leaves behind: the same bytes, in the buffer and to be read. -/
structure Refilled (need : Nat) (buf : List UInt8) (src : Source) (buf' : List UInt8) (src' : Source) : Prop where
  bytes : buf' ++ src'.bytes = buf ++ src.bytes
  enough : need ≤ buf'.length
  orderly : src'.Orderly
  ending : src'.ending = src.ending

section
variable {bufLen need : Nat} {buf : List UInt8} {src : Source}

theorem fill_enough (hsrc : src.Orderly) (hroom : need ≤ bufLen) (h : need ≤ (buf ++ src.bytes).length) :
    ∃ buf' src', fill bufLen need buf src = (.enough, buf', src') ∧ Refilled need buf src buf' src' := by
  induction src generalizing buf with
  | nil =>
    have hneed : need ≤ buf.length := by simpa [Source.bytes] using h
    exact ⟨buf, [], by rw [fill, if_pos hneed], rfl, hneed, trivial, rfl⟩
  | cons c src ih =>
    obtain ⟨data, err⟩ := c
    by_cases hneed : need ≤ buf.length
    · exact ⟨buf, ⟨data, err⟩ :: src, by rw [fill, if_pos hneed], rfl, hneed, hsrc, rfl⟩
    by_cases hfit : data.length ≤ bufLen - buf.length
    · cases err with
      | none =>
        obtain ⟨buf', src', heq, hre⟩ := @ih (buf ++ data) hsrc (by simpa [Source.bytes] using h)
        refine ⟨buf', src', by simpa only [fill, if_neg hneed, if_pos hfit] using heq, ?_, hre.enough, hre.orderly, hre.ending⟩
        rw [hre.bytes, List.append_assoc]
        rfl
      | some e =>
        cases e with
        | eof =>
          have hdata : need ≤ (buf ++ data).length := h
          obtain rfl : src = [] := hsrc
          exact ⟨buf ++ data, [], by simp only [fill, if_neg hneed, if_pos hfit, if_pos hdata],
            List.append_nil _, hdata, trivial, rfl⟩
        | failed e =>
          obtain rfl : data = [] := hsrc
          exact absurd (by simpa [Source.bytes] using h) hneed
    · -- The read fills the buffer, and leaves the rest of the chunk.
      refine ⟨buf ++ data.take (bufLen - buf.length), ⟨data.drop (bufLen - buf.length), err⟩ :: src,
        by simp only [fill, if_neg hneed, if_neg hfit], ?_, ?_, hsrc.drop _, Source.ending_drop _⟩
      · rw [List.append_assoc, Source.bytes_drop]
      · rw [List.length_append, List.length_take]
        omega

/-- How a source ends that has fewer bytes than are needed. -/
def Filled.ofEnding : Option GoError → Filled
  | none => .short
  | some err => .failed err

theorem fill_short (hsrc : src.Orderly) (hroom : need ≤ bufLen) (h : (buf ++ src.bytes).length < need) :
    ∃ rest, fill bufLen need buf src = (.ofEnding src.ending, rest) := by
  induction src generalizing buf with
  | nil =>
    have hneed : ¬need ≤ buf.length := by simpa [Source.bytes] using h
    exact ⟨_, by rw [fill, if_neg hneed]; rfl⟩
  | cons c src ih =>
    obtain ⟨data, err⟩ := c
    have hdata : buf.length + data.length < need := by
      refine Nat.lt_of_le_of_lt ?_ h
      cases err <;> simp [Source.bytes]
    have hneed : ¬need ≤ buf.length := by omega
    have hfit : data.length ≤ bufLen - buf.length := by omega
    rw [fill, if_neg hneed]
    simp only [if_pos hfit]
    cases err with
    | none => exact @ih (buf ++ data) hsrc (by simpa [Source.bytes] using h)
    | some e =>
      cases e with
      | eof =>
        have hshort : ¬need ≤ (buf ++ data).length := by rw [List.length_append]; omega
        exact ⟨_, by simp only [if_neg hshort]; rfl⟩
      | failed e => exact ⟨_, rfl⟩

end

/-! ### Frames -/

/-- The bytes of one frame, and where they go: what came from stdin goes to stdout. -/
structure Frame where
  toStderr : Bool
  payload : List UInt8
  deriving DecidableEq

/-- What follows the last frame that is written. -/
inductive Tail where
  | cut
  | unrecognized (b : UInt8)
  | systemerr (msg : List UInt8)
  deriving DecidableEq

/-- The frames at the beginning of the bytes. -/
def frames (bytes : List UInt8) : List Frame × Tail :=
  if bytes.length < stdWriterPrefixLen then ([], .cut)
  else
    match StdType.ofByte (bytes.headD 0) with
    | none => ([], .unrecognized (bytes.headD 0))
    | some stream =>
      let frameSize := uint32 ((bytes.drop 4).take 4)
      let payload := (bytes.drop stdWriterPrefixLen).take frameSize
      if bytes.length < frameSize + stdWriterPrefixLen then ([], .cut)
      else if stream = .systemerr then ([], .systemerr payload)
      else
        let rest := frames (bytes.drop (frameSize + stdWriterPrefixLen))
        (⟨stream = .stderr, payload⟩ :: rest.1, rest.2)
termination_by bytes.length
decreasing_by
  simp only [stdWriterPrefixLen, List.length_drop] at *
  omega

theorem headD_append {xs ys : List UInt8} (h : 0 < xs.length) : (xs ++ ys).headD 0 = xs.headD 0 := by
  cases xs with
  | nil => exact absurd h (Nat.lt_irrefl 0)
  | cons x xs => rfl

theorem take_drop_append {xs ys : List UInt8} {i n : Nat} (h : i + n ≤ xs.length) :
    ((xs ++ ys).drop i).take n = (xs.drop i).take n := by
  rw [List.drop_append_of_le_length (by omega), List.take_append_of_le_length (by rw [List.length_drop]; omega)]

section
variable {σ : Type} (dstout dsterr : Writer σ)

def Frame.writer (f : Frame) : Writer σ := if f.toStderr then dsterr else dstout

/-- What is returned when no frame is left to be written. -/
def Tail.result (ending : Option GoError) (written : Nat) : Tail → Nat × Option GoError
  | .cut =>
    match ending with
    | none => (written, none)
    | some err => (0, some err)
  | .unrecognized b => (0, some (unrecognizedHeader b))
  | .systemerr msg => (written, some (systemError msg))

/-- Frames are written one after the other, up to a write that fails. -/
def demux (ending : Option GoError) (tail : Tail) : List Frame → (written : Nat) → σ → (Nat × Option GoError) × σ
  | [], written, s => (tail.result ending written, s)
  | f :: fs, written, s =>
    match writeFrame (f.writer dstout dsterr) f.payload s with
    | (some err, s) => ((0, some err), s)
    | (none, s) => demux ending tail fs (written + f.payload.length) s

variable {dstout dsterr}

/-- Copying takes the frames apart whatever the reads are. -/
theorem stdCopyLoop_eq {rounds bufLen written : Nat} {buf : List UInt8} {src : Source} {s : σ} (hsrc : src.Orderly)
    (hbuf : stdWriterPrefixLen ≤ bufLen) (hrounds : (buf ++ src.bytes).length < rounds) :
    stdCopyLoop dstout dsterr rounds bufLen written buf src s =
      some (demux dstout dsterr src.ending (frames (buf ++ src.bytes)).2 (frames (buf ++ src.bytes)).1 written s) := by
  induction rounds generalizing bufLen written buf src s with
  | zero => exact absurd hrounds (Nat.not_lt_zero _)
  | succ rounds ih =>
    rw [stdCopyLoop, frames]
    by_cases hheader : (buf ++ src.bytes).length < stdWriterPrefixLen
    · obtain ⟨rest, hfill⟩ := fill_short hsrc hbuf hheader
      rw [if_pos hheader, hfill]
      cases src.ending <;> rfl
    obtain ⟨buf₁, src₁, hfill, hre⟩ := fill_enough hsrc hbuf (Nat.not_lt.mp hheader)
    have hhead : (buf₁ ++ src₁.bytes).headD 0 = buf₁.headD 0 := headD_append (Nat.lt_of_lt_of_le (by decide) hre.enough)
    have hsize : ((buf₁ ++ src₁.bytes).drop 4).take 4 = (buf₁.drop 4).take 4 := take_drop_append hre.enough
    rw [if_neg hheader, hfill, ← hre.bytes, ← hre.ending, hhead, hsize]
    rw [← hre.bytes] at hrounds
    dsimp only
    cases StdType.ofByte (buf₁.headD 0) with
    | none => rfl
    | some stream =>
      dsimp only
      generalize uint32 ((buf₁.drop 4).take 4) = n
      have hroom : n + stdWriterPrefixLen ≤ if bufLen < n + stdWriterPrefixLen then n + stdWriterPrefixLen + 1 else bufLen := by
        split <;> omega
      revert hroom
      generalize (if bufLen < n + stdWriterPrefixLen then n + stdWriterPrefixLen + 1 else bufLen) = bufLen'
      intro hroom
      by_cases hframe : (buf₁ ++ src₁.bytes).length < n + stdWriterPrefixLen
      · obtain ⟨rest, hfill⟩ := fill_short hre.orderly hroom hframe
        rw [if_pos hframe, hfill]
        cases src₁.ending <;> rfl
      obtain ⟨buf₂, src₂, hfill₂, hre₂⟩ := fill_enough hre.orderly hroom (Nat.not_lt.mp hframe)
      have henough : stdWriterPrefixLen + n ≤ buf₂.length := Nat.add_comm _ _ ▸ hre₂.enough
      have hlength : ((buf₂.drop stdWriterPrefixLen).take n).length = n := by
        rw [List.length_take, List.length_drop]
        omega
      have hrest : (buf₁ ++ src₁.bytes).drop (n + stdWriterPrefixLen) = buf₂.drop (n + stdWriterPrefixLen) ++ src₂.bytes := by
        rw [← hre₂.bytes, List.drop_append_of_le_length hre₂.enough]
      rw [if_neg hframe, hfill₂, hrest, ← hre₂.bytes, take_drop_append henough, ← hre₂.ending]
      dsimp only
      by_cases hsystem : stream = .systemerr
      · rw [if_pos hsystem, if_pos hsystem]
        rfl
      rw [if_neg hsystem, if_neg hsystem, demux]
      simp only [Frame.writer, decide_eq_true_eq, hlength]
      obtain ⟨err, s'⟩ := writeFrame (if stream = .stderr then dsterr else dstout) ((buf₂.drop stdWriterPrefixLen).take n) s
      cases err with
      | some err => rfl
      | none =>
        refine ih hre₂.orderly (Nat.le_trans (Nat.le_add_left _ _) hroom) ?_
        rw [← hrest, List.length_drop]
        simp only [stdWriterPrefixLen] at hframe ⊢
        omega

theorem Source.length_bytes_le (src : Source) : src.bytes.length ≤ src.size := by
  induction src with
  | nil => exact Nat.le_refl 0
  | cons c src ih =>
    obtain ⟨data, err⟩ := c
    cases err with
    | none => simpa [Source.bytes, Source.size] using ih
    | some e => exact Nat.le_add_right data.length _

theorem stdCopy_eq {src : Source} (hsrc : src.Orderly) (s : σ) :
    stdCopy dstout dsterr src s =
      some (demux dstout dsterr src.ending (frames src.bytes).2 (frames src.bytes).1 0 s) :=
  stdCopyLoop_eq hsrc (by decide) (Nat.lt_succ_of_le src.length_bytes_le)

/-! ### Copies -/

/-- What a writer returns and leaves behind, for a caller that does not ask how much was written. -/
def outcome (r : (Nat × Option GoError) × σ) : Option GoError × σ := (r.1.2, r.2)

/-- The reads of a source, without the empty ones. -/
def reads : (rounds : Nat) → Source → List (List UInt8)
  | 0, _ => []
  | rounds + 1, src =>
    let r := read copyBufLen src
    (if r.1.1 = [] then [] else [r.1.1]) ++ if r.1.2 = none then reads rounds r.2 else []

/-- What a read is that returns no error. -/
structure More (src : Source) (p : List UInt8) (src' : Source) : Prop where
  bytes : p ++ src'.bytes = src.bytes
  ending : src'.ending = src.ending
  orderly : src'.Orderly
  less : src'.size + src'.length < src.size + src.length

theorem read_cases {src : Source} (hsrc : src.Orderly) :
    (∃ p src', read copyBufLen src = ((p, none), src') ∧ More src p src') ∨
    (∃ src', read copyBufLen src = ((src.bytes, some .eof), src') ∧ src.ending = none) ∨
    (∃ err src', read copyBufLen src = (([], some (.failed err)), src') ∧ src.bytes = [] ∧ src.ending = some err) := by
  cases src with
  | nil => exact .inr (.inl ⟨[], rfl, rfl⟩)
  | cons c src =>
    obtain ⟨data, err⟩ := c
    rw [read]
    split
    · cases err with
      | none => exact .inl ⟨data, src, rfl, rfl, rfl, hsrc, by simp only [Source.size, List.length_cons]; omega⟩
      | some e =>
        cases e with
        | eof => exact .inr (.inl ⟨src, rfl, rfl⟩)
        | failed e =>
          obtain rfl : data = [] := hsrc
          exact .inr (.inr ⟨e, src, rfl, rfl, rfl⟩)
    · rename_i hlong
      refine .inl ⟨_, _, rfl, Source.bytes_drop _, Source.ending_drop _, hsrc.drop _, ?_⟩
      · simp only [copyBufLen] at hlong ⊢
        simp only [Source.size, List.length_cons, List.length_drop]
        omega

theorem flatten_reads {rounds : Nat} {src : Source} (hsrc : src.Orderly) (hrounds : src.size + src.length < rounds) :
    (reads rounds src).flatten = src.bytes := by
  induction rounds generalizing src with
  | zero => exact absurd hrounds (Nat.not_lt_zero _)
  | succ rounds ih =>
    have hfirst (p : List UInt8) : (if p = [] then [] else [p]).flatten = p := by
      split
      · rename_i hp
        rw [hp]
        rfl
      · exact List.append_nil p
    rw [reads, List.flatten_append, hfirst]
    obtain ⟨p, src', hread, hmore⟩ | ⟨src', hread, -⟩ | ⟨err, src', hread, hbytes, -⟩ := read_cases hsrc
    · have hless := hmore.less
      rw [hread, if_pos rfl, ih hmore.orderly (by omega)]
      exact hmore.bytes
    · rw [hread]
      exact List.append_nil _
    · rw [hread, hbytes]
      rfl

theorem copyLoop_write {dst : Writer σ} (hdst : dst.Lawful) {rounds written : Nat} {src src' : Source} {s : σ} {p : List UInt8}
    {er : Option ReadError} (hread : read copyBufLen src = ((p, er), src')) (hp : p ≠ []) :
    (∃ err s', writeFrame dst p s = (some err, s') ∧
      (copyLoop dst (rounds + 1) written src s).map outcome = some (some err, s')) ∨
    ∃ s', writeFrame dst p s = (none, s') ∧
      (er = none → copyLoop dst (rounds + 1) written src s = copyLoop dst rounds (written + p.length) src' s') ∧
      (er = some .eof → copyLoop dst (rounds + 1) written src s = some ((written + p.length, none), s')) := by
  have hlawful := hdst p s
  rw [copyLoop, hread]
  dsimp only
  rw [if_neg (List.length_eq_zero_iff.not.mpr hp)]
  unfold writeFrame
  generalize dst p s = r at hlawful ⊢
  obtain ⟨⟨nw, ew⟩, s'⟩ := r
  dsimp only at hlawful ⊢
  have hvalid : ¬(nw < 0 ∨ (p.length : Int) < nw) := by omega
  simp only [hvalid, decide_false, Bool.false_eq_true, false_and, if_false]
  cases ew with
  | some err => exact .inl ⟨err, s', rfl, rfl⟩
  | none =>
    dsimp only
    by_cases hall : nw = p.length
    · have hnw : nw.toNat = p.length := by omega
      rw [hnw, if_neg (not_not.mpr rfl), if_neg (not_not.mpr hall)]
      refine .inr ⟨s', rfl, ?_, ?_⟩ <;> rintro rfl <;> rfl
    · rw [if_pos hall, if_pos (by omega)]
      exact .inl ⟨_, s', rfl, rfl⟩

theorem copyLoop_eq {dst dst' : Writer σ} (hdst : dst.Lawful) {rounds written written' : Nat} {src : Source} {s : σ}
    (hsrc : src.Orderly) (hrounds : src.size + src.length < rounds) :
    (copyLoop dst rounds written src s).map outcome =
      some (outcome (demux dst dst' src.ending .cut ((reads rounds src).map (⟨false, ·⟩)) written' s)) := by
  induction rounds generalizing written written' src s with
  | zero => exact absurd hrounds (Nat.not_lt_zero _)
  | succ rounds ih =>
    rw [reads]
    by_cases hp : (read copyBufLen src).1.1 = []
    · rw [if_pos hp, List.nil_append, copyLoop]
      obtain ⟨p, src', hread, hmore⟩ | ⟨src', hread, hend⟩ | ⟨err, src', hread, -, hend⟩ := read_cases hsrc
      · have hless := hmore.less
        obtain rfl : p = [] := by rwa [hread] at hp
        rw [hread, ← hmore.ending]
        exact ih hmore.orderly (by omega)
      · rw [hread] at hp ⊢
        dsimp only at hp ⊢
        rw [hp, hend]
        rfl
      · rw [hread, hend]
        rfl
    · rw [if_neg hp, List.singleton_append, List.map_cons, demux]
      simp only [Frame.writer, Bool.false_eq_true, if_false]
      obtain ⟨p, src', hread, hmore⟩ | ⟨src', hread, hend⟩ | ⟨err, src', hread, -, -⟩ := read_cases hsrc
      · have hless := hmore.less
        rw [hread] at hp ⊢
        obtain ⟨err, s', hwrite, hcopy⟩ | ⟨s', hwrite, hcopy, -⟩ := copyLoop_write hdst hread hp
        · rw [hcopy, hwrite]
          rfl
        · rw [hcopy rfl, hwrite, ← hmore.ending, if_pos rfl]
          exact ih hmore.orderly (by omega)
      · rw [hread] at hp ⊢
        obtain ⟨err, s', hwrite, hcopy⟩ | ⟨s', hwrite, -, hcopy⟩ := copyLoop_write hdst hread hp
        · rw [hcopy, hwrite]
          rfl
        · rw [hcopy rfl, hwrite, hend]
          rfl
      · rw [hread] at hp
        exact absurd rfl hp

end

/-! ### The output of a container -/

section
variable {σ : Type}

/-- Writes, each byte with whether it goes to stderr. -/
def tagged (writes : List Frame) : List (Bool × UInt8) := writes.flatMap fun f => f.payload.map (f.toStderr, ·)

theorem tagged_cons (f : Frame) (fs : List Frame) : tagged (f :: fs) = f.payload.map (f.toStderr, ·) ++ tagged fs :=
  List.flatMap_cons

/-- The output that a log holds. With a terminal all of it is stdout. -/
def output (tty : Bool) (bytes : List UInt8) : List (Bool × UInt8) :=
  if tty then bytes.map (false, ·) else tagged (frames bytes).1

def outputTail (tty : Bool) (bytes : List UInt8) : Tail := if tty then .cut else (frames bytes).2

theorem tagged_reads (parts : List (List UInt8)) : tagged (parts.map (⟨false, ·⟩)) = parts.flatten.map (false, ·) := by
  induction parts with
  | nil => rfl
  | cons p parts ih => rw [List.map_cons, tagged_cons, ih, List.flatten_cons, List.map_append]

/-- The output is written byte for byte, in writes that depend on the reads only for a terminal. -/
theorem redirectResponseToOutputStream_eq {tty : Bool} {src : Source} (hsrc : src.Orderly) {out err : Option (Writer σ)}
    (hout : (out.getD discard).Lawful) (s : σ) :
    ∃ fs, tagged fs = output tty src.bytes ∧ redirectResponseToOutputStream tty out err src s =
      some (outcome (demux (out.getD discard) (err.getD discard) src.ending (outputTail tty src.bytes) fs 0 s)) := by
  unfold redirectResponseToOutputStream
  cases tty with
  | true =>
    refine ⟨(reads (src.size + src.length + 1) src).map (⟨false, ·⟩), ?_, copyLoop_eq hout hsrc (Nat.lt_succ_self _)⟩
    rw [tagged_reads, flatten_reads hsrc (Nat.lt_succ_self _)]
    rfl
  | false =>
    refine ⟨(frames src.bytes).1, rfl, ?_⟩
    dsimp only
    rw [if_neg Bool.false_ne_true, stdCopy_eq hsrc]
    rfl

/-! ### Every copy returns -/

theorem fill_size (bufLen need : Nat) (buf : List UInt8) (src : Source) {res : Filled} {buf' : List UInt8} {src' : Source}
    (h : fill bufLen need buf src = (res, buf', src')) :
    buf'.length + src'.size ≤ buf.length + src.size ∧ (res = .enough → need ≤ bufLen → need ≤ buf'.length) := by
  induction src generalizing buf with
  | nil =>
    rw [fill] at h
    split at h <;> cases h
    · exact ⟨Nat.le_refl _, fun _ _ => by assumption⟩
    · exact ⟨Nat.le_refl _, nofun⟩
  | cons c src ih =>
    obtain ⟨data, err⟩ := c
    rw [fill] at h
    split at h
    · cases h
      exact ⟨Nat.le_refl _, fun _ _ => by assumption⟩
    · rename_i hneed
      dsimp only at h
      split at h
      · have hsize : (buf ++ data).length + Source.size src = buf.length + Source.size (⟨data, err⟩ :: src) := by
          rw [List.length_append, Source.size, Nat.add_assoc]
        cases err with
        | none => exact hsize ▸ ih _ h
        | some e =>
          cases e with
          | eof =>
            dsimp only at h
            split at h <;> cases h
            · exact ⟨hsize.le, fun _ _ => by assumption⟩
            · exact ⟨hsize.le, nofun⟩
          | failed e =>
            cases h
            exact ⟨hsize.le, nofun⟩
      · cases h
        simp only [Source.size, List.length_append, List.length_take, List.length_drop]
        exact ⟨by omega, fun _ _ => by omega⟩

theorem stdCopyLoop_isSome (dstout dsterr : Writer σ) {rounds bufLen written : Nat} {buf : List UInt8} {src : Source} {s : σ}
    (hbuf : stdWriterPrefixLen ≤ bufLen) (hrounds : buf.length + src.size < rounds) :
    ∃ res, stdCopyLoop dstout dsterr rounds bufLen written buf src s = some res := by
  induction rounds generalizing bufLen written buf src s with
  | zero => exact absurd hrounds (Nat.not_lt_zero _)
  | succ rounds ih =>
    rw [stdCopyLoop]
    rcases hheader : fill bufLen stdWriterPrefixLen buf src with ⟨res, buf₁, src₁⟩
    obtain ⟨hle, -⟩ := fill_size _ _ _ _ hheader
    cases res with
    | short | failed => exact ⟨_, rfl⟩
    | enough =>
      dsimp only
      split
      · exact ⟨_, rfl⟩
      · generalize uint32 ((buf₁.drop 4).take 4) = n
        have hroom : n + stdWriterPrefixLen ≤ if bufLen < n + stdWriterPrefixLen then n + stdWriterPrefixLen + 1 else bufLen := by
          split <;> omega
        revert hroom
        generalize (if bufLen < n + stdWriterPrefixLen then n + stdWriterPrefixLen + 1 else bufLen) = bufLen'
        intro hroom
        rcases hframe : fill bufLen' (n + stdWriterPrefixLen) buf₁ src₁ with ⟨res, buf₂, src₂⟩
        obtain ⟨hle₂, henough⟩ := fill_size _ _ _ _ hframe
        cases res with
        | short | failed => exact ⟨_, rfl⟩
        | enough =>
          dsimp only
          split
          · exact ⟨_, rfl⟩
          · split
            · exact ⟨_, rfl⟩
            · -- The header of the frame is gone.
              refine ih (Nat.le_trans (Nat.le_add_left _ _) hroom) ?_
              have hn := henough rfl hroom
              simp only [stdWriterPrefixLen, List.length_drop] at hn ⊢
              omega

theorem read_less {src src' : Source} {p : List UInt8} (h : read copyBufLen src = ((p, none), src')) :
    src'.size + src'.length < src.size + src.length := by
  cases src with
  | nil => cases h
  | cons c src =>
    obtain ⟨data, err⟩ := c
    rw [read] at h
    split at h <;> cases h
    · simp only [Source.size, List.length_cons]
      omega
    · rename_i hlong
      simp only [copyBufLen] at hlong ⊢
      simp only [Source.size, List.length_cons, List.length_drop]
      omega

theorem copyLoop_isSome (dst : Writer σ) {rounds written : Nat} {src : Source} {s : σ}
    (hrounds : src.size + src.length < rounds) : ∃ res, copyLoop dst rounds written src s = some res := by
  induction rounds generalizing written src s with
  | zero => exact absurd hrounds (Nat.not_lt_zero _)
  | succ rounds ih =>
    rw [copyLoop]
    rcases hread : read copyBufLen src with ⟨⟨p, er⟩, src'⟩
    dsimp only
    have hnext (written : Nat) (s : σ) : ∃ res, (match er with
        | none => copyLoop dst rounds written src' s
        | some .eof => some ((written, none), s)
        | some (.failed err) => some ((written, some err), s)) = some res := by
      cases er with
      | none =>
        have hless := read_less hread
        exact ih (by omega)
      | some e => cases e <;> exact ⟨_, rfl⟩
    -- A write that fails ends the copy, any other is followed by the next round.
    repeat' split
    all_goals first | exact ⟨_, rfl⟩ | exact hnext _ _

/-- Whatever the reader and the writers do, a copy comes to its end. -/
theorem redirectResponseToOutputStream_isSome (tty : Bool) (out err : Option (Writer σ)) (src : Source) (s : σ) :
    ∃ res, redirectResponseToOutputStream tty out err src s = some res := by
  unfold redirectResponseToOutputStream
  cases tty with
  | true =>
    obtain ⟨res, hres⟩ := @copyLoop_isSome _ (out.getD discard) _ 0 src s (Nat.lt_succ_self _)
    exact ⟨_, congrArg (Option.map _) hres⟩
  | false =>
    obtain ⟨res, hres⟩ := @stdCopyLoop_isSome _ (out.getD discard) (err.getD discard) _ startingBufLen 0 [] src s (by decide)
      (Nat.lt_succ_of_le (Nat.zero_add _).le)
    exact ⟨_, congrArg (Option.map _) hres⟩

/-! ### Writers that write everything -/

def deliver (out err : Writer σ) (writes : List Frame) (s : σ) : σ :=
  writes.foldl (fun s f => (f.writer out err f.payload s).2) s

def Tail.err (ending : Option GoError) (tail : Tail) : Option GoError := (tail.result ending 0).2

theorem Tail.result_err (ending : Option GoError) (tail : Tail) (written : Nat) : (tail.result ending written).2 = tail.err ending := by
  cases tail with
  | cut => cases ending <;> rfl
  | unrecognized b => rfl
  | systemerr msg => rfl

section
variable {out err : Writer σ} (hout : out.WritesAll) (herr : err.WritesAll)
include hout herr

theorem Frame.writer_writesAll (f : Frame) : (f.writer out err).WritesAll := by
  unfold Frame.writer
  split
  · exact herr
  · exact hout

theorem demux_writesAll (ending : Option GoError) (tail : Tail) (fs : List Frame) (written : Nat) (s : σ) :
    outcome (demux out err ending tail fs written s) = (tail.err ending, deliver out err fs s) := by
  induction fs generalizing written s with
  | nil => exact Prod.ext (tail.result_err ending written) rfl
  | cons f fs ih =>
    have hwrite : writeFrame (f.writer out err) f.payload s = (none, (f.writer out err f.payload s).2) := by
      rw [writeFrame, f.writer_writesAll hout herr f.payload s]
      simp
    rw [demux, hwrite]
    exact ih _ _

end

end

/-! ### What the daemon writes -/

theorem uint32_putUint32 {n : Nat} (h : n < 4294967296) : uint32 (putUint32 n) = n := by
  simp only [uint32, putUint32, List.foldl_cons, List.foldl_nil, UInt8.toNat_ofNat']
  omega

theorem ofByte_toByte (stream : StdType) : StdType.ofByte stream.toByte = some stream := by
  cases stream <;> rfl

theorem stdWrite_eq (stream : StdType) (p rest : List UInt8) :
    stdWrite stream p ++ rest = stream.toByte :: 0 :: 0 :: 0 :: (putUint32 p.length ++ (p ++ rest)) := by
  simp [stdWrite]

theorem frames_stdWrite {stream : StdType} (hstream : stream ≠ .systemerr) {p : List UInt8} (hp : p.length < 4294967296)
    (rest : List UInt8) :
    frames (stdWrite stream p ++ rest) = (⟨stream = .stderr, p⟩ :: (frames rest).1, (frames rest).2) := by
  have hsize : (((stdWrite stream p ++ rest).drop 4).take 4) = putUint32 p.length := by
    rw [stdWrite_eq]
    rfl
  have hdrop : (stdWrite stream p ++ rest).drop stdWriterPrefixLen = p ++ rest := by
    rw [stdWrite_eq]
    rfl
  have hlength : (stdWrite stream p ++ rest).length = stdWriterPrefixLen + (p.length + rest.length) := by
    rw [stdWrite_eq]
    simp only [List.length_cons, List.length_append, putUint32, stdWriterPrefixLen, List.length_nil]
    omega
  have hnext : (stdWrite stream p ++ rest).drop (p.length + stdWriterPrefixLen) = rest := by
    rw [Nat.add_comm, ← List.drop_drop, hdrop, List.drop_left]
  have hhead : (stdWrite stream p ++ rest).headD 0 = stream.toByte := rfl
  rw [frames, if_neg (by omega), hhead, ofByte_toByte]
  dsimp only
  rw [hsize, uint32_putUint32 hp, if_neg (by omega), if_neg hstream, hnext, hdrop, List.take_left]

theorem frames_cut {stream : StdType} {p cut : List UInt8} (hp : p.length < 4294967296) (hcut : cut <+: stdWrite stream p)
    (hne : cut ≠ stdWrite stream p) : frames cut = ([], .cut) := by
  obtain ⟨rest, hrest⟩ := hcut
  have hpos : 0 < rest.length := by
    apply List.length_pos_of_ne_nil
    rintro rfl
    exact hne (List.append_nil cut ▸ hrest)
  have hlength : cut.length + rest.length = stdWriterPrefixLen + p.length := by
    rw [← List.length_append, hrest]
    simp only [stdWrite, putUint32, stdWriterPrefixLen, List.length_append, List.length_cons, List.length_nil]
  rw [frames]
  by_cases hheader : cut.length < stdWriterPrefixLen
  · rw [if_pos hheader]
  · -- The header is complete: it names the stream, and more bytes than there are.
    have hhead : cut.headD 0 = stream.toByte := by
      rw [← @headD_append cut rest (Nat.lt_of_lt_of_le (by decide) (Nat.not_lt.mp hheader)), hrest]
      rfl
    have hsize : (cut.drop 4).take 4 = putUint32 p.length := by
      rw [← @take_drop_append cut rest 4 4 (Nat.not_lt.mp hheader), hrest]
      rfl
    rw [if_neg hheader, hhead, ofByte_toByte]
    dsimp only
    rw [hsize, uint32_putUint32 hp, if_pos (by omega)]

/-- What the daemon writes for a stream, as a write of its reader. -/
def Frame.ofWrite (o : StdType × List UInt8) : Frame := ⟨o.1 = .stderr, o.2⟩

theorem frames_stdWrites {outs : List (StdType × List UInt8)} (h : ∀ o ∈ outs, o.1 ≠ .systemerr ∧ o.2.length < 4294967296)
    (rest : List UInt8) :
    frames (outs.flatMap (fun o => stdWrite o.1 o.2) ++ rest) = (outs.map Frame.ofWrite ++ (frames rest).1, (frames rest).2) := by
  induction outs with
  | nil => rfl
  | cons o outs ih =>
    obtain ⟨hstream, hlength⟩ := h o List.mem_cons_self
    rw [List.flatMap_cons, List.append_assoc, frames_stdWrite hstream hlength, ih fun o ho => h o (List.mem_cons_of_mem _ ho)]
    rfl

/-- The daemon's frames reach the writers of their streams, each in one write and in their order, wherever its answer is cut into
    reads and wherever it ends: the beginning of a last frame is dropped, and the error is that of the reader. -/
theorem redirectResponseToOutputStream_stdWrite {σ : Type} {outs : List (StdType × List UInt8)} {next : StdType × List UInt8}
    {cut : List UInt8} {src : Source} {out err : Writer σ}
    (houts : ∀ o ∈ outs, o.1 ≠ .systemerr ∧ o.2.length < 4294967296) (hnext : next.2.length < 4294967296)
    (hcut : cut <+: stdWrite next.1 next.2) (hne : cut ≠ stdWrite next.1 next.2)
    (hsrc : src.Orderly) (hbytes : src.bytes = outs.flatMap (fun o => stdWrite o.1 o.2) ++ cut)
    (hout : out.WritesAll) (herr : err.WritesAll) (s : σ) :
    redirectResponseToOutputStream false (some out) (some err) src s =
      some (src.ending, deliver out err (outs.map .ofWrite) s) := by
  have hframes : frames src.bytes = (outs.map .ofWrite, .cut) := by
    rw [hbytes, frames_stdWrites houts, frames_cut hnext hcut hne, List.append_nil]
  have hcopy : redirectResponseToOutputStream false (some out) (some err) src s =
      (stdCopy out err src s).map outcome := rfl
  rw [hcopy, stdCopy_eq hsrc, Option.map_some, demux_writesAll hout herr, hframes]
  cases src.ending <;> rfl

/-- Two frames and half a header, in reads that end in a header and in a frame. -/
def cutSource : Source := [⟨[1, 0, 0, 0, 0], none⟩, ⟨[0, 0, 2, 104, 105, 2, 0, 0, 0, 0, 0, 0], none⟩, ⟨[1, 33, 1, 0, 0, 0], some .eof⟩]

theorem redirectResponseToOutputStream_stdWrite_cutSource :
    redirectResponseToOutputStream false (some fun p s => ((p.length, none), (s.1 ++ p, s.2)))
      (some fun p s => ((p.length, none), (s.1, s.2 ++ p))) cutSource ([], []) = some (none, ([104, 105], [33])) :=
  @redirectResponseToOutputStream_stdWrite _ [(.stdout, [104, 105]), (.stderr, [33])] (.stdout, [0]) [1, 0, 0, 0] cutSource _ _
    (by decide) (by decide) (by decide) (by decide) rfl rfl (fun _ _ => rfl) (fun _ _ => rfl) _

end CriDockerd.Libdocker
