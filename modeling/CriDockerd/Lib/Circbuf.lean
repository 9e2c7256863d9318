import Mathlib.Data.List.Basic

/-! A ring buffer of fixed size, in which new elements take the place of the oldest ones (the package `circbuf`). Its view is what
    it holds from the oldest place to the newest: a write shifts the view, so that after any writes it ends with the last
    elements written. -/

namespace Circbuf
variable {α : Type}

/-- `copy(dst[i:], src)`: as many elements as there are and as there is room for. -/
def copyAt (dst : List α) (i : Nat) (src : List α) : List α :=
  dst.take i ++ src.take (dst.length - i) ++ dst.drop (i + src.length)

theorem length_copyAt {dst : List α} {i : Nat} (src : List α) (h : i ≤ dst.length) : (copyAt dst i src).length = dst.length := by
  simp only [copyAt, List.length_append, List.length_take, List.length_drop]
  omega

theorem copyAt_append {pre old src : List α} (post : List α) (h : src.length = old.length) :
    copyAt (pre ++ (old ++ post)) pre.length src = pre ++ (src ++ post) := by
  have hroom : src.length ≤ (pre ++ (old ++ post)).length - pre.length := by
    simp only [List.length_append]
    omega
  rw [copyAt, List.take_left, List.take_of_length_le hroom, h, ← List.length_append, ← List.append_assoc pre, List.drop_left,
    List.append_assoc]

theorem copyAt_append_append {pre post fst : List α} (snd : List α) (h : fst.length = post.length) :
    copyAt (pre ++ post) pre.length (fst ++ snd) = pre ++ fst := by
  have hroom : (pre ++ post).length - pre.length = fst.length := by
    rw [List.length_append, h, Nat.add_sub_cancel_left]
  have hend : (pre ++ post).drop (pre.length + (fst ++ snd).length) = [] := by
    apply List.drop_eq_nil_of_le
    simp only [List.length_append]
    omega
  rw [copyAt, List.take_left, hroom, List.take_left, hend, List.append_nil]

theorem split_at {xs : List α} {n : Nat} (h : n ≤ xs.length) : ∃ fst snd, xs = fst ++ snd ∧ fst.length = n :=
  ⟨xs.take n, xs.drop n, (List.take_append_drop n xs).symm, List.length_take_of_le h⟩

/-- The last `n` elements. -/
def lastN (n : Nat) (xs : List α) : List α := xs.drop (xs.length - n)

section
variable {n : Nat} {xs ys : List α}

theorem length_lastN (h : n ≤ xs.length) : (lastN n xs).length = n := by
  rw [lastN, List.length_drop]
  omega

theorem lastN_of_length_le (h : xs.length ≤ n) : lastN n xs = xs := by
  rw [lastN, Nat.sub_eq_zero_of_le h, List.drop_zero]

theorem lastN_append (h : xs.length = n) : lastN n (xs ++ ys) = (xs ++ ys).drop ys.length := by
  rw [lastN, List.length_append, h, Nat.add_sub_cancel_left]

theorem lastN_append_of_le (h : n ≤ ys.length) : lastN n (xs ++ ys) = lastN n ys := by
  rw [lastN, lastN, List.length_append, Nat.add_sub_assoc h, ← List.drop_drop, List.drop_left]

theorem lastN_lastN_append (h : n ≤ xs.length) : lastN n (lastN n xs ++ ys) = lastN n (xs ++ ys) := by
  rw [lastN_append (length_lastN h), lastN, lastN, ← List.drop_append_of_le_length (Nat.sub_le _ _), List.drop_drop,
    List.length_append]
  congr 1
  omega

end

structure Buffer (α : Type) where
  data : List α
  size : Nat
  writeCursor : Nat := 0
  written : Nat := 0
  size_pos : 0 < size
  data_length : data.length = size
  cursor_lt : writeCursor < size

namespace Buffer

/-- `make` fills the ring with a default element. -/
def newBuffer (zero : α) (size : Nat) (h : 0 < size) : Buffer α where
  data := List.replicate size zero
  size := size
  size_pos := h
  data_length := List.length_replicate
  cursor_lt := h

/-- The elements that a write leaves in the ring, from its cursor on and then from its beginning. -/
def overwrite (b : Buffer α) (buf : List α) : List α :=
  let remain := b.size - b.writeCursor
  let data := copyAt b.data b.writeCursor buf
  if remain < buf.length then copyAt data 0 (buf.drop remain) else data

theorem length_overwrite (b : Buffer α) (buf : List α) : (b.overwrite buf).length = b.size := by
  have hcopy := length_copyAt buf (Nat.le_of_lt (b.data_length.symm ▸ b.cursor_lt))
  unfold overwrite
  dsimp only
  split
  · rw [length_copyAt _ (Nat.zero_le _), hcopy, b.data_length]
  · rw [hcopy, b.data_length]

/-- Of more elements than there are places only the last ones are written. -/
def write (b : Buffer α) (buf : List α) : Buffer α :=
  let n := buf.length
  let buf := if b.size < n then buf.drop (n - b.size) else buf
  { b with
    data := b.overwrite buf
    writeCursor := (b.writeCursor + buf.length) % b.size
    written := b.written + n
    data_length := b.length_overwrite buf
    cursor_lt := Nat.mod_lt _ b.size_pos }

def bytes (b : Buffer α) : List α :=
  if b.size ≤ b.written ∧ b.writeCursor = 0 then b.data
  else if b.size < b.written then b.data.drop b.writeCursor ++ b.data.take b.writeCursor
  else b.data.take b.writeCursor

/-! ### The view -/

/-- The places of the ring in the order in which they were written last. -/
def view (b : Buffer α) : List α := b.data.drop b.writeCursor ++ b.data.take b.writeCursor

@[simp] theorem length_view (b : Buffer α) : b.view.length = b.size := by
  have := b.cursor_lt
  simp only [view, List.length_append, List.length_drop, List.length_take, b.data_length]
  omega

/-- A write of no more elements than there are places shifts the view by them. -/
theorem view_overwrite (b : Buffer α) {buf : List α} (h : buf.length ≤ b.size) :
    (b.overwrite buf).drop ((b.writeCursor + buf.length) % b.size) ++
        (b.overwrite buf).take ((b.writeCursor + buf.length) % b.size) =
      (b.view ++ buf).drop buf.length := by
  obtain ⟨data, size, c, written, hpos, rfl, hc⟩ := b
  dsimp only [view, overwrite] at h ⊢
  obtain ⟨pre, post, rfl, rfl⟩ := split_at (Nat.le_of_lt hc)
  rw [List.length_append] at h hc
  simp only [List.drop_left, List.take_left, List.length_append, Nat.add_sub_cancel_left]
  by_cases hwrap : post.length < buf.length
  · -- What does not fit behind the cursor takes the place of the beginning of the ring.
    obtain ⟨fst, snd, rfl, hfst⟩ := split_at (Nat.le_of_lt hwrap)
    rw [List.length_append] at h
    obtain ⟨old, keep, rfl, hold⟩ := @split_at _ pre snd.length (by omega)
    simp only [List.length_append] at h hc hwrap ⊢
    have hcursor : (old.length + keep.length + (fst.length + snd.length)) % (old.length + keep.length + post.length) =
        snd.length := by
      rw [show old.length + keep.length + (fst.length + snd.length) =
        snd.length + (old.length + keep.length + post.length) by omega, Nat.add_mod_right]
      exact Nat.mod_eq_of_lt (by omega)
    have hring : copyAt (copyAt (old ++ keep ++ post) (old.length + keep.length) (fst ++ snd)) 0 snd = snd ++ (keep ++ fst) := by
      rw [← List.length_append, copyAt_append_append snd hfst, List.append_assoc]
      exact @copyAt_append _ [] _ _ (keep ++ fst) hold.symm
    have hdrop : fst.length + snd.length = (post ++ old).length := by
      rw [List.length_append]
      omega
    rw [if_pos hwrap, hcursor, ← hfst, List.drop_left, hring, List.drop_left, List.take_left, hdrop, ← List.append_assoc post,
      List.append_assoc _ keep, List.drop_left]
    simp only [List.append_assoc]
  · obtain ⟨old, keep, rfl, hold⟩ := split_at (Nat.not_lt.mp hwrap)
    simp only [List.length_append] at h hc hwrap ⊢
    rw [if_neg hwrap, copyAt_append keep hold.symm, ← hold, List.append_assoc, List.append_assoc, List.drop_left]
    rcases eq_or_ne keep [] with rfl | hkeep
    · rw [List.length_nil, Nat.add_zero, hold, Nat.mod_self]
      simp
    · have hlt : 0 < keep.length := List.length_pos_of_ne_nil hkeep
      have hcursor : (pre.length + old.length) % (pre.length + (old.length + keep.length)) = (pre ++ buf).length := by
        rw [Nat.mod_eq_of_lt (by omega), List.length_append, hold]
      rw [hcursor, ← List.append_assoc, List.drop_left, List.take_left]

theorem view_write (b : Buffer α) (buf : List α) : (b.write buf).view = lastN b.size (b.view ++ buf) := by
  rw [view, write]
  dsimp only
  split
  · rename_i hlong
    have hlength : (lastN b.size buf).length = b.size := length_lastN (Nat.le_of_lt hlong)
    calc _ = (b.view ++ lastN b.size buf).drop (lastN b.size buf).length := view_overwrite b (Nat.le_of_eq hlength)
      _ = lastN b.size (b.view ++ lastN b.size buf) := (lastN_append b.length_view).symm
      _ = lastN b.size (lastN b.size buf) := lastN_append_of_le (Nat.le_of_eq hlength.symm)
      _ = lastN b.size buf := lastN_of_length_le (Nat.le_of_eq hlength)
      _ = lastN b.size (b.view ++ buf) := (lastN_append_of_le (Nat.le_of_lt hlong)).symm
  · rename_i hshort
    rw [lastN_append b.length_view]
    exact view_overwrite b (Nat.not_lt.mp hshort)

/-! ### What is read back -/

/-- Before the writes `h` the ring held any elements; as long as it is not full its cursor stands behind them. -/
structure Holds (b : Buffer α) (h : List α) : Prop where
  view : ∃ stale : List α, stale.length = b.size ∧ b.view = lastN b.size (stale ++ h)
  written : b.written = h.length
  cursor : h.length ≤ b.size → b.writeCursor = h.length % b.size

theorem newBuffer_holds (zero : α) {size : Nat} (h : 0 < size) : (newBuffer zero size h).Holds [] where
  view := ⟨List.replicate size zero, List.length_replicate, by simp [Buffer.view, newBuffer, lastN]⟩
  written := rfl
  cursor _ := (Nat.zero_mod size).symm

theorem Holds.write {b : Buffer α} {h : List α} (hb : b.Holds h) (buf : List α) : (b.write buf).Holds (h ++ buf) where
  view := by
    obtain ⟨stale, hstale, hview⟩ := hb.view
    refine ⟨stale, hstale, ?_⟩
    rw [view_write, hview, lastN_lastN_append (by rw [List.length_append]; omega), List.append_assoc]
    rfl
  written := by rw [List.length_append, ← hb.written]; rfl
  cursor hle := by
    rw [List.length_append] at hle ⊢
    have hsize : (b.write buf).size = b.size := rfl
    rw [hsize] at hle ⊢
    have hcursor := hb.cursor (by omega)
    have hfit : ¬b.size < buf.length := by omega
    simp only [Buffer.write, if_neg hfit, hcursor, Nat.mod_add_mod]

/-- The buffer gives back the last elements that were written, as many as it has places for. -/
theorem Holds.bytes_eq {b : Buffer α} {h : List α} (hb : b.Holds h) : b.bytes = lastN b.size h := by
  obtain ⟨stale, hstale, hview⟩ := hb.view
  have hwritten := hb.written
  have hpos := b.size_pos
  rcases Nat.lt_or_ge h.length b.size with hlt | hge
  · -- A ring that is not full: its end in the view is what stands before the cursor.
    have hcursor : b.writeCursor = h.length := by rw [hb.cursor (by omega), Nat.mod_eq_of_lt hlt]
    have htake : b.data.take b.writeCursor = h := by
      rw [lastN_append hstale, List.drop_append_of_le_length (by omega)] at hview
      refine (List.append_inj' hview ?_).2
      rw [List.length_take, b.data_length]
      omega
    rw [lastN_of_length_le (Nat.le_of_lt hlt), bytes, if_neg (by omega), if_neg (by omega), htake]
  · have hfull : lastN b.size h = b.view := by rw [hview, lastN_append_of_le hge]
    rw [hfull, bytes]
    split
    · rename_i hzero
      rw [Buffer.view, hzero.2, List.drop_zero, List.take_zero, List.append_nil]
    · rename_i hcursor
      have hne : h.length ≠ b.size := by
        intro heq
        have := hb.cursor (by omega)
        rw [heq, Nat.mod_self] at this
        exact hcursor ⟨by omega, this⟩
      rw [if_pos (by omega)]
      rfl

end Buffer

end Circbuf
