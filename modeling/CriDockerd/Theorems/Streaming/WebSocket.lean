import CriDockerd.Lib.Demux
import CriDockerd.Streaming.WebSocket

/-! What comes over the channels of a port forwarding WebSocket. The number of a channel is a byte, so that ports share channels
    when there are more than 128 of them. Up to that every port has its own two streams, in whatever order the goroutines
    write. -/

namespace CriDockerd.Streaming.WebSocket
open Text Demux

/-! ### Messages -/

/-- The code of the first character of a message, and what follows it. The characters of channels take one or two bytes. -/
def firstChar : List UInt8 → Option (Nat × List UInt8)
  | [] => none
  | b :: rest =>
    if b.toNat < 128 then some (b.toNat, rest)
    else match rest with
      | [] => none
      | b' :: rest => some ((b.toNat - 192) * 64 + (b'.toNat - 128), rest)

/-- A message as its receiver reads it: the byte or the character of the channel, and the data. -/
def unframe : Codec → List UInt8 → Option (UInt8 × List UInt8)
  | .raw, [] => none
  | .raw, num :: data => some (num, data)
  | .base64, bytes =>
    match firstChar bytes with
    | none => none
    | some (code, data) => (Base64.decode data).map (UInt8.ofNat code - 48, ·)

theorem utf8EncodeChar_of_lt : ∀ n < 128, String.utf8EncodeChar (Char.ofNat n) = [UInt8.ofNat n] := by decide +kernel

theorem utf8EncodeChar_of_ge : ∀ n < 256, 128 ≤ n →
    String.utf8EncodeChar (Char.ofNat n) = [UInt8.ofNat (192 + n / 64), UInt8.ofNat (128 + n % 64)] := by
  decide +kernel

theorem firstChar_utf8EncodeChar {n : Nat} (hn : n < 256) (data : List UInt8) :
    firstChar (String.utf8EncodeChar (Char.ofNat n) ++ data) = some (n, data) := by
  by_cases hlt : n < 128
  · have htoNat : (UInt8.ofNat n).toNat = n := by
      rw [UInt8.toNat_ofNat']
      omega
    rw [utf8EncodeChar_of_lt n hlt]
    simp only [List.singleton_append, firstChar, htoNat, if_pos hlt]
  · have hfirst : (UInt8.ofNat (192 + n / 64)).toNat = 192 + n / 64 := by
      rw [UInt8.toNat_ofNat']
      omega
    have hsecond : (UInt8.ofNat (128 + n % 64)).toNat = 128 + n % 64 := by
      rw [UInt8.toNat_ofNat']
      omega
    have hcode : (192 + n / 64 - 192) * 64 + (128 + n % 64 - 128) = n := by omega
    rw [utf8EncodeChar_of_ge n hn (Nat.not_lt.mp hlt)]
    simp only [List.cons_append, List.nil_append, firstChar, hfirst, hsecond, hcode]
    rw [if_neg (by omega)]

theorem unframe_frame (codec : Codec) (num : UInt8) (data : List UInt8) :
    unframe codec (frame codec num data) = some (num, data) := by
  cases codec with
  | raw => rfl
  | base64 =>
    have hsub : UInt8.ofNat (48 + num).toNat - 48 = num := by
      rw [UInt8.ofNat_toNat, UInt8.add_comm, UInt8.add_sub_cancel]
    rw [unframe, frame, firstChar_utf8EncodeChar (UInt8.toNat_lt _)]
    dsimp only
    rw [Base64.decode_encode, Option.map_some, hsub]

/-! ### Streams -/

/-- The data that writes have for the channel with a number. -/
def dataOf (num : UInt8) (writes : List (Nat × List UInt8)) : List UInt8 := select (UInt8.ofNat · = num) writes

/-- What a client gets on a channel. -/
def received (codec : Codec) (sent : List (List UInt8)) (num : UInt8) : List UInt8 :=
  select (· = num) (sent.filterMap (unframe codec))

theorem received_append (codec : Codec) (sent sent' : List (List UInt8)) (num : UInt8) :
    received codec (sent ++ sent') num = received codec sent num ++ received codec sent' num := by
  rw [received, List.filterMap_append, select_append, received, received]

theorem received_write {conn : Conn} {channel : Nat} (h : conn.channels[channel]?.any ChannelType.canWrite = true)
    (data : List UInt8) (num : UInt8) :
    received conn.codec (conn.write channel data) num = dataOf num [(channel, data)] := by
  rw [Conn.write, if_pos h, received, dataOf, List.filterMap_cons, List.filterMap_nil, unframe_frame]
  by_cases hnum : UInt8.ofNat channel = num <;> simp [select, hnum]

theorem sent_append (conn : Conn) (writes writes' : List (Nat × List UInt8)) :
    conn.sent (writes ++ writes') = conn.sent writes ++ conn.sent writes' := List.flatMap_append

theorem sent_singleton (conn : Conn) (w : Nat × List UInt8) : conn.sent [w] = conn.write w.1 w.2 := List.flatMap_singleton ..

theorem received_sent {conn : Conn} {writes : List (Nat × List UInt8)} (num : UInt8)
    (h : ∀ w ∈ writes, conn.channels[w.1]?.any ChannelType.canWrite = true) :
    received conn.codec (conn.sent writes) num = dataOf num writes := by
  induction writes with
  | nil => simp [Conn.sent, received, dataOf]
  | cons w rest ih =>
    have hrest := ih fun w' hw' => h w' (List.mem_cons_of_mem _ hw')
    rw [← List.singleton_append, dataOf, select_append, sent_append, sent_singleton, received_append,
      received_write (h w List.mem_cons_self), hrest]
    rfl

/-! ### The channels of the ports -/

theorem channels_getElem? (ports : List Int) (j : Nat) :
    (ports.flatMap fun _ => [ChannelType.readWrite, .write])[j]? =
      if j < 2 * ports.length then some (if j % 2 = 0 then ChannelType.readWrite else .write) else none := by
  induction ports generalizing j with
  | nil => simp
  | cons port ports ih =>
    match j with
    | 0 => simp
    | 1 =>
      rw [if_pos (by rw [List.length_cons]; omega)]
      rfl
    | j + 2 =>
      rw [List.flatMap_cons]
      show (ports.flatMap fun _ => [ChannelType.readWrite, .write])[j]? = _
      rw [ih, List.length_cons, Nat.add_mod_right]
      have hlt : j + 2 < 2 * (ports.length + 1) ↔ j < 2 * ports.length := by omega
      simp only [hlt]

theorem channels_canWrite {codec : Codec} {ports : List Int} {j : Nat} (hj : j < 2 * ports.length) :
    (portConn codec ports).channels[j]?.any ChannelType.canWrite = true := by
  rw [portConn, channels_getElem?, if_pos hj]
  split <;> rfl

theorem portForward_channel {h : StreamHandler} {i : Nat} {port : Int} {f : Forward} {w : Nat × List UInt8}
    (hw : w ∈ h.portForward i port f) : w.1 / 2 = i := by
  rw [StreamHandler.portForward, List.mem_append, List.mem_map, Option.mem_toList, Option.map_eq_some_iff] at hw
  rcases hw with ⟨data, -, rfl⟩ | ⟨err, -, rfl⟩
  · exact Nat.mul_div_cancel_left i (by decide)
  · dsimp only
    omega

theorem announce_channel {i : Nat} {ports : List Int} {w : Nat × List UInt8} (hw : w ∈ announce i ports) :
    2 * i ≤ w.1 ∧ w.1 < 2 * (i + ports.length) := by
  induction ports generalizing i with
  | nil => cases hw
  | cons port ports ih =>
    rw [announce, List.mem_cons, List.mem_cons] at hw
    rw [List.length_cons]
    rcases hw with rfl | rfl | hw
    · dsimp only
      omega
    · dsimp only
      omega
    · have := ih hw
      omega

/-- The writes of the goroutine of a port; there is none after the last one. -/
def goroutine (h : StreamHandler) (ports : List Int) (forward : Nat → Forward) (i : Nat) : List (Nat × List UInt8) :=
  ports[i]?.elim [] fun port => h.portForward i port (forward i)

theorem goroutine_channel {h : StreamHandler} {ports : List Int} {forward : Nat → Forward} {i : Nat} {w : Nat × List UInt8}
    (hw : w ∈ goroutine h ports forward i) : w.1 / 2 = i ∧ w.1 < 2 * ports.length := by
  rw [goroutine] at hw
  cases hport : ports[i]? with
  | none =>
    rw [hport] at hw
    cases hw
  | some port =>
    rw [hport] at hw
    have hchannel := portForward_channel hw
    have hi := (List.getElem?_eq_some_iff.mp hport).1
    exact ⟨hchannel, by omega⟩

/-! ### Runs -/

/-- The messages of a run are those of the ports and then of the writes so far, which are for every goroutine the first ones
    of its own. -/
structure Written (h : StreamHandler) (ports : List Int) (forward : Nat → Forward) (writes : List (Nat × List UInt8))
    (p : Thread.Pool (List (List UInt8)) Nat Unit) : Prop where
  state : p.state = h.conn.sent (announce 0 ports ++ writes)
  threads : ∀ i, ∃ rest, p.threads i = h.conn.writer rest ∧
    (writes.filter fun w => w.1 / 2 = i) ++ rest = goroutine h ports forward i

theorem Written.advance {h : StreamHandler} {ports : List Int} {forward : Nat → Forward} {writes : List (Nat × List UInt8)}
    {p : Thread.Pool (List (List UInt8)) Nat Unit} (hp : Written h ports forward writes p) (i : Nat) :
    ∃ writes', Written h ports forward writes' (p.advance i) := by
  obtain ⟨rest, hthread, hrest⟩ := hp.threads i
  cases rest with
  | nil =>
    refine ⟨writes, ?_⟩
    rw [Thread.Pool.advance, hthread]
    exact hp
  | cons w rest =>
    have hw : w.1 / 2 = i :=
      (goroutine_channel (hrest ▸ List.mem_append_right _ List.mem_cons_self)).1
    refine ⟨writes ++ [w], ?_⟩
    rw [Thread.Pool.advance, hthread]
    refine ⟨?_, fun j => ?_⟩
    · show p.state ++ h.conn.write w.1 w.2 = _
      rw [hp.state, ← List.append_assoc, sent_append _ (announce 0 ports ++ writes), sent_singleton]
    · by_cases hj : j = i
      · subst hj
        refine ⟨rest, Function.update_self .., ?_⟩
        rw [List.filter_append, List.filter_singleton, decide_eq_true hw, cond_true, List.append_assoc]
        exact hrest
      · obtain ⟨rest', hthread', hrest'⟩ := hp.threads j
        refine ⟨rest', (Function.update_of_ne hj ..).trans hthread', ?_⟩
        rw [List.filter_append, List.filter_singleton, decide_eq_false (hw ▸ Ne.symm hj), cond_false, List.append_nil]
        exact hrest'

theorem Written.of_reaches {codec : Codec} {pod uid : Text} {ports : List Int} {forward : Nat → Forward}
    {p : Thread.Pool (List (List UInt8)) Nat Unit} (h : (handleWebSocketStreams codec pod uid ports forward).Reaches p) :
    ∃ writes, Written { conn := portConn codec ports, pod, uid } ports forward writes p := by
  refine Reachable.invariant (fun p => ∃ writes, Written { conn := portConn codec ports, pod, uid } ports forward writes p)
    ?_ ?_ h
  · rintro p rfl
    exact ⟨[], by rw [List.append_nil]; rfl, fun i => ⟨_, rfl, rfl⟩⟩
  · rintro p i ⟨writes, hp⟩ -
    exact hp.advance i

theorem Written.writes_channel {h : StreamHandler} {ports : List Int} {forward : Nat → Forward}
    {writes : List (Nat × List UInt8)} {p : Thread.Pool (List (List UInt8)) Nat Unit} (hp : Written h ports forward writes p)
    {w : Nat × List UInt8} (hw : w ∈ announce 0 ports ++ writes) : w.1 < 2 * ports.length := by
  rcases List.mem_append.mp hw with hw | hw
  · have := (announce_channel hw).2
    omega
  · obtain ⟨rest, -, hrest⟩ := hp.threads (w.1 / 2)
    have hmem : w ∈ writes.filter fun w' => w'.1 / 2 = w.1 / 2 := List.mem_filter.mpr ⟨hw, decide_eq_true rfl⟩
    exact (goroutine_channel (hrest ▸ List.mem_append_left rest hmem)).2

theorem Written.received {codec : Codec} {pod uid : Text} {ports : List Int} {forward : Nat → Forward}
    {writes : List (Nat × List UInt8)} {p : Thread.Pool (List (List UInt8)) Nat Unit}
    (hp : Written { conn := portConn codec ports, pod, uid } ports forward writes p) (num : UInt8) :
    received codec p.state num = dataOf num (announce 0 ports ++ writes) := by
  rw [hp.state]
  exact received_sent num fun w hw => channels_canWrite (hp.writes_channel hw)

/-! ### The streams of a port -/

theorem ofNat_eq_iff {c d : Nat} : UInt8.ofNat c = UInt8.ofNat d ↔ c % 256 = d % 256 := by
  rw [← UInt8.toNat_inj, UInt8.toNat_ofNat', UInt8.toNat_ofNat']

/-- The data that writes have for a channel. -/
def channelData (c : Nat) (writes : List (Nat × List UInt8)) : List UInt8 := select (· = c) writes

theorem channelData_append (c : Nat) (ws ws' : List (Nat × List UInt8)) :
    channelData c (ws ++ ws') = channelData c ws ++ channelData c ws' := select_append ..

theorem channelData_cons_self (c : Nat) (data : List UInt8) (rest : List (Nat × List UInt8)) :
    channelData c ((c, data) :: rest) = data ++ channelData c rest :=
  select_cons_of_pos (p := (· = c)) (decide_eq_true rfl) rest

theorem channelData_cons_ne {c : Nat} {w : Nat × List UInt8} (h : w.1 ≠ c) (rest : List (Nat × List UInt8)) :
    channelData c (w :: rest) = channelData c rest :=
  select_cons_of_neg (p := (· = c)) (decide_eq_false h) rest

theorem channelData_eq_nil {c : Nat} {writes : List (Nat × List UInt8)} (h : ∀ w ∈ writes, w.1 ≠ c) :
    channelData c writes = [] := select_eq_nil fun w hw => decide_eq_false (h w hw)

theorem dataOf_eq_channelData {c : Nat} {writes : List (Nat × List UInt8)} (hc : c < 256) (h : ∀ w ∈ writes, w.1 < 256) :
    dataOf (UInt8.ofNat c) writes = channelData c writes := by
  refine select_congr fun w hw => ?_
  have hw := h w hw
  rw [decide_eq_decide, ofNat_eq_iff, Nat.mod_eq_of_lt hw, Nat.mod_eq_of_lt hc]

theorem channelData_filter {c i : Nat} (hc : c / 2 = i) (writes : List (Nat × List UInt8)) :
    channelData c (writes.filter fun w => w.1 / 2 = i) = channelData c writes :=
  select_filter (p := (· = c)) (q := (· / 2 = i)) (fun d hd => decide_eq_true ((of_decide_eq_true hd : d = c) ▸ hc)) writes

theorem channelData_announce {i k : Nat} {ports : List Int} {port : Int} (hport : ports[k]? = some port) :
    channelData (2 * (i + k)) (announce i ports) = portBytes port ∧
      channelData (2 * (i + k) + 1) (announce i ports) = portBytes port := by
  induction ports generalizing i k with
  | nil => cases hport
  | cons port' ports ih =>
    rw [announce]
    cases k with
    | zero =>
      obtain rfl : port' = port := by simpa using hport
      have hrest (c : Nat) (hc : c < 2 * (i + 1)) : channelData c (announce (i + 1) ports) = [] :=
        channelData_eq_nil fun w hw => by
          have := (announce_channel hw).1
          omega
      rw [Nat.add_zero, channelData_cons_self, channelData_cons_ne (by simp), hrest _ (by omega), channelData_cons_ne (by simp),
        channelData_cons_self, hrest _ (by omega), List.append_nil]
      exact ⟨rfl, rfl⟩
    | succ k =>
      have hrest := @ih (i + 1) k (by simpa using hport)
      rw [show i + 1 + k = i + (k + 1) by omega] at hrest
      have hskip (c : Nat) (hc : 2 * (i + 1) ≤ c) : channelData c ((2 * i, portBytes port') :: (2 * i + 1, portBytes port') ::
          announce (i + 1) ports) = channelData c (announce (i + 1) ports) := by
        rw [channelData_cons_ne (by dsimp only; omega), channelData_cons_ne (by dsimp only; omega)]
      rw [hskip _ (by omega), hskip _ (by omega)]
      exact hrest

theorem channelData_map_self (c : Nat) (data : List (List UInt8)) : channelData c (data.map (c, ·)) = data.flatten := by
  induction data with
  | nil => rfl
  | cons d data ih => rw [List.map_cons, channelData_cons_self, ih, List.flatten_cons]

theorem channelData_map_ne {c d : Nat} (h : d ≠ c) (data : List (List UInt8)) : channelData c (data.map (d, ·)) = [] :=
  channelData_eq_nil fun w hw => by
    obtain ⟨x, -, rfl⟩ := List.mem_map.mp hw
    exact h

theorem channelData_portForward (h : StreamHandler) (i : Nat) (port : Int) (f : Forward) :
    channelData (2 * i) (h.portForward i port f) = f.data.flatten ∧
      channelData (2 * i + 1) (h.portForward i port f) = f.err.elim [] (h.errorBytes port) := by
  rw [StreamHandler.portForward, channelData_append, channelData_append, channelData_map_self, channelData_map_ne (by omega)]
  cases f.err with
  | none => exact ⟨List.append_nil _, rfl⟩
  | some err =>
    constructor
    · rw [Option.map_some, Option.toList_some, channelData_cons_ne (by simp)]
      exact List.append_nil _
    · exact (channelData_cons_self ..).trans (List.append_nil _)

theorem channelData_take (h : StreamHandler) (i k : Nat) (port : Int) (f : Forward) :
    channelData (2 * i) ((h.portForward i port f).take k) = (f.data.take k).flatten ∧
      channelData (2 * i + 1) ((h.portForward i port f).take k) =
        if f.data.length < k then f.err.elim [] (h.errorBytes port) else [] := by
  rw [StreamHandler.portForward, List.take_append, List.length_map, ← List.map_take, channelData_append, channelData_append,
    channelData_map_self, channelData_map_ne (by omega), List.nil_append]
  by_cases hk : f.data.length < k
  · obtain ⟨n, hn⟩ : ∃ n, k - f.data.length = n + 1 := ⟨k - f.data.length - 1, by omega⟩
    rw [hn, if_pos hk]
    cases f.err with
    | none => exact ⟨List.append_nil _, rfl⟩
    | some err =>
      simp only [Option.map_some, Option.toList_some, List.take_succ_cons, List.take_nil]
      rw [channelData_cons_ne (by simp), channelData_cons_self]
      exact ⟨List.append_nil _, List.append_nil _⟩
  · rw [Nat.sub_eq_zero_of_le (Nat.not_lt.mp hk), List.take_zero, if_neg hk]
    exact ⟨List.append_nil _, rfl⟩

/-- What has come on a channel of a port: the port, and the first writes of its goroutine, which has the others to make. -/
theorem Written.received_take {codec : Codec} {pod uid : Text} {ports : List Int} {forward : Nat → Forward}
    {writes : List (Nat × List UInt8)} {p : Thread.Pool (List (List UInt8)) Nat Unit}
    (hp : Written { conn := portConn codec ports, pod, uid } ports forward writes p) (hlimit : ports.length ≤ 128)
    {i : Nat} {port : Int} (hport : ports[i]? = some port) :
    ∃ k, p.threads i = (portConn codec ports).writer
        ((StreamHandler.portForward { conn := portConn codec ports, pod, uid } i port (forward i)).drop k) ∧
      ∀ c, c = 2 * i ∨ c = 2 * i + 1 → WebSocket.received codec p.state (UInt8.ofNat c) = portBytes port ++
        channelData c ((StreamHandler.portForward { conn := portConn codec ports, pod, uid } i port (forward i)).take k) := by
  have hi := (List.getElem?_eq_some_iff.mp hport).1
  obtain ⟨rest, hthread, hrest⟩ := hp.threads i
  rw [goroutine, hport, Option.elim_some] at hrest
  refine ⟨(writes.filter fun w => w.1 / 2 = i).length, ?_, fun c hc => ?_⟩
  · rw [hthread, ← hrest, List.drop_left]
  · have hannounce : channelData c (announce 0 ports) = portBytes port := by
      have := @channelData_announce 0 i ports port hport
      rw [Nat.zero_add] at this
      rcases hc with rfl | rfl
      · exact this.1
      · exact this.2
    rw [hp.received, dataOf_eq_channelData (by omega) fun w hw => ?_, channelData_append, hannounce, ← hrest, List.take_left,
      channelData_filter (by omega : c / 2 = i)]
    have := hp.writes_channel hw
    omega

/-- With at most 128 ports, in every order of the writes of the goroutines: the forwarder of a port has made its first writes and
    has the others to make, and the client has got the port and just the data of these writes on the data stream of the port,
    and the port and the error, if it has been written, on its error stream. When the goroutine is done this is all. -/
theorem handleWebSocketStreams_streams {codec : Codec} {pod uid : Text} {ports : List Int} {forward : Nat → Forward}
    {p : Thread.Pool (List (List UInt8)) Nat Unit} (hlimit : ports.length ≤ 128)
    (h : (handleWebSocketStreams codec pod uid ports forward).Reaches p) {i : Nat} {port : Int} (hport : ports[i]? = some port) :
    (∃ k, p.threads i = (portConn codec ports).writer
        ((StreamHandler.portForward { conn := portConn codec ports, pod, uid } i port (forward i)).drop k) ∧
      received codec p.state (UInt8.ofNat (2 * i)) = portBytes port ++ ((forward i).data.take k).flatten ∧
      received codec p.state (UInt8.ofNat (2 * i + 1)) = portBytes port ++
        if (forward i).data.length < k then
          (forward i).err.elim [] (StreamHandler.errorBytes { conn := portConn codec ports, pod, uid } port)
        else []) ∧
    (p.threads i = .done () →
      received codec p.state (UInt8.ofNat (2 * i)) = portBytes port ++ (forward i).data.flatten ∧
      received codec p.state (UInt8.ofNat (2 * i + 1)) = portBytes port ++
        (forward i).err.elim [] (StreamHandler.errorBytes { conn := portConn codec ports, pod, uid } port)) := by
  obtain ⟨writes, hp⟩ := Written.of_reaches h
  obtain ⟨k, hthread, hreceived⟩ := hp.received_take hlimit hport
  refine ⟨⟨k, hthread, ?_, ?_⟩, fun hdone => ?_⟩
  · rw [hreceived _ (.inl rfl), (channelData_take ..).1]
  · rw [hreceived _ (.inr rfl), (channelData_take ..).2]
  · -- Nothing is left of the writes.
    have hall : (StreamHandler.portForward { conn := portConn codec ports, pod, uid } i port (forward i)).drop k = [] := by
      rw [hdone] at hthread
      generalize List.drop k _ = rest at hthread ⊢
      cases rest with
      | nil => rfl
      | cons w rest => cases hthread
    have htake := List.take_of_length_le (List.drop_eq_nil_iff.mp hall)
    rw [hreceived _ (.inl rfl), hreceived _ (.inr rfl), htake, (channelData_portForward ..).1, (channelData_portForward ..).2]
    exact ⟨rfl, rfl⟩

/-- Two ports, where the goroutine of the second one writes first. -/
theorem handleWebSocketStreams_streams_twoPorts :
    received .base64 (((handleWebSocketStreams .base64 "pod" "uid" [80, 8080]
      fun i => { data := [[UInt8.ofNat i]], err := none }).advance 1).advance 0).state 2 = [144, 31, 1] :=
  ((@handleWebSocketStreams_streams .base64 "pod" "uid" [80, 8080]
    (fun i => { data := [[UInt8.ofNat i]], err := none }) _ (by decide) (.call (.call (.start rfl) trivial) trivial) 1 8080
    rfl).2 rfl).1

/-! ### Beyond the limit -/

theorem announce_append (i : Nat) (ports ports' : List Int) :
    announce i (ports ++ ports') = announce i ports ++ announce (i + ports.length) ports' := by
  induction ports generalizing i with
  | nil => rfl
  | cons port ports ih =>
    rw [List.cons_append, announce, announce, ih, List.length_cons, show i + 1 + ports.length = i + (ports.length + 1) by omega]
    rfl

theorem dataOf_eq_nil {c : Nat} {writes : List (Nat × List UInt8)} (h : ∀ w ∈ writes, w.1 % 256 ≠ c % 256) :
    dataOf (UInt8.ofNat c) writes = [] :=
  select_eq_nil fun w hw => decide_eq_false fun heq => h w hw (ofNat_eq_iff.mp heq)

theorem dataOf_announce {i k c : Nat} {ports : List Int} {port : Int} (hport : ports[k]? = some port)
    (hc : 2 * (i + k) % 256 = c % 256) (hfirst : ∀ d, 2 * i ≤ d → d < 2 * (i + k) → d % 256 ≠ c % 256) :
    dataOf (UInt8.ofNat c) (announce i ports) =
      portBytes port ++ dataOf (UInt8.ofNat c) (announce (i + k + 1) (ports.drop (k + 1))) := by
  obtain ⟨hk, hget⟩ := List.getElem?_eq_some_iff.mp hport
  have hports : ports = ports.take k ++ port :: ports.drop (k + 1) := by
    rw [← hget, ← List.drop_eq_getElem_cons hk, List.take_append_drop]
  have hlength : (ports.take k).length = k := List.length_take_of_le (Nat.le_of_lt hk)
  have hbefore : dataOf (UInt8.ofNat c) (announce i (ports.take k)) = [] := dataOf_eq_nil fun w hw => by
    have hw := announce_channel hw
    rw [hlength] at hw
    exact hfirst w.1 hw.1 hw.2
  have hself : UInt8.ofNat (2 * (i + k)) = UInt8.ofNat c := ofNat_eq_iff.mpr hc
  have hnext : UInt8.ofNat (2 * (i + k) + 1) ≠ UInt8.ofNat c := fun h => by
    have := ofNat_eq_iff.mp h
    omega
  conv => lhs; rw [hports]
  rw [dataOf] at hbefore
  rw [announce_append, hlength, dataOf, select_append, hbefore, List.nil_append, announce,
    select_cons_of_pos (p := (UInt8.ofNat · = UInt8.ofNat c)) (decide_eq_true hself),
    select_cons_of_neg (p := (UInt8.ofNat · = UInt8.ofNat c)) (decide_eq_false hnext), dataOf]

/-- Beyond the limit streams are mixed: the data stream of a port starts with that port and the one 128 places after it. -/
theorem handleWebSocketStreams_beyond {codec : Codec} {pod uid : Text} {ports : List Int} {forward : Nat → Forward}
    {p : Thread.Pool (List (List UInt8)) Nat Unit} (h : (handleWebSocketStreams codec pod uid ports forward).Reaches p)
    {i : Nat} (hi : i < 128) {port port' : Int} (hport : ports[i]? = some port) (hport' : ports[i + 128]? = some port') :
    portBytes port ++ portBytes port' <+: received codec p.state (UInt8.ofNat (2 * i)) := by
  obtain ⟨writes, hp⟩ := Written.of_reaches h
  have hsecond : (ports.drop (i + 1))[127]? = some port' := by
    rw [List.getElem?_drop, show i + 1 + 127 = i + 128 by omega, hport']
  have happend : dataOf (UInt8.ofNat (2 * i)) (announce 0 ports ++ writes) =
      dataOf (UInt8.ofNat (2 * i)) (announce 0 ports) ++ dataOf (UInt8.ofNat (2 * i)) writes := select_append ..
  rw [hp.received, happend, dataOf_announce (i := 0) hport (by omega) fun d _ hd => by omega,
    dataOf_announce hsecond (by omega) fun d hd hd' => by omega, List.append_assoc, List.append_assoc, ← List.append_assoc]
  exact List.prefix_append ..

theorem handleWebSocketStreams_beyond_manyPorts :
    portBytes 80 ++ portBytes 8080 <+:
      received .base64 (handleWebSocketStreams .base64 [] [] (80 :: List.replicate 128 8080) fun _ => ⟨[], none⟩).state 0 :=
  @handleWebSocketStreams_beyond .base64 [] [] (80 :: List.replicate 128 8080) (fun _ => ⟨[], none⟩) _ (.start rfl) 0 (by decide)
    80 8080 rfl rfl

end CriDockerd.Streaming.WebSocket
