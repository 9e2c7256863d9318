import CriDockerd.ContainerManager.Pids

/-! The number in a pid file. What is read as a number is the whole buffer, so that the file has to fill it with digits. -/

namespace CriDockerd.ContainerManager
open Text Strconv

/-- The file holds the digits of a positive `int`, and maybe a newline after them. -/
structure HoldsPid (env : ProcEnv) (pidFile : Text) (content : List UInt8) (digits newline : Text) (pid : Nat) : Prop where
  named : pidFile ≠ []
  opens : env.openFile pidFile = .ok content
  readable : env.readFault pidFile = none
  text : string content = digits ++ newline
  size : content.length ≤ 1024
  isDigit : ∀ c ∈ digits, c.isDigit = true
  value : Nat.ofDigitChars 10 digits 0 = pid
  pos : 0 < pid
  int : pid ≤ maxInt64
  newline_or : newline = [] ∨ newline = ['\n']

namespace HoldsPid
variable {env : ProcEnv} {name pidFile digits newline : Text} {content : List UInt8} {pid : Nat}

theorem digits_ne_nil (h : HoldsPid env pidFile content digits newline pid) : digits ≠ [] := by
  rintro rfl
  have hpos := h.pos
  rw [← h.value, Nat.ofDigitChars_nil] at hpos
  exact Nat.lt_irrefl 0 hpos

theorem length_eq (h : HoldsPid env pidFile content digits newline pid) :
    content.length = digits.length + newline.length := by
  rw [← List.length_append, ← h.text, string, List.length_map]

theorem read_eq (h : HoldsPid env pidFile content digits newline pid) :
    ∃ data, read content 1024 = .ok data ∧ string data = digits ++ (newline ++ List.replicate (1024 - content.length) '\x00') := by
  have hne : content ≠ [] := by
    rintro rfl
    have htext := h.text
    rw [string, List.map_nil] at htext
    exact h.digits_ne_nil (List.append_eq_nil_iff.mp htext.symm).1
  refine ⟨_, by rw [read, if_neg hne], ?_⟩
  have htext := h.text
  rw [string] at htext ⊢
  rw [List.take_of_length_le h.size, List.map_append, htext, List.map_replicate, List.append_assoc]
  rfl

theorem getPidFromPidFile_full (h : HoldsPid env pidFile content digits newline pid) (hnewline : newline = [])
    (hlength : content.length = 1024) : getPidFromPidFile env pidFile = .ok pid := by
  obtain ⟨data, hread, hdata⟩ := h.read_eq
  have hnumber : atoi (string data) = .ok (pid : Int) := by
    rw [hdata, hnewline, hlength, Nat.sub_self, List.replicate_zero, List.append_nil, List.append_nil, ← h.value]
    exact atoi_of_digits h.digits_ne_nil h.isDigit (h.value ▸ h.int)
  rw [getPidFromPidFile, h.opens, h.readable]
  simp only [Option.elim_none, hread, hnumber]

theorem getPidFromPidFile_padded (h : HoldsPid env pidFile content digits newline pid)
    (hpadded : ¬(newline = [] ∧ content.length = 1024)) : ∃ err, getPidFromPidFile env pidFile = .error err := by
  obtain ⟨data, hread, hdata⟩ := h.read_eq
  obtain ⟨c, digits, rfl⟩ := List.exists_cons_of_ne_nil h.digits_ne_nil
  obtain ⟨d, hd, hdigit⟩ : ∃ d ∈ digits ++ (newline ++ List.replicate (1024 - content.length) '\x00'), d.isDigit = false := by
    rcases h.newline_or with hnil | hnewline
    · have hshort : 1024 - content.length ≠ 0 := by
        have hsize := h.size
        have hne : content.length ≠ 1024 := fun heq => hpadded ⟨hnil, heq⟩
        omega
      exact ⟨'\x00', by simp [hshort], by decide⟩
    · exact ⟨'\n', by simp [hnewline], by decide⟩
  obtain ⟨err, herr⟩ := atoi_of_not_digit (h.isDigit c List.mem_cons_self) hd hdigit
  rw [← List.cons_append, ← hdata] at herr
  rw [getPidFromPidFile, h.opens, h.readable]
  simp only [Option.elim_none, hread, herr]
  exact ⟨_, rfl⟩

end HoldsPid

/-- The ID is read from the file, and not looked up, exactly if its digits fill the buffer. -/
theorem getPidsForProcess_reads_iff {env : ProcEnv} {pidFile digits newline : Text} {content : List UInt8} {pid : Nat}
    (h : HoldsPid env pidFile content digits newline pid) (name : Text) :
    (getPidFromPidFile env pidFile = .ok pid ∧ getPidsForProcess env name pidFile = (.ok [(pid : Int)], [])) ↔
      newline = [] ∧ content.length = 1024 := by
  constructor
  · rintro ⟨hpid, -⟩
    by_contra hpadded
    obtain ⟨err, herr⟩ := h.getPidFromPidFile_padded hpadded
    rw [hpid] at herr
    cases herr
  · rintro ⟨hnewline, hlength⟩
    have hpid := h.getPidFromPidFile_full hnewline hlength
    refine ⟨hpid, ?_⟩
    rw [getPidsForProcess, if_neg (List.length_eq_zero_iff.not.mpr h.named), hpid]

def machine (content : List UInt8) : ProcEnv :=
  { openFile := fun _ => .ok content, readFault := fun _ => none, pidOf := fun _ => .ok [41, 42] }

theorem getPidsForProcess_reads_zeros :
    getPidFromPidFile (machine (List.replicate 1022 48 ++ [52, 50])) "/var/run/docker.pid" = .ok (42 : Nat) ∧
      getPidsForProcess (machine (List.replicate 1022 48 ++ [52, 50])) "dockerd" "/var/run/docker.pid" =
        (.ok [((42 : Nat) : Int)], []) := by
  have hpid : HoldsPid (machine (List.replicate 1022 48 ++ [52, 50])) "/var/run/docker.pid"
      (List.replicate 1022 48 ++ [52, 50]) (List.replicate 1022 '0' ++ ['4', '2']) [] 42 :=
    { named := by decide
      opens := rfl
      readable := rfl
      text := by
        rw [string, List.map_append, List.map_replicate, List.append_nil]
        rfl
      size := by rw [List.length_append, List.length_replicate]; decide
      isDigit := by
        intro c hc
        rcases List.mem_append.mp hc with hzero | hlast
        · rw [List.eq_of_mem_replicate hzero]
          rfl
        · simp only [List.mem_cons, List.not_mem_nil, or_false] at hlast
          obtain rfl | rfl := hlast <;> rfl
      value := by decide +kernel
      pos := by decide
      int := by decide
      newline_or := .inl rfl }
  exact (getPidsForProcess_reads_iff hpid "dockerd").mpr
    ⟨rfl, by rw [List.length_append, List.length_replicate]; decide⟩

/-- The file as the daemon writes it: the number is refused, and the name is looked up. -/
theorem getPidsForProcess_looks_up :
    getPidFromPidFile (machine [52, 50]) "/var/run/docker.pid" ≠ .ok 42 ∧
      getPidsForProcess (machine [52, 50]) "dockerd".toList "/var/run/docker.pid".toList = (.ok [41, 42], ["dockerd".toList]) := by
  decide +kernel

end CriDockerd.ContainerManager
