import CriDockerd.Bandwidth.Setup
import CriDockerd.Lib.Scan

/-! The handle of the qdisc that the set up deletes. `interfaceExists` takes the line of the qdisc apart at white space, and
    `ReconcileInterface` at single spaces: the handle is what stands between the second space and the third. -/

namespace CriDockerd.Bandwidth
open Text

def showArgs (iface : Text) : List Text := ["qdisc", "show", "dev", iface]

def deleteArgs (iface handle : Text) : List Text :=
  ["qdisc", "delete", "dev", iface, "root", "handle", handle]

def NoQdisc (data : Text) : Prop := trimSpace data = [] ∨ (fields data)[1]? = some "noqueue".toList

/-- The line is that of the shaper's own qdisc, which stays: after the first space it goes on with `htb 1: `, and then with
    eight spaces or more. -/
def OwnQdisc (line : Text) : Prop :=
  ∃ kind rest, line = kind ++ ' ' :: ("htb" ++ ' ' :: ("1:" ++ ' ' :: rest)) ∧ ' ' ∉ kind ∧ 8 ≤ rest.count ' '

/-- A word stands between the second space of the line and the third, and it is the third word: two words stand before it, or
    it repeats the third word, which stands before it or right after it. -/
def ThirdWordSpaced (line : Text) : Prop :=
  ∃ before word rest, line = before ++ ' ' :: (word ++ rest) ∧ before.count ' ' = 1 ∧ Ends ' ' rest ∧
    word ≠ [] ∧ (∀ c ∈ word, isSpace c = false) ∧
      ((fields before).length = 2 ∨ (fields before)[2]? = some word ∨
        (fields before).length = 1 ∧ (fields rest)[0]? = some word)

/-- The test of the shaper for its own qdisc, on the pieces between spaces. -/
theorem ownQdisc_iff (line : Text) :
    OwnQdisc line ↔ 12 ≤ (split line ' ').length ∧ (split line ' ')[1]? = some "htb".toList ∧
      (split line ' ')[2]? = some "1:".toList := by
  constructor
  · rintro ⟨kind, rest, rfl, hkind, hrest⟩
    have hsplit : split (kind ++ ' ' :: ("htb".toList ++ ' ' :: ("1:".toList ++ ' ' :: rest))) ' ' =
        kind :: "htb" :: "1:" :: split rest ' ' := by
      simp only [split]
      rw [List.splitOn_append_cons_self_of_not_mem hkind, List.splitOn_append_cons_self_of_not_mem (by decide),
        List.splitOn_append_cons_self_of_not_mem (by decide)]
    rw [hsplit]
    refine ⟨?_, rfl, rfl⟩
    rw [List.length_cons, List.length_cons, List.length_cons, length_split]
    omega
  · rintro ⟨hlength, hkind, hhandle⟩
    generalize hsplit : split line ' ' = words at hlength hkind hhandle
    rcases words with _ | ⟨kind, _ | ⟨htb, _ | ⟨handle, _ | ⟨piece, pieces⟩⟩⟩⟩
    iterate 4
      · simp at hlength
    obtain rfl : htb = "htb" := Option.some.inj hkind
    obtain rfl : handle = "1:" := Option.some.inj hhandle
    have hline := join_split line ' '
    rw [hsplit, join_cons_cons, join_cons_cons, join_cons_cons] at hline
    refine ⟨kind, join [' '] (piece :: pieces), by rw [← hline]; simp, ?_, ?_⟩
    · exact not_mem_of_mem_split (hsplit ▸ List.mem_cons_self)
    · have hpieces : split (join [' '] (piece :: pieces)) ' ' = piece :: pieces := by
        refine List.splitOn_intercalate ' ' (fun p hp => ?_) (List.cons_ne_nil _ _)
        have hmem : p ∈ split line ' ' := by
          rw [hsplit]
          exact List.mem_cons_of_mem _ (List.mem_cons_of_mem _ (List.mem_cons_of_mem _ hp))
        exact not_mem_of_mem_split hmem
      have hcount := length_split (join [' '] (piece :: pieces)) ' '
      rw [hpieces] at hcount
      simp only [List.length_cons] at hlength hcount
      omega

/-- The line taken apart at single spaces and at white space: where both have the same at index two. -/
theorem thirdWordSpaced_iff (data : Text) :
    ThirdWordSpaced (trimSpace data) ↔
      ∃ word, (fields data)[2]? = some word ∧ (split (trimSpace data) ' ')[2]? = some word := by
  -- The line starts with a word, so that one stands before the second space.
  have hfields : ∀ {before t}, trimSpace data = before ++ ' ' :: t → before.count ' ' = 1 → fields before ≠ [] := by
    intro before t hline hspaces
    refine fields_ne_nil_of_trimSpace ⟨_, hline.symm⟩ ?_
    rintro rfl
    cases hspaces
  constructor
  · rintro ⟨before, word, rest, hline, hspaces, hrest, hne, hword, hthird⟩
    refine ⟨word, ?_, (getElem?_split_succ 1).mpr ⟨before, rest, hline, hspaces, fun hmem => ?_, hrest⟩⟩
    · rw [← fields_trimSpace, hline]
      exact (getElem?_fields_two_iff hne hword hrest (hfields hline hspaces)).mpr hthird
    · cases hword ' ' hmem
  · rintro ⟨word, hfield, hpiece⟩
    obtain ⟨hne, hword⟩ := word_of_mem_fields (List.mem_of_getElem? hfield)
    obtain ⟨before, rest, hline, hspaces, -, hrest⟩ := (getElem?_split_succ 1).mp hpiece
    rw [← fields_trimSpace, hline] at hfield
    exact ⟨before, word, rest, hline, hspaces, hrest, hne, hword,
      (getElem?_fields_two_iff hne hword hrest (hfields hline hspaces)).mp hfield⟩

/-! ### Calls -/

section
variable {data iface : Text} {qdiscDelete qdiscAdd : Option GoError}

theorem interfaceExists_of_noQdisc (h : NoQdisc data) :
    interfaceExists ⟨.ok data, qdiscDelete, qdiscAdd⟩ = .ok none := by
  unfold interfaceExists
  dsimp only
  rcases h with hnil | hnoqueue
  · rw [if_pos hnil]
  · rw [fields_trimSpace, if_pos hnoqueue, ite_self]

theorem interfaceExists_of_not_noQdisc (h : ¬NoQdisc data) :
    interfaceExists ⟨.ok data, qdiscDelete, qdiscAdd⟩ = .ok (some (trimSpace data)) := by
  obtain ⟨hne, hqueue⟩ := not_or.mp h
  unfold interfaceExists
  dsimp only
  rw [if_neg hne, fields_trimSpace, if_neg hqueue]

/-- The call returns, and deletes no other qdisc than the one with the handle of the third word. -/
structure DeletesThirdWord (data iface : Text) (r : Setup) : Prop where
  returns : r.1 ≠ .panic
  deletes : ∀ handle, deleteArgs iface handle ∈ r.2 → (fields data)[2]? = some handle

theorem deleteArgs_not_mem_show (iface handle : Text) :
    deleteArgs iface handle ∉ [showArgs iface] := by
  simp [showArgs, deleteArgs]

theorem DeletesThirdWord.initializeInterface {env : SetupEnv} {args : List (List Text)}
    (hargs : ∀ handle, deleteArgs iface handle ∈ args → (fields data)[2]? = some handle) :
    DeletesThirdWord data iface (initializeInterface env iface args) := by
  have hadd : ∀ handle, deleteArgs iface handle ∈ args ++ [["qdisc".toList, "add", "dev", iface, "root",
      "handle", "1:", "htb", "default", "30"]] → (fields data)[2]? = some handle := by
    intro handle hmem
    rcases List.mem_append.mp hmem with hold | hnew
    · exact hargs handle hold
    · simp [deleteArgs] at hnew
  unfold Bandwidth.initializeInterface
  cases env.qdiscAdd with
  | none => exact ⟨by simp, hadd⟩
  | some err => exact ⟨by simp, hadd⟩

/-- A qdisc that is not the shaper's: its handle is what stands between the second space and the third. -/
theorem deletesThirdWord_foreign_iff (hqdisc : ¬NoQdisc data) (hown : ¬OwnQdisc (trimSpace data)) :
    DeletesThirdWord data iface (reconcileInterface ⟨.ok data, qdiscDelete, qdiscAdd⟩ iface) ↔
      ThirdWordSpaced (trimSpace data) := by
  have hforeign : (split (trimSpace data) ' ').length < 12 ∨ (split (trimSpace data) ' ')[1]? ≠ some "htb".toList ∨
      (split (trimSpace data) ' ')[2]? ≠ some "1:".toList := by
    by_contra h
    refine hown ((ownQdisc_iff _).mpr ?_)
    simpa only [not_or, not_lt, ne_eq, not_not] using h
  unfold reconcileInterface
  dsimp only
  rw [interfaceExists_of_not_noQdisc hqdisc]
  dsimp only
  rw [if_pos hforeign]
  rw [thirdWordSpaced_iff]
  cases hpiece : (split (trimSpace data) ' ')[2]? with
  | none =>
    -- The index is past the pieces.
    refine ⟨fun h => absurd rfl h.returns, ?_⟩
    rintro ⟨word, -, hword⟩
    cases hword
  | some handle =>
    have hspaced : (∃ word, (fields data)[2]? = some word ∧ some handle = some word) ↔ (fields data)[2]? = some handle := by
      simp
    have hmem : ∀ handle', deleteArgs iface handle' ∈ [showArgs iface] ++ [deleteArgs iface handle] ↔ handle' = handle := by
      intro handle'
      simp [showArgs, deleteArgs]
    rw [hspaced]
    constructor
    · intro h
      refine h.deletes handle ?_
      cases qdiscDelete with
      | some err => exact (hmem handle).mpr rfl
      | none =>
        dsimp only
        unfold initializeInterface
        cases qdiscAdd <;> exact List.mem_append_left _ ((hmem handle).mpr rfl)
    · intro hfield
      have hargs : ∀ handle', deleteArgs iface handle' ∈ [showArgs iface] ++ [deleteArgs iface handle] →
          (fields data)[2]? = some handle' := fun handle' h => (hmem handle').mp h ▸ hfield
      cases qdiscDelete with
      | some err => exact ⟨by simp, hargs⟩
      | none => exact .initializeInterface hargs

/-- Whatever `tc qdisc show` prints, the set up returns and deletes by the third word exactly if there is no qdisc, the qdisc is
    the shaper's own, or the third word of the line stands between its second space and its third. -/
theorem reconcileInterface_deletesThirdWord_iff (data iface : Text) (qdiscDelete qdiscAdd : Option GoError) :
    DeletesThirdWord data iface (reconcileInterface ⟨.ok data, qdiscDelete, qdiscAdd⟩ iface) ↔
      NoQdisc data ∨ OwnQdisc (trimSpace data) ∨ ThirdWordSpaced (trimSpace data) := by
  have hshow : ∀ handle, deleteArgs iface handle ∈ [showArgs iface] → (fields data)[2]? = some handle :=
    fun handle h => absurd h (deleteArgs_not_mem_show iface handle)
  by_cases hqdisc : NoQdisc data
  · refine iff_of_true ?_ (.inl hqdisc)
    unfold reconcileInterface
    dsimp only
    rw [interfaceExists_of_noQdisc hqdisc]
    exact .initializeInterface hshow
  · by_cases hown : OwnQdisc (trimSpace data)
    · obtain ⟨hlength, hkind, hhandle⟩ := (ownQdisc_iff _).mp hown
      refine iff_of_true ?_ (.inr (.inl hown))
      unfold reconcileInterface
      dsimp only
      rw [interfaceExists_of_not_noQdisc hqdisc]
      dsimp only
      rw [if_neg (by simp [hlength, hkind, hhandle])]
      exact ⟨by simp, hshow⟩
    · simp only [deletesThirdWord_foreign_iff hqdisc hown, hqdisc, hown, false_or]

/-- A line of two words has no third piece; in one with two spaces after the first word the third piece is the second word. -/
theorem reconcileInterface_misreads :
    (reconcileInterface ⟨.ok "qdisc pfifo_fast\n".toList, none, none⟩ "cbr0".toList).1 = .panic ∧
      deleteArgs "cbr0" "prio" ∈
        (reconcileInterface ⟨.ok "qdisc  prio 8001: root refcnt 2\n".toList, none, none⟩ "cbr0".toList).2 ∧
      (fields "qdisc  prio 8001: root refcnt 2\n".toList)[2]? = some "8001:".toList := by
  decide

end
end CriDockerd.Bandwidth
