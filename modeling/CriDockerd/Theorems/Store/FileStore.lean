import CriDockerd.Lib.Reachable
import CriDockerd.Store.FileStore

/-! The store on files acts as a finite map. Temporary files start with a dot and keys do not, so a write
    touches the file of its key only by the rename at its end, and a listing tells the two apart by their
    names. Keys have no slash and are neither dot nor dots, so no path leads out of the directory. -/

namespace CriDockerd.Store
open Text Paths

variable {f : FileStore} {fs fs' mid : Filesystem} {key name : Text} {data : Bytes}

/-! ### Names -/

theorem keyRegex_of_validateKey (h : validateKey key = none) : keyRegex key = true := by
  rw [validateKey] at h
  split at h
  · rename_i hkey
    exact hkey.2
  · cases h

theorem head_of_validateKey (h : validateKey key = none) : ∃ c rest, key = c :: rest ∧ isKeyChar c = true := by
  have hregex := keyRegex_of_validateKey h
  cases key with
  | nil => cases hregex
  | cons c rest =>
    simp only [keyRegex, List.head?_cons, Option.any_some, Bool.and_eq_true] at hregex
    exact ⟨c, rest, rfl, hregex.1.2⟩

theorem not_temporary_of_validateKey (h : validateKey key = none) : hasPrefix key tmpPrefix = false := by
  obtain ⟨c, rest, rfl, hc⟩ := head_of_validateKey h
  have hne : c ≠ '.' := fun heq => absurd (heq ▸ hc) (by decide)
  simp [hasPrefix, tmpPrefix, List.isPrefixOf, hne.symm]

theorem isName_of_validateKey (h : validateKey key = none) : IsName key := by
  have hregex := keyRegex_of_validateKey h
  obtain ⟨c, rest, rfl, hc⟩ := head_of_validateKey h
  have hne : c ≠ '.' := fun heq => absurd (heq ▸ hc) (by decide)
  refine ⟨by simp, by simp [hne], by simp [hne], fun hslash => ?_⟩
  simp only [keyRegex, Bool.and_eq_true, List.all_eq_true] at hregex
  exact absurd (hregex.1.1 '/' hslash) (by decide)

def tmpName (random : Nat) : Text := tmpPrefix ++ itoa random

theorem isName_tmpName (random : Nat) : IsName (tmpName random) := by
  have hdigit : ∀ c ∈ itoa random, c.isDigit = true := fun c => isDigit_of_mem_itoa
  have hne : itoa random ≠ [] := Nat.toDigits_ne_nil
  refine ⟨by simp [tmpName, tmpPrefix], ?_, ?_, ?_⟩
  · simpa [tmpName, tmpPrefix] using hne
  · intro heq
    have hdot : '.' ∈ itoa random := by
      have : itoa random = ['.'] := by simpa [tmpName, tmpPrefix] using heq
      simp [this]
    exact absurd (hdigit _ hdot) (by decide)
  · intro hslash
    rcases List.mem_append.mp hslash with h | h
    · exact absurd h (by decide)
    · exact absurd (hdigit _ h) (by decide)

theorem temporary_tmpName (random : Nat) : hasPrefix (tmpName random) tmpPrefix = true := by
  simp [hasPrefix, tmpName, tmpPrefix, List.isPrefixOf]

/-! ### Changes to the directory -/

namespace FileStore

def place (f : FileStore) : List Text := components f.directoryPath

/-- The map that the files of the directory make. -/
def contents (f : FileStore) (fs : Filesystem) : Dir Bytes := fun key =>
  match validateKey key, fs.node (f.place ++ [key]) with
  | none, some (.file data) => some data
  | _, _ => none

end FileStore

/-- The directory is there, with nothing in it but files of keys and temporary files. -/
structure Tidy (f : FileStore) (fs : Filesystem) : Prop where
  directory : fs.node f.place = some .directory
  entries : ∀ name node, fs.node (f.place ++ [name]) = some node →
    hasPrefix name tmpPrefix = true ∨ (validateKey name = none ∧ ∃ data, node = .file data)

/-- No place outside of the directory is touched. -/
def Inside (f : FileStore) (fs fs' : Filesystem) : Prop :=
  ∀ p ∈ fs'.touched, p ∈ fs.touched ∨ p = f.place ∨ ∃ name, IsName name ∧ p = f.place ++ [name]

/-- Nothing is changed but temporary files and the files of some names, and all of it in the directory. -/
structure Changes (f : FileStore) (names : Text → Prop) (fs fs' : Filesystem) : Prop where
  same : ∀ p, (∀ name, p = f.place ++ [name] → hasPrefix name tmpPrefix = false ∧ ¬ names name) → fs'.node p = fs.node p
  inside : Inside f fs fs'

namespace Changes
variable {names : Text → Prop}

theorem refl : Changes f names fs fs := ⟨fun _ _ => rfl, fun _ h => .inl h⟩

theorem trans (h : Changes f names fs mid) (h' : Changes f names mid fs') : Changes f names fs fs' where
  same p hp := (h'.same p hp).trans (h.same p hp)
  inside p hp := by
    rcases h'.inside p hp with hmid | hin
    · exact h.inside p hmid
    · exact .inr hin

theorem mono {names' : Text → Prop} (h : Changes f names fs fs') (hsub : ∀ name, names name → names' name) :
    Changes f names' fs fs' where
  same p hp := h.same p fun name hname => ⟨(hp name hname).1, fun hn => (hp name hname).2 (hsub name hn)⟩
  inside := h.inside

theorem touch_place : Changes f names fs (fs.touch f.place) where
  same _ _ := rfl
  inside p hp := by
    rcases List.mem_cons.mp hp with rfl | h
    · exact .inr (.inl rfl)
    · exact .inl h

theorem touch_entry (hname : IsName name) : Changes f names fs (fs.touch (f.place ++ [name])) where
  same _ _ := rfl
  inside p hp := by
    rcases List.mem_cons.mp hp with rfl | h
    · exact .inr (.inr ⟨name, hname, rfl⟩)
    · exact .inl h

theorem of_entry (hname : hasPrefix name tmpPrefix = true ∨ names name)
    (hnode : ∀ p, p ≠ f.place ++ [name] → fs'.node p = fs.node p) (htouched : fs'.touched = fs.touched) :
    Changes f names fs fs' where
  same p hp := by
    refine hnode p fun heq => ?_
    obtain ⟨hnot, hnames⟩ := hp name heq
    rcases hname with htmp | h
    · rw [hnot] at htmp
      cases htmp
    · exact hnames h
  inside p hp := .inl (htouched ▸ hp)

theorem set (hname : hasPrefix name tmpPrefix = true ∨ names name) (node : Node) :
    Changes f names fs (fs.set (f.place ++ [name]) node) :=
  of_entry hname (fun _ hp => AList.lookup_insert_ne hp) rfl

theorem drop (hname : hasPrefix name tmpPrefix = true ∨ names name) :
    Changes f names fs (fs.drop (f.place ++ [name])) :=
  of_entry hname (fun _ hp => AList.lookup_erase_ne hp) rfl

theorem directory (h : Changes f names fs fs') : fs'.node f.place = fs.node f.place :=
  h.same _ fun name heq => absurd heq (by simp)

theorem entry (h : Changes f names fs fs') (htmp : hasPrefix name tmpPrefix = false) (hname : ¬ names name) :
    fs'.node (f.place ++ [name]) = fs.node (f.place ++ [name]) := by
  refine h.same _ fun n heq => ?_
  rw [← List.singleton_inj.mp (List.append_cancel_left heq)]
  exact ⟨htmp, hname⟩

theorem tidy (h : Changes f names fs fs') (htidy : Tidy f fs)
    (hnames : ∀ name node, names name → fs'.node (f.place ++ [name]) = some node →
      validateKey name = none ∧ ∃ data, node = .file data) : Tidy f fs' where
  directory := h.directory.trans htidy.directory
  entries name node hnode := by
    by_cases htmp : hasPrefix name tmpPrefix = true
    · exact .inl htmp
    by_cases hname : names name
    · exact .inr (hnames name node hname hnode)
    · rw [h.entry (by simpa using htmp) hname] at hnode
      exact htidy.entries name node hnode

theorem contents_eq (h : Changes f names fs fs') (hname : ¬ names key) : f.contents fs' key = f.contents fs key := by
  cases hkey : validateKey key with
  | some err => simp only [FileStore.contents, hkey]
  | none => simp only [FileStore.contents, hkey, h.entry (not_temporary_of_validateKey hkey) hname]

end Changes

/-! ### Calls of the file system -/

section
variable {env : WriteEnv} {fault : Option GoError} {path tmpPath : Text} {random : Nat}

theorem stat_fs : (stat fault path fs).2 = fs.touch (components path) := by
  unfold stat
  dsimp only
  split <;> rfl

theorem mkdirAll_fs_of_directory (h : fs.node (components path) = some .directory) :
    (mkdirAll fault path fs).2 = fs.touch (components path) := by
  have hnode : (fs.touch (components path)).node (components path) = some .directory := h
  simp only [mkdirAll, hnode]
  cases fault <;> rfl

theorem ensureDirectory_changes {statErr mkdirErr : Option GoError} (htidy : Tidy f fs) :
    Changes f (fun _ => False) fs (ensureDirectory statErr mkdirErr f.directoryPath fs).2 := by
  have hstat : (stat statErr f.directoryPath fs).2 = fs.touch f.place := stat_fs
  rw [ensureDirectory]
  generalize stat statErr f.directoryPath fs = result at hstat
  obtain ⟨err, mid⟩ := result
  cases hstat
  cases err with
  | none => exact Changes.touch_place
  | some err =>
    have hmkdir : (mkdirAll mkdirErr f.directoryPath (fs.touch f.place)).2 = (fs.touch f.place).touch f.place :=
      mkdirAll_fs_of_directory htidy.directory
    show Changes f _ fs (mkdirAll mkdirErr f.directoryPath (fs.touch f.place)).2
    rw [hmkdir]
    exact Changes.touch_place.trans Changes.touch_place

theorem removePath_fault (err : GoError) :
    removePath (some err) path fs = (some (.other err), fs.touch (components path)) := rfl

theorem removePath_missing (h : fs.node (components path) = none) :
    removePath none path fs = (none, fs.touch (components path)) := by
  have hnode : (fs.touch (components path)).node (components path) = none := h
  simp only [removePath, remove, hnode, isNotExist, if_true]

theorem removePath_file (h : fs.node (components path) = some (.file data)) :
    removePath none path fs = (none, (fs.touch (components path)).drop (components path)) := by
  have hnode : (fs.touch (components path)).node (components path) = some (.file data) := h
  simp only [removePath, remove, hnode]

theorem removePath_changes {names : Text → Prop} (hpath : components path = f.place ++ [name]) (hname : IsName name)
    (hallowed : hasPrefix name tmpPrefix = true ∨ names name) (hfile : fs.node (f.place ++ [name]) ≠ some .directory) :
    Changes f names fs (removePath fault path fs).2 := by
  have htouch : Changes f names fs (fs.touch (f.place ++ [name])) := Changes.touch_entry hname
  cases fault with
  | some err =>
    rw [removePath_fault, hpath]
    exact htouch
  | none =>
    rcases hnode : fs.node (f.place ++ [name]) with _ | _ | _
    · rw [removePath_missing (hpath ▸ hnode), hpath]
      exact htouch
    · rw [removePath_file (hpath ▸ hnode), hpath]
      exact htouch.trans (Changes.drop hallowed)
    · exact absurd hnode hfile

/-! ### Writing -/

theorem components_tempName {dir : Text} :
    components ((if dir.getLast? = some '/' then dir else dir ++ ['/']) ++ tmpPrefix ++ itoa random) =
      components dir ++ [tmpName random] := by
  have hname := isName_tmpName random
  split
  · rename_i hlast
    obtain ⟨init, rfl⟩ := List.getLast?_eq_some_iff.mp hlast
    rw [components_slash, List.append_assoc, List.append_assoc]
    exact components_append hname
  · rw [List.append_assoc, List.append_assoc]
    exact components_append hname

theorem tempFile_cases {r : Except FsError Text} (hdir : components path = f.place) (htidy : Tidy f fs)
    (h : tempFile fault random path tmpPrefix fs = (r, fs')) :
    ((∃ err, r = .error err) ∧ Changes f (fun _ => False) fs fs') ∨
      ∃ tmpPath, r = .ok tmpPath ∧ tmpPath ≠ [] ∧ components tmpPath = f.place ++ [tmpName random] ∧
        Changes f (fun _ => False) fs fs' ∧ fs'.node (f.place ++ [tmpName random]) = some (.file []) := by
  have hcomponents : components ((if path.getLast? = some '/' then path else path ++ ['/']) ++ tmpPrefix ++ itoa random) =
      components path ++ [tmpName random] := components_tempName
  have hne : (if path.getLast? = some '/' then path else path ++ ['/']) ++ tmpPrefix ++ itoa random ≠ [] := by
    simp [tmpPrefix]
  rw [hdir] at hcomponents
  simp only [tempFile] at h
  generalize (if path.getLast? = some '/' then path else path ++ ['/']) ++ tmpPrefix ++ itoa random = tmpPath at h hcomponents hne
  have hplace : (fs.touch (f.place ++ [tmpName random])).node f.place = some .directory := htidy.directory
  have htouch : Changes f (fun _ => False) fs (fs.touch (f.place ++ [tmpName random])) :=
    Changes.touch_entry (isName_tmpName random)
  rw [hcomponents, hdir, hplace] at h
  cases fault with
  | some err =>
    cases h
    exact .inl ⟨⟨_, rfl⟩, htouch⟩
  | none =>
    cases hentry : (fs.touch (f.place ++ [tmpName random])).node (f.place ++ [tmpName random]) with
    | some node =>
      rw [hentry] at h
      cases h
      exact .inl ⟨⟨_, rfl⟩, htouch⟩
    | none =>
      rw [hentry] at h
      cases h
      exact .inr ⟨tmpPath, rfl, hne, hcomponents, htouch.trans (Changes.set (.inl (temporary_tmpName random)) _),
        AList.lookup_insert _⟩

theorem tmpName_ne_key (hkey : validateKey key = none) : f.place ++ [key] ≠ f.place ++ [tmpName random] := by
  intro heq
  have htmp := not_temporary_of_validateKey hkey
  rw [List.singleton_inj.mp (List.append_cancel_left heq), temporary_tmpName] at htmp
  cases htmp

theorem rename_cases {oldpath newpath : Text} {err : Option FsError} (hnode : fs.node (components oldpath) = some (.file data))
    (htarget : fs.node (components newpath) ≠ some .directory) (h : rename fault oldpath newpath fs = (err, fs')) :
    (err ≠ none ∧ fs' = (fs.touch (components oldpath)).touch (components newpath)) ∨
      (err = none ∧ fs' = (((fs.touch (components oldpath)).touch (components newpath)).drop (components oldpath)).set
        (components newpath) (.file data)) := by
  have hold : ((fs.touch (components oldpath)).touch (components newpath)).node (components oldpath) = some (.file data) := hnode
  simp only [rename, hold] at h
  cases fault with
  | some err =>
    cases h
    exact .inl ⟨by simp, rfl⟩
  | none =>
    rcases hnew : fs.node (components newpath) with _ | _ | _
    · have hnew' : ((fs.touch (components oldpath)).touch (components newpath)).node (components newpath) = none := hnew
      rw [hnew'] at h
      cases h
      exact .inr ⟨rfl, rfl⟩
    · rename_i old
      have hnew' : ((fs.touch (components oldpath)).touch (components newpath)).node (components newpath) = some (.file old) := hnew
      rw [hnew'] at h
      cases h
      exact .inr ⟨rfl, rfl⟩
    · exact absurd hnew htarget

/-- The temporary file gets the data and then the name of the key, or it is left behind. -/
theorem writeTemp_cases {retErr : Option GoError} {shouldClose : Bool} (htmp : components tmpPath = f.place ++ [tmpName random])
    (hpath : components path = f.place ++ [key]) (hkey : validateKey key = none)
    (hnode : fs.node (f.place ++ [tmpName random]) = some (.file []))
    (htarget : fs.node (f.place ++ [key]) ≠ some .directory)
    (h : writeTemp env tmpPath path data fs = (retErr, shouldClose, fs')) :
    (retErr ≠ none ∧ Changes f (fun _ => False) fs fs' ∧ fs'.node (f.place ++ [tmpName random]) ≠ some .directory) ∨
      (retErr = none ∧ shouldClose = false ∧ Changes f (· = key) fs fs' ∧ fs'.node (f.place ++ [key]) = some (.file data)) := by
  have htemporary := temporary_tmpName random
  have hset : ∀ names, Changes f names fs (fs.set (f.place ++ [tmpName random]) (.file data)) :=
    fun _ => Changes.set (.inl htemporary) _
  have hwritten : (fs.set (f.place ++ [tmpName random]) (.file data)).node (f.place ++ [tmpName random]) = some (.file data) :=
    AList.lookup_insert _
  simp only [writeTemp, fileWrite, htmp, hnode] at h
  cases hwrite : env.write with
  | some err =>
    simp only [hwrite] at h
    cases h
    exact .inl ⟨by simp, Changes.refl, by simp [hnode]⟩
  | none =>
  simp only [hwrite] at h
  cases hsync : env.sync with
  | some err =>
    simp only [hsync] at h
    cases h
    exact .inl ⟨by simp, hset _, by simp [hwritten]⟩
  | none =>
  simp only [hsync] at h
  cases hclose : env.close with
  | some err =>
    simp only [hclose] at h
    cases h
    exact .inl ⟨by simp, hset _, by simp [hwritten]⟩
  | none =>
  simp only [hclose, List.nil_append] at h
  have hfile : (fs.set (f.place ++ [tmpName random]) (.file data)).node (components tmpPath) = some (.file data) := by
    rw [htmp]
    exact hwritten
  have hkeep : (fs.set (f.place ++ [tmpName random]) (.file data)).node (components path) ≠ some .directory := by
    rw [hpath]
    exact (AList.lookup_insert_ne (tmpName_ne_key hkey)).trans_ne htarget
  have htouch : ∀ names, Changes f names fs
      (((fs.set (f.place ++ [tmpName random]) (.file data)).touch (f.place ++ [tmpName random])).touch (f.place ++ [key])) :=
    fun _ => ((hset _).trans (Changes.touch_entry (isName_tmpName random))).trans (Changes.touch_entry (isName_of_validateKey hkey))
  generalize hrename : rename env.rename tmpPath path (fs.set (f.place ++ [tmpName random]) (.file data)) = result at h
  obtain ⟨err, mid⟩ := result
  rcases rename_cases hfile hkeep hrename with ⟨herr, rfl⟩ | ⟨rfl, rfl⟩
  · obtain ⟨err, rfl⟩ := Option.ne_none_iff_exists'.mp herr
    cases h
    rw [htmp, hpath]
    exact .inl ⟨by simp, htouch _, by simp [Filesystem.touch, Filesystem.node, Filesystem.set]⟩
  · cases h
    rw [htmp, hpath]
    refine .inr ⟨rfl, rfl, ((htouch _).trans (Changes.drop (.inl htemporary))).trans ?_, AList.lookup_insert _⟩
    refine Changes.set ?_ _
    exact .inr rfl

/-- A write fails and leaves every key as it is, or it stores the data. -/
theorem writeFile_cases {err : Option GoError} (htidy : Tidy f fs) (hkey : validateKey key = none)
    (h : writeFile env (f.getPathByKey key) data fs = (err, fs')) :
    (err ≠ none ∧ Changes f (fun _ => False) fs fs') ∨
      (err = none ∧ Changes f (· = key) fs fs' ∧ fs'.node (f.place ++ [key]) = some (.file data)) := by
  have hname := isName_of_validateKey hkey
  rw [writeFile] at h
  generalize htemp : tempFile env.tempFile env.random (dirOf (f.getPathByKey key)) tmpPrefix fs = result at h
  obtain ⟨r, mid⟩ := result
  rcases tempFile_cases (components_dirOf_join hname) htidy htemp with ⟨⟨err, rfl⟩, hmid⟩ | ⟨tmpPath, rfl, hne, htmp, hmid, hnode⟩
  · cases h
    exact .inl ⟨by simp, hmid⟩
  dsimp only at h
  generalize hwrite : writeTemp env tmpPath (f.getPathByKey key) data mid = result at h
  obtain ⟨retErr, shouldClose, after⟩ := result
  have htarget : mid.node (f.place ++ [key]) ≠ some .directory := by
    rw [hmid.entry (not_temporary_of_validateKey hkey) not_false]
    intro hdir
    rcases htidy.entries key _ hdir with htemporary | ⟨-, old, hold⟩
    · rw [not_temporary_of_validateKey hkey] at htemporary
      cases htemporary
    · cases hold
  rcases writeTemp_cases htmp (components_join hname) hkey hnode htarget hwrite with ⟨hret, hafter, hfile⟩ | ⟨rfl, rfl, hafter, hstored⟩
  · -- Whatever the deferred function meets, there is an error already.
    obtain ⟨ret, hclose⟩ : ∃ ret, closeTemp env shouldClose retErr = some ret := by
      obtain ⟨ret, rfl⟩ := Option.ne_none_iff_exists'.mp hret
      cases shouldClose <;> cases hd : env.deferredClose <;> simp [closeTemp, hd]
    simp only [hclose, if_neg hne] at h
    have hremove : Changes f (fun _ => False) after (removePath env.remove tmpPath after).2 :=
      removePath_changes htmp (isName_tmpName _) (.inl (temporary_tmpName _)) hfile
    generalize removePath env.remove tmpPath after = result at h hremove
    obtain ⟨removeErr, last⟩ := result
    refine .inl ?_
    cases removeErr <;> cases h <;> exact ⟨by simp, (hmid.trans hafter).trans hremove⟩
  · simp only [closeTemp] at h
    cases h
    exact .inr ⟨rfl, (hmid.mono fun _ => False.elim).trans hafter, hstored⟩

end

/-! ### The operations and the map -/

theorem contents_of_file (hkey : validateKey key = none) (h : fs.node (f.place ++ [key]) = some (.file data)) :
    f.contents fs key = some data := by
  simp only [FileStore.contents, hkey, h]

theorem contents_of_none (h : fs.node (f.place ++ [key]) = none) : f.contents fs key = none := by
  simp only [FileStore.contents, h]
  split <;> first | rfl | contradiction

theorem Tidy.node_key (htidy : Tidy f fs) (hkey : validateKey key = none) :
    fs.node (f.place ++ [key]) = (f.contents fs key).map .file := by
  cases hnode : fs.node (f.place ++ [key]) with
  | none => rw [contents_of_none hnode, Option.map_none]
  | some node =>
    rcases htidy.entries key node hnode with htmp | ⟨-, data, rfl⟩
    · rw [not_temporary_of_validateKey hkey] at htmp
      cases htmp
    · rw [contents_of_file hkey hnode, Option.map_some]

theorem write_cases {B : Type} {fsErr : Option GoError} {value : B} {dir dir' : Dir B} {err : Option StoreError}
    (h : Store.write fsErr key value dir = (err, dir')) :
    (err = none ∧ dir' = Function.update dir key (some value)) ∨ (err ≠ none ∧ dir' = dir) := by
  unfold Store.write at h
  split at h <;> cases h
  · exact .inr ⟨by simp, rfl⟩
  · exact .inr ⟨by simp, rfl⟩
  · exact .inl ⟨rfl, rfl⟩

theorem delete_cases {B : Type} {fsErr : Option GoError} {dir dir' : Dir B} {err : Option StoreError}
    (h : Store.delete fsErr key dir = (err, dir')) :
    (err = none ∧ dir' = Function.update dir key none) ∨ (err ≠ none ∧ dir' = dir) := by
  unfold Store.delete at h
  split at h <;> cases h
  · exact .inr ⟨by simp, rfl⟩
  · exact .inr ⟨by simp, rfl⟩
  · exact .inl ⟨rfl, rfl⟩

/-- A write of the store is one of the map, with a failure somewhere or with none. -/
theorem write_refines (htidy : Tidy f fs) (env : WriteEnv) (key : Text) (data : Bytes) :
    Tidy f (f.write env key data fs).2 ∧ Inside f fs (f.write env key data fs).2 ∧ ∃ fsErr,
      Store.write fsErr key data (f.contents fs) = ((f.write env key data fs).1, f.contents (f.write env key data fs).2) := by
  cases hkey : validateKey key with
  | some err =>
    simp only [FileStore.write, Store.write, hkey]
    exact ⟨htidy, fun _ h => .inl h, none, trivial⟩
  | none =>
    -- A failure leaves the map as it is.
    have hfailed : ∀ {err fs'}, Changes f (fun _ => False) fs fs' → Tidy f fs' ∧ Inside f fs fs' ∧ ∃ fsErr,
        Store.write fsErr key data (f.contents fs) = (some (.other err), f.contents fs') := by
      intro err fs' hchanges
      refine ⟨hchanges.tidy htidy fun _ _ h => h.elim, hchanges.inside, some err, ?_⟩
      have hsame : f.contents fs' = f.contents fs := funext fun k => hchanges.contents_eq not_false
      simp only [Store.write, hkey, hsame]
    have hensure : Changes f (fun _ => False) fs (ensureDirectory env.stat env.mkdirAll f.directoryPath fs).2 :=
      ensureDirectory_changes htidy
    simp only [FileStore.write, hkey]
    generalize ensureDirectory env.stat env.mkdirAll f.directoryPath fs = result at hensure
    obtain ⟨err, mid⟩ := result
    cases err with
    | some err => exact hfailed hensure
    | none =>
      have hmid : Tidy f mid := hensure.tidy htidy fun _ _ h => h.elim
      dsimp only
      generalize hwrite : writeFile env (f.getPathByKey key) data mid = result
      obtain ⟨err, after⟩ := result
      rcases writeFile_cases hmid hkey hwrite with ⟨herr, hafter⟩ | ⟨rfl, hafter, hstored⟩
      · obtain ⟨err, rfl⟩ := Option.ne_none_iff_exists'.mp herr
        exact hfailed (hensure.trans hafter)
      · have hchanges : Changes f (· = key) fs after := (hensure.mono fun _ => False.elim).trans hafter
        refine ⟨hchanges.tidy htidy ?_, hchanges.inside, none, ?_⟩
        · rintro name node rfl hnode
          rw [hstored] at hnode
          cases hnode
          exact ⟨hkey, data, rfl⟩
        · simp only [Store.write, hkey, Option.map_none, Prod.mk.injEq, true_and]
          funext k
          by_cases hk : k = key
          · rw [hk, Function.update_self, contents_of_file hkey hstored]
          · rw [Function.update_of_ne hk, hchanges.contents_eq hk]

theorem delete_refines (htidy : Tidy f fs) (fault : Option GoError) (key : Text) :
    Tidy f (f.delete fault key fs).2 ∧ Inside f fs (f.delete fault key fs).2 ∧
      Store.delete fault key (f.contents fs) = ((f.delete fault key fs).1, f.contents (f.delete fault key fs).2) := by
  cases hkey : validateKey key with
  | some err =>
    simp only [FileStore.delete, Store.delete, hkey]
    exact ⟨htidy, fun _ h => .inl h, trivial⟩
  | none =>
    have hname := isName_of_validateKey hkey
    have hpath : components (f.getPathByKey key) = f.place ++ [key] := components_join hname
    have hnode := htidy.node_key hkey
    simp only [FileStore.delete, Store.delete, hkey]
    cases fault with
    | some err =>
      have htouch : Changes f (fun _ => False) fs (fs.touch (f.place ++ [key])) := Changes.touch_entry hname
      rw [removePath_fault, hpath]
      refine ⟨htouch.tidy htidy fun _ _ h => h.elim, htouch.inside, ?_⟩
      rfl
    | none =>
      have hgone : (removePath none (f.getPathByKey key) fs).1 = none ∧
          (removePath none (f.getPathByKey key) fs).2.node (f.place ++ [key]) = none := by
        cases hdata : f.contents fs key with
        | none =>
          have hnone : fs.node (f.place ++ [key]) = none := by rw [hnode, hdata, Option.map_none]
          rw [removePath_missing (hpath ▸ hnone)]
          exact ⟨rfl, hnone⟩
        | some data =>
          have hfile : fs.node (f.place ++ [key]) = some (.file data) := by rw [hnode, hdata, Option.map_some]
          rw [removePath_file (hpath ▸ hfile), hpath]
          exact ⟨rfl, AList.lookup_erase _ _⟩
      have hchanges : Changes f (· = key) fs (removePath none (f.getPathByKey key) fs).2 := by
        refine removePath_changes hpath hname (.inr ?_) ?_
        · exact rfl
        · rw [hnode]
          cases f.contents fs key <;> simp
      generalize removePath none (f.getPathByKey key) fs = result at hgone hchanges
      obtain ⟨err, after⟩ := result
      obtain ⟨rfl, hnone⟩ := hgone
      refine ⟨hchanges.tidy htidy ?_, hchanges.inside, ?_⟩
      · rintro name node rfl hsome
        rw [hnone] at hsome
        cases hsome
      · simp only [Option.map_none, Prod.mk.injEq, true_and]
        funext k
        by_cases hk : k = key
        · rw [hk, Function.update_self, contents_of_none hnone]
        · rw [Function.update_of_ne hk, hchanges.contents_eq hk]

theorem read_refines (htidy : Tidy f fs) (fault : Option GoError) (key : Text) :
    Changes f (fun _ => False) fs (f.read fault key fs).2 ∧ (f.read fault key fs).1 = Store.read fault key (f.contents fs) := by
  cases hkey : validateKey key with
  | some err =>
    simp only [FileStore.read, Store.read, hkey]
    exact ⟨Changes.refl, trivial⟩
  | none =>
    have hname := isName_of_validateKey hkey
    have hpath : components (f.getPathByKey key) = f.place ++ [key] := components_join hname
    have hnode : (fs.touch (f.place ++ [key])).node (f.place ++ [key]) = (f.contents fs key).map .file := htidy.node_key hkey
    have htouch : Changes f (fun _ => False) fs (fs.touch (f.place ++ [key])) := Changes.touch_entry hname
    simp only [FileStore.read, Store.read, hkey, readFile, hpath, hnode]
    cases fault with
    | some err => exact ⟨htouch, rfl⟩
    | none => cases f.contents fs key <;> exact ⟨htouch, rfl⟩

/-! ### Listing -/

theorem entry_eq_some {place p : List Text} :
    (if p.dropLast = place then p.getLast? else none) = some name ↔ p = place ++ [name] := by
  constructor
  · intro h
    split at h
    · rename_i hplace
      obtain ⟨init, rfl⟩ := List.getLast?_eq_some_iff.mp h
      rw [List.dropLast_concat] at hplace
      rw [hplace]
    · cases h
  · rintro rfl
    rw [if_pos List.dropLast_concat, List.getLast?_concat]

theorem mem_names {place : List Text} : name ∈ fs.names place ↔ fs.node (place ++ [name]) ≠ none := by
  have hkeys : ∀ p, p ∈ fs.nodes.keys ↔ fs.node p ≠ none := fun p => by
    rw [← AList.mem_keys, Filesystem.node, ne_eq, AList.lookup_eq_none, not_not]
  rw [Filesystem.names, List.mem_filterMap]
  constructor
  · rintro ⟨p, hp, hentry⟩
    rw [← entry_eq_some.mp hentry]
    exact (hkeys p).mp hp
  · exact fun hnode => ⟨_, (hkeys _).mpr hnode, entry_eq_some.mpr rfl⟩

theorem nodup_names {place : List Text} : (fs.names place).Nodup := by
  refine List.Nodup.filterMap (fun p q name hp hq => ?_) fs.nodes.keys_nodup
  rw [entry_eq_some.mp hp, entry_eq_some.mp hq]

theorem Tidy.mem_names_iff (htidy : Tidy f fs) :
    key ∈ fs.names f.place ∧ hasPrefix key tmpPrefix = false ↔ f.contents fs key ≠ none := by
  rw [mem_names]
  constructor
  · rintro ⟨hnode, htmp⟩
    obtain ⟨node, hsome⟩ := Option.ne_none_iff_exists'.mp hnode
    rcases htidy.entries key node hsome with htrue | ⟨hkey, data, rfl⟩
    · rw [htmp] at htrue
      cases htrue
    · rw [contents_of_file hkey hsome]
      simp
  · intro hcontents
    cases hkey : validateKey key with
    | some err => exact absurd (by simp only [FileStore.contents, hkey]) hcontents
    | none => exact ⟨fun hnone => hcontents (contents_of_none hnone), not_temporary_of_validateKey hkey⟩

theorem list_fault (err : GoError) : f.list (some err) fs = (.error (.other err), fs.touch f.place) := rfl

theorem list_ok (htidy : Tidy f fs) :
    f.list none fs = (.ok (((fs.names f.place).insertionSort (nameLE · ·)).filter fun name => !hasPrefix name tmpPrefix),
      fs.touch f.place) := by
  have hplace : (fs.touch (components f.directoryPath)).node (components f.directoryPath) = some .directory := htidy.directory
  simp only [FileStore.list, readDir, hplace]
  rfl

theorem list_changes (htidy : Tidy f fs) (fault : Option GoError) : Changes f (fun _ => False) fs (f.list fault fs).2 := by
  cases fault with
  | some err =>
    rw [list_fault]
    exact Changes.touch_place
  | none =>
    rw [list_ok htidy]
    exact Changes.touch_place

theorem list_keys (htidy : Tidy f fs) :
    ∃ keys, (f.list none fs).1 = .ok keys ∧ keys.Nodup ∧ ∀ key, key ∈ keys ↔ f.contents fs key ≠ none := by
  refine ⟨_, congrArg Prod.fst (list_ok htidy), ?_, fun key => ?_⟩
  · exact ((List.perm_insertionSort _ _).nodup_iff.mpr nodup_names).filter _
  · rw [List.mem_filter, List.mem_insertionSort, ← htidy.mem_names_iff]
    simp

/-! ### Runs -/

inductive Call where
  | write (env : WriteEnv) (key : Text) (data : Bytes)
  | read (fault : Option GoError) (key : Text)
  | delete (fault : Option GoError) (key : Text)
  | list (fault : Option GoError)

/-- The files, and what the answers of the calls lead to expect: for every key the data of the last write that
    has succeeded, unless a deletion has succeeded after it. -/
structure Kept where
  fs : Filesystem
  expected : Dir Bytes

namespace Call

def after (f : FileStore) (fs : Filesystem) : Call → Filesystem
  | .write env key data => (f.write env key data fs).2
  | .read fault key => (f.read fault key fs).2
  | .delete fault key => (f.delete fault key fs).2
  | .list fault => (f.list fault fs).2

def expect (f : FileStore) (k : Kept) : Call → Dir Bytes
  | .write env key data => if (f.write env key data k.fs).1 = none then Function.update k.expected key (some data) else k.expected
  | .delete fault key => if (f.delete fault key k.fs).1 = none then Function.update k.expected key none else k.expected
  | .read _ _ | .list _ => k.expected

def run (f : FileStore) (call : Call) (k : Kept) : Kept := ⟨call.after f k.fs, call.expect f k⟩

end Call

/-- A run starts in a directory that is new or that a store has left. -/
def Start (f : FileStore) (k : Kept) : Prop := Tidy f k.fs ∧ k.expected = f.contents k.fs

/-- The answers and effects of calls are those of the map. -/
structure ActsAsMap (f : FileStore) (fs : Filesystem) (expected : Dir Bytes) : Prop where
  read_some : ∀ key data, expected key = some data → (f.read none key fs).1 = .ok data
  read_none : ∀ key, validateKey key = none → expected key = none → (f.read none key fs).1 = .error .errKeyNotFound
  read_error : ∀ key err, validateKey key = none → (f.read (some err) key fs).1 = .error (.other err)
  write_ok : ∀ env key data, (f.write env key data fs).1 = none →
    f.contents (f.write env key data fs).2 = Function.update expected key (some data)
  write_error : ∀ env key data, (f.write env key data fs).1 ≠ none → f.contents (f.write env key data fs).2 = expected
  delete_ok : ∀ fault key, (f.delete fault key fs).1 = none →
    f.contents (f.delete fault key fs).2 = Function.update expected key none
  delete_error : ∀ fault key, (f.delete fault key fs).1 ≠ none → f.contents (f.delete fault key fs).2 = expected
  list : ∃ keys, (f.list none fs).1 = .ok keys ∧ keys.Nodup ∧ ∀ key, key ∈ keys ↔ expected key ≠ none
  list_error : ∀ err, (f.list (some err) fs).1 = .error (.other err)
  invalid : ∀ key err, validateKey key = some err → ∀ env data fault, f.write env key data fs = (some err, fs) ∧
    f.read fault key fs = (.error err, fs) ∧ f.delete fault key fs = (some err, fs)
  inside : ∀ call : Call, Inside f fs (call.after f fs)

theorem validateKey_of_contents (h : f.contents fs key = some data) : validateKey key = none := by
  cases hkey : validateKey key with
  | none => rfl
  | some err =>
    simp only [FileStore.contents, hkey] at h
    cases h

theorem Tidy.actsAsMap (htidy : Tidy f fs) : ActsAsMap f fs (f.contents fs) where
  read_some key data hdata := by
    rw [(read_refines htidy none key).2]
    simp only [Store.read, validateKey_of_contents hdata, hdata]
  read_none key hkey hnone := by
    rw [(read_refines htidy none key).2]
    simp only [Store.read, hkey, hnone]
  read_error key err hkey := by
    rw [(read_refines htidy (some err) key).2]
    simp only [Store.read, hkey]
  write_ok env key data hnil := by
    obtain ⟨-, -, fsErr, hwrite⟩ := write_refines htidy env key data
    rcases write_cases hwrite with ⟨-, hcontents⟩ | ⟨herr, -⟩
    · exact hcontents
    · exact absurd hnil herr
  write_error env key data herr := by
    obtain ⟨-, -, fsErr, hwrite⟩ := write_refines htidy env key data
    rcases write_cases hwrite with ⟨hnil, -⟩ | ⟨-, hcontents⟩
    · exact absurd hnil herr
    · exact hcontents
  delete_ok fault key hnil := by
    obtain ⟨-, -, hdelete⟩ := delete_refines htidy fault key
    rcases delete_cases hdelete with ⟨-, hcontents⟩ | ⟨herr, -⟩
    · exact hcontents
    · exact absurd hnil herr
  delete_error fault key herr := by
    obtain ⟨-, -, hdelete⟩ := delete_refines htidy fault key
    rcases delete_cases hdelete with ⟨hnil, -⟩ | ⟨-, hcontents⟩
    · exact absurd hnil herr
    · exact hcontents
  list := list_keys htidy
  list_error _ := rfl
  invalid key err hkey env data fault := by
    simp only [FileStore.write, FileStore.read, FileStore.delete, hkey]
    trivial
  inside call := by
    cases call with
    | write env key data => exact (write_refines htidy env key data).2.1
    | read fault key => exact (read_refines htidy fault key).1.inside
    | delete fault key => exact (delete_refines htidy fault key).2.1
    | list fault => exact (list_changes htidy fault).inside

/-- One call keeps the directory tidy, and its answer tells what the map is after it. -/
theorem Call.run_start {k : Kept} (h : Start f k) (call : Call) : Start f (call.run f k) := by
  obtain ⟨htidy, hexpected⟩ := h
  have hmap := htidy.actsAsMap
  rw [← hexpected] at hmap
  cases call with
  | write env key data =>
    refine ⟨(write_refines htidy env key data).1, ?_⟩
    by_cases hnil : (f.write env key data k.fs).1 = none
    · exact (if_pos hnil).trans (hmap.write_ok env key data hnil).symm
    · exact (if_neg hnil).trans (hmap.write_error env key data hnil).symm
  | delete fault key =>
    refine ⟨(delete_refines htidy fault key).1, ?_⟩
    by_cases hnil : (f.delete fault key k.fs).1 = none
    · exact (if_pos hnil).trans (hmap.delete_ok fault key hnil).symm
    · exact (if_neg hnil).trans (hmap.delete_error fault key hnil).symm
  | read fault key =>
    have hread := (read_refines htidy fault key).1
    refine ⟨hread.tidy htidy fun _ _ h => h.elim, hexpected.trans ?_⟩
    exact funext fun k => (hread.contents_eq not_false).symm
  | list fault =>
    have hlist := list_changes htidy fault
    refine ⟨hlist.tidy htidy fun _ _ h => h.elim, hexpected.trans ?_⟩
    exact funext fun k => (hlist.contents_eq not_false).symm

theorem node_foldl_mkdir {missing : List (List Text)} {p : List Text} :
    (missing.foldl (fun fs place => (fs.set place .directory).touch place) fs).node p =
      if p ∈ missing then some .directory else fs.node p := by
  induction missing generalizing fs with
  | nil => rfl
  | cons q missing ih =>
    rw [List.foldl_cons, ih]
    by_cases hp : p ∈ missing
    · rw [if_pos hp, if_pos (List.mem_cons_of_mem _ hp)]
    · rw [if_neg hp]
      by_cases hq : p = q
      · rw [hq, if_pos List.mem_cons_self]
        exact AList.lookup_insert _
      · rw [if_neg (by simp [hp, hq])]
        exact AList.lookup_insert_ne hq

theorem mkdirAll_missing {fault : Option GoError} {path : Text} (hroot : components path ≠ [])
    (hnone : fs.node (components path) = none) (h : mkdirAll fault path fs = (none, fs')) :
    fs'.node (components path) = some .directory ∧
      ∀ name, fs'.node (components path ++ [name]) = fs.node (components path ++ [name]) := by
  have hnode : (fs.touch (components path)).node (components path) = none := hnone
  simp only [mkdirAll, hnode] at h
  cases fault with
  | some err => cases h
  | none =>
    dsimp only at h
    split at h
    · cases h
    · cases h
      refine ⟨?_, fun name => ?_⟩
      · rw [node_foldl_mkdir, if_pos]
        simp [hroot, hnode]
      · rw [node_foldl_mkdir, if_neg]
        · rfl
        · intro hmem
          have hlength := ((List.mem_inits _ _).mp (List.mem_of_mem_filter hmem)).length_le
          rw [List.length_append, List.length_singleton] at hlength
          omega

/-- A new store has a tidy directory, unless its place is taken by a file or by a directory with other things. -/
theorem newFileStore_tidy {statErr mkdirErr : Option GoError} {path : Text} (hroot : components path ≠ [])
    (hplace : ∀ data, fs.node (components path) ≠ some (.file data))
    (hentries : ∀ name node, fs.node (components path ++ [name]) = some node →
      hasPrefix name tmpPrefix = true ∨ (validateKey name = none ∧ ∃ data, node = .file data))
    (h : newFileStore statErr mkdirErr path fs = (.ok f, fs')) : Tidy f fs' := by
  have hstat : (stat statErr path fs).2 = fs.touch (components path) := stat_fs
  have hmissing : fs.node (components path) = none → (stat statErr path fs).1 ≠ none := by
    intro hnone
    have hnode : (fs.touch (components path)).node (components path) = none := hnone
    simp only [stat, hnode]
    cases statErr <;> simp
  unfold newFileStore ensureDirectory at h
  generalize stat statErr path fs = result at h hstat hmissing
  obtain ⟨err, mid⟩ := result
  obtain rfl : mid = fs.touch (components path) := hstat
  cases err with
  | none =>
    cases h
    refine ⟨?_, hentries⟩
    rcases hnode : fs.node (components path) with _ | _ | _
    · exact absurd rfl (hmissing hnode)
    · exact absurd hnode (hplace _)
    · exact hnode
  | some err =>
    dsimp only at h
    generalize hmkdir : mkdirAll mkdirErr path (fs.touch (components path)) = result at h
    obtain ⟨err, after⟩ := result
    cases err with
    | some err => cases h
    | none =>
      cases h
      rcases hnode : fs.node (components path) with _ | _ | _
      · have hnone : (fs.touch (components path)).node (components path) = none := hnode
        obtain ⟨hdir, hrest⟩ := mkdirAll_missing hroot hnone hmkdir
        exact ⟨hdir, fun name node hsome => hentries name node ((hrest name).symm.trans hsome)⟩
      · exact absurd hnode (hplace _)
      · have hafter : (mkdirAll mkdirErr path (fs.touch (components path))).2 =
            (fs.touch (components path)).touch (components path) := mkdirAll_fs_of_directory hnode
        rw [hmkdir] at hafter
        obtain rfl : fs' = _ := hafter
        exact ⟨hnode, hentries⟩

/-- In every run of the store, whatever fails in it, a read returns the data of the last write that has succeeded
    unless they were deleted; a failed call changes nothing; a listing is exact; and an invalid key has no effect. -/
theorem fileStore_acts_as_map {k : Kept} (hr : Reachable (Start f) (fun _ (_ : Call) => True) (Call.run f) k) :
    ActsAsMap f k.fs k.expected := by
  have hstart : Start f k := Reachable.invariant (Start f) (fun _ h => h) (fun _ call h _ => Call.run_start h call) hr
  obtain ⟨htidy, hexpected⟩ := hstart
  rw [hexpected]
  exact htidy.actsAsMap

def sandboxStore : FileStore := ⟨"/var/lib/cri-dockerd/sandbox"⟩

def newDirectory : Filesystem := (newFileStore none none sandboxStore.directoryPath ⟨∅, []⟩).2

def newKept : Kept := ⟨newDirectory, sandboxStore.contents newDirectory⟩

theorem newKept_start : Start sandboxStore newKept := by
  have hnew : newFileStore none none sandboxStore.directoryPath ⟨∅, []⟩ = (.ok sandboxStore, newDirectory) := rfl
  have hnone : ∀ p, (⟨∅, []⟩ : Filesystem).node p = none := fun p => AList.lookup_empty p
  refine ⟨newFileStore_tidy (by decide +kernel) ?_ ?_ hnew, rfl⟩
  · exact fun _ h => absurd ((hnone _).symm.trans h) (by simp)
  · exact fun _ _ h => absurd ((hnone _).symm.trans h) (by simp)

def failedWrite : Call :=
  .write ⟨none, none, none, 7, none, none, none, none, some (.text "input/output error"), none⟩ "c1" [1]

def goodWrite : Call := .write ⟨none, none, none, 8, none, none, none, none, none, none⟩ "c1" [2, 3]

theorem fileStore_acts_as_map_sandbox :
    (sandboxStore.read none "c1" (failedWrite.run sandboxStore (goodWrite.run sandboxStore newKept)).fs).1 = .ok [2, 3] := by
  have hr : Reachable (Start sandboxStore) (fun _ (_ : Call) => True) (Call.run sandboxStore)
      (failedWrite.run sandboxStore (goodWrite.run sandboxStore newKept)) :=
    .call (.call (.start newKept_start) trivial) trivial
  refine (fileStore_acts_as_map hr).read_some _ _ ?_
  decide +kernel

end CriDockerd.Store
