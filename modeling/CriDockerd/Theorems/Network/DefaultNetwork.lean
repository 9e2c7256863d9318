import CriDockerd.Network.CniConfig

/-! The default network after any number of syncs. It is the one of the first file, by name, that gives a network, in the
    last of the directories that has such a file. -/

namespace CriDockerd.Cni
open Text

/-- What a file that gives a network is: one with the extension of a config, which loads, has a type if it is no list,
    has at least one plugin and validates. -/
structure Gives (confDir : Text) (binDirs : List Text) (d : ConfDir) (f : DirEntry) (n : CniNetwork) : Prop where
  isFile : f.isDir = false
  ext : fileExt f.name ∈ [".conf".toList, ".conflist", ".json"]
  loads : ".conflist" <:+ f.name ∧ d.libcni.confListFromFile (Core.filepathJoin confDir f.name) = .ok n.networkConfig ∨
    ¬".conflist" <:+ f.name ∧ ∃ conf, d.libcni.confFromFile (Core.filepathJoin confDir f.name) = .ok conf ∧
      conf.type ≠ [] ∧ d.libcni.confListFromConf conf = .ok n.networkConfig
  plugins : n.networkConfig.plugins ≠ []
  validates : d.libcni.validateNetworkList binDirs n.networkConfig = .ok n.capabilities
  name : n.name = n.networkConfig.name
  cniConfig : n.cniConfig = binDirs

def ConfDir.entries (d : ConfDir) : List DirEntry :=
  match d.readDir with
  | .error _ => []
  | .ok files => files

/-- The network of the first file, by name, that gives one. -/
def First (confDir : Text) (binDirs : List Text) (d : ConfDir) (n : CniNetwork) : Prop :=
  ∃ f ∈ d.entries, Gives confDir binDirs d f n ∧
    ∀ f' ∈ d.entries, ∀ n', Gives confDir binDirs d f' n' → Store.nameLE f.name f'.name = true

/-- The first network of the last directory that has one. -/
def Latest (confDir : Text) (binDirs : List Text) (seen : List ConfDir) (n : CniNetwork) : Prop :=
  ∃ earlier d later, seen = earlier ++ d :: later ∧ First confDir binDirs d n ∧ ∀ d' ∈ later, ∀ n', ¬First confDir binDirs d' n'

/-! ### Paths -/

section
variable {dir name : Text}

theorem followPart_name (h : Paths.IsName name) (rooted : Bool) (place : List Text) :
    Core.followPart rooted place name = place ++ [name] := by
  rw [Core.followPart, if_neg (not_or.mpr ⟨h.ne_nil, h.ne_dot⟩), if_neg h.ne_dots]

theorem join_concat (place : List Text) (name : Text) :
    join ['/'] (place ++ [name]) = (if place = [] then [] else join ['/'] place ++ ['/']) ++ name := by
  induction place with
  | nil => simp
  | cons part place ih =>
    rw [if_neg (List.cons_ne_nil _ _)]
    cases place with
    | nil => simp
    | cons part' place =>
      rw [if_neg (List.cons_ne_nil _ _)] at ih
      rw [List.cons_append, List.cons_append, join_cons_cons, ← List.cons_append, ih, join_cons_cons]
      simp only [List.append_assoc]

theorem filepathJoin_eq {path : Text} {parts : List Text} (hpath : join ['/'] ([dir, name].filter (· ≠ [])) = path)
    (hne : path ≠ []) (hparts : (split path '/').foldl (Core.followPart (hasPrefix path ['/'])) [] = parts)
    (hpartsNe : parts ≠ []) :
    Core.filepathJoin dir name = (if hasPrefix path ['/'] then ['/'] else []) ++ join ['/'] parts := by
  unfold Core.filepathJoin
  rw [hpath]
  cases path with
  | nil => exact absurd rfl hne
  | cons c path =>
    dsimp only
    rw [hparts]
    cases parts with
    | nil => exact absurd rfl hpartsNe
    | cons part parts => rfl

theorem filepathJoin_name (dir : Text) : ∃ p : Text, (p = [] ∨ ∃ q, p = q ++ ['/']) ∧
    ∀ name, Paths.IsName name → Core.filepathJoin dir name = p ++ name := by
  by_cases hdir : dir = []
  · refine ⟨[], .inl rfl, fun name hname => ?_⟩
    have hroot : hasPrefix name ['/'] = false := by
      rw [Bool.eq_false_iff, ne_eq, hasPrefix_iff]
      exact fun hslash => hname.no_slash (hslash.subset List.mem_cons_self)
    have hparts : (split name '/').foldl (Core.followPart (hasPrefix name ['/'])) [] = [name] := by
      rw [split, List.splitOn_eq_singleton hname.no_slash]
      exact followPart_name hname _ []
    rw [filepathJoin_eq (by simp [hdir, hname.ne_nil]) hname.ne_nil hparts (List.cons_ne_nil _ _), hroot]
    exact join_singleton ['/'] name
  · -- The parts of the directory are followed first, and the name is the last of them.
    generalize hplace : (split dir '/').foldl (Core.followPart (hasPrefix dir ['/'])) [] = place
    refine ⟨(if hasPrefix dir ['/'] then ['/'] else []) ++ (if place = [] then [] else join ['/'] place ++ ['/']), ?_, ?_⟩
    · by_cases hnil : place = []
      · rw [if_pos hnil]
        cases hasPrefix dir ['/'] with
        | false => exact .inl rfl
        | true => exact .inr ⟨[], rfl⟩
      · rw [if_neg hnil, ← List.append_assoc]
        exact .inr ⟨_, rfl⟩
    · intro name hname
      have hroot : hasPrefix (dir ++ '/' :: name) ['/'] = hasPrefix dir ['/'] := by
        obtain ⟨c, rest, rfl⟩ := List.exists_cons_of_ne_nil hdir
        rfl
      have hparts : (split (dir ++ '/' :: name) '/').foldl (Core.followPart (hasPrefix (dir ++ '/' :: name) ['/'])) [] =
          place ++ [name] := by
        rw [hroot, split, List.splitOn_append_cons_self, List.splitOn_eq_singleton hname.no_slash, List.foldl_append, ← hplace]
        exact followPart_name hname _ _
      rw [filepathJoin_eq (by simp [hdir, hname.ne_nil]) (by simp) hparts (by simp), hroot, join_concat, List.append_assoc]

theorem filepathJoin_le (dir : Text) {f f' : DirEntry} :
    Store.nameLE (Core.filepathJoin dir f.name) (Core.filepathJoin dir f'.name) = Store.nameLE f.name f'.name := by
  obtain ⟨p, -, hp⟩ := filepathJoin_name dir
  rw [hp _ f.isName, hp _ f'.isName, Store.nameLE_append_left]

theorem suffix_filepathJoin_iff {ext : Text} (hext : '/' ∉ ext) (dir : Text) (f : DirEntry) :
    ext <:+ Core.filepathJoin dir f.name ↔ ext <:+ f.name := by
  obtain ⟨p, hslash, hp⟩ := filepathJoin_name dir
  rw [hp _ f.isName]
  rcases hslash with rfl | ⟨q, rfl⟩
  · rfl
  constructor
  · intro hsuffix
    rw [List.append_assoc, List.singleton_append] at hsuffix
    rcases List.suffix_or_suffix_of_suffix hsuffix (List.suffix_append q ('/' :: f.name)) with hin | hover
    · rcases List.suffix_cons_iff.mp hin with heq | hin
      · exact absurd (heq ▸ List.mem_cons_self) hext
      · exact hin
    · exact absurd (hover.subset List.mem_cons_self) hext
  · intro hsuffix
    exact hsuffix.trans (List.suffix_append _ _)

end

/-! ### Files -/

section
variable {libcni : Libcni} {binDirs : List Text} {confDir confFile : Text} {n : CniNetwork} {d d' : ConfDir} {f : DirEntry}

theorem loadConfList_ok_iff {confList : NetworkConfigList} :
    loadConfList libcni confFile = .ok confList ↔
      (".conflist" <:+ confFile ∧ libcni.confListFromFile confFile = .ok confList ∨
        ¬".conflist" <:+ confFile ∧ ∃ conf, libcni.confFromFile confFile = .ok conf ∧ conf.type ≠ [] ∧
          libcni.confListFromConf conf = .ok confList) := by
  unfold loadConfList
  generalize ".conflist" = ext
  by_cases hlist : ext <:+ confFile
  · rw [if_pos (List.isSuffixOf_iff_suffix.mpr hlist)]
    cases libcni.confListFromFile confFile <;> simp [hlist]
  · rw [if_neg fun h => hlist (List.isSuffixOf_iff_suffix.mp h)]
    cases libcni.confFromFile confFile with
    | error err => simp [hlist]
    | ok conf =>
      by_cases htype : conf.type = []
      · simp [hlist, htype]
      · cases hconverted : libcni.confListFromConf conf <;> simp [hlist, htype, hconverted]

theorem loadNetwork_ok_iff :
    loadNetwork libcni binDirs confFile = .ok n ↔
      loadConfList libcni confFile = .ok n.networkConfig ∧ n.networkConfig.plugins ≠ [] ∧
        libcni.validateNetworkList binDirs n.networkConfig = .ok n.capabilities ∧ n.name = n.networkConfig.name ∧
        n.cniConfig = binDirs := by
  unfold loadNetwork
  cases hloaded : loadConfList libcni confFile with
  | error skipped => simp
  | ok confList =>
    obtain ⟨name, networkConfig, cniConfig, capabilities⟩ := n
    dsimp only
    constructor
    · intro h
      split at h
      · cases h
      · next hplugins =>
        cases hcaps : libcni.validateNetworkList binDirs confList with
        | error err =>
          rw [hcaps] at h
          cases h
        | ok caps =>
          rw [hcaps] at h
          cases h
          exact ⟨rfl, hplugins, hcaps, rfl, rfl⟩
    · rintro ⟨hlist, hplugins, hcaps, rfl, rfl⟩
      cases hlist
      rw [if_neg hplugins, hcaps]

theorem gives_iff :
    Gives confDir binDirs d f n ↔
      f.isDir = false ∧ fileExt f.name ∈ [".conf".toList, ".conflist", ".json"] ∧
        loadNetwork d.libcni binDirs (Core.filepathJoin confDir f.name) = .ok n := by
  rw [loadNetwork_ok_iff, loadConfList_ok_iff, suffix_filepathJoin_iff (by decide)]
  constructor
  · intro h
    exact ⟨h.isFile, h.ext, h.loads, h.plugins, h.validates, h.name, h.cniConfig⟩
  · rintro ⟨hfile, hext, hloads, hplugins, hvalidates, hname, hconfig⟩
    exact ⟨hfile, hext, hloads, hplugins, hvalidates, hname, hconfig⟩

theorem mem_confFiles_iff {files : List Text} (h : confFiles confDir [".conf".toList, ".conflist", ".json"] d = .ok files) :
    confFile ∈ files ↔ ∃ f ∈ d.entries, f.isDir = false ∧
      fileExt f.name ∈ [".conf".toList, ".conflist", ".json"] ∧ Core.filepathJoin confDir f.name = confFile := by
  generalize [".conf".toList, ".conflist", ".json"] = extensions at h ⊢
  unfold confFiles at h
  unfold ConfDir.entries
  cases hread : d.readDir with
  | error err =>
    rw [hread] at h
    dsimp only at h
    split at h
    · cases h
      simp
    · cases h
  | ok entries =>
    rw [hread] at h
    cases h
    simp only [List.mem_flatMap]
    refine exists_congr fun f => and_congr_right fun _ => ?_
    cases f.isDir with
    | true => simp
    | false =>
      simp only [Bool.false_eq_true, if_false, List.mem_map, List.mem_filter, decide_eq_true_eq, true_and]
      constructor
      · rintro ⟨ext, ⟨hext, rfl⟩, hpath⟩
        exact ⟨hext, hpath⟩
      · rintro ⟨hext, hpath⟩
        exact ⟨_, ⟨hext, rfl⟩, hpath⟩

theorem firstNetwork_ok_iff {files : List Text} :
    firstNetwork libcni confDir binDirs files = .ok n ↔
      files.findSome? (fun confFile => (loadNetwork libcni binDirs confFile).toOption) = some n := by
  induction files with
  | nil => simp [firstNetwork]
  | cons confFile files ih =>
    rw [firstNetwork, List.findSome?_cons]
    cases loadNetwork libcni binDirs confFile with
    | error skipped => exact ih
    | ok network => simp [Except.toOption]

theorem findSome?_sorted_iff {β : Type} {g : Text → Option β} {l : List Text} {b : β} :
    (l.insertionSort (Store.nameLE · ·)).findSome? g = some b ↔
      ∃ a ∈ l, g a = some b ∧ ∀ a' ∈ l, (g a').isSome = true → Store.nameLE a a' = true := by
  have hsorted : (l.insertionSort (Store.nameLE · ·)).Pairwise (Store.nameLE · ·) :=
    @List.pairwise_insertionSort _ _ _ ⟨Store.nameLE_total⟩ ⟨fun _ _ _ => Store.nameLE_trans⟩ l
  have hfirst : ∀ {b}, (l.insertionSort (Store.nameLE · ·)).findSome? g = some b →
      ∃ a ∈ l, g a = some b ∧ ∀ a' ∈ l, (g a').isSome = true → Store.nameLE a a' = true := by
    intro b h
    obtain ⟨before, a, after, heq, ha, hbefore⟩ := List.findSome?_eq_some_iff.mp h
    refine ⟨a, ?_, ha, fun a' ha' hsome => ?_⟩
    · rw [← List.mem_insertionSort (Store.nameLE · ·), heq]
      exact List.mem_append_right _ List.mem_cons_self
    · rw [← List.mem_insertionSort (Store.nameLE · ·), heq] at ha'
      rw [heq] at hsorted
      rcases List.mem_append.mp ha' with hin | hin
      · rw [hbefore a' hin] at hsome
        cases hsome
      · rcases List.mem_cons.mp hin with rfl | hin
        · exact Store.nameLE_refl a'
        · exact List.rel_of_pairwise_cons (List.pairwise_append.mp hsorted).2.1 hin
  refine ⟨hfirst, ?_⟩
  rintro ⟨a, ha, hb, hleast⟩
  cases hfound : (l.insertionSort (Store.nameLE · ·)).findSome? g with
  | none =>
    have hnone := List.findSome?_eq_none_iff.mp hfound a ((List.mem_insertionSort _).mpr ha)
    rw [hnone] at hb
    cases hb
  | some b' =>
    obtain ⟨a', ha', hb', hleast'⟩ := hfirst hfound
    have heq : a = a' := Store.nameLE_antisymm (hleast a' ha' (by rw [hb']; rfl)) (hleast' a ha (by rw [hb]; rfl))
    rw [← heq, hb] at hb'
    exact hb'.symm

theorem getDefaultCNINetwork_of_confFiles {files : List Text}
    (h : confFiles confDir [".conf", ".conflist", ".json"] d = .ok files) :
    getDefaultCNINetwork confDir binDirs d = .ok n ↔
      (files.insertionSort (Store.nameLE · ·)).findSome? (fun file => (loadNetwork d.libcni binDirs file).toOption) = some n := by
  unfold getDefaultCNINetwork
  rw [h]
  cases files with
  | nil => simp
  | cons file files => exact firstNetwork_ok_iff

theorem entries_eq_nil_of_error {extensions : List Text} {err : GoError} (h : confFiles confDir extensions d = .error err) :
    d.entries = [] := by
  unfold confFiles at h
  unfold ConfDir.entries
  cases hread : d.readDir with
  | error err => rfl
  | ok entries =>
    rw [hread] at h
    cases h

theorem toOption_eq_some_iff {ε α : Type} {x : Except ε α} {a : α} : x.toOption = some a ↔ x = .ok a := by
  cases x <;> simp [Except.toOption]

theorem getDefaultCNINetwork_ok_iff : getDefaultCNINetwork confDir binDirs d = .ok n ↔ First confDir binDirs d n := by
  cases hfiles : confFiles confDir [".conf", ".conflist", ".json"] d with
  | error err =>
    refine iff_of_false ?_ ?_
    · unfold getDefaultCNINetwork
      rw [hfiles]
      exact nofun
    · rintro ⟨f, hf, -⟩
      rw [entries_eq_nil_of_error hfiles] at hf
      exact absurd hf List.not_mem_nil
  | ok files =>
    rw [getDefaultCNINetwork_of_confFiles hfiles, findSome?_sorted_iff]
    constructor
    · rintro ⟨confFile, hmem, hload, hleast⟩
      obtain ⟨f, hf, hfile, hext, rfl⟩ := (mem_confFiles_iff hfiles).mp hmem
      refine ⟨f, hf, gives_iff.mpr ⟨hfile, hext, toOption_eq_some_iff.mp hload⟩, fun f' hf' n' hgives => ?_⟩
      obtain ⟨hfile', hext', hload'⟩ := gives_iff.mp hgives
      rw [← filepathJoin_le confDir]
      refine hleast _ ((mem_confFiles_iff hfiles).mpr ⟨f', hf', hfile', hext', rfl⟩) ?_
      rw [hload']
      rfl
    · rintro ⟨f, hf, hgives, hleast⟩
      obtain ⟨hfile, hext, hload⟩ := gives_iff.mp hgives
      refine ⟨_, (mem_confFiles_iff hfiles).mpr ⟨f, hf, hfile, hext, rfl⟩, toOption_eq_some_iff.mpr hload, fun path hmem hsome => ?_⟩
      obtain ⟨f', hf', hfile', hext', rfl⟩ := (mem_confFiles_iff hfiles).mp hmem
      obtain ⟨n', hload'⟩ := Option.isSome_iff_exists.mp hsome
      rw [filepathJoin_le]
      exact hleast f' hf' n' (gives_iff.mpr ⟨hfile', hext', toOption_eq_some_iff.mp hload'⟩)

/-! ### Syncs -/

variable {plugin : CniNetworkPlugin}

theorem syncNetworkConfig_of_first (h : First plugin.confDir plugin.binDirs d n) :
    syncNetworkConfig d plugin = plugin.setDefaultNetwork n := by
  unfold syncNetworkConfig
  rw [getDefaultCNINetwork_ok_iff.mpr h]

theorem syncNetworkConfig_of_none (h : ∀ n, ¬First plugin.confDir plugin.binDirs d n) : syncNetworkConfig d plugin = plugin := by
  unfold syncNetworkConfig
  cases hnetwork : getDefaultCNINetwork plugin.confDir plugin.binDirs d with
  | error err => rfl
  | ok n => exact absurd (getDefaultCNINetwork_ok_iff.mp hnetwork) (h n)

theorem syncNetworkConfig_congr (h : ∀ n, First plugin.confDir plugin.binDirs d n ↔ First plugin.confDir plugin.binDirs d' n) :
    syncNetworkConfig d plugin = syncNetworkConfig d' plugin := by
  by_cases hfirst : ∃ n, First plugin.confDir plugin.binDirs d n
  · obtain ⟨n, hn⟩ := hfirst
    rw [syncNetworkConfig_of_first hn, syncNetworkConfig_of_first ((h n).mp hn)]
  · have hnone : ∀ n, ¬First plugin.confDir plugin.binDirs d n := fun n hn => hfirst ⟨n, hn⟩
    rw [syncNetworkConfig_of_none hnone, syncNetworkConfig_of_none fun n hn => hnone n ((h n).mpr hn)]

theorem syncNetworkConfig_dirs (d : ConfDir) (plugin : CniNetworkPlugin) :
    (syncNetworkConfig d plugin).confDir = plugin.confDir ∧ (syncNetworkConfig d plugin).binDirs = plugin.binDirs := by
  unfold syncNetworkConfig
  split <;> exact ⟨rfl, rfl⟩

theorem synced_concat (confDir : Text) (binDirs : List Text) (seen : List ConfDir) (d : ConfDir) :
    synced confDir binDirs (seen ++ [d]) = syncNetworkConfig d (synced confDir binDirs seen) := by
  rw [synced, List.foldl_append]
  rfl

theorem synced_dirs (confDir : Text) (binDirs : List Text) (seen : List ConfDir) :
    (synced confDir binDirs seen).confDir = confDir ∧ (synced confDir binDirs seen).binDirs = binDirs.filter (· ≠ []) := by
  induction seen using List.reverseRecOn with
  | nil => exact ⟨rfl, rfl⟩
  | append_singleton seen d ih =>
    obtain ⟨hconf, hbin⟩ := syncNetworkConfig_dirs d (synced confDir binDirs seen)
    rw [synced_concat, hconf, hbin]
    exact ih

theorem latest_concat_iff {seen : List ConfDir} :
    Latest confDir binDirs (seen ++ [d]) n ↔
      First confDir binDirs d n ∨ (∀ m, ¬First confDir binDirs d m) ∧ Latest confDir binDirs seen n := by
  constructor
  · rintro ⟨earlier, d', later, heq, hfirst, hlater⟩
    rcases List.eq_nil_or_concat' later with rfl | ⟨later, last, rfl⟩
    · obtain ⟨-, hd⟩ := List.append_inj' heq rfl
      cases hd
      exact .inl hfirst
    · rw [← List.cons_append, ← List.append_assoc] at heq
      obtain ⟨hseen, hd⟩ := List.append_inj' heq rfl
      cases hd
      refine .inr ⟨hlater d (by simp), earlier, d', later, hseen, hfirst, fun d'' hd'' => ?_⟩
      exact hlater d'' (List.mem_append_left _ hd'')
  · rintro (hfirst | ⟨hnone, earlier, d', later, rfl, hfirst, hlater⟩)
    · exact ⟨seen, d, [], rfl, hfirst, fun _ h => absurd h List.not_mem_nil⟩
    · refine ⟨earlier, d', later ++ [d], by simp, hfirst, fun d'' hd'' => ?_⟩
      rcases List.mem_append.mp hd'' with hin | hlast
      · exact hlater d'' hin
      · rw [List.mem_singleton.mp hlast]
        exact hnone

theorem First.unique {n' : CniNetwork} (h : First confDir binDirs d n) (h' : First confDir binDirs d n') : n = n' := by
  rw [← getDefaultCNINetwork_ok_iff] at h h'
  rw [h] at h'
  exact Except.ok.inj h'

theorem synced_defaultNetwork_iff (confDir : Text) (binDirs : List Text) (seen : List ConfDir) (n : CniNetwork) :
    (synced confDir binDirs seen).defaultNetwork = some n ↔ Latest confDir (binDirs.filter (· ≠ [])) seen n := by
  induction seen using List.reverseRecOn with
  | nil =>
    refine iff_of_false nofun ?_
    rintro ⟨earlier, d, later, hnil, -⟩
    simp at hnil
  | append_singleton seen d ih =>
    obtain ⟨hconf, hbin⟩ := synced_dirs confDir binDirs seen
    rw [synced_concat, latest_concat_iff]
    by_cases hfirst : ∃ m, First confDir (binDirs.filter (· ≠ [])) d m
    · obtain ⟨m, hm⟩ := hfirst
      have hsync : syncNetworkConfig d (synced confDir binDirs seen) = (synced confDir binDirs seen).setDefaultNetwork m := by
        apply syncNetworkConfig_of_first
        rw [hconf, hbin]
        exact hm
      rw [hsync]
      constructor
      · intro hn
        cases Option.some.inj hn
        exact .inl hm
      · rintro (hn | ⟨hnone, -⟩)
        · exact congrArg some (hm.unique hn)
        · exact absurd hm (hnone m)
    · have hnone : ∀ m, ¬First confDir (binDirs.filter (· ≠ [])) d m := fun m hm => hfirst ⟨m, hm⟩
      rw [syncNetworkConfig_of_none (by rw [hconf, hbin]; exact hnone), ih]
      exact ⟨fun hlatest => .inr ⟨hnone, hlatest⟩, fun h => h.elim (fun hn => absurd hn (hnone n)) fun h => h.2⟩

theorem synced_append_isSome {seen : List ConfDir} (later : List ConfDir)
    (h : (synced confDir binDirs seen).defaultNetwork ≠ none) :
    (synced confDir binDirs (seen ++ later)).defaultNetwork ≠ none := by
  induction later using List.reverseRecOn with
  | nil =>
    rw [List.append_nil]
    exact h
  | append_singleton later d ih =>
    rw [← List.append_assoc, synced_concat, syncNetworkConfig]
    split
    · exact ih
    · exact Option.some_ne_none _

theorem first_iff_of_perm (hlibcni : d.libcni = d'.libcni) (hperm : d.entries.Perm d'.entries) :
    First confDir binDirs d n ↔ First confDir binDirs d' n := by
  have hgives : ∀ f m, Gives confDir binDirs d f m ↔ Gives confDir binDirs d' f m := by
    intro f m
    rw [gives_iff, gives_iff, hlibcni]
  unfold First
  simp only [hgives, hperm.mem_iff]

theorem First.of_agree (hfirst : f ∈ d.entries) (hgives : Gives confDir binDirs d f n)
    (hleast : ∀ f' ∈ d.entries, ∀ n', Gives confDir binDirs d f' n' → Store.nameLE f.name f'.name = true)
    (hagree : ∀ f' n', Store.nameLE f'.name f.name = true →
      (f' ∈ d.entries ∧ Gives confDir binDirs d f' n' ↔ f' ∈ d'.entries ∧ Gives confDir binDirs d' f' n')) :
    First confDir binDirs d' n := by
  obtain ⟨hmem', hgives'⟩ := (hagree f n (Store.nameLE_refl f.name)).mp ⟨hfirst, hgives⟩
  refine ⟨f, hmem', hgives', fun f' hf' n' hother => ?_⟩
  rcases Store.nameLE_total f.name f'.name with hle | hle
  · exact hle
  · obtain ⟨hold, hgivesOld⟩ := (hagree f' n' hle).mpr ⟨hf', hother⟩
    exact hleast f' hold n' hgivesOld

end

/-- After any syncs the default network is the one of the first file, by name, that gives a network, in the last
    directory that has such a file. It does not depend on the order in which a directory is enumerated, nor on files that
    come later or give no network; and once there is a default network, there is one after every later sync. -/
theorem synced_defaultNetwork (confDir : Text) (binDirs : List Text) :
    (∀ seen n, (synced confDir binDirs seen).defaultNetwork = some n ↔ Latest confDir (binDirs.filter (· ≠ [])) seen n) ∧
      (∀ seen later, (synced confDir binDirs seen).defaultNetwork ≠ none →
        (synced confDir binDirs (seen ++ later)).defaultNetwork ≠ none) ∧
      (∀ plugin (d d' : ConfDir), d.libcni = d'.libcni → d.entries.Perm d'.entries →
        syncNetworkConfig d plugin = syncNetworkConfig d' plugin) ∧
      ∀ plugin (d d' : ConfDir) (f : DirEntry) (n : CniNetwork), f ∈ d.entries →
        Gives plugin.confDir plugin.binDirs d f n →
        (∀ f' ∈ d.entries, ∀ n', Gives plugin.confDir plugin.binDirs d f' n' → Store.nameLE f.name f'.name = true) →
        (∀ f' n', Store.nameLE f'.name f.name = true →
          (f' ∈ d.entries ∧ Gives plugin.confDir plugin.binDirs d f' n' ↔
            f' ∈ d'.entries ∧ Gives plugin.confDir plugin.binDirs d' f' n')) →
        syncNetworkConfig d plugin = syncNetworkConfig d' plugin := by
  refine ⟨fun seen n => synced_defaultNetwork_iff confDir binDirs seen n, fun seen later h => synced_append_isSome later h,
    fun plugin d d' hlibcni hperm => syncNetworkConfig_congr fun n => first_iff_of_perm hlibcni hperm, ?_⟩
  intro plugin d d' f n hmem hgives hleast hagree
  rw [syncNetworkConfig_of_first ⟨f, hmem, hgives, hleast⟩,
    syncNetworkConfig_of_first (First.of_agree hmem hgives hleast hagree)]

end CriDockerd.Cni
