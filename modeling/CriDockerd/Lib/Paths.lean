import CriDockerd.Lib.Text

/-! Absolute paths with slashes. A path leads from the root along its parts: an empty part and a dot stay
    where they are, two dots go up, and every other part is the name of an entry. -/

namespace Paths
open Text

/-- A name that an entry of a directory can have. -/
structure IsName (name : Text) : Prop where
  ne_nil : name ≠ []
  ne_dot : name ≠ ['.']
  ne_dots : name ≠ ['.', '.']
  no_slash : '/' ∉ name

def follow (place : List Text) (part : Text) : List Text :=
  if part = [] ∨ part = ['.'] then place else if part = ['.', '.'] then place.dropLast else place ++ [part]

/-- The names on the way to what a path stands for. -/
def components (path : Text) : List Text := (split path '/').foldl follow []

def render (names : List Text) : Text := '/' :: Text.join ['/'] names

/-- The shortest path to the same place. -/
def clean (path : Text) : Text := render (components path)

def join (dir name : Text) : Text := clean (dir ++ '/' :: name)

/-- The path without its last part. -/
def dirOf (path : Text) : Text := render ((split path '/').dropLast.foldl follow [])

section
variable {dir name path : Text} {names place : List Text}

theorem follow_name (h : IsName name) : follow place name = place ++ [name] := by
  rw [follow, if_neg (not_or.mpr ⟨h.ne_nil, h.ne_dot⟩), if_neg h.ne_dots]

theorem foldl_follow_names (h : ∀ name ∈ names, IsName name) : names.foldl follow place = place ++ names := by
  induction names generalizing place with
  | nil => exact (List.append_nil _).symm
  | cons name names ih =>
    rw [List.foldl_cons, follow_name (h name List.mem_cons_self), ih fun n hn => h n (List.mem_cons_of_mem _ hn),
      List.append_assoc, List.singleton_append]

theorem foldl_follow_isName {parts : List Text} (hparts : ∀ part ∈ parts, '/' ∉ part) (hplace : ∀ name ∈ place, IsName name) :
    ∀ name ∈ parts.foldl follow place, IsName name := by
  induction parts generalizing place with
  | nil => exact hplace
  | cons part parts ih =>
    refine ih (fun p hp => hparts p (List.mem_cons_of_mem _ hp)) fun name hname => ?_
    rw [follow] at hname
    split at hname
    · exact hplace name hname
    · rename_i hstay
      obtain ⟨hnil, hdot⟩ := not_or.mp hstay
      split at hname
      · exact hplace name (List.dropLast_subset _ hname)
      · rename_i hdots
        rcases List.mem_append.mp hname with hold | hnew
        · exact hplace name hold
        · rw [List.mem_singleton.mp hnew]
          exact ⟨hnil, hdot, hdots, hparts part List.mem_cons_self⟩

theorem components_isName : ∀ name ∈ components path, IsName name :=
  foldl_follow_isName (fun _ h => not_mem_of_mem_split h) fun _ h => absurd h List.not_mem_nil

theorem split_render (hne : names ≠ []) (h : ∀ name ∈ names, IsName name) : split (render names) '/' = [] :: names := by
  show List.splitOn '/' ([] ++ '/' :: ['/'].intercalate names) = _
  rw [List.splitOn_append_cons_self_of_not_mem List.not_mem_nil,
    List.splitOn_intercalate _ (fun name hname => (h name hname).no_slash) hne]

theorem components_render (h : ∀ name ∈ names, IsName name) : components (render names) = names := by
  rcases eq_or_ne names [] with rfl | hne
  · rfl
  · rw [components, split_render hne h, List.foldl_cons]
    exact foldl_follow_names h

@[simp] theorem components_clean : components (clean path) = components path := components_render components_isName

theorem components_append (h : IsName name) : components (dir ++ '/' :: name) = components dir ++ [name] := by
  rw [components, split, List.splitOn_append_cons_self, List.splitOn_eq_singleton h.no_slash, List.foldl_append]
  exact follow_name h

theorem components_slash : components (dir ++ ['/']) = components dir := by
  rw [components, split, List.splitOn_append_cons_self, List.splitOn_nil, List.foldl_append]
  rfl

theorem components_join (h : IsName name) : components (join dir name) = components dir ++ [name] := by
  rw [join, components_clean, components_append h]

theorem components_dirOf_join (h : IsName name) : components (dirOf (join dir name)) = components dir := by
  have hnames : ∀ n ∈ components dir ++ [name], IsName n := by
    rw [← components_append h]
    exact components_isName
  have hparts : split (join dir name) '/' = [] :: (components dir ++ [name]) := by
    rw [join, clean, components_append h]
    exact split_render (by simp) hnames
  have hdrop : ([] :: (components dir ++ [name])).dropLast = [] :: components dir := by
    rw [← List.cons_append, List.dropLast_concat]
  rw [dirOf, hparts, hdrop, List.foldl_cons]
  show components (render ((components dir).foldl follow [])) = _
  rw [foldl_follow_names components_isName, List.nil_append, components_render components_isName]

end

end Paths
