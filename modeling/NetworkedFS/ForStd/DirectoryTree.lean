import NetworkedFS.ForStd.List

/-!
# Directory trees and path names

An abstract directory tree is a set of absolute directories, given by their component
names, that holds the root and with each directory its parent.  Path names are resolved
as POSIX says: from the root if they start with a delimiter and from the working
directory otherwise, component by component, every directory on the way being one of
the tree.  The empty path name resolves to nothing.

- `components_append_delimiter`: the components of a concatenation;
- `resolve_append_delimiter`: a delimiter at the end of a path name changes nothing;
- `resolve_append`: a path name is resolved from where what is in front of a delimiter leads.
-/

namespace PathName

/-- A component of a path name. -/
abbrev Name := List Char

/-- What stands between the delimiters of a path name, empty parts left out. -/
def components (path : List Char) : List Name :=
  (path.splitOn '/').filter fun name => !name.isEmpty

@[simp] theorem components_nil : components [] = [] := rfl

theorem components_append_delimiter (path rest : List Char) :
    components (path ++ '/' :: rest) = components path ++ components rest := by
  simp only [components, List.splitOn_append_cons_self, List.filter_append]

@[simp] theorem components_append_singleton (path : List Char) :
    components (path ++ ['/']) = components path := by
  rw [components_append_delimiter, components_nil, List.append_nil]

@[simp] theorem components_cons_delimiter (path : List Char) :
    components ('/' :: path) = components path :=
  components_append_delimiter [] path

/-- A component is not empty and has no delimiter in it. -/
theorem of_mem_components {path : List Char} {name : Name} (hname : name ∈ components path) :
    name ≠ [] ∧ '/' ∉ name := by
  rw [components, List.mem_filter, List.splitOn_eq_splitOnP] at hname
  refine ⟨?_, ?_⟩
  · intro hnil
    rw [hnil] at hname
    exact absurd hname.2 (by decide)
  · intro hmem
    have hseparator := (List.forall_of_mem_splitOnP hname.1 '/' hmem).2
    exact absurd hseparator (by decide)

/-- A name is its own single component exactly when it could be a component. -/
theorem components_eq_singleton_iff {name : Name} :
    components name = [name] ↔ name ≠ [] ∧ '/' ∉ name := by
  refine ⟨fun h => of_mem_components (by rw [h]; exact List.mem_singleton_self name), ?_⟩
  rintro ⟨hne, hmem⟩
  rw [components, List.splitOn_eq_singleton hmem]
  cases name with
  | nil => exact absurd rfl hne
  | cons c name => rfl

/-- A character that is no delimiter belongs to a component. -/
private theorem components_cons_ne_nil {c : Char} (hc : c ≠ '/') (path : List Char) :
    components (c :: path) ≠ [] := by
  have hbeq : (c == '/') = false := beq_eq_false_iff_ne.mpr hc
  cases hparts : path.splitOn '/' with
  | nil => exact absurd hparts (List.splitOn_ne_nil _ _)
  | cons first parts =>
    rw [components, List.splitOn_cons_eq_if_modifyHead, hbeq, hparts]
    exact List.cons_ne_nil _ _

/-- Only delimiters give no components. -/
theorem components_eq_nil_iff {path : List Char} : components path = [] ↔ ∀ c ∈ path, c = '/' := by
  induction path with
  | nil => simp only [components_nil, List.not_mem_nil, false_implies, implies_true]
  | cons c path ih =>
    rw [List.forall_mem_cons]
    by_cases hc : c = '/'
    · rw [hc, components_cons_delimiter, ih]
      exact (and_iff_right rfl).symm
    · simp only [components_cons_ne_nil hc path, hc, false_and]

end PathName

open PathName (Name components)

/-- A set of directories that is closed under parents. -/
structure DirectoryTree where
  has : List Name → Bool
  has_root : has [] = true
  has_parent : ∀ path name, has (path ++ [name]) = true → has path = true

namespace DirectoryTree

variable (tree : DirectoryTree)

/-- A directory of the tree. -/
abbrev Directory := { path : List Name // tree.has path = true }

def root : tree.Directory := ⟨[], tree.has_root⟩

variable {tree}

/-- The parent directory; the root is its own parent. -/
def parent (directory : tree.Directory) : tree.Directory :=
  ⟨directory.1.dropLast, by
    -- a parent of a directory of the tree is one of the tree, and so is the root
    obtain ⟨path, hpath⟩ := directory
    cases List.eq_nil_or_concat path with
    | inl hnil => subst hnil; exact tree.has_root
    | inr hconcat =>
      obtain ⟨front, last, hfront⟩ := hconcat
      rw [List.concat_eq_append] at hfront
      subst hfront
      show tree.has (front ++ [last]).dropLast = true
      rw [List.dropLast_concat]
      exact tree.has_parent front last hpath⟩

/-- One component further. -/
def enter (directory : tree.Directory) (name : Name) : Option tree.Directory :=
  -- the two special entries, and then what the tree says
  if name = ['.'] then some directory
  else if name = ['.', '.'] then some (parent directory)
  else if h : tree.has (directory.1 ++ [name]) = true then some ⟨_, h⟩
  else none

/-- The directory that a path name leads to. -/
def resolve (cwd : tree.Directory) (path : List Char) : Option tree.Directory :=
  match path with
  | [] => none
  -- every component has to lead to a directory
  | c :: _ => (components path).foldlM enter (if c = '/' then tree.root else cwd)

/-- A delimiter at the end of a path name makes no difference. -/
theorem resolve_append_delimiter (cwd : tree.Directory) {path : List Char} (hpath : path ≠ []) :
    resolve cwd (path ++ ['/']) = resolve cwd path := by
  cases path with
  | nil => exact absurd rfl hpath
  | cons c path =>
    show List.foldlM _ _ (components ((c :: path) ++ ['/'])) = List.foldlM _ _ _
    rw [PathName.components_append_singleton]

/-- What follows a delimiter is resolved from where the part in front of it leads. -/
theorem resolve_append (cwd : tree.Directory) (path rest : List Char) :
    resolve cwd (path ++ '/' :: rest) =
      (resolve cwd (path ++ ['/'])).bind fun d => (components rest).foldlM enter d := by
  cases path with
  -- the delimiter in front stands for the root
  | nil =>
    show List.foldlM _ _ (components ('/' :: rest)) = _
    rw [PathName.components_cons_delimiter]
    rfl
  | cons c path =>
    show List.foldlM enter (if c = '/' then tree.root else cwd)
        (components ((c :: path) ++ '/' :: rest)) =
      (List.foldlM enter (if c = '/' then tree.root else cwd)
        (components ((c :: path) ++ ['/']))).bind _
    rw [PathName.components_append_delimiter, PathName.components_append_singleton,
      List.foldlM_append]
    rfl

/-! ## Special entries -/

/-- The entries that stand for the directory itself and for its parent. -/
def IsDot (name : Name) : Prop := name = ['.'] ∨ name = ['.', '.']

instance (name : Name) : Decidable (IsDot name) := inferInstanceAs (Decidable (_ ∨ _))

end DirectoryTree
