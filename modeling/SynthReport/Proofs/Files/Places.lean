import SynthReport.Proofs.Traversal
import SynthReport.Files.Tree

/-! # The place that a path stands for

A place is kept by the way to it from the working directory. Here it is compared with the names that
lead to it from the root, which every spelling of a path comes down to.

* **`Place.way`** — the way from one directory to a place, both by their names from the root;
* **`Place.up_way`**, **`Place.down_way`** — a step up drops the last name, a step down adds one;
* **`Place.way_injective`** — different names have different ways;
* **`resolved`** — the names from the root that a path stands for, by its text alone;
* **`FileTree.target_eq_way`** — a path leads to the place that it stands for. -/

namespace SynthReport

namespace Place

/-! ## Ways between two directories -/

/-- **The way to a place** from a directory, both by their names from the root: up to where they
part, and down from there. -/
def way : List String → List String → Place
  | [], names => names
  | home, [] => List.replicate home.length ".."
  | first :: home, name :: names =>
    if first = name then way home names
    else List.replicate (home.length + 1) ".." ++ name :: names

variable {home rest common names : List String} {name : String}

/-- The way to the root. -/
@[simp] theorem way_nil_right (home : List String) : way home [] = root home := by
  cases home <;> rfl

/-- Names that both have in front do not count. -/
theorem way_append (common home names : List String) :
    way (common ++ home) (common ++ names) = way home names := by
  induction common with
  | nil => rfl
  | cons first common ih => rw [List.cons_append, List.cons_append, way, if_pos rfl, ih]

/-- The working directory is where the way starts. -/
@[simp] theorem way_self (home : List String) : way home home = [] := by
  simpa [root] using way_append home [] []

/-- The way to a directory above. -/
theorem way_append_left (common rest : List String) :
    way (common ++ rest) common = root rest := by
  simpa using way_append common rest []

/-- Names that part at once: the way goes up to the root. -/
theorem way_of_head?_ne (h : rest.head? ≠ some name) :
    way rest (name :: names) = root rest ++ name :: names := by
  cases rest with
  | nil => rfl
  | cons first rest =>
    rw [way, if_neg]
    · rfl
    · rintro rfl
      exact h rfl

/-- **Names part somewhere**, if they do not lead to a directory above. -/
theorem prefix_or_parts (home names : List String) :
    (∃ rest, home = names ++ rest) ∨
      ∃ common rest name down, home = common ++ rest ∧ names = common ++ name :: down ∧
        rest.head? ≠ some name := by
  induction names generalizing home with
  | nil => exact Or.inl ⟨home, rfl⟩
  | cons name names ih =>
    cases home with
    | nil => exact Or.inr ⟨[], [], name, names, rfl, rfl, nofun⟩
    | cons first home =>
      by_cases hname : first = name
      · subst hname
        rcases ih home with ⟨rest, rfl⟩ | ⟨common, rest, other, down, rfl, rfl, hhead⟩
        · exact Or.inl ⟨rest, rfl⟩
        · exact Or.inr ⟨first :: common, rest, other, down, rfl, rfl, hhead⟩
      · refine Or.inr ⟨[], first :: home, name, names, rfl, rfl, ?_⟩
        rw [List.head?_cons, ne_eq, Option.some_inj]
        exact hname

/-! ## Steps -/

/-- The way to the root goes up alone. -/
theorem isAbove_root (home : List String) : (root home).isAbove = true := by
  simp [root, isAbove]

/-- A way with a name goes down. -/
theorem isAbove_append_cons (hname : name ≠ "..") (place : Place) :
    (place ++ name :: names).isAbove = false := by
  simp [isAbove, hname]

/-- The way up has one step for each name. -/
@[simp] theorem length_root (home : List String) : (root home).length = home.length :=
  List.length_replicate

/-- **A step up drops the last name.** -/
theorem up_way (hnames : ".." ∉ names) : (way home names).up home = way home names.dropLast := by
  rcases prefix_or_parts home names with ⟨rest, rfl⟩ | ⟨common, rest, name, down, rfl, rfl, hhead⟩
  · -- A directory above: the way gets longer, unless this is the root.
    rw [way_append_left, up, if_pos (isAbove_root rest), length_root, List.length_append]
    rcases List.eq_nil_or_concat names with rfl | ⟨shorter, name, rfl⟩
    · simp
    · rw [List.concat_eq_append, if_pos (by simp), List.dropLast_concat, List.append_assoc,
        way_append_left]
      rfl
  · have hname : name ≠ ".." := fun h => hnames (h ▸ by simp)
    rw [way_append, way_of_head?_ne hhead, up,
      if_neg (Bool.eq_false_iff.1 (isAbove_append_cons hname (root rest)))]
    -- What is left of the names parts at the same name, or there is none left.
    rw [List.dropLast_append_of_ne_nil (List.cons_ne_nil name down),
      List.dropLast_append_of_ne_nil (List.cons_ne_nil name down), way_append]
    cases down with
    | nil => simp
    | cons next down => rw [List.dropLast_cons_cons, way_of_head?_ne hhead]

/-- **A step down adds a name.** -/
theorem down_way (hnames : ".." ∉ names) (piece : String) :
    (way home names).down home piece = way home (names ++ [piece]) := by
  rcases prefix_or_parts home names with ⟨rest, rfl⟩ | ⟨common, rest, name, rest', rfl, rfl, hhead⟩
  · rw [way_append_left, way_append, down, isAbove_root, length_root, List.length_append,
      Nat.add_sub_cancel, List.getElem?_append_right (Nat.le_refl _), Nat.sub_self]
    cases rest with
    | nil => simp [root, way]
    | cons first rest =>
      by_cases hfirst : first = piece
      · -- The name leads back down towards the working directory.
        subst hfirst
        simp [way, root, List.replicate_succ']
      · rw [if_neg (by simpa using hfirst), way_of_head?_ne (by simpa using hfirst)]
  · have hname : name ≠ ".." := fun h => hnames (h ▸ by simp)
    rw [way_append, List.append_assoc, way_append, List.cons_append, way_of_head?_ne hhead,
      way_of_head?_ne hhead, down, isAbove_append_cons hname, if_neg (by simp), List.append_assoc]
    rfl

/-- A way that goes up and then down by a name is told apart by its steps. -/
theorem root_append_cons_inj {other : List String} {name' : String} {names' : List String}
    (hname : name ≠ "..") (hname' : name' ≠ "..")
    (h : root home ++ name :: names = root other ++ name' :: names') :
    home.length = other.length ∧ name :: names = name' :: names' := by
  induction home generalizing other with
  | nil =>
    cases other with
    | nil => exact ⟨rfl, h⟩
    | cons first other => exact absurd (List.cons.inj h).1 hname
  | cons first home ih =>
    cases other with
    | nil => exact absurd (List.cons.inj h).1.symm hname'
    | cons first' other =>
      obtain ⟨hlength, hrest⟩ := ih (List.cons.inj h).2
      exact ⟨congrArg (· + 1) hlength, hrest⟩

/-- **Different names have different ways.** -/
theorem way_injective {other : List String} (hnames : ".." ∉ names) (hother : ".." ∉ other)
    (h : way home names = way home other) : names = other := by
  rcases prefix_or_parts home names with ⟨rest, rfl⟩ | ⟨common, rest, name, down, rfl, rfl, hhead⟩
  · rcases prefix_or_parts (names ++ rest) other with
      ⟨rest', hrest⟩ | ⟨common, rest', name, down, hrest, rfl, hhead⟩
    · -- Both are directories above, as far up as each other.
      rw [way_append_left, hrest, way_append_left] at h
      have hlength : rest.length = rest'.length := by simpa using congrArg List.length h
      exact (List.append_inj' hrest hlength).1
    · have hname : name ≠ ".." := fun h => hother (h ▸ by simp)
      rw [way_append_left, hrest, way_append, way_of_head?_ne hhead] at h
      have habove := isAbove_root rest
      rw [h, isAbove_append_cons hname] at habove
      cases habove
  · have hname : name ≠ ".." := fun h => hnames (h ▸ by simp)
    rw [way_append, way_of_head?_ne hhead] at h
    rcases prefix_or_parts (common ++ rest) other with
      ⟨rest', hrest⟩ | ⟨common', rest', name', down', hrest, rfl, hhead'⟩
    · rw [hrest, way_append_left] at h
      have habove := isAbove_root rest'
      rw [← h, isAbove_append_cons hname] at habove
      cases habove
    · have hname' : name' ≠ ".." := fun h => hother (h ▸ by simp)
      rw [hrest, way_append, way_of_head?_ne hhead'] at h
      obtain ⟨hlength, hdown⟩ := root_append_cons_inj hname hname' h
      rw [(List.append_inj' hrest hlength).1, hdown]

end Place

/-! ## Paths -/

/-- One step along a path, without a look at the files. -/
def resolvedStep (names : List String) (piece : String) : List String :=
  if piece = "." then names
  else if piece = ".." then names.dropLast
  else names ++ [piece]

/-- **The names from the root that a path stands for**, seen from a working directory. -/
def resolved (home : List String) (path : String) : List String :=
  (pathPieces path).foldl resolvedStep (if isAbsolute path then [] else home)

/-- A step leads to no name of two dots. -/
theorem dots_not_mem_resolvedStep {names : List String} (hnames : ".." ∉ names) (piece : String) :
    ".." ∉ resolvedStep names piece := by
  rw [resolvedStep]
  split
  · exact hnames
  split
  · exact fun h => hnames (List.dropLast_subset names h)
  · rename_i hpiece
    simpa [hnames] using Ne.symm hpiece

/-- Nor do several steps. -/
theorem dots_not_mem_foldl {names : List String} (hnames : ".." ∉ names) (pieces : List String) :
    ".." ∉ pieces.foldl resolvedStep names := by
  induction pieces generalizing names with
  | nil => exact hnames
  | cons piece rest ih => exact ih (dots_not_mem_resolvedStep hnames piece)

/-- **What a path stands for has no name of two dots** if the working directory has none. -/
theorem dots_not_mem_resolved {home : List String} (hhome : ".." ∉ home) (path : String) :
    ".." ∉ resolved home path := by
  rw [resolved]
  split
  · exact dots_not_mem_foldl List.not_mem_nil _
  · exact dots_not_mem_foldl hhome _

namespace FileTree

variable {home names : List String} {tree : FileTree home}

/-- **A step leads where the names do.** -/
theorem enter_way {place : Place} {piece : String} (hnames : ".." ∉ names)
    (h : tree.enter (Place.way home names) piece = .ok place) :
    place = Place.way home (resolvedStep names piece) := by
  rw [enter] at h
  rw [resolvedStep]
  split at h
  · cases h
    rw [if_pos ‹_›]
  rw [if_neg ‹_›]
  split at h
  · cases h
    rw [if_pos ‹_›, Place.up_way hnames]
  rw [if_neg ‹_›, ← Place.down_way hnames]
  split at h
  · cases h
  split at h
  · cases h
  · cases h
  · cases h
    rfl

/-- Steps lead where the names do. -/
theorem foldlM_way {place : Place} {pieces : List String} (hnames : ".." ∉ names)
    (h : pieces.foldlM tree.enter (Place.way home names) = .ok place) :
    place = Place.way home (pieces.foldl resolvedStep names) := by
  induction pieces generalizing names with
  | nil =>
    cases h
    rfl
  | cons piece rest ih =>
    rw [List.foldlM_cons] at h
    obtain ⟨next, hstep, hrest⟩ := bind_eq_ok_iff.1 h
    cases enter_way hnames hstep
    exact ih (dots_not_mem_resolvedStep hnames piece) hrest

/-- The directory of a path, if it has a last name. -/
theorem locate_way {path : String} {directory : Place} {name : String} (hhome : ".." ∉ home)
    (h : tree.locate path = .ok (directory, some name)) :
    ∃ names, ".." ∉ names ∧ directory = Place.way home names ∧
      resolved home path = resolvedStep names name := by
  rw [locate] at h
  split at h
  · cases h
  split at h
  · cases h
  obtain ⟨place, hsteps, hplace⟩ := bind_pure_eq_ok_iff.1 h
  obtain ⟨rfl, hlast⟩ := Prod.ext_iff.1 hplace
  have hstart : (if isAbsolute path then Place.root home else []) =
      Place.way home (if isAbsolute path then [] else home) := by
    split
    · exact (Place.way_nil_right home).symm
    · exact (Place.way_self home).symm
  have hdots : ".." ∉ (if isAbsolute path then [] else home) := by
    split
    · exact List.not_mem_nil
    · exact hhome
  have hpieces : (pathPieces path).dropLast ++ [name] = pathPieces path :=
    List.dropLast_append_getLast? name hlast.symm
  rw [hstart] at hsteps
  refine ⟨_, dots_not_mem_foldl hdots _, foldlM_way hdots hsteps, ?_⟩
  rw [resolved, ← hpieces, List.foldl_append, List.dropLast_concat]
  rfl

/-- **A path leads to the place that it stands for**, however it is spelled. -/
theorem target_eq_way {path : String} {place : Place} (hhome : ".." ∉ home)
    (h : tree.target path = .ok place) : place = Place.way home (resolved home path) := by
  rw [target] at h
  obtain ⟨⟨directory, name?⟩, hlocate, h⟩ := bind_eq_ok_iff.1 h
  cases name? with
  | none => cases h
  | some name =>
    obtain ⟨names, hnames, rfl, hresolved⟩ := locate_way hhome hlocate
    dsimp only at h
    split at h
    · cases h
    rename_i hdots
    split at h
    · cases h
    split at h
    · cases h
    · cases h
      -- The last name is neither of the two that stand for a step of their own.
      obtain ⟨hcurrent, hparent⟩ : name ≠ "." ∧ name ≠ ".." := by
        simpa [isDots] using (not_or.1 hdots).1
      rw [hresolved, resolvedStep, if_neg hcurrent, if_neg hparent, Place.down_way hnames]

end FileTree

end SynthReport
