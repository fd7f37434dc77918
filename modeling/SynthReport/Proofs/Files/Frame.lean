import SynthReport.Files.Tree
import SynthReport.Proofs.Traversal

/-! # What a written file leaves as it was

A file is written at a place whose directory was reached step by step, and nothing changes anywhere
else.

* **`FileTree.Reached`** — a place that is a directory, as is every place on the way to it;
* **`FileTree.Writable`** — a place where a file can be written;
* **`FileTree.at?_put_of_ne`** — what stands at any other place stays;
* **`FileTree.target_put_eq_ok_iff`** — every path leads to the same place as before;
* **`FileTree.KeptExcept`** — two trees agree but for the files at some paths. -/

namespace SynthReport.FileTree

variable {home : List String} {tree : FileTree home}

/-! ## Places that paths lead to -/

/-- **A place that was reached**: it is a directory, and so is every place on the way to it. -/
def Reached (tree : FileTree home) (place : Place) : Prop :=
  ∀ other, other <+: place → tree.at? other = some .directory

/-- The working directory and those above it are directories. -/
theorem at?_of_isAbove {place : Place} (h : place.isAbove = true) :
    tree.at? place = some .directory := by
  rw [at?, if_pos h]

/-- A place that is reached by going up alone. -/
theorem reached_of_isAbove {place : Place} (h : place.isAbove = true) : tree.Reached place := by
  intro other hother
  rw [Place.isAbove, List.all_eq_true] at h
  apply at?_of_isAbove
  rw [Place.isAbove, List.all_eq_true]
  exact fun name hname => h name (hother.subset hname)

/-- One more name after a place that was reached. -/
theorem Reached.append_singleton {place : Place} {name : String} (h : tree.Reached place)
    (hname : tree.at? (place ++ [name]) = some .directory) : tree.Reached (place ++ [name]) := by
  intro other hother
  rcases List.prefix_concat_iff.1 hother with rfl | hother
  · exact hname
  · exact h other hother

/-- Where a path starts. -/
theorem reached_start (path : String) :
    tree.Reached (if isAbsolute path then Place.root home else []) := by
  apply reached_of_isAbove
  split
  · simp [Place.root, Place.isAbove]
  · rfl

/-- The directory above a place that was reached. -/
theorem Reached.up {place : Place} (h : tree.Reached place) : tree.Reached (place.up home) := by
  rw [Place.up]
  split
  · rename_i habove
    split
    · apply reached_of_isAbove
      simpa [Place.isAbove] using habove
    · exact h
  · intro other hother
    exact h other (hother.trans (List.dropLast_prefix place))

/-- **A name leads down by itself**, or back to the working directory or one above it. -/
theorem down_eq_or (home : List String) (place : Place) (name : String) :
    place.down home name = place ++ [name] ∨ (place.down home name).isAbove = true := by
  rw [Place.down]
  split
  · rename_i hback
    right
    rw [Place.isAbove, List.all_eq_true] at hback ⊢
    exact fun other hother => hback.1 other (List.dropLast_subset place hother)
  · exact Or.inl rfl

/-- The place of a name, if it is a directory. -/
theorem Reached.down {place : Place} {name : String} (h : tree.Reached place)
    (hname : tree.at? (place.down home name) = some .directory) :
    tree.Reached (place.down home name) := by
  rcases down_eq_or home place name with hdown | hdown
  · rw [hdown] at hname ⊢
    exact h.append_singleton hname
  · exact reached_of_isAbove hdown

/-- **A step leads from a place that was reached to another one.** -/
theorem Reached.enter {place next : Place} {piece : String} (h : tree.Reached place)
    (hstep : tree.enter place piece = .ok next) : tree.Reached next := by
  rw [FileTree.enter] at hstep
  split at hstep
  · cases hstep
    exact h
  split at hstep
  · cases hstep
    exact h.up
  split at hstep
  · cases hstep
  split at hstep
  · cases hstep
  · cases hstep
  · rename_i hdirectory
    cases hstep
    exact h.down hdirectory

/-- Steps lead from a place that was reached to another one. -/
theorem Reached.foldlM {pieces : List String} {place next : Place} (h : tree.Reached place)
    (hsteps : pieces.foldlM tree.enter place = .ok next) : tree.Reached next := by
  induction pieces generalizing place with
  | nil =>
    cases hsteps
    exact h
  | cons piece rest ih =>
    rw [List.foldlM_cons] at hsteps
    obtain ⟨middle, hstep, hrest⟩ := bind_eq_ok_iff.1 hsteps
    exact ih (h.enter hstep) hrest

/-- The directory of a path was reached. -/
theorem reached_of_locate {path : String} {place : Place} {name : Option String}
    (h : tree.locate path = .ok (place, name)) : tree.Reached place := by
  -- A path is refused for its length or for being empty before any step is taken.
  rw [locate] at h
  split at h
  · cases h
  split at h
  · cases h
  obtain ⟨directory, hsteps, hdirectory⟩ := bind_pure_eq_ok_iff.1 h
  cases hdirectory
  exact (reached_start path).foldlM hsteps

/-- **A place where a file can be written**: its directory was reached, and it is no directory
itself. -/
structure Writable (tree : FileTree home) (place : Place) : Prop where
  reached_of_prefix : ∀ other, other <+: place → other ≠ place → tree.at? other = some .directory
  not_directory : tree.at? place ≠ some .directory

/-- **Where a path leads for writing, a file can be written.** -/
theorem writable_of_target {path : String} {place : Place} (h : tree.target path = .ok place) :
    tree.Writable place := by
  rw [target] at h
  obtain ⟨⟨directory, name?⟩, hlocate, h⟩ := bind_eq_ok_iff.1 h
  cases name? with
  | none => cases h
  | some name =>
    -- Of the three tests of the last name, only the last one looks into the tree.
    dsimp only at h
    split at h
    · cases h
    split at h
    · cases h
    split at h
    · cases h
    · rename_i hplace
      cases h
      -- A name that leads back up would lead to a directory.
      have hdown : directory.down home name = directory ++ [name] :=
        (down_eq_or home directory name).resolve_right (mt at?_of_isAbove hplace)
      refine ⟨?_, hplace⟩
      rw [hdown]
      intro other hother hne
      exact reached_of_locate hlocate other ((List.prefix_concat_iff.1 hother).resolve_left hne)

/-! ## A file at a place -/

section Put

variable {place other : Place} {content : ByteArray}

/-- The entries with a file at a place in place of what stood there. -/
theorem entries_put_of_mem (h : tree.entries.any (·.1 = place) = true) :
    (tree.put place content).entries =
      tree.entries.map fun entry => if entry.1 = place then (place, .file content) else entry := by
  rw [put, if_pos h]

/-- The entries with a file at a place where nothing stood. -/
theorem entries_put_of_not_mem (h : ¬ tree.entries.any (·.1 = place) = true) :
    (tree.put place content).entries = tree.entries ++ [(place, .file content)] := by
  rw [put, if_neg h]

/-- Another place has the same entry of its own. -/
theorem find?_put_of_ne (hne : other ≠ place) :
    (tree.put place content).entries.find? (·.1 = other) = tree.entries.find? (·.1 = other) := by
  by_cases h : tree.entries.any (·.1 = place) = true
  · -- The entry keeps its position, so this is shown entry by entry.
    rw [entries_put_of_mem h]
    induction tree.entries with
    | nil => rfl
    | cons entry rest ih =>
      rw [List.map_cons, List.find?_cons, List.find?_cons, ih]
      by_cases hentry : entry.1 = place
      · simp [hentry, hne.symm]
      · simp [hentry]
  · rw [entries_put_of_not_mem h, List.find?_append]
    simp [hne.symm]

/-- The place has the file as its entry. -/
theorem find?_put_self :
    (tree.put place content).entries.find? (·.1 = place) = some (place, .file content) := by
  by_cases h : tree.entries.any (·.1 = place) = true
  · rw [entries_put_of_mem h]
    generalize tree.entries = entries at h
    induction entries with
    | nil => cases h
    | cons entry rest ih =>
      by_cases hentry : entry.1 = place
      · simp [hentry]
      · rw [List.any_cons, decide_eq_false hentry, Bool.false_or] at h
        simpa [hentry] using ih h
  · have hnone : tree.entries.find? (·.1 = place) = none := by
      rw [List.find?_eq_none]
      intro entry hentry hplace
      exact h (List.any_eq_true.2 ⟨entry, hentry, hplace⟩)
    rw [entries_put_of_not_mem h, List.find?_append, hnone]
    simp

/-- On the way to an entry are the places that were, and those on the way to the place. -/
theorem any_put :
    ((tree.put place content).entries.any fun (entry, _) => other.isPrefixOf entry) =
      ((tree.entries.any fun (entry, _) => other.isPrefixOf entry) || other.isPrefixOf place) := by
  by_cases h : tree.entries.any (·.1 = place) = true
  · have hsame : ((fun entry : Place × FileEntry => other.isPrefixOf entry.1) ∘ fun entry =>
        if entry.1 = place then (place, .file content) else entry) =
        fun entry => other.isPrefixOf entry.1 := by
      funext entry
      rw [Function.comp_apply]
      split
      · rename_i hentry
        rw [hentry]
      · rfl
    rw [entries_put_of_mem h, List.any_map, hsame]
    -- The place is one of the entries, so it adds nothing.
    obtain ⟨entry, hentry, hplace⟩ := List.any_eq_true.1 h
    cases hprefix : other.isPrefixOf place with
    | false => rw [Bool.or_false]
    | true =>
      rw [Bool.or_true, List.any_eq_true]
      exact ⟨entry, hentry, by rwa [of_decide_eq_true hplace]⟩
  · rw [entries_put_of_not_mem h, List.any_append, List.any_cons, List.any_nil, Bool.or_false]

/-- The place holds the file afterwards. -/
theorem at?_put_self (h : tree.Writable place) :
    (tree.put place content).at? place = some (.file content) := by
  rw [at?, if_neg, find?_put_self]
  intro habove
  exact h.not_directory (at?_of_isAbove habove)

/-- **What stands at any other place stays.** -/
theorem at?_put_of_ne (h : tree.Writable place) (hne : other ≠ place) :
    (tree.put place content).at? other = tree.at? other := by
  rw [at?, at?, find?_put_of_ne hne, any_put]
  by_cases hprefix : other.isPrefixOf place = true
  · -- The place is below the other one, which was a directory already.
    have hdirectory := h.reached_of_prefix other (List.isPrefixOf_iff_prefix.1 hprefix) hne
    rw [at?] at hdirectory
    split
    · rfl
    · split
      · rfl
      · simp_all
  · rw [Bool.eq_false_iff.2 hprefix, Bool.or_false]

/-! ## Paths afterwards -/

/-- A step succeeds afterwards exactly if it did before, and leads to the same place. -/
theorem enter_put_eq_ok_iff (h : tree.Writable place) {start next : Place} {piece : String} :
    (tree.put place content).enter start piece = .ok next ↔ tree.enter start piece = .ok next := by
  by_cases hplace : start.down home piece = place
  · -- The place is no directory, before and after.
    rw [enter, enter, hplace, at?_put_self h]
    split
    · rfl
    split
    · rfl
    split
    · rfl
    cases hat : tree.at? place with
    | none => simp
    | some entry =>
      cases entry with
      | file _ => rfl
      | directory => exact absurd hat h.not_directory
  · rw [enter, enter, at?_put_of_ne h hplace]

/-- The same for several steps. -/
theorem foldlM_put_eq_ok_iff (h : tree.Writable place) {start next : Place}
    {pieces : List String} :
    pieces.foldlM (tree.put place content).enter start = .ok next ↔
      pieces.foldlM tree.enter start = .ok next := by
  induction pieces generalizing start with
  | nil => rfl
  | cons piece rest ih =>
    rw [List.foldlM_cons, List.foldlM_cons, bind_eq_ok_iff, bind_eq_ok_iff]
    simp only [enter_put_eq_ok_iff h, ih]

/-- The directory of a path is the same. -/
theorem locate_put_eq_ok_iff (h : tree.Writable place) {path : String}
    {found : Place × Option String} :
    (tree.put place content).locate path = .ok found ↔ tree.locate path = .ok found := by
  rw [locate, locate]
  split
  · rfl
  · split
    · rfl
    · rw [bind_pure_eq_ok_iff, bind_pure_eq_ok_iff]
      simp only [foldlM_put_eq_ok_iff h]

/-- **Every path leads to the same place for writing.** -/
theorem target_put_eq_ok_iff (h : tree.Writable place) {path : String} {found : Place} :
    (tree.put place content).target path = .ok found ↔ tree.target path = .ok found := by
  rw [target, target, bind_eq_ok_iff, bind_eq_ok_iff]
  simp only [locate_put_eq_ok_iff h]
  apply exists_congr
  rintro ⟨directory, name?⟩
  apply and_congr_right
  intro _
  cases name? with
  | none => rfl
  | some name =>
    dsimp only
    split
    · rfl
    split
    · rfl
    by_cases hname : directory.down home name = place
    · -- The path leads to the place itself, where a file is written either way.
      rw [hname, at?_put_self h]
      cases hat : tree.at? place with
      | none => rfl
      | some entry =>
        cases entry with
        | file _ => rfl
        | directory => exact absurd hat h.not_directory
    · rw [at?_put_of_ne h hname]

end Put

/-! ## Trees that agree -/

/-- **Two trees agree but for the files at some paths**: paths lead to the same places, and what
stands anywhere else is the same. -/
structure KeptExcept (paths : List String) (before after : FileTree home) : Prop where
  target_eq_ok_iff : ∀ path place, after.target path = .ok place ↔ before.target path = .ok place
  at?_eq : ∀ place, (∀ path ∈ paths, before.target path ≠ .ok place) →
    after.at? place = before.at? place

namespace KeptExcept

variable {paths more : List String} {before between after : FileTree home}

/-- A tree agrees with itself. -/
theorem refl (paths : List String) (tree : FileTree home) : KeptExcept paths tree tree :=
  ⟨fun _ _ => Iff.rfl, fun _ _ => rfl⟩

/-- Agreement goes on. -/
theorem trans (hfirst : KeptExcept paths before between)
    (hsecond : KeptExcept paths between after) : KeptExcept paths before after where
  target_eq_ok_iff path place :=
    (hsecond.target_eq_ok_iff path place).trans (hfirst.target_eq_ok_iff path place)
  at?_eq place hplace := by
    rw [hsecond.at?_eq place, hfirst.at?_eq place hplace]
    intro path hpath
    exact mt (hfirst.target_eq_ok_iff path place).1 (hplace path hpath)

/-- More paths allow for more. -/
theorem mono (h : KeptExcept paths before after) (hpaths : paths ⊆ more) :
    KeptExcept more before after where
  target_eq_ok_iff := h.target_eq_ok_iff
  at?_eq place hplace := h.at?_eq place fun path hpath => hplace path (hpaths hpath)

/-- **A written file is the only change.** -/
theorem of_write {path : String} {content : ByteArray}
    (h : before.write path content = .ok after) : KeptExcept [path] before after := by
  obtain ⟨place, hplace, rfl⟩ := bind_pure_eq_ok_iff.1 h
  have hwritable := writable_of_target hplace
  refine ⟨fun _ _ => target_put_eq_ok_iff hwritable, ?_⟩
  intro other hother
  apply at?_put_of_ne hwritable
  rintro rfl
  exact hother path List.mem_cons_self hplace

end KeptExcept

end SynthReport.FileTree
