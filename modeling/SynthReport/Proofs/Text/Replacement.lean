/-! # Replacements in a text

* **`replaceAll`** — every occurrence of a pattern replaced, from left to right and without overlap;
* **`replaceAll_append_pattern`**, **`replaceAll_cons`**, **`replaceAll_append`** — what happens at
  an occurrence, at a character that starts none, and along a text that has none. -/

namespace SynthReport

/-- **Every occurrence of a pattern replaced**, from left to right and without overlap. The pattern
is not empty. -/
def replaceAll (pattern replacement : List Char) : List Char → List Char
  | [] => []
  | c :: rest =>
    if pattern.isPrefixOf (c :: rest) then
      replacement ++ replaceAll pattern replacement (rest.drop (pattern.length - 1))
    else c :: replaceAll pattern replacement rest
termination_by text => text.length
decreasing_by all_goals simp only [List.length_cons, List.length_drop]; omega

variable {pattern replacement : List Char}

@[simp] theorem replaceAll_nil : replaceAll pattern replacement [] = [] := by
  rw [replaceAll]

/-- A character that starts no occurrence stays. -/
theorem replaceAll_cons {c : Char} {rest : List Char} (h : ¬ pattern <+: c :: rest) :
    replaceAll pattern replacement (c :: rest) = c :: replaceAll pattern replacement rest := by
  rw [replaceAll, if_neg]
  rwa [List.isPrefixOf_iff_prefix]

/-- An occurrence is replaced. -/
theorem replaceAll_append_pattern (c : Char) (more rest : List Char) :
    replaceAll (c :: more) replacement (c :: (more ++ rest)) =
      replacement ++ replaceAll (c :: more) replacement rest := by
  have hprefix : (c :: more).isPrefixOf (c :: (more ++ rest)) = true :=
    List.isPrefixOf_iff_prefix.2 (List.cons_prefix_cons.2 ⟨rfl, List.prefix_append _ _⟩)
  rw [replaceAll, if_pos hprefix, List.length_cons, Nat.add_sub_cancel, List.drop_left]

/-- Where the first character of the pattern does not stand, nothing is replaced. -/
theorem replaceAll_append {c : Char} {more first : List Char} (h : c ∉ first) (rest : List Char) :
    replaceAll (c :: more) replacement (first ++ rest) =
      first ++ replaceAll (c :: more) replacement rest := by
  induction first with
  | nil => rfl
  | cons d first ih =>
    obtain ⟨hne, hfirst⟩ := List.ne_and_not_mem_of_not_mem_cons h
    rw [List.cons_append, replaceAll_cons, ih hfirst, List.cons_append]
    intro hprefix
    exact hne (List.cons_prefix_cons.1 hprefix).1

end SynthReport
