import Mathlib.Data.List.Forall2

/-! # Steps that may fail, one after the other

Rows and rule lists are built by going through a list until something fails. What such a traversal
gives is told by its steps.

* **`FirstOf`** — the first element of a list with a property;
* **`bind_eq_ok_iff`**, **`bind_eq_error_iff`** — two steps in sequence;
* **`exists_mapM_eq_ok_iff`** — a traversal succeeds exactly if every step does;
* **`mapM_eq_error_iff`** — its failure is that of the first step that fails;
* **`exists_forall₂`**, **`forall₂_imp_of_mem`** and their companions — lists related element by
  element. -/

namespace SynthReport

variable {α β ε : Type}

/-! ## The first element with a property -/

/-- **The first element of a list with a property**: it has it, and none before it does. -/
def FirstOf (p : α → Prop) (list : List α) (x : α) : Prop :=
  ∃ before after, list = before ++ x :: after ∧ (∀ y ∈ before, ¬ p y) ∧ p x

/-- An empty list has no first element of any kind. -/
@[simp] theorem not_firstOf_nil (p : α → Prop) (x : α) : ¬ FirstOf p [] x := by
  rintro ⟨before, after, hlist, -, -⟩
  cases before <;> cases hlist

/-- The first element is the head if that has the property, and else the first of the rest. -/
theorem firstOf_cons_iff {p : α → Prop} {head x : α} {rest : List α} :
    FirstOf p (head :: rest) x ↔ x = head ∧ p head ∨ ¬ p head ∧ FirstOf p rest x := by
  constructor
  · rintro ⟨before, after, hlist, hbefore, hx⟩
    -- Either nothing stands before the element, and it is the head, or the head is the first of it.
    cases before with
    | nil =>
      obtain ⟨rfl, rfl⟩ := List.cons_eq_cons.1 hlist
      exact Or.inl ⟨rfl, hx⟩
    | cons first before =>
      obtain ⟨rfl, rfl⟩ := List.cons_eq_cons.1 hlist
      refine Or.inr ⟨hbefore head (by simp), before, after, rfl, ?_, hx⟩
      intro y hy
      exact hbefore y (List.mem_cons_of_mem head hy)
  · rintro (⟨rfl, hx⟩ | ⟨hhead, before, after, rfl, hbefore, hx⟩)
    · exact ⟨[], rest, rfl, by simp, hx⟩
    · refine ⟨head :: before, after, rfl, ?_, hx⟩
      intro y hy
      rcases List.mem_cons.1 hy with rfl | hy
      · exact hhead
      · exact hbefore y hy

/-- The first element with a property is one of the list. -/
theorem FirstOf.mem {p : α → Prop} {list : List α} {x : α} (h : FirstOf p list x) : x ∈ list := by
  obtain ⟨before, after, rfl, -, -⟩ := h
  simp

/-- The first element with a property has it. -/
theorem FirstOf.holds {p : α → Prop} {list : List α} {x : α} (h : FirstOf p list x) : p x := by
  obtain ⟨before, after, -, -, hx⟩ := h
  exact hx

/-- Two properties that agree on a list have the same first element in it. -/
theorem firstOf_congr {p q : α → Prop} {list : List α} (h : ∀ y ∈ list, (p y ↔ q y)) (x : α) :
    FirstOf p list x ↔ FirstOf q list x := by
  induction list with
  | nil => simp
  | cons head rest ih =>
    obtain ⟨hhead, hrest⟩ := List.forall_mem_cons.1 h
    rw [firstOf_cons_iff, firstOf_cons_iff, hhead, ih hrest]

/-- A search finds the first element that it is for. -/
theorem find?_eq_some_iff_firstOf {p : α → Bool} {list : List α} {x : α} :
    list.find? p = some x ↔ FirstOf (p · = true) list x := by
  rw [List.find?_eq_some_iff_append]
  constructor
  · rintro ⟨hx, before, after, hlist, hbefore⟩
    exact ⟨before, after, hlist, by simpa using hbefore, hx⟩
  · rintro ⟨before, after, hlist, hbefore, hx⟩
    exact ⟨hx, before, after, hlist, by simpa using hbefore⟩

/-! ## Two steps -/

/-- After a step that succeeds comes the next one. -/
theorem ok_bind (a : α) (f : α → Except ε β) : (Except.ok a >>= f) = f a := rfl

/-- Two steps succeed if the first one does and the second one on its result. -/
theorem bind_eq_ok_iff {x : Except ε α} {f : α → Except ε β} {b : β} :
    x >>= f = .ok b ↔ ∃ a, x = .ok a ∧ f a = .ok b := by
  cases x with
  | error e => simp [bind, Except.bind]
  | ok a => simp [bind, Except.bind]

/-- Two steps fail with the failure of the first one, or of the second one on its result. -/
theorem bind_eq_error_iff {x : Except ε α} {f : α → Except ε β} {e : ε} :
    x >>= f = .error e ↔ x = .error e ∨ ∃ a, x = .ok a ∧ f a = .error e := by
  cases x with
  | error e' => simp [bind, Except.bind]
  | ok a => simp [bind, Except.bind]

/-- A step followed by a function that cannot fail. -/
theorem bind_pure_eq_ok_iff {x : Except ε α} {f : α → β} {b : β} :
    (do let a ← x; pure (f a)) = Except.ok b ↔ ∃ a, x = .ok a ∧ b = f a := by
  rw [bind_eq_ok_iff]
  simp only [pure, Except.pure, Except.ok.injEq, eq_comm]

/-- A function that cannot fail adds no failure. -/
theorem bind_pure_eq_error_iff {x : Except ε α} {f : α → β} {e : ε} :
    (do let a ← x; pure (f a)) = Except.error e ↔ x = .error e := by
  rw [bind_eq_error_iff]
  simp [pure, Except.pure]

/-- The result of a step through a function. -/
theorem map_eq_ok_iff {x : Except ε α} {f : α → β} {b : β} :
    x.map f = .ok b ↔ ∃ a, x = .ok a ∧ b = f a := by
  cases x with
  | error e => simp [Except.map]
  | ok a => simp [Except.map, eq_comm]

/-- Another wording of failures does not change what succeeds. -/
theorem mapError_eq_ok_iff {ε' : Type} {x : Except ε α} {f : ε → ε'} {a : α} :
    x.mapError f = .ok a ↔ x = .ok a := by
  constructor
  · intro h
    cases x with
    | error e => cases h
    | ok b =>
      cases h
      rfl
  · rintro rfl
    rfl

/-- What does not fail succeeds. -/
theorem exists_eq_ok_iff {x : Except ε α} : (∃ a, x = .ok a) ↔ ¬ ∃ e, x = .error e := by
  cases x <;> simp

/-! ## Going through a list -/

/-- A traversal of a longer list is one step and a traversal of the rest. -/
theorem mapM_cons_eq_ok_iff {f : α → Except ε β} {head : α} {rest : List α} {results : List β} :
    (head :: rest).mapM f = .ok results ↔
      ∃ b bs, f head = .ok b ∧ rest.mapM f = .ok bs ∧ results = b :: bs := by
  rw [List.mapM_cons, bind_eq_ok_iff]
  constructor
  · rintro ⟨b, hb, h⟩
    obtain ⟨bs, hbs, rfl⟩ := bind_pure_eq_ok_iff.1 h
    exact ⟨b, bs, hb, hbs, rfl⟩
  · rintro ⟨b, bs, hb, hbs, rfl⟩
    exact ⟨b, hb, bind_pure_eq_ok_iff.2 ⟨bs, hbs, rfl⟩⟩

/-- **A traversal succeeds exactly if every step does.** -/
theorem exists_mapM_eq_ok_iff {f : α → Except ε β} {list : List α} :
    (∃ results, list.mapM f = .ok results) ↔ ∀ a ∈ list, ∃ b, f a = .ok b := by
  induction list with
  | nil => simp [pure, Except.pure]
  | cons head rest ih =>
    rw [List.forall_mem_cons, ← ih]
    constructor
    · rintro ⟨results, h⟩
      obtain ⟨b, bs, hb, hbs, -⟩ := mapM_cons_eq_ok_iff.1 h
      exact ⟨⟨b, hb⟩, bs, hbs⟩
    · rintro ⟨⟨b, hb⟩, bs, hbs⟩
      exact ⟨b :: bs, mapM_cons_eq_ok_iff.2 ⟨b, bs, hb, hbs, rfl⟩⟩

/-- **A traversal fails with the failure of the first step that fails.** -/
theorem mapM_eq_error_iff {f : α → Except ε β} {list : List α} {e : ε} :
    list.mapM f = .error e ↔
      ∃ a, FirstOf (fun a => ∃ e, f a = .error e) list a ∧ f a = .error e := by
  induction list with
  | nil => simp [pure, Except.pure]
  | cons head rest ih =>
    rw [List.mapM_cons, bind_eq_error_iff]
    -- Either the head fails, or it succeeds and the failure is one of the rest.
    constructor
    · rintro (hhead | ⟨b, hb, hrest⟩)
      · exact ⟨head, firstOf_cons_iff.2 (Or.inl ⟨rfl, e, hhead⟩), hhead⟩
      · obtain ⟨a, ha, hfail⟩ := ih.1 (bind_pure_eq_error_iff.1 hrest)
        exact ⟨a, firstOf_cons_iff.2 (Or.inr ⟨exists_eq_ok_iff.1 ⟨b, hb⟩, ha⟩), hfail⟩
    · rintro ⟨a, ha, hfail⟩
      rcases firstOf_cons_iff.1 ha with ⟨rfl, -⟩ | ⟨hhead, ha⟩
      · exact Or.inl hfail
      · obtain ⟨b, hb⟩ := exists_eq_ok_iff.2 hhead
        exact Or.inr ⟨b, hb, bind_pure_eq_error_iff.2 (ih.2 ⟨a, ha, hfail⟩)⟩

/-! ## Lists related element by element -/

section Forall₂

variable {γ : Type} {R : α → β → Prop} {items : List α} {copies : List β}

/-- Values for the elements of a list, one by one. -/
theorem exists_forall₂ (h : ∀ item ∈ items, ∃ copy, R item copy) :
    ∃ copies, List.Forall₂ R items copies := by
  induction items with
  | nil => exact ⟨[], .nil⟩
  | cons item rest ih =>
    obtain ⟨⟨copy, hcopy⟩, hrest⟩ := List.forall_mem_cons.1 h
    obtain ⟨copies, hcopies⟩ := ih hrest
    exact ⟨copy :: copies, .cons hcopy hcopies⟩

/-- What related elements have in common, the lists have. -/
theorem map_eq_map_of_forall₂ {f : α → γ} {g : β → γ} (h : List.Forall₂ R items copies)
    (hcommon : ∀ item copy, R item copy → f item = g copy) : items.map f = copies.map g := by
  induction h with
  | nil => rfl
  | cons hfirst _ ih => rw [List.map_cons, List.map_cons, hcommon _ _ hfirst, ih]

/-- A relation that follows for the elements of a list. -/
theorem forall₂_imp_of_mem {S : α → β → Prop} (h : List.Forall₂ R items copies)
    (himp : ∀ item ∈ items, ∀ copy, R item copy → S item copy) : List.Forall₂ S items copies := by
  induction h with
  | nil => exact .nil
  | cons hfirst _ ih =>
    obtain ⟨hitem, hrest⟩ := List.forall_mem_cons.1 himp
    exact .cons (hitem _ hfirst) (ih hrest)

/-- Every element is related to one of the other list. -/
theorem exists_mem_of_forall₂ (h : List.Forall₂ R items copies) {item : α} (hitem : item ∈ items) :
    ∃ copy ∈ copies, R item copy := by
  induction h with
  | nil => cases hitem
  | cons hfirst _ ih =>
    rcases List.mem_cons.1 hitem with rfl | hitem
    · exact ⟨_, List.mem_cons_self, hfirst⟩
    · obtain ⟨copy, hcopy, hrelated⟩ := ih hitem
      exact ⟨copy, List.mem_cons_of_mem _ hcopy, hrelated⟩

end Forall₂

end SynthReport
