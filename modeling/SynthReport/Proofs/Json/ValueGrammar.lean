import SynthReport.Proofs.Json.Inversion
import SynthReport.Proofs.Json.Layout
import SynthReport.Proofs.Json.StringGrammar

/-! # The documents that are read

The reader takes the values of the grammar that are within its limits, and no others. So the texts
that it reads as an array of objects are those of that shape.

* **`exists_gap`** — the space that is skipped;
* **`exists_list_of_last`**, **`exists_list_of_comma`**, **`exists_bracketed`** — lists that were
  taken item by item, and up to the bracket that closes them;
* **`recognises_array`**, **`recognises_object`**, **`recognises_scalar`** — the three shapes of
  values, for values nested in them that are recognised;
* **`recognises_readValue`** — values, by how deep they nest;
* **`exists_parse_iff`** — a document is read as an array of objects exactly if it is text of one
  within the limits. -/

namespace SynthReport.Json

open JsonText
open scoped Computability

/-! ## Space -/

/-- Space of the grammar is what is skipped. -/
theorem isGap_of_mem_gap {space : List Char} (h : space ∈ gap) : IsGap space := by
  intro c hc
  have hspace := h c hc
  simp only [List.mem_cons, List.not_mem_nil, or_false] at hspace
  rcases hspace with rfl | rfl | rfl | rfl <;> rfl

/-- What is skipped is space of the grammar. -/
theorem exists_gap (text : List Char) : ∃ space ∈ gap, text = space ++ skipSpace text := by
  induction text with
  | nil => exact ⟨[], List.forall_mem_nil _, rfl⟩
  | cons c rest ih =>
    by_cases hc : isSpace c = true
    · obtain ⟨space, hspace, hrest⟩ := ih
      refine ⟨c :: space, List.forall_mem_cons.2 ⟨?_, hspace⟩, ?_⟩
      · simp only [isSpace, Bool.or_eq_true, beq_iff_eq] at hc
        rcases hc with ((rfl | rfl) | rfl) | rfl <;> simp
      · rw [skipSpace, if_pos hc, List.cons_append, ← hrest]
    · exact ⟨[], List.forall_mem_nil _, (skipSpace_cons_of_not hc rest).symm⟩

/-- Space after space is space. -/
theorem gap_append {first second : List Char} (hfirst : first ∈ gap) (hsecond : second ∈ gap) :
    first ++ second ∈ gap :=
  List.forall_mem_append.2 ⟨hfirst, hsecond⟩

/-- Space in front of an item makes no difference. -/
theorem gap_append_mem {item : Language Char} {space taken : List Char} (hspace : space ∈ gap)
    (htaken : taken ∈ gap * item) : space ++ taken ∈ gap * item := by
  obtain ⟨gap', hgap, text, htext, rfl⟩ := htaken
  rw [← List.append_assoc]
  exact Language.append_mem_mul (gap_append hspace hgap) htext

/-- Space in front of a list makes no difference. -/
theorem gap_append_mem_listOf {item : Language Char} {space taken : List Char} (hspace : space ∈ gap)
    (htaken : taken ∈ listOf (gap * item * gap)) : space ++ taken ∈ listOf (gap * item * gap) := by
  obtain ⟨_, ⟨text, htext, after, hafter, rfl⟩, others, hothers, rfl⟩ := htaken
  have hfirst := Language.append_mem_mul (gap_append_mem hspace htext) hafter
  have hlist := Language.append_mem_mul hfirst hothers
  rwa [List.append_assoc, List.append_assoc, ← List.append_assoc text] at hlist

/-! ## Lists in brackets -/

section Brackets

variable {item : Language Char} {text taken after next rest : List Char} {closing : Char}

/-- The last item of a list was taken. -/
theorem exists_list_of_last (htaken : taken ∈ gap * item) (htext : text = taken ++ after)
    (hclosing : skipSpace after = closing :: rest) :
    ∃ list ∈ listOf (gap * item * gap), text = list ++ closing :: rest := by
  obtain ⟨space, hspace, hafter⟩ := exists_gap after
  rw [hclosing] at hafter
  exact ⟨taken ++ space, mem_listOf_of_mem (Language.append_mem_mul htaken hspace),
    taken_trans htext hafter⟩

/-- **An item was taken, and after a comma the others.** -/
theorem exists_list_of_comma (htaken : taken ∈ gap * item) (htext : text = taken ++ after)
    (hcomma : skipSpace after = ',' :: next)
    (hothers : ∃ list ∈ listOf (gap * item * gap), skipSpace next = list ++ closing :: rest) :
    ∃ list ∈ listOf (gap * item * gap), text = list ++ closing :: rest := by
  obtain ⟨list, hlist, hmore⟩ := hothers
  obtain ⟨space, hspace, hafter⟩ := exists_gap after
  obtain ⟨space', hspace', hnext⟩ := exists_gap next
  rw [hcomma] at hafter
  have hfront : text = taken ++ space ++ ',' :: next := taken_trans htext hafter
  have hback : next = space' ++ list ++ closing :: rest := taken_trans hnext hmore
  refine ⟨taken ++ space ++ ',' :: (space' ++ list), append_cons_mem_listOf
    (Language.append_mem_mul htaken hspace) (gap_append_mem_listOf hspace' hlist), ?_⟩
  rw [hfront, hback, List.append_assoc (taken ++ space), List.cons_append]

/-- **What follows an opening bracket was taken**: nothing but space or a list, and the closing
bracket. -/
theorem exists_bracketed (h : skipSpace text = closing :: rest ∨
      ∃ list ∈ listOf (gap * item * gap), skipSpace text = list ++ closing :: rest) :
    ∃ taken ∈ (gap + listOf (gap * item * gap)) * {[closing]}, text = taken ++ rest := by
  obtain ⟨space, hspace, htext⟩ := exists_gap text
  have hclosing : [closing] ∈ ({[closing]} : Language Char) := rfl
  rcases h with hskip | ⟨list, hlist, hskip⟩
  · rw [hskip] at htext
    exact ⟨space ++ [closing], Language.append_mem_mul (Or.inl hspace) hclosing,
      taken_trans htext rfl⟩
  · refine ⟨space ++ list ++ [closing], Language.append_mem_mul
      (Or.inr (gap_append_mem_listOf hspace hlist)) hclosing, ?_⟩
    exact taken_trans (taken_trans htext hskip) rfl

end Brackets

/-! ## Arrays -/

section Values

variable {depth : Nat} {kind : Json → Prop} {item : Language Char} {text rest : List Char}
  {readElement : Reader Json}

/-- **Elements were taken**, with the bracket after them. -/
theorem taken_of_readItems (hread : Recognises readElement kind (gap * item)) {items : List Json}
    (h : Reads (readItems readElement) text items rest) (hkind : ∀ value ∈ items, kind value) :
    ∃ taken ∈ listOf (gap * item * gap), text = taken ++ ']' :: rest := by
  induction items generalizing text with
  | nil =>
    obtain ⟨first, after, -, ⟨hnil, -⟩ | ⟨next, more, hnil, -⟩⟩ := reads_readItems_cases h
    · cases hnil
    · cases hnil
  | cons value more ih =>
    obtain ⟨hvalue, hmore⟩ := List.forall_mem_cons.1 hkind
    obtain ⟨first, after, hfirst, ⟨heq, hclosing⟩ | ⟨next, others, heq, hcomma, hothers⟩⟩ :=
      reads_readItems_cases h
    · -- The last element.
      cases heq
      obtain ⟨taken, htaken, htext⟩ := hread.exists_taken hfirst hvalue
      exact exists_list_of_last htaken htext hclosing
    · -- An element with others after it.
      cases heq
      obtain ⟨taken, htaken, htext⟩ := hread.exists_taken hfirst hvalue
      exact exists_list_of_comma htaken htext hcomma (ih hothers hmore)

/-- **Elements of a list are read**, up to the bracket. -/
theorem exists_reads_readItems (hread : Recognises (readValue depth) kind (gap * item))
    {taken : List Char} (h : taken ∈ listOf (gap * item * gap)) :
    ∃ items, (∀ value ∈ items, kind value) ∧ ∀ rest,
      Reads (readItems (readValue depth)) (skipSpace (taken ++ ']' :: rest)) items rest := by
  induction h using listOf_induction with
  | single _ hitem =>
    obtain ⟨first, hfirst, space, hspace, rfl⟩ := hitem
    obtain ⟨value, hvalue, hlegible⟩ := hread.exists_legible hfirst
    have hgap := isGap_of_mem_gap hspace
    refine ⟨[value], List.forall_mem_singleton.2 hvalue, fun rest => ?_⟩
    refine reads_readItems_last ?_ (skipSpace_append_cons hgap (by decide) rest)
    rw [reads_readValue_skipSpace_iff]
    change Reads _ (first ++ space ++ ']' :: rest) _ _
    rw [List.append_assoc]
    exact hlegible _ (endsNumber_append_of_isGap hgap (endsNumber_cons (by decide)))
  | cons _ others hitem hothers ih =>
    obtain ⟨first, hfirst, space, hspace, rfl⟩ := hitem
    obtain ⟨items, hitems, hreads⟩ := ih
    obtain ⟨value, hvalue, hlegible⟩ := hread.exists_legible hfirst
    have hgap := isGap_of_mem_gap hspace
    refine ⟨value :: items, List.forall_mem_cons.2 ⟨hvalue, hitems⟩, fun rest => ?_⟩
    -- What follows the comma is read as the other elements, so it is no bracket.
    obtain ⟨c, more, hnext, hc⟩ := exists_cons_of_reads_readItems (hreads rest)
    rw [skipSpace_skipSpace] at hnext
    refine reads_readItems_cons ?_ (skipSpace_append_cons hgap (by decide) _) hnext hc (hreads rest)
    rw [reads_readValue_skipSpace_iff]
    change Reads _ (first ++ space ++ ',' :: others ++ ']' :: rest) _ _
    rw [List.append_assoc, List.append_assoc]
    exact hlegible _ (endsNumber_append_of_isGap hgap (endsNumber_cons (by decide)))

/-- An array was taken, after its opening bracket. -/
theorem taken_of_readArray (hread : Recognises readElement kind (gap * item)) {items : List Json}
    (h : Reads (readArray readElement) text (.array items) rest)
    (hkind : ∀ value ∈ items, kind value) :
    ∃ taken ∈ (gap + listOf (gap * item * gap)) * {[']']}, text = taken ++ rest := by
  obtain ⟨-, hskip⟩ | ⟨items', heq, hitems⟩ := reads_readArray_cases h
  · exact exists_bracketed (.inl hskip)
  · cases heq
    exact exists_bracketed (.inr (taken_of_readItems hread hitems hkind))

/-- Space in front of a legible value makes no difference. -/
theorem Legible.gap_append {value : Json} (h : Legible (readValue depth) text value)
    {space : List Char} (hspace : space ∈ gap) :
    Legible (readValue depth) (space ++ text) value := by
  intro rest hrest
  rw [List.append_assoc]
  exact h.reads_after_gap (isGap_of_mem_gap hspace) hrest

/-- **Arrays are recognised** by their elements, one level deeper. -/
theorem recognises_array (hread : Recognises (readValue depth) kind (gap * item)) :
    Recognises (readValue (depth + 1))
      (fun value => ∃ items, value = .array items ∧ ∀ element ∈ items, kind element)
      (gap * arrayOf item) where
  exists_taken := by
    rintro text _ rest h ⟨items, rfl, hkind⟩
    rw [readValue, reads_spaced_iff] at h
    obtain ⟨space, hspace, htext⟩ := exists_gap text
    cases plainReading_of_reads h with
    | @array body _ hskip h =>
      obtain ⟨taken, htaken, hbody⟩ := taken_of_readArray hread h hkind
      have hopening : ['['] ∈ ({['[']} : Language Char) := rfl
      refine ⟨space ++ (['['] ++ taken), Language.append_mem_mul hspace
        (Language.append_mem_mul hopening htaken), taken_trans htext ?_⟩
      exact taken_trans hskip hbody
    | object hskip h =>
      obtain ⟨heq, -⟩ | ⟨members, heq, -⟩ := reads_readObject_cases h
      · cases heq
      · cases heq
  exists_legible := by
    rintro _ ⟨space, hspace, _, ⟨_, rfl, _, ⟨inner, hinner | hinner, _, rfl, rfl⟩, rfl⟩, rfl⟩
    · exact ⟨.array [], ⟨[], rfl, List.forall_mem_nil _⟩,
        (legible_array_nil (isGap_of_mem_gap hinner)).gap_append hspace⟩
    · obtain ⟨items, hitems, hreads⟩ := exists_reads_readItems hread hinner
      exact ⟨.array items, ⟨items, rfl, hitems⟩,
        (legible_array_of_reads hreads).gap_append hspace⟩

/-! ## Objects -/

/-- A member was taken. -/
theorem taken_of_readMember (hread : Recognises readElement (fun _ => True) (gap * item))
    {member : String × Json} (h : Reads (readMember readElement) text member rest) :
    ∃ taken ∈ Lexicon.supported.member item, text = taken ++ rest := by
  obtain ⟨body, after, next, rfl, hkey, hcolon, hvalue⟩ := reads_readMember_cases h
  obtain ⟨key, hkeyMem, hbody⟩ := recognises_readString.exists_taken hkey trivial
  obtain ⟨space, hspace, hafter⟩ := exists_gap after
  obtain ⟨value, hvalueMem, hnext⟩ := hread.exists_taken hvalue trivial
  rw [hcolon] at hafter
  have hquote : ['"'] ∈ ({['"']} : Language Char) := rfl
  have hcolonMem : [':'] ∈ ({[':']} : Language Char) := rfl
  refine ⟨('"' :: key) ++ (space ++ (':' :: value)), Language.append_mem_mul
    (Language.append_mem_mul hquote hkeyMem) (Language.append_mem_mul hspace
      (Language.append_mem_mul hcolonMem hvalueMem)), ?_⟩
  rw [hbody, hafter, hnext]
  simp only [List.cons_append, List.append_assoc]

/-- **A member is read.** -/
theorem exists_legible_member (hread : Recognises (readValue depth) (fun _ => True) (gap * item))
    {taken : List Char} (h : taken ∈ Lexicon.supported.member item) :
    ∃ member, Legible (readMember (readValue depth)) taken member := by
  obtain ⟨_, ⟨_, rfl, key, hkey, rfl⟩, _, ⟨space, hspace, _, ⟨_, rfl, value, hvalue, rfl⟩, rfl⟩,
    rfl⟩ := h
  obtain ⟨s, -, hkeyLegible⟩ := recognises_readString.exists_legible hkey
  obtain ⟨v, -, hvalueLegible⟩ := hread.exists_legible hvalue
  have hgap := isGap_of_mem_gap hspace
  refine ⟨(s, v), fun rest hrest => ?_⟩
  have hkeyReads := hkeyLegible (space ++ ':' :: (value ++ rest))
    (endsNumber_append_of_isGap hgap (endsNumber_cons (by decide)))
  have hcolon := skipSpace_append_cons hgap (c := ':') (by decide) (value ++ rest)
  have hmember := reads_readMember hkeyReads hcolon (hvalueLegible rest hrest)
  have htext : '"' :: key ++ (space ++ (':' :: value)) ++ rest =
      '"' :: (key ++ (space ++ ':' :: (value ++ rest))) := by
    simp only [List.cons_append, List.append_assoc]
  change Reads _ ('"' :: key ++ (space ++ (':' :: value)) ++ rest) _ _
  rwa [htext]

/-- A member starts with a quote, so no space in front of it is skipped. -/
theorem skipSpace_append_of_mem_member {taken : List Char}
    (h : taken ∈ Lexicon.supported.member item) (rest : List Char) :
    skipSpace (taken ++ rest) = taken ++ rest := by
  obtain ⟨_, ⟨_, rfl, key, hkey, rfl⟩, _, _, rfl⟩ := h
  exact skipSpace_cons_of_not (c := '"') (by decide) _

/-- **Members were taken**, with the brace after them. -/
theorem taken_of_readMembers (hread : Recognises readElement (fun _ => True) (gap * item))
    {members : List (String × Json)} (h : Reads (readMembers readElement) text members rest) :
    ∃ taken ∈ listOf (gap * Lexicon.supported.member item * gap), text = taken ++ '}' :: rest := by
  induction members generalizing text with
  | nil =>
    obtain ⟨first, after, -, ⟨hnil, -⟩ | ⟨next, more, hnil, -⟩⟩ := reads_readMembers_cases h
    · cases hnil
    · cases hnil
  | cons member more ih =>
    obtain ⟨first, after, hfirst, hcases⟩ := reads_readMembers_cases h
    obtain ⟨taken, htaken, htext⟩ := taken_of_readMember hread hfirst
    have hitem : taken ∈ gap * Lexicon.supported.member item :=
      Language.append_mem_mul (show [] ∈ gap from List.forall_mem_nil _) htaken
    obtain ⟨-, hclosing⟩ | ⟨next, others, heq, hcomma, hothers⟩ := hcases
    · -- The last member.
      exact exists_list_of_last hitem htext hclosing
    · -- A member with others after it.
      cases heq
      exact exists_list_of_comma hitem htext hcomma (ih hothers)

/-- **Members of a list are read**, up to the brace. -/
theorem exists_reads_readMembers
    (hread : Recognises (readValue depth) (fun _ => True) (gap * item)) {taken : List Char}
    (h : taken ∈ listOf (gap * Lexicon.supported.member item * gap)) :
    ∃ members, ∀ rest, Reads (readMembers (readValue depth))
      (skipSpace (taken ++ '}' :: rest)) members rest := by
  induction h using listOf_induction with
  | single _ hitem =>
    obtain ⟨_, ⟨before, hbefore, first, hfirst, rfl⟩, space, hspace, rfl⟩ := hitem
    obtain ⟨member, hlegible⟩ := exists_legible_member hread hfirst
    have hgap := isGap_of_mem_gap hspace
    refine ⟨[member], fun rest => ?_⟩
    refine reads_readMembers_last ?_ (skipSpace_append_cons hgap (by decide) rest)
    change Reads _ (skipSpace (before ++ first ++ space ++ '}' :: rest)) _ _
    rw [List.append_assoc, List.append_assoc, skipSpace_append_of_isGap (isGap_of_mem_gap hbefore),
      skipSpace_append_of_mem_member hfirst]
    exact hlegible _ (endsNumber_append_of_isGap hgap (endsNumber_cons (by decide)))
  | cons _ others hitem hothers ih =>
    obtain ⟨_, ⟨before, hbefore, first, hfirst, rfl⟩, space, hspace, rfl⟩ := hitem
    obtain ⟨members, hreads⟩ := ih
    obtain ⟨member, hlegible⟩ := exists_legible_member hread hfirst
    have hgap := isGap_of_mem_gap hspace
    refine ⟨member :: members, fun rest => ?_⟩
    refine reads_readMembers_cons ?_ (skipSpace_append_cons hgap (by decide) _) (hreads rest)
    change Reads _ (skipSpace (before ++ first ++ space ++ ',' :: others ++ '}' :: rest)) _ _
    rw [List.append_assoc, List.append_assoc, List.append_assoc,
      skipSpace_append_of_isGap (isGap_of_mem_gap hbefore), skipSpace_append_of_mem_member hfirst]
    exact hlegible _ (endsNumber_append_of_isGap hgap (endsNumber_cons (by decide)))

/-- An object was taken, after its opening brace. -/
theorem taken_of_readObject (hread : Recognises readElement (fun _ => True) (gap * item))
    {value : Json} (h : Reads (readObject readElement) text value rest) :
    ∃ taken ∈ (gap + listOf (gap * Lexicon.supported.member item * gap)) * {['}']},
      text = taken ++ rest := by
  obtain ⟨-, hskip⟩ | ⟨members, -, hmembers⟩ := reads_readObject_cases h
  · exact exists_bracketed (.inl hskip)
  · exact exists_bracketed (.inr (taken_of_readMembers hread hmembers))

/-- **Objects are recognised** by the values of their members, one level deeper. -/
theorem recognises_object (hread : Recognises (readValue depth) (fun _ => True) (gap * item)) :
    Recognises (readValue (depth + 1)) (fun value => ∃ fields, value = .object fields)
      (gap * Lexicon.supported.objectOf item) where
  exists_taken := by
    rintro text _ rest h ⟨fields, rfl⟩
    rw [readValue, reads_spaced_iff] at h
    obtain ⟨space, hspace, htext⟩ := exists_gap text
    cases plainReading_of_reads h with
    | array hskip h =>
      obtain ⟨heq, -⟩ | ⟨items, heq, -⟩ := reads_readArray_cases h
      · cases heq
      · cases heq
    | object hskip h =>
      obtain ⟨taken, htaken, hbody⟩ := taken_of_readObject hread h
      have hopening : ['{'] ∈ ({['{']} : Language Char) := rfl
      refine ⟨space ++ (['{'] ++ taken), Language.append_mem_mul hspace
        (Language.append_mem_mul hopening htaken), taken_trans htext ?_⟩
      exact taken_trans hskip hbody
  exists_legible := by
    rintro _ ⟨space, hspace, _, ⟨_, rfl, _, ⟨inner, hinner | hinner, _, rfl, rfl⟩, rfl⟩, rfl⟩
    · exact ⟨.object [], ⟨[], rfl⟩,
        (legible_object_nil (isGap_of_mem_gap hinner)).gap_append hspace⟩
    · obtain ⟨members, hreads⟩ := exists_reads_readMembers hread hinner
      exact ⟨.object (fieldsOfMembers members), ⟨_, rfl⟩,
        (legible_object_of_reads hreads).gap_append hspace⟩

/-! ## Values -/

/-- **A value that is neither an array nor an object.** -/
def IsPlain : Json → Prop
  | .array _ | .object _ => False
  | _ => True

/-- A scalar was read after the space in front of it. -/
theorem taken_of_plainReading {readArrayRest readObjectRest : Reader Json} {value : Json}
    (h : PlainReading readArrayRest readObjectRest text rest value) (hscalar : IsPlain value)
    (harray : ∀ {body value}, Reads readArrayRest body value rest → ¬ IsPlain value)
    (hobject : ∀ {body value}, Reads readObjectRest body value rest → ¬ IsPlain value) :
    ∃ taken ∈ Lexicon.supported.scalar, text = taken ++ rest := by
  cases h with
  | null htext => exact ⟨_, Or.inl (Or.inl (Or.inl (Or.inl rfl))), htext⟩
  | true htext => exact ⟨_, Or.inl (Or.inl (Or.inl (Or.inr rfl))), htext⟩
  | false htext => exact ⟨_, Or.inl (Or.inl (Or.inr rfl)), htext⟩
  | number h =>
    obtain ⟨taken, htaken, htext⟩ := recognises_readNumber.exists_taken h trivial
    exact ⟨taken, Or.inl (Or.inr htaken), htext⟩
  | string htext h =>
    obtain ⟨taken, htaken, hbody⟩ := recognises_readString.exists_taken h trivial
    have hquote : ['"'] ∈ ({['"']} : Language Char) := rfl
    exact ⟨['"'] ++ taken, Or.inr (Language.append_mem_mul hquote htaken),
      taken_trans htext hbody⟩
  | array htext h => exact absurd hscalar (harray h)
  | object htext h => exact absurd hscalar (hobject h)

/-- A string is read with its quotes. -/
theorem exists_legible_of_mem_string {taken : List Char} (h : taken ∈ Lexicon.supported.string) :
    ∃ s, Legible (readValue depth) taken (.string s) := by
  obtain ⟨_, rfl, body, hbody, rfl⟩ := h
  obtain ⟨s, -, hlegible⟩ := recognises_readString.exists_legible hbody
  refine ⟨s, legible_of_plain (by decide) fun readArrayRest readObjectRest rest hrest => ?_⟩
  obtain ⟨_, hr⟩ := hlegible rest hrest
  change Reads _ ('"' :: (body ++ rest)) _ _
  rw [Reads, readPlainValue, hr]
  exact ⟨_, rfl⟩

/-- **Scalars are recognised** at any depth. -/
theorem recognises_scalar (depth : Nat) :
    Recognises (readValue depth) IsPlain (gap * Lexicon.supported.scalar) where
  exists_taken := by
    intro text value rest h hscalar
    obtain ⟨space, hspace, htext⟩ := exists_gap text
    have hplain : ∃ taken ∈ Lexicon.supported.scalar, skipSpace text = taken ++ rest := by
      cases depth with
      | zero =>
        rw [readValue, reads_spaced_iff] at h
        refine taken_of_plainReading (plainReading_of_reads h) hscalar ?_ ?_
        · rintro _ _ ⟨_, htooDeep⟩
          cases htooDeep
        · rintro _ _ ⟨_, htooDeep⟩
          cases htooDeep
      | succ depth =>
        rw [readValue, reads_spaced_iff] at h
        refine taken_of_plainReading (plainReading_of_reads h) hscalar ?_ ?_
        · intro body value harray
          obtain ⟨rfl, -⟩ | ⟨items, rfl, -⟩ := reads_readArray_cases harray <;> exact id
        · intro body value hobject
          obtain ⟨rfl, -⟩ | ⟨members, rfl, -⟩ := reads_readObject_cases hobject <;> exact id
    obtain ⟨taken, htaken, hskip⟩ := hplain
    exact ⟨space ++ taken, Language.append_mem_mul hspace htaken, taken_trans htext hskip⟩
  exists_legible := by
    rintro _ ⟨space, hspace, taken, htaken, rfl⟩
    rcases htaken with (((rfl | rfl) | rfl) | hnumber) | hstring
    · exact ⟨.null, trivial, legible_null.gap_append hspace⟩
    · exact ⟨.bool true, trivial, legible_true.gap_append hspace⟩
    · exact ⟨.bool false, trivial, legible_false.gap_append hspace⟩
    · obtain ⟨n, -, hlegible⟩ := recognises_readNumber.exists_legible hnumber
      exact ⟨.number n, trivial, (legible_number hlegible).gap_append hspace⟩
    · obtain ⟨s, hlegible⟩ := exists_legible_of_mem_string hstring
      exact ⟨.string s, trivial, hlegible.gap_append hspace⟩

/-- A reader that recognises two languages recognises both together. -/
theorem Recognises.add {α : Type} {read : Reader α} {first second : α → Prop}
    {l m : Language Char} (hfirst : Recognises read first l) (hsecond : Recognises read second m) :
    Recognises read (fun value => first value ∨ second value) (l + m) where
  exists_taken := by
    rintro text value rest h (hkind | hkind)
    · obtain ⟨taken, htaken, htext⟩ := hfirst.exists_taken h hkind
      exact ⟨taken, Or.inl htaken, htext⟩
    · obtain ⟨taken, htaken, htext⟩ := hsecond.exists_taken h hkind
      exact ⟨taken, Or.inr htaken, htext⟩
  exists_legible := by
    rintro taken (htaken | htaken)
    · obtain ⟨value, hkind, hlegible⟩ := hfirst.exists_legible htaken
      exact ⟨value, Or.inl hkind, hlegible⟩
    · obtain ⟨value, hkind, hlegible⟩ := hsecond.exists_legible htaken
      exact ⟨value, Or.inr hkind, hlegible⟩

/-- Kinds that the values of a reader have alike. -/
theorem Recognises.congr {α : Type} {read : Reader α} {first second : α → Prop}
    {l : Language Char} (h : Recognises read first l)
    (hkind : ∀ {text value rest}, Reads read text value rest → (first value ↔ second value)) :
    Recognises read second l where
  exists_taken := by
    intro text value rest hreads hsecond
    exact h.exists_taken hreads ((hkind hreads).2 hsecond)
  exists_legible := by
    intro taken htaken
    obtain ⟨value, hfirst, hlegible⟩ := h.exists_legible htaken
    exact ⟨value, (hkind (hlegible [] endsNumber_nil)).1 hfirst, hlegible⟩

/-- Where nothing may be nested, only scalars are read. -/
theorem isPlain_of_reads_zero {value : Json} (h : Reads (readValue 0) text value rest) :
    IsPlain value := by
  rw [readValue, reads_spaced_iff] at h
  cases plainReading_of_reads h with
  | array _ h =>
    obtain ⟨_, htooDeep⟩ := h
    cases htooDeep
  | object _ h =>
    obtain ⟨_, htooDeep⟩ := h
    cases htooDeep
  | _ => trivial

/-- **Values are recognised**, by how deep they nest. -/
theorem recognises_readValue (depth : Nat) :
    Recognises (readValue depth) (fun _ => True) (gap * Lexicon.supported.value depth) := by
  induction depth with
  | zero => exact (recognises_scalar 0).congr fun h => iff_of_true (isPlain_of_reads_zero h) trivial
  | succ depth ih =>
    have hshapes := ((recognises_scalar (depth + 1)).add (recognises_array ih)).add
      (recognises_object ih)
    rw [← mul_add, ← mul_add] at hshapes
    refine hshapes.congr fun {_ value _} _ => iff_of_true ?_ trivial
    cases value with
    | array items => exact Or.inl (Or.inr ⟨items, rfl, fun _ _ => trivial⟩)
    | object fields => exact Or.inr ⟨fields, rfl⟩
    | _ => exact Or.inl (Or.inl trivial)

/-! ## Documents -/

/-- **Arrays of objects are recognised**, two levels above the values of the objects. -/
theorem recognises_records (depth : Nat) :
    Recognises (readValue (depth + 2))
      (fun value => ∃ items, value = .array items ∧ ∀ item ∈ items, ∃ fields, item = .object fields)
      (gap * arrayOf (Lexicon.supported.objectOf (Lexicon.supported.value depth))) :=
  recognises_array (recognises_object (recognises_readValue depth))

/-- **A document is read as an array of objects** exactly if it is text of one within the limits. -/
theorem exists_parse_iff {document : String} :
    (∃ items, parse document = .ok (.array items) ∧
      ∀ item ∈ items, ∃ fields, item = .object fields) ↔ IsSupportedRecordsText document := by
  have hdepth : maxDepth = 125 + 2 := rfl
  rw [IsSupportedRecordsText, Lexicon.records]
  constructor
  · rintro ⟨items, hparse, hitems⟩
    obtain ⟨reading, hreading, hparse⟩ := bind_eq_ok_iff.1 hparse
    split at hparse
    · rename_i hend
      obtain ⟨space, hspace, hrest⟩ := exists_gap reading.rest
      rw [hend, List.append_nil] at hrest
      rw [hdepth] at hreading
      obtain ⟨taken, htaken, htext⟩ := (recognises_records 125).exists_taken
        ⟨reading.length_le, hreading⟩ ⟨items, Except.ok.inj hparse, hitems⟩
      rw [htext, hrest]
      exact Language.append_mem_mul htaken hspace
    · cases hparse
  · rintro ⟨taken, htaken, space, hspace, htext⟩
    obtain ⟨_, ⟨items, rfl, hitems⟩, hlegible⟩ := (recognises_records 125).exists_legible htaken
    have hgap := isGap_of_mem_gap hspace
    have hends : EndsNumber space := by
      simpa using endsNumber_append_of_isGap hgap endsNumber_nil
    have hskip : skipSpace space = [] := by
      simpa [skipSpace] using skipSpace_append_of_isGap hgap []
    obtain ⟨_, hr⟩ := hlegible space hends
    refine ⟨items, ?_, hitems⟩
    rw [parse, ← htext, hdepth]
    change (readValue (125 + 2) (taken ++ space) >>= _) = _
    rw [hr, ok_bind]
    exact if_pos hskip

end Values

end SynthReport.Json
