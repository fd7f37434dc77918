import SynthReport.CommandLine.Arguments
import SynthReport.Proofs.Traversal

/-! # Arguments without the display options

Two options are about the display of a table alone. Arguments that are understood are understood
without these options as well, and everything else that they ask for stays. An option whose value
stands in an argument of its own is settled when the next one starts, so without the display options
it may be settled later: the states in between agree up to that.

* **`withoutDisplay`** — arguments less the display options;
* **`Options.undisplayed`** — options less the display;
* **`ArgumentState.Follows`** — the same state but for the display;
* **`ArgumentState.Shadows`** — the same but for the display, once what is pending is settled;
* **`ArgumentState.readAlike_withoutDisplay`** — all arguments keep this up;
* **`ofArguments_withoutDisplay`** — the options of arguments without the display options. -/

namespace SynthReport

/-! ## Display options -/

/-- What is left of an argument without display options: nothing of one by itself, and the rest of a
group of short options that starts with one. -/
def keptArgument (argument : String) : Option String :=
  match argument.toList with
  | '-' :: '-' :: body =>
    let name := String.ofList (body.takeWhile (· ≠ '='))
    if name = "quiet" ∨ name = "console-width" then none else some argument
  | ['-', 'q'] => none
  | '-' :: 'q' :: rest => some (String.ofList ('-' :: rest))
  | _ => some argument

/-- **Arguments without the display options**, and without the value of one in an argument of its
own. -/
def withoutDisplay : List String → List String
  | [] => []
  | [argument] => (keptArgument argument).toList
  | argument :: value :: rest =>
    if argument = "--console-width" then withoutDisplay rest
    else (keptArgument argument).toList ++ withoutDisplay (value :: rest)

/-- **Options without the display**: as if no display option had been given. -/
def Options.undisplayed (options : Options) : Options :=
  { options with consoleWidth := none, quiet := false }

/-- Any other setting is made in the same way. -/
theorem Options.put_undisplayed {options options' : Options} {setting : Setting} {value : String}
    (hsetting : setting ≠ .consoleWidth) (h : options.put setting value = .ok options') :
    options.undisplayed.put setting value = .ok options'.undisplayed := by
  cases setting with
  | consoleWidth => exact absurd rfl hsetting
  | baseline =>
    cases h
    rfl
  | report =>
    rw [put] at h ⊢
    split at h
    · rename_i hvalue
      cases h
      rw [if_pos hvalue]
      rfl
    · rename_i hvalue
      split at h
      · rename_i hvariant
        cases h
        rw [if_neg hvalue, if_pos hvariant]
        rfl
      · cases h
  | _ =>
    -- The other settings refuse an empty text.
    rw [put] at h ⊢
    split at h
    · cases h
    · rename_i hvalue
      cases h
      rw [if_neg hvalue]
      rfl

/-- The console width is left out. -/
theorem Options.undisplayed_of_put {options options' : Options} {value : String}
    (h : options.put .consoleWidth value = .ok options') :
    options'.undisplayed = options.undisplayed := by
  rw [put] at h
  split at h
  · cases h
    rfl
  · cases h

namespace OptionKey

/-- The console width has no short name. -/
theorem ofShort?_ne_consoleWidth {c : Char} : ofShort? c ≠ some (.setting .consoleWidth) := by
  unfold ofShort?
  split <;> nofun

/-- The quiet switch has one short name. -/
theorem eq_of_ofShort?_quiet {c : Char} (h : ofShort? c = some (.switch .quiet)) : c = 'q' := by
  unfold ofShort? at h
  split at h <;> first | rfl | cases h

/-- The console width has one long name. -/
theorem eq_of_ofLong?_consoleWidth {name : String}
    (h : ofLong? name = some (.setting .consoleWidth)) : name = "console-width" := by
  unfold ofLong? at h
  split at h <;> first | rfl | cases h

/-- The quiet switch has one long name. -/
theorem eq_of_ofLong?_quiet {name : String} (h : ofLong? name = some (.switch .quiet)) :
    name = "quiet" := by
  unfold ofLong? at h
  split at h <;> first | rfl | cases h

end OptionKey

namespace ArgumentState

variable {state state' shadow : ArgumentState} {setting : Setting} {value : String}

/-! ## States -/

/-- **The same state but for the display.** -/
structure Follows (state shadow : ArgumentState) : Prop where
  options : shadow.options = state.options.undisplayed
  given : shadow.given = state.given.filter (· ≠ .consoleWidth)
  pending : shadow.pending = state.pending

/-- When a setting is settled. -/
theorem settle_eq_ok_iff :
    state.settle setting value = .ok state' ↔
      setting ∉ state.given ∧ ∃ options, state.options.put setting value = .ok options ∧
        state' = { state with options, given := setting :: state.given } := by
  rw [settle]
  by_cases hgiven : setting ∈ state.given
  · rw [if_pos hgiven]
    constructor
    · nofun
    · exact fun h => absurd hgiven h.1
  · rw [if_neg hgiven, and_iff_right hgiven]
    exact bind_pure_eq_ok_iff

/-- Nothing is pending afterwards. -/
theorem pending_of_settlePending (h : state.settlePending = .ok state') :
    state'.pending = none := by
  obtain ⟨options, given, pending⟩ := state
  cases pending with
  | none =>
    cases h
    rfl
  | some item =>
    obtain ⟨setting, value?⟩ := item
    cases value? with
    | none => cases h
    | some value =>
      obtain ⟨-, options, -, rfl⟩ := settle_eq_ok_iff.1 h
      rfl

/-- A setting that is settled is settled in the other state, too. -/
theorem Follows.settle (h : state.Follows shadow) (hsetting : setting ≠ .consoleWidth)
    (hsettle : state.settle setting value = .ok state') :
    ∃ shadow', shadow.settle setting value = .ok shadow' ∧ state'.Follows shadow' ∧
      state'.pending = state.pending := by
  obtain ⟨hgiven, options, hput, rfl⟩ := settle_eq_ok_iff.1 hsettle
  have hput' := Options.put_undisplayed hsetting hput
  refine ⟨{ shadow with options := options.undisplayed, given := setting :: shadow.given },
    settle_eq_ok_iff.2 ⟨?_, _, ?_, rfl⟩, ⟨rfl, ?_, h.pending⟩, rfl⟩
  · rw [h.given]
    exact fun hmem => hgiven (List.mem_filter.1 hmem).1
  · rw [h.options]
    exact hput'
  · rw [h.given, List.filter_cons_of_pos (by simpa using hsetting)]

/-- A console width that is settled makes no difference. -/
theorem Follows.settle_consoleWidth (h : state.Follows shadow)
    (hsettle : state.settle .consoleWidth value = .ok state') :
    state'.Follows shadow ∧ state'.pending = state.pending := by
  obtain ⟨-, options, hput, rfl⟩ := settle_eq_ok_iff.1 hsettle
  refine ⟨⟨?_, ?_, h.pending⟩, rfl⟩
  · rw [h.options, Options.undisplayed_of_put hput]
  · rw [h.given, List.filter_cons_of_neg (by simp)]

/-- **The same state but for the display, once what is pending is settled.** Either the same is
pending in both, or in the first state nothing is or a console width, and the other one is behind. -/
inductive Shadows : ArgumentState → ArgumentState → Prop where
  | aligned {state shadow : ArgumentState} (h : state.Follows shadow)
    (hpending : ∀ value, state.pending ≠ some (.consoleWidth, value)) : Shadows state shadow
  | behind {state shadow settled : ArgumentState} (hsettled : shadow.settlePending = .ok settled)
    (h : { state with pending := none }.Follows settled)
    (hpending : state.pending = none ∨ ∃ value, state.pending = some (.consoleWidth, some value)) :
    Shadows state shadow

/-- **What is pending is settled in both.** -/
theorem Shadows.settlePending (h : state.Shadows shadow)
    (hsettle : state.settlePending = .ok state') :
    ∃ shadow', shadow.settlePending = .ok shadow' ∧ state'.Follows shadow' ∧
      state'.pending = none := by
  obtain ⟨options, given, pending⟩ := state
  cases h with
  | aligned h hpending =>
    cases pending with
    | none =>
      cases hsettle
      refine ⟨shadow, ?_, h, rfl⟩
      rw [ArgumentState.settlePending, h.pending]
    | some item =>
      obtain ⟨setting, value?⟩ := item
      cases value? with
      | none => cases hsettle
      | some value =>
        have hsetting : setting ≠ .consoleWidth := by
          rintro rfl
          exact hpending _ rfl
        have hrest : Follows { options, given } { shadow with pending := none } :=
          ⟨h.options, h.given, rfl⟩
        obtain ⟨shadow', hshadow, hfollows, hnone⟩ := hrest.settle hsetting hsettle
        refine ⟨shadow', ?_, hfollows, hnone⟩
        rw [ArgumentState.settlePending, h.pending]
        exact hshadow
  | behind hsettled h hpending =>
    rcases hpending with hpending | ⟨value, hpending⟩
    · cases hpending
      cases hsettle
      exact ⟨_, hsettled, h, rfl⟩
    · cases hpending
      exact ⟨_, hsettled, h.settle_consoleWidth hsettle⟩

/-! ## One option -/

/-- **Any other setting** is started in both. -/
theorem Shadows.startSetting (h : state.Shadows shadow) (hsetting : setting ≠ .consoleWidth)
    {value? : Option String} (hstart : state.startSetting setting value? = .ok state') :
    ∃ shadow', shadow.startSetting setting value? = .ok shadow' ∧ state'.Shadows shadow' := by
  rw [ArgumentState.startSetting] at hstart
  obtain ⟨settled, hsettled, hstart⟩ := bind_eq_ok_iff.1 hstart
  obtain ⟨shadow', hshadow, hfollows, hnone⟩ := h.settlePending hsettled
  simp only [ArgumentState.startSetting, hshadow, ok_bind]
  cases value? with
  | none =>
    cases hstart
    refine ⟨{ shadow' with pending := some (setting, none) }, rfl,
      .aligned ⟨hfollows.options, hfollows.given, rfl⟩ ?_⟩
    rintro value ⟨⟩
    exact hsetting rfl
  | some value =>
    obtain ⟨final, hfinal, hfollows', hpending⟩ := hfollows.settle hsetting hstart
    refine ⟨final, hfinal, .aligned hfollows' ?_⟩
    rw [hpending, hnone]
    exact nofun

/-- **A console width with its value** makes no difference. -/
theorem Shadows.startSetting_consoleWidth (h : state.Shadows shadow)
    (hstart : state.startSetting .consoleWidth (some value) = .ok state') :
    state'.Shadows shadow := by
  rw [ArgumentState.startSetting] at hstart
  obtain ⟨settled, hsettled, hstart⟩ := bind_eq_ok_iff.1 hstart
  obtain ⟨shadow', hshadow, hfollows, hnone⟩ := h.settlePending hsettled
  obtain ⟨hfollows', hpending⟩ := hfollows.settle_consoleWidth hstart
  have hnone' : state'.pending = none := hpending.trans hnone
  exact .behind hshadow ⟨hfollows'.options, hfollows'.given, hfollows'.pending.trans hnone'⟩
    (Or.inl hnone')

/-- **A switch** that does not end the reading makes no difference. -/
theorem Shadows.setSwitch (h : state.Shadows shadow) {switch : Switch} {long : Bool}
    (hswitch : state.setSwitch switch long = .ok state') :
    switch = .quiet ∧ state'.Shadows shadow := by
  rw [ArgumentState.setSwitch] at hswitch
  obtain ⟨settled, hsettled, hswitch⟩ := bind_eq_ok_iff.1 hswitch
  obtain ⟨shadow', hshadow, hfollows, hnone⟩ := h.settlePending (mapError_eq_ok_iff.1 hsettled)
  cases switch with
  | help => cases hswitch
  | version => cases hswitch
  | quiet =>
    dsimp only at hswitch
    split at hswitch
    · cases hswitch
    · cases hswitch
      exact ⟨rfl, .behind hshadow
        ⟨hfollows.options, hfollows.given, hfollows.pending.trans hnone⟩ (Or.inl hnone)⟩

/-! ## One argument -/

/-- A value for a setting that is due in both. -/
theorem Shadows.readPlain (h : state.Shadows shadow) {argument : String}
    (hread : state.readPlain argument = .ok state') :
    ∃ shadow', shadow.readPlain argument = .ok shadow' ∧ state'.Shadows shadow' := by
  obtain ⟨options, given, pending⟩ := state
  rw [ArgumentState.readPlain] at hread
  split at hread
  · rename_i setting hsetting
    cases hsetting
    cases hread
    cases h with
    | aligned h hpending =>
      refine ⟨{ shadow with pending := some (setting, some argument) }, ?_,
        .aligned ⟨h.options, h.given, rfl⟩ ?_⟩
      · rw [ArgumentState.readPlain, h.pending]
      · rintro value ⟨⟩
        exact hpending none rfl
    | behind hsettled h hpending =>
      -- Nothing is due in the first state.
      rcases hpending with hpending | ⟨value, hpending⟩
      · cases hpending
      · cases hpending
  · cases hread

/-- **Short options** that do not start with one of the display are read in both. -/
theorem Shadows.readShort (h : state.Shadows shadow) {argument argument' : String} {c : Char}
    {rest : List Char} (hc : c ≠ 'q') (hread : state.readShort argument (c :: rest) = .ok state') :
    ∃ shadow', shadow.readShort argument' (c :: rest) = .ok shadow' ∧ state'.Shadows shadow' := by
  unfold ArgumentState.readShort at hread ⊢
  cases hkey : OptionKey.ofShort? c with
  | none =>
    rw [hkey] at hread
    cases hread
  | some key =>
    rw [hkey] at hread
    cases key with
    | setting setting =>
      have hsetting : setting ≠ .consoleWidth := by
        rintro rfl
        exact OptionKey.ofShort?_ne_consoleWidth hkey
      obtain ⟨shadow', hshadow, hshadows⟩ :=
        h.startSetting hsetting (mapError_eq_ok_iff.1 hread)
      exact ⟨shadow', mapError_eq_ok_iff.2 hshadow, hshadows⟩
    | switch switch =>
      obtain ⟨settled, hswitch, -⟩ := bind_eq_ok_iff.1 hread
      obtain ⟨rfl, -⟩ := h.setSwitch hswitch
      exact absurd (OptionKey.eq_of_ofShort?_quiet hkey) hc

/-- The value after an equals sign. -/
def attachedValue (body : List Char) : Option String :=
  match body.dropWhile (· ≠ '=') with
  | [] => none
  | _ :: rest => some (String.ofList rest)

/-- A long option by its name and the value that is attached to it. -/
theorem readLong_eq (argument : String) (body : List Char) :
    state.readLong argument body =
      match OptionKey.ofLong? (String.ofList (body.takeWhile (· ≠ '='))), attachedValue body with
      | none, _ => .error (.usage (.unknownArgument argument))
      | some (.setting setting), value => (state.startSetting setting value).mapError .usage
      | some (.switch _), some _ => .error (.usage (.tooManyValues argument))
      | some (.switch switch), none => state.setSwitch switch true := rfl

/-- Without a value attached, a long option is its name alone. -/
theorem eq_of_attachedValue_none {argument name : String} {body : List Char}
    (h : argument.toList = '-' :: '-' :: body)
    (hname : String.ofList (body.takeWhile (· ≠ '=')) = name)
    (hvalue : attachedValue body = none) : argument = "--" ++ name := by
  have hdrop : body.dropWhile (· ≠ '=') = [] := by
    rw [attachedValue] at hvalue
    split at hvalue
    · assumption
    · cases hvalue
  have hbody : body.takeWhile (· ≠ '=') = body := by
    have happend := List.takeWhile_append_dropWhile (p := (· ≠ '=')) (l := body)
    rwa [hdrop, List.append_nil] at happend
  have hdashes : "--".toList = ['-', '-'] := rfl
  rw [← hname, hbody, ← String.toList_inj, h, String.toList_append, hdashes, String.toList_ofList]
  rfl

/-- **A long option** that is not one of the display is read in both. -/
theorem Shadows.readLong (h : state.Shadows shadow) {argument : String} {body : List Char}
    (hquiet : String.ofList (body.takeWhile (· ≠ '=')) ≠ "quiet")
    (hwidth : String.ofList (body.takeWhile (· ≠ '=')) ≠ "console-width")
    (hread : state.readLong argument body = .ok state') :
    ∃ shadow', shadow.readLong argument body = .ok shadow' ∧ state'.Shadows shadow' := by
  rw [readLong_eq] at hread ⊢
  generalize String.ofList (body.takeWhile (· ≠ '=')) = name at hquiet hwidth hread ⊢
  generalize attachedValue body = value? at hread ⊢
  cases hkey : OptionKey.ofLong? name with
  | none =>
    rw [hkey] at hread
    cases hread
  | some key =>
    rw [hkey] at hread
    cases key with
    | setting setting =>
      have hsetting : setting ≠ .consoleWidth := by
        rintro rfl
        exact hwidth (OptionKey.eq_of_ofLong?_consoleWidth hkey)
      obtain ⟨shadow', hshadow, hshadows⟩ :=
        h.startSetting hsetting (mapError_eq_ok_iff.1 hread)
      exact ⟨shadow', mapError_eq_ok_iff.2 hshadow, hshadows⟩
    | switch switch =>
      cases value? with
      | some value => cases hread
      | none =>
        obtain ⟨rfl, -⟩ := h.setSwitch hread
        exact absurd (OptionKey.eq_of_ofLong?_quiet hkey) hquiet

/-! ## Shapes of arguments -/

/-- **The shapes of an argument**, as far as reading tells them apart. -/
inductive Shape (argument : String) : Prop where
  | dashes (h : argument.toList = ['-', '-'])
  | long (c : Char) (body : List Char) (h : argument.toList = '-' :: '-' :: c :: body)
  | short (c : Char) (body : List Char) (hc : c ≠ '-') (h : argument.toList = '-' :: c :: body)
  | plain (h : ∀ c body, argument.toList ≠ '-' :: c :: body)

/-- Every argument has a shape. -/
theorem shape (argument : String) : Shape argument := by
  by_cases hplain : ∃ c body, argument.toList = '-' :: c :: body
  · obtain ⟨c, body, h⟩ := hplain
    by_cases hc : c = '-'
    · subst hc
      cases body with
      | nil => exact .dashes h
      | cons d body => exact .long d body h
    · exact .short c body hc h
  · exact .plain fun c body h => hplain ⟨c, body, h⟩

section Equations

variable {argument : String} {rest : List String} {c : Char} {body : List Char}

/-- Two dashes alone end the arguments. -/
theorem readAll_dashes (h : argument.toList = ['-', '-']) :
    state.readAll [argument] = state.settlePending.mapError .usage := by
  rw [readAll, h]
  rfl

/-- Nothing may come after them. -/
theorem readAll_dashes_ne (h : argument.toList = ['-', '-']) (hrest : rest ≠ []) :
    state.readAll (argument :: rest) ≠ .ok state' := by
  obtain ⟨extra, more, rfl⟩ := List.exists_cons_of_ne_nil hrest
  rw [readAll.eq_def]
  dsimp only
  rw [h]
  exact nofun

/-- A long option. -/
theorem readAll_long (h : argument.toList = '-' :: '-' :: c :: body) :
    state.readAll (argument :: rest) =
      state.readLong argument (c :: body) >>= fun next => next.readAll rest := by
  rw [readAll.eq_def]
  dsimp only
  rw [h]
  rfl

/-- Short options. -/
theorem readAll_short (hc : c ≠ '-') (h : argument.toList = '-' :: c :: body) :
    state.readAll (argument :: rest) =
      state.readShort argument (c :: body) >>= fun next => next.readAll rest := by
  rw [readAll.eq_def]
  dsimp only
  rw [h]
  split
  · rename_i heq
    cases heq
    exact absurd rfl hc
  · rename_i heq
    cases heq
    exact absurd rfl hc
  · rename_i heq
    cases heq
    rfl
  · rename_i hother
    exact absurd rfl (hother c body)

/-- A value. -/
theorem readAll_plain (h : ∀ c body, argument.toList ≠ '-' :: c :: body) :
    state.readAll (argument :: rest) =
      state.readPlain argument >>= fun next => next.readAll rest := by
  rw [readAll.eq_def]
  dsimp only
  split
  · rename_i heq
    exact absurd heq (h _ _)
  · rename_i heq
    exact absurd heq (h _ _)
  · rename_i heq
    exact absurd heq (h _ _)
  · rfl

/-- What is kept of a long option. -/
theorem keptArgument_long (h : argument.toList = '-' :: '-' :: body) :
    keptArgument argument =
      if String.ofList (body.takeWhile (· ≠ '=')) = "quiet" ∨
        String.ofList (body.takeWhile (· ≠ '=')) = "console-width" then none
      else some argument := by
  rw [keptArgument, h]
  rfl

/-- What is kept of short options that start with the quiet switch. -/
theorem keptArgument_quiet (h : argument.toList = '-' :: 'q' :: body) :
    keptArgument argument = if body = [] then none else some (String.ofList ('-' :: body)) := by
  rw [keptArgument, h]
  cases body <;> rfl

/-- Short options that start with another one are kept. -/
theorem keptArgument_short (hc : c ≠ '-') (hquiet : c ≠ 'q')
    (h : argument.toList = '-' :: c :: body) :
    keptArgument argument = some argument := by
  rw [keptArgument, h]
  split
  · rename_i heq
    cases heq
    exact absurd rfl hc
  · rename_i heq
    cases heq
    exact absurd rfl hquiet
  · rename_i heq
    cases heq
    exact absurd rfl hquiet
  · rfl

/-- A value is kept. -/
theorem keptArgument_plain (h : ∀ c body, argument.toList ≠ '-' :: c :: body) :
    keptArgument argument = some argument := by
  rw [keptArgument]
  split
  · rename_i heq
    exact absurd heq (h _ _)
  · rename_i heq
    exact absurd heq (h _ _)
  · rename_i heq
    exact absurd heq (h _ _)
  · rfl

end Equations

/-- After the quiet switch comes no other one. -/
theorem ne_of_readShort_quiet {settled : ArgumentState} {argument : String} {c : Char}
    {body : List Char} (hquiet : state.setSwitch .quiet false = .ok settled)
    (hread : settled.readShort argument (c :: body) = .ok state') : c ≠ '-' ∧ c ≠ 'q' := by
  constructor
  · rintro rfl
    cases hread
  · rintro rfl
    obtain ⟨next, hnext, -⟩ := bind_eq_ok_iff.1 hread
    rw [setSwitch] at hquiet hnext
    obtain ⟨first, hfirst, hquiet⟩ := bind_eq_ok_iff.1 hquiet
    obtain ⟨second, hsecond, hnext⟩ := bind_eq_ok_iff.1 hnext
    dsimp only at hquiet hnext
    split at hquiet
    · cases hquiet
    · cases hquiet
      -- Nothing is pending after the first switch, so the second one finds it set.
      have hnone := pending_of_settlePending (mapError_eq_ok_iff.1 hfirst)
      rw [settlePending, hnone] at hsecond
      cases hsecond
      cases hnext

/-- Settings are started once what is pending is settled. -/
theorem exists_settlePending_of_startSetting {value? : Option String}
    (h : state.startSetting setting value? = .ok state') :
    ∃ settled, state.settlePending = .ok settled := by
  obtain ⟨settled, hsettled, -⟩ := bind_eq_ok_iff.1 h
  exact ⟨settled, hsettled⟩

/-- So are switches. -/
theorem exists_settlePending_of_setSwitch {switch : Switch} {long : Bool}
    (h : state.setSwitch switch long = .ok state') :
    ∃ settled, state.settlePending = .ok settled := by
  obtain ⟨settled, hsettled, -⟩ := bind_eq_ok_iff.1 h
  exact ⟨settled, mapError_eq_ok_iff.1 hsettled⟩

/-- **After a setting without its value comes a value.** -/
theorem readPlain_of_due {argument : String} {rest : List String}
    (hdue : state.pending = some (setting, none))
    (hread : state.readAll (argument :: rest) = .ok state') :
    { state with pending := some (setting, some argument) }.readAll rest = .ok state' := by
  -- Everything else would settle the setting first.
  have hnot : ¬ ∃ settled, state.settlePending = .ok settled := by
    rw [settlePending, hdue]
    nofun
  cases shape argument with
  | dashes h =>
    by_cases hrest : rest = []
    · subst hrest
      rw [readAll_dashes h] at hread
      exact absurd ⟨_, mapError_eq_ok_iff.1 hread⟩ hnot
    · exact absurd hread (readAll_dashes_ne h hrest)
  | long c body h =>
    rw [readAll_long h] at hread
    obtain ⟨next, hnext, -⟩ := bind_eq_ok_iff.1 hread
    rw [readLong_eq] at hnext
    split at hnext
    · cases hnext
    · exact absurd (exists_settlePending_of_startSetting (mapError_eq_ok_iff.1 hnext)) hnot
    · cases hnext
    · exact absurd (exists_settlePending_of_setSwitch hnext) hnot
  | short c body hc h =>
    rw [readAll_short hc h] at hread
    obtain ⟨next, hnext, -⟩ := bind_eq_ok_iff.1 hread
    unfold readShort at hnext
    split at hnext
    · cases hnext
    · exact absurd (exists_settlePending_of_startSetting (mapError_eq_ok_iff.1 hnext)) hnot
    · obtain ⟨settled, hswitch, -⟩ := bind_eq_ok_iff.1 hnext
      exact absurd (exists_settlePending_of_setSwitch hswitch) hnot
  | plain h =>
    rw [readAll_plain h] at hread
    obtain ⟨next, hnext, hread⟩ := bind_eq_ok_iff.1 hread
    rw [readPlain, hdue] at hnext
    cases hnext
    exact hread

/-- A console width whose value is still to come. -/
theorem readAll_consoleWidth {rest : List String}
    (hread : state.readAll ("--console-width" :: rest) = .ok state') :
    ∃ settled, state.settlePending = .ok settled ∧
      { settled with pending := some (.consoleWidth, none) }.readAll rest = .ok state' := by
  have hname : "--console-width".toList = '-' :: '-' :: 'c' :: "onsole-width".toList := rfl
  rw [readAll_long hname] at hread
  obtain ⟨next, hnext, hread⟩ := bind_eq_ok_iff.1 hread
  change (state.startSetting .consoleWidth none).mapError Interruption.usage = .ok next at hnext
  obtain ⟨settled, hsettled, hstart⟩ := bind_eq_ok_iff.1 (mapError_eq_ok_iff.1 hnext)
  cases hstart
  exact ⟨settled, hsettled, hread⟩

/-- **A console width and its value in an argument of its own** make no difference. -/
theorem Shadows.readAll_consoleWidth (h : state.Shadows shadow) {value : String}
    {rest : List String} (hread : state.readAll ("--console-width" :: value :: rest) = .ok state') :
    ∃ next : ArgumentState, next.Shadows shadow ∧ next.readAll rest = .ok state' := by
  obtain ⟨settled, hsettled, hdue⟩ := ArgumentState.readAll_consoleWidth hread
  obtain ⟨shadow', hshadow, hfollows, hnone⟩ := h.settlePending hsettled
  refine ⟨_, ?_, readPlain_of_due rfl hdue⟩
  exact .behind hshadow ⟨hfollows.options, hfollows.given, hfollows.pending.trans hnone⟩
    (Or.inr ⟨value, rfl⟩)

/-! ## All arguments -/

/-- **Arguments that are read as others are**, from states that agree up to the display. -/
def ReadAlike (arguments others : List String) : Prop :=
  ∀ state shadow state' : ArgumentState, state.Shadows shadow →
    state.readAll arguments = .ok state' →
    ∃ shadow', shadow.readAll others = .ok shadow' ∧ state'.Follows shadow'

/-- Without any arguments what is pending is settled. -/
theorem readAlike_nil : ReadAlike [] [] := by
  intro state shadow state' h hread
  obtain ⟨shadow', hshadow, hfollows, -⟩ := h.settlePending (mapError_eq_ok_iff.1 hread)
  exact ⟨shadow', mapError_eq_ok_iff.2 hshadow, hfollows⟩

section Arguments

variable {argument : String} {rest others : List String} {c : Char} {body : List Char}

/-- Two dashes alone are kept. -/
theorem readAlike_dashes (hnil : rest = [] → others = []) (h : argument.toList = ['-', '-']) :
    ReadAlike (argument :: rest) ((keptArgument argument).toList ++ others) := by
  intro state shadow state' hshadows hread
  by_cases hrest : rest = []
  · subst hrest
    rw [readAll_dashes h] at hread
    rw [hnil rfl, List.append_nil, keptArgument_long h, if_neg (by decide), Option.toList_some,
      readAll_dashes h]
    exact readAlike_nil _ _ _ hshadows hread
  · exact absurd hread (readAll_dashes_ne h hrest)

/-- A long option is dropped if it is one of the display, and kept if not. -/
theorem ReadAlike.long (hrest : ReadAlike rest others)
    (hargument : argument ≠ "--console-width") (h : argument.toList = '-' :: '-' :: c :: body) :
    ReadAlike (argument :: rest) ((keptArgument argument).toList ++ others) := by
  intro state shadow state' hshadows hread
  rw [readAll_long h] at hread
  obtain ⟨next, hnext, hmore⟩ := bind_eq_ok_iff.1 hread
  rw [keptArgument_long h]
  by_cases hquiet : String.ofList ((c :: body).takeWhile (· ≠ '=')) = "quiet"
  · rw [readLong_eq, hquiet] at hnext
    rw [if_pos (Or.inl hquiet)]
    cases hvalue : attachedValue (c :: body) with
    | some value =>
      rw [hvalue] at hnext
      cases hnext
    | none =>
      rw [hvalue] at hnext
      exact hrest _ _ _ (hshadows.setSwitch hnext).2 hmore
  · by_cases hwidth : String.ofList ((c :: body).takeWhile (· ≠ '=')) = "console-width"
    · rw [readLong_eq, hwidth] at hnext
      rw [if_pos (Or.inr hwidth)]
      cases hvalue : attachedValue (c :: body) with
      | some value =>
        rw [hvalue] at hnext
        exact hrest _ _ _ (hshadows.startSetting_consoleWidth (mapError_eq_ok_iff.1 hnext)) hmore
      | none =>
        -- Without a value attached, the argument is the name alone.
        exact absurd (eq_of_attachedValue_none h hwidth hvalue) hargument
    · rw [if_neg (not_or_intro hquiet hwidth), Option.toList_some, List.singleton_append,
        readAll_long h]
      obtain ⟨shadow', hshadow, hnext⟩ := hshadows.readLong hquiet hwidth hnext
      rw [hshadow]
      exact hrest _ _ _ hnext hmore

/-- Short options are kept, but for the quiet switch in front. -/
theorem ReadAlike.short (hrest : ReadAlike rest others) (hc : c ≠ '-')
    (h : argument.toList = '-' :: c :: body) :
    ReadAlike (argument :: rest) ((keptArgument argument).toList ++ others) := by
  intro state shadow state' hshadows hread
  rw [readAll_short hc h] at hread
  obtain ⟨next, hnext, hmore⟩ := bind_eq_ok_iff.1 hread
  by_cases hquiet : c = 'q'
  · subst hquiet
    obtain ⟨settled, hswitch, hnext⟩ := bind_eq_ok_iff.1 hnext
    obtain ⟨-, hsettled⟩ := hshadows.setSwitch hswitch
    rw [keptArgument_quiet h]
    cases body with
    | nil =>
      cases hnext
      exact hrest _ _ _ hsettled hmore
    | cons d body =>
      obtain ⟨hdash, hd⟩ := ne_of_readShort_quiet hswitch hnext
      obtain ⟨shadow', hshadow, hnext⟩ := hsettled.readShort hd hnext
      rw [if_neg (List.cons_ne_nil d body), Option.toList_some, List.singleton_append,
        readAll_short hdash String.toList_ofList, hshadow]
      exact hrest _ _ _ hnext hmore
  · obtain ⟨shadow', hshadow, hnext⟩ := hshadows.readShort hquiet hnext
    rw [keptArgument_short hc hquiet h, Option.toList_some, List.singleton_append,
      readAll_short hc h, hshadow]
    exact hrest _ _ _ hnext hmore

/-- A value is kept. -/
theorem ReadAlike.plain (hrest : ReadAlike rest others)
    (h : ∀ c body, argument.toList ≠ '-' :: c :: body) :
    ReadAlike (argument :: rest) ((keptArgument argument).toList ++ others) := by
  intro state shadow state' hshadows hread
  rw [readAll_plain h] at hread
  obtain ⟨next, hnext, hmore⟩ := bind_eq_ok_iff.1 hread
  obtain ⟨shadow', hshadow, hnext⟩ := hshadows.readPlain hnext
  rw [keptArgument_plain h, Option.toList_some, List.singleton_append, readAll_plain h, hshadow]
  exact hrest _ _ _ hnext hmore

/-- **One argument more**, if it does not take the next one as the console width. -/
theorem ReadAlike.cons (hrest : ReadAlike rest others) (hnil : rest = [] → others = [])
    (hargument : argument ≠ "--console-width") :
    ReadAlike (argument :: rest) ((keptArgument argument).toList ++ others) := by
  cases shape argument with
  | dashes h => exact readAlike_dashes hnil h
  | long c body h => exact hrest.long hargument h
  | short c body hc h => exact hrest.short hc h
  | plain h => exact hrest.plain h

end Arguments

/-- **Arguments are read alike without the display options.** -/
theorem readAlike_withoutDisplay (arguments : List String) :
    ReadAlike arguments (withoutDisplay arguments) := by
  induction arguments using withoutDisplay.induct with
  | case1 => exact readAlike_nil
  | case2 argument =>
    by_cases hargument : argument = "--console-width"
    · -- The value is missing.
      intro state shadow state' hshadows hread
      rw [hargument] at hread
      obtain ⟨settled, -, hdue⟩ := readAll_consoleWidth hread
      cases mapError_eq_ok_iff.1 hdue
    · have hcons : ReadAlike [argument] ((keptArgument argument).toList ++ []) :=
        readAlike_nil.cons (fun _ => rfl) hargument
      rwa [List.append_nil] at hcons
  | case3 value rest ih =>
    intro state shadow state' hshadows hread
    obtain ⟨next, hnext, hmore⟩ := hshadows.readAll_consoleWidth hread
    rw [withoutDisplay, if_pos rfl]
    exact ih _ _ _ hnext hmore
  | case4 argument value rest hargument ih =>
    rw [withoutDisplay, if_neg hargument]
    exact ih.cons (fun h => absurd h (List.cons_ne_nil value rest)) hargument

end ArgumentState

/-- **Arguments without the display options** ask for the same options without the display. -/
theorem ofArguments_withoutDisplay {arguments : List String} {options : Options}
    (h : Options.ofArguments arguments = .ok options) :
    Options.ofArguments (withoutDisplay arguments) = .ok options.undisplayed := by
  obtain ⟨state, hread, rfl⟩ := bind_pure_eq_ok_iff.1 h
  have hstart : ArgumentState.Shadows {} {} :=
    .aligned ⟨rfl, rfl, rfl⟩ fun _ => Option.some_ne_none _ ∘ Eq.symm
  obtain ⟨shadow, hshadow, hfollows⟩ :=
    ArgumentState.readAlike_withoutDisplay arguments _ _ _ hstart hread
  exact bind_pure_eq_ok_iff.2 ⟨shadow, hshadow, hfollows.options.symm⟩

/-- A display option may stand in a group of short ones, and its value may stand by itself. -/
example : withoutDisplay ["-qi", "a.json", "--console-width", "80"] = ["-i", "a.json"] := rfl

end SynthReport
