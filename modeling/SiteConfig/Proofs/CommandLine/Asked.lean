import SiteConfig.CommandLine.Arguments
import SiteConfig.Proofs.Steps

/-!
# Which format arguments ask for

Arguments are read level by level, and the value of an option may be looked at long after the
option. This file says in one pass over the arguments, without levels, which formats they ask for,
and that the invocation has the last of them.

- `asked args`: the names that stand behind `--output` and `-o`, in order.
- `Level.told level`: the names that a level was told, looked at or not.
- `Level.Hears level ask next`: what an argument tells a level; one lemma for each way to read one.
- `names_of_levels`: what all levels were told is what is asked for.
- `Requests args fallback format?`: the format that is asked for. `requests_of_ofArguments`: the
  invocation has it.
-/

namespace SiteConfig.CommandLine

/-! ## What is asked for -/

/-- What an argument says about the format of output. -/
inductive Ask
  | nothing
  /-- The next argument is its name. -/
  | next
  | named (name : String)
  deriving DecidableEq, Repr

namespace Ask

/-- The names that are there already. -/
def names : Ask → List String
  | .named name => [name]
  | _ => []

@[simp] theorem names_nothing : nothing.names = [] := rfl

/-- Whether a name is still to come. -/
def waits (ask : Ask) : Bool :=
  ask == .next

/-- What letters behind a dash say: an `o` is followed by the name, if anything follows it. -/
def ofLetters : List Char → Ask
  | [] => .nothing
  | ['o'] => .next
  | 'o' :: '=' :: name => .named (String.ofList name)
  | 'o' :: name => .named (String.ofList name)
  | _ :: rest => ofLetters rest

/-- What the word behind two dashes says. -/
def ofWord (word : List Char) : Ask :=
  if word = "output".toList then .next
  else if "output=".toList.isPrefixOf word then .named (String.ofList (word.drop 7))
  else .nothing

/-- What an argument says. -/
def ofArgument (arg : String) : Ask :=
  match arg.toList with
  | '-' :: '-' :: word => ofWord word
  | '-' :: letters => ofLetters letters
  | _ => .nothing

/-- What an option with a value says, once with its value and once without. -/
def ofOption (valued : Valued) (v? : Option String) : Ask :=
  if valued = .output then v?.elim .next .named else .nothing

theorem ofLetters_cons_of_ne {c : Char} (h : c ≠ 'o') (rest : List Char) :
    ofLetters (c :: rest) = ofLetters rest := by
  rw [ofLetters.eq_def]
  split
  · next heq => cases heq
  · next heq => exact absurd (List.cons.inj heq).1 h
  · next heq => exact absurd (List.cons.inj heq).1 h
  · next heq => exact absurd (List.cons.inj heq).1 h
  · next heq => rw [(List.cons.inj heq).2]

/-- A word says the name that stands behind its sign of equality. -/
theorem ofWord_append (name : List Char) :
    ofWord ("output=".toList ++ name) = .named (String.ofList name) := by
  have hlonger : "output=".toList ++ name ≠ "output".toList := by
    intro heq
    have hlength := congrArg List.length heq
    rw [List.length_append] at hlength
    have : "output=".toList.length = "output".toList.length + 1 := by decide +kernel
    omega
  rw [ofWord, if_neg hlonger, if_pos (List.isPrefixOf_iff_prefix.mpr (List.prefix_append ..))]
  rfl

/-- A word says nothing if it does not name the option. -/
theorem ofWord_of_ne {word : List Char}
    (h : String.ofList (word.takeWhile (· ≠ '=')) ≠ "output") : ofWord word = .nothing := by
  unfold ofWord
  split
  · next heq =>
    subst heq
    exact absurd rfl h
  · split
    · next hprefix =>
      obtain ⟨rest, rfl⟩ := List.isPrefixOf_iff_prefix.mp hprefix
      exact absurd rfl h
    · rfl

theorem ofArgument_of_letters {arg : String} {c : Char} {letters : List Char} (hc : c ≠ '-')
    (h : arg.toList = '-' :: c :: letters) : ofArgument arg = ofLetters (c :: letters) := by
  unfold ofArgument
  rw [h]
  split
  · next heq => exact absurd (List.cons.inj (List.cons.inj heq).2).1 hc
  · next heq => rw [(List.cons.inj heq).2]
  · next hnot => exact absurd rfl (hnot (c :: letters))

/-- An argument that is no option says nothing. A dash alone is none. -/
theorem ofArgument_of_positional {arg : String} (hword : ∀ word, arg.toList ≠ '-' :: '-' :: word)
    (hletters : ∀ c letters, arg.toList ≠ '-' :: c :: letters) : ofArgument arg = .nothing := by
  unfold ofArgument
  split
  · next word heq => exact absurd heq (hword word)
  · next letters _ heq =>
    cases letters with
    | nil => rfl
    | cons c letters => exact absurd heq (hletters c letters)
  · rfl

end Ask

/-- The names that arguments ask for, where the first may be one that is still to come. -/
def askedFrom : Bool → List String → List String
  | _, [] => []
  | true, name :: rest => name :: askedFrom false rest
  | false, arg :: rest =>
    -- After a double dash there are only operands.
    if arg = "--" then []
    else (Ask.ofArgument arg).names ++ askedFrom (Ask.ofArgument arg).waits rest

/-- The names of formats that arguments ask for, in order. -/
def asked (args : List String) : List String :=
  askedFrom false args

example : asked ["-vo", "yaml", "x", "--output=json", "-qotoml", "--", "-o"]
    = ["yaml", "json", "toml"] := by
  decide +kernel

/-! ## What a level was told -/

namespace Level

variable {command : Command} {level next : Level} {v : String}

/-- The name of a format that has not been looked at. -/
def unsettled? (level : Level) : Option String :=
  match level.pending with
  | some (.option .output, some name) => some name
  | _ => none

/-- The names of formats that the level was told. -/
def told (level : Level) : List String :=
  (level.output.map Format.name).toList ++ level.unsettled?.toList

/-- Whether the level waits for the name of a format. -/
def waits (level : Level) : Bool :=
  level.pending == some (.option .output, none)

theorem told_of_pending (h : level.pending = none) :
    level.told = (level.output.map Format.name).toList := by
  rw [told, unsettled?, h]
  exact List.append_nil _

theorem waits_of_pending (h : level.pending = none) : level.waits = false := by
  rw [waits, h]
  rfl

/-- The level is ready for an argument, and with it becomes one that was told what the argument
says. -/
structure Hears (level : Level) (ask : Ask) (next : Level) : Prop where
  ready : level.waits = false
  told : next.told = level.told ++ ask.names
  waits : next.waits = ask.waits

/-- What says nothing can come before what says something. -/
theorem Hears.after {ask : Ask} {between : Level} (h : level.Hears .nothing between)
    (k : between.Hears ask next) : level.Hears ask next where
  ready := h.ready
  told := by rw [k.told, h.told, Ask.names_nothing, List.append_nil]
  waits := k.waits

/-- Of levels with nothing pending only the formats count. -/
theorem hears_of_pending {ask : Ask} (hlevel : level.pending = none) (hnext : next.pending = none)
    (hoption : (next.output.map Format.name).toList
      = (level.output.map Format.name).toList ++ ask.names) (hask : ask.waits = false) :
    level.Hears ask next where
  ready := waits_of_pending hlevel
  told := by rw [told_of_pending hnext, told_of_pending hlevel, hoption]
  waits := (waits_of_pending hnext).trans hask.symm

theorem hears_option {valued : Valued} (hpending : level.pending = none)
    (h : level.option valued v = .ok next) :
    level.Hears (Ask.ofOption valued (some v)) next ∧ next.pending = none := by
  unfold option at h
  cases valued with
  | output =>
    dsimp only at h
    split at h
    · cases h
    · next hunset =>
      split at h
      · next format hformat =>
        cases h
        refine ⟨hears_of_pending hpending hpending ?_ rfl, hpending⟩
        rw [Option.not_isSome_iff_eq_none.mp hunset, ← Format.name_of_ofName? hformat]
        rfl
      · cases h
  | block =>
    dsimp only at h
    split at h
    · cases h
    · cases h
      exact ⟨hears_of_pending hpending hpending (List.append_nil _).symm rfl, hpending⟩
  | legacyMask =>
    dsimp only at h
    split at h
    · cases h
    · cases h
      exact ⟨hears_of_pending hpending hpending (List.append_nil _).symm rfl, hpending⟩

theorem operand_eq (h : level.operand command v = .ok next) :
    next.output = level.output ∧ next.pending = level.pending := by
  unfold operand at h
  cases command with
  | expand | flatten =>
    dsimp only at h
    split at h
    · cases h
    · cases h
      exact ⟨rfl, rfl⟩
  | completions =>
    dsimp only at h
    split at h
    · cases h
      exact ⟨rfl, rfl⟩
    · cases h
  | _ =>
    cases h
    exact ⟨rfl, rfl⟩

/-- Looking at a value tells a level nothing new. -/
theorem hears_settle (h : level.settle command = .ok next) :
    level.Hears .nothing next ∧ next.pending = none := by
  unfold settle at h
  dsimp only at h
  split at h
  · next hpending =>
    cases h
    exact ⟨hears_of_pending hpending rfl (List.append_nil _).symm rfl, rfl⟩
  · cases h
  · next valued name hpending =>
    obtain ⟨hhears, hnext⟩ := hears_option rfl h
    refine ⟨⟨by rw [waits, hpending]; cases valued <;> rfl, ?_, waits_of_pending hnext⟩, hnext⟩
    -- The name moves from what is pending to what is settled.
    rw [hhears.told, told_of_pending rfl, told, unsettled?, hpending]
    cases valued <;> simp [Ask.ofOption, Ask.names]
  · next name hpending =>
    obtain ⟨houtput, hnext⟩ := operand_eq h
    refine ⟨⟨by rw [waits, hpending]; rfl, ?_, waits_of_pending hnext⟩, hnext⟩
    rw [told_of_pending hnext, houtput, told, unsettled?, hpending]
    simp

theorem hears_flag {f : Flag} (h : level.flag command f = .ok next) :
    level.Hears .nothing next := by
  obtain ⟨settled, hsettle, h⟩ := Steps.bind_eq_ok.mp h
  obtain ⟨hhears, hpending⟩ := hears_settle hsettle
  refine hhears.after ?_
  cases f with
  | verbose =>
    cases h
    exact hears_of_pending hpending hpending (List.append_nil _).symm rfl
  | quiet =>
    dsimp only at h
    split at h
    · cases h
    · cases h
      exact hears_of_pending hpending hpending (List.append_nil _).symm rfl
  | help | version => cases h

theorem hears_attached {valued : Valued} (h : level.attached command valued v = .ok next) :
    level.Hears (Ask.ofOption valued (some v)) next := by
  obtain ⟨settled, hsettle, h⟩ := Steps.bind_eq_ok.mp h
  obtain ⟨hhears, hpending⟩ := hears_settle hsettle
  exact hhears.after (hears_option hpending h).1

theorem hears_opened {valued : Valued} (h : level.opened command valued = .ok next) :
    level.Hears (Ask.ofOption valued none) next := by
  obtain ⟨settled, hsettle, h⟩ := Steps.bind_eq_ok.mp h
  obtain ⟨hhears, hpending⟩ := hears_settle hsettle
  cases h
  refine hhears.after ⟨waits_of_pending hpending, ?_, by cases valued <;> rfl⟩
  rw [told_of_pending hpending]
  cases valued <;> rfl

theorem hears_positional {trailing : Bool} (h : level.positional command trailing v = .ok next) :
    level.Hears .nothing next := by
  unfold positional at h
  split at h
  · obtain ⟨settled, hsettle, h⟩ := Steps.bind_eq_ok.mp h
    obtain ⟨hhears, hpending⟩ := hears_settle hsettle
    cases h
    refine hhears.after ⟨waits_of_pending hpending, ?_, rfl⟩
    rw [told_of_pending hpending]
    rfl
  · cases h

/-- The value that an option waits for is the name of a format if the option is for one. -/
theorem told_filled (h : level.isOpen = true) :
    (level.filled v).told = level.told ++ (if level.waits then [v] else []) ∧
      (level.filled v).waits = false := by
  obtain ⟨⟨slot, v?⟩, hpending, hopen⟩ := (Option.any_eq_true ..).mp h
  cases v? with
  | some v => cases hopen
  | none =>
    simp only [told, unsettled?, waits, filled, hpending, Option.map_some]
    cases slot with
    | operand => simp
    | option valued => cases valued <;> simp

theorem longOption?_eq_output_iff {name : String} :
    longOption? command name = some (.inr .output) ↔ name = "output" := by
  constructor
  · intro h
    unfold longOption? at h
    split at h <;> simp_all
  · rintro rfl
    rfl

theorem hears_long {word : List Char} (h : level.long command word = .ok next) :
    level.Hears (Ask.ofWord word) next := by
  -- The word of the option for the format, with what follows its name.
  have hword : longOption? command (String.ofList (word.takeWhile (· ≠ '=')))
      = some (.inr .output) → word = "output".toList ++ word.dropWhile (· ≠ '=') := by
    intro hoption
    have hname := congrArg String.toList (longOption?_eq_output_iff.mp hoption)
    rw [String.toList_ofList] at hname
    rw [← hname, List.takeWhile_append_dropWhile]
  -- Any option but the one for the format says nothing.
  have hother : ∀ {found : Flag ⊕ Valued},
      longOption? command (String.ofList (word.takeWhile (· ≠ '='))) = some found →
      found ≠ .inr .output → Ask.ofWord word = .nothing := by
    intro found hfound hne
    refine Ask.ofWord_of_ne fun hname => hne ?_
    exact Option.some.inj (hfound.symm.trans (longOption?_eq_output_iff.mpr hname))
  unfold long at h
  dsimp only at h
  split at h
  · next f hoption _ =>
    rw [hother hoption Sum.inl_ne_inr]
    exact hears_flag h
  · cases h
  · next valued hoption hrest =>
    have hhears := hears_opened h
    by_cases hvalued : valued = .output
    · subst hvalued
      rw [hword hoption, hrest, List.append_nil]
      exact hhears
    · rw [hother hoption fun heq => hvalued (Sum.inr.inj heq)]
      rwa [Ask.ofOption, if_neg hvalued] at hhears
  · next valued c v hoption hrest =>
    have hhears := hears_attached h
    by_cases hvalued : valued = .output
    · subst hvalued
      have hequals := List.head_dropWhile_not (· ≠ '=') (l := word)
        (by rw [hrest]; exact List.cons_ne_nil c v)
      simp only [hrest, List.head_cons, decide_eq_false_iff_not, not_not] at hequals
      rw [hword hoption, hrest, hequals, ← List.singleton_append, ← List.append_assoc]
      exact Ask.ofWord_append v ▸ hhears
    · rw [hother hoption fun heq => hvalued (Sum.inr.inj heq)]
      rwa [Ask.ofOption, if_neg hvalued] at hhears
  · cases h

theorem shortOption?_eq_valued_iff {c : Char} {valued : Valued} :
    shortOption? c = some (.inr valued) ↔ c = 'o' ∧ valued = .output := by
  constructor
  · intro h
    unfold shortOption? at h
    split at h <;> simp_all
  · rintro ⟨rfl, rfl⟩
    rfl

theorem hears_short {letters : List Char} (hne : letters ≠ [])
    (h : level.short command letters = .ok next) : level.Hears (Ask.ofLetters letters) next := by
  induction letters generalizing level with
  | nil => exact absurd rfl hne
  | cons c rest ih =>
    rw [short] at h
    split at h
    · next f hflag =>
      have hletter : c ≠ 'o' := by
        rintro rfl
        cases hflag
      rw [Ask.ofLetters_cons_of_ne hletter]
      obtain ⟨between, hbetween, h⟩ := Steps.bind_eq_ok.mp h
      have hhears := hears_flag hbetween
      by_cases hrest : rest = []
      · subst hrest
        rw [short, Except.ok.injEq] at h
        exact h ▸ hhears
      · exact hhears.after (ih hrest h)
    · next valued hvalued =>
      obtain ⟨rfl, rfl⟩ := shortOption?_eq_valued_iff.mp hvalued
      split at h
      · exact hears_opened h
      · exact hears_attached h
      · next hempty hequals =>
        have hletters : Ask.ofLetters ('o' :: rest) = .named (String.ofList rest) := by
          rw [Ask.ofLetters]
          · exact hempty
          · exact hequals
        rw [hletters]
        exact hears_attached h
    · cases h

/-- **What one argument tells a level.** The rest of the arguments is heard by the next. -/
theorem told_argument {arg : String} (hdash : arg ≠ "--")
    (h : level.argument command false arg = .ok next) (rest : List String) :
    next.told ++ askedFrom next.waits rest
      = level.told ++ askedFrom level.waits (arg :: rest) := by
  have hsays : ∀ {ask : Ask}, level.Hears ask next → Ask.ofArgument arg = ask →
      next.told ++ askedFrom next.waits rest
        = level.told ++ askedFrom level.waits (arg :: rest) := by
    rintro ask hhears rfl
    rw [hhears.told, hhears.waits, hhears.ready, askedFrom, if_neg hdash, List.append_assoc]
  unfold argument at h
  rw [if_neg Bool.false_ne_true] at h
  split at h
  · next word harg =>
    refine hsays (hears_long h) ?_
    simp only [Ask.ofArgument, harg]
  · next c letters hword harg =>
    exact hsays (hears_short (List.cons_ne_nil c letters) h) (Ask.ofArgument_of_letters hword harg)
  · next hword hletters =>
    have hnothing := Ask.ofArgument_of_positional hword hletters
    split at h
    · next hopen =>
      cases h
      obtain ⟨htold, hwaits⟩ := told_filled (v := arg) hopen
      rw [htold, hwaits, List.append_assoc]
      cases level.waits with
      | false =>
        rw [askedFrom, if_neg hdash, hnothing]
        rfl
      | true => rfl
    · exact hsays (hears_positional h) hnothing

end Level

/-! ## What all levels were told -/

section Levels

variable {fallback : Option String} {command : Command} {level : Level} {args : List String}
  {task : Task} {found : List Level}

/-- The names of the formats that levels have. -/
def names (found : List Level) : List String :=
  (found.filterMap Level.output).map Format.name

/-- Levels without a format can rely on the one from the environment. -/
def Covered (fallback : Option String) (found : List Level) : Prop :=
  found ≠ [] ∧ ∀ level ∈ found, level.output = none →
    ∀ name, fallback = some name → ∃ format, Format.ofName? name = some format

theorem names_cons (level : Level) (found : List Level) :
    names (level :: found) = (level.output.map Format.name).toList ++ names found := by
  rw [names, List.filterMap_cons]
  cases level.output <;> rfl

/-- At the end of a level nothing is left to look at, and what it can rely on has been. -/
theorem closed_eq_ok {after : Level} (h : closed fallback command level = .ok after) :
    level.waits = false ∧ (after.output.map Format.name).toList = level.told ∧
      (after.output = none →
        ∀ name, fallback = some name → ∃ format, Format.ofName? name = some format) := by
  obtain ⟨settled, hsettle, h⟩ := Steps.bind_eq_ok.mp h
  obtain ⟨hhears, hpending⟩ := Level.hears_settle hsettle
  have htold : (settled.output.map Format.name).toList = level.told := by
    rw [← Level.told_of_pending hpending, hhears.told, Ask.names_nothing, List.append_nil]
  refine ⟨hhears.ready, ?_⟩
  dsimp only at h
  split at h
  · split at h
    · next name =>
      split at h
      · cases h
      · next hvalid =>
        cases h
        refine ⟨htold, fun _ name' heq => ?_⟩
        cases heq
        exact Option.ne_none_iff_exists'.mp fun hnone => hvalid (Option.isNone_iff_eq_none.mpr hnone)
    · next hnone =>
      cases h
      exact ⟨htold, fun _ name heq => absurd heq (hnone name)⟩
  · next hsome =>
    cases h
    exact ⟨htold, fun hnone => absurd (Option.isNone_iff_eq_none.mpr hnone) hsome⟩

/-- The levels above and below were each told what they have. -/
theorem names_closed {after : Level} (h : closed fallback command level = .ok after)
    (hcovered : Covered fallback found) :
    level.waits = false ∧ names (after :: found) = level.told ++ names found ∧
      Covered fallback (after :: found) := by
  obtain ⟨hwaits, htold, hafter⟩ := closed_eq_ok h
  refine ⟨hwaits, by rw [names_cons, htold], List.cons_ne_nil _ _, ?_⟩
  exact List.forall_mem_cons.mpr ⟨hafter, hcovered.2⟩

theorem names_leaf (h : leaf fallback command level = .ok (task, found)) :
    level.waits = false ∧ names found = level.told ∧ Covered fallback found := by
  obtain ⟨after, hafter, h⟩ := Steps.bind_eq_ok.mp h
  obtain ⟨hwaits, htold, hcovered⟩ := closed_eq_ok hafter
  split at h
  · cases h
    refine ⟨hwaits, ?_, List.cons_ne_nil _ _, List.forall_mem_singleton.mpr hcovered⟩
    rw [names_cons, htold]
    exact List.append_nil _
  · split at h
    · cases h
    · cases h

/-- After a double dash no format is asked for. -/
theorem names_of_trailing (h : levels fallback command true level args = .ok (task, found)) :
    level.waits = false ∧ names found = level.told ∧ Covered fallback found := by
  induction args generalizing level with
  | nil => exact names_leaf h
  | cons arg rest ih =>
    rw [levels] at h
    simp only [if_true] at h
    obtain ⟨next, hnext, h⟩ := Steps.bind_eq_ok.mp h
    have hhears := Level.hears_positional hnext
    obtain ⟨-, hnames, hcovered⟩ := ih h
    refine ⟨hhears.ready, ?_, hcovered⟩
    rw [hnames, hhears.told, Ask.names_nothing, List.append_nil]

/-- The names of commands are no options. -/
theorem ofArgument_of_lookup {name : String} {below : Command}
    (h : command.below.lookup name = some below) :
    name ≠ "--" ∧ Ask.ofArgument name = .nothing := by
  have hbelow : ∀ entry ∈ command.below, entry.1 ≠ "--" ∧ Ask.ofArgument entry.1 = .nothing := by
    cases command <;> decide +kernel
  obtain ⟨front, back, hentries, -⟩ := List.lookup_eq_some_iff.mp h
  exact hbelow (name, below) (by simp [hentries])

/-- **The levels were told the formats that the arguments ask for.** -/
theorem names_of_levels (h : levels fallback command false level args = .ok (task, found)) :
    names found = level.told ++ askedFrom level.waits args ∧ Covered fallback found := by
  induction args generalizing command level task found with
  | nil =>
    obtain ⟨hwaits, hnames, hcovered⟩ := names_leaf h
    rw [hwaits, hnames, askedFrom, List.append_nil]
    exact ⟨rfl, hcovered⟩
  | cons arg rest ih =>
    rw [levels] at h
    simp only [Bool.false_eq_true, if_false] at h
    split at h
    · cases h
    · split at h
      · next below hbelow =>
        obtain ⟨⟨task, more⟩, hmore, h⟩ := Steps.bind_eq_ok.mp h
        obtain ⟨after, hafter, h⟩ := Steps.bind_eq_ok.mp h
        cases h
        obtain ⟨hnames, hcovered⟩ := ih hmore
        obtain ⟨hwaits, hall, hallCovered⟩ := names_closed hafter hcovered
        refine ⟨?_, hallCovered⟩
        have hlookup : command.below.lookup arg = some below := by
          split at hbelow
          · cases hbelow
          · exact hbelow
        obtain ⟨hdash, hnothing⟩ := ofArgument_of_lookup hlookup
        rw [hall, hnames, hwaits, askedFrom, if_neg hdash, hnothing]
        rfl
      · split at h
        · next hdash =>
          obtain ⟨hwaits, hnames, hcovered⟩ := names_of_trailing h
          rw [hnames, hwaits, askedFrom, if_pos (beq_iff_eq.mp hdash), List.append_nil]
          exact ⟨rfl, hcovered⟩
        · next hdash =>
          obtain ⟨next, hnext, h⟩ := Steps.bind_eq_ok.mp h
          obtain ⟨hnames, hcovered⟩ := ih h
          have hne : arg ≠ "--" := fun heq => hdash (beq_iff_eq.mpr heq)
          exact ⟨hnames.trans (Level.told_argument hne hnext rest), hcovered⟩

end Levels

/-! ## The format of an invocation -/

/-- The format that is asked for: the last one of the arguments, or else the one of the
environment. -/
inductive Requests (args : List String) (fallback : Option String) : Option Format → Prop
  | argument {format : Format} (h : (asked args).getLast? = some format.name) :
      Requests args fallback (some format)
  | fallback {format : Format} (hargs : asked args = []) (h : fallback = some format.name) :
      Requests args fallback (some format)
  | nothing (hargs : asked args = []) (h : fallback = none) : Requests args fallback none

/-- **An invocation has the format that is asked for.** -/
theorem requests_of_ofArguments {args : List String} {fallback : Option String}
    {invocation : Invocation} (h : Invocation.ofArguments fallback args = .ok invocation) :
    Requests args fallback invocation.output := by
  obtain ⟨⟨task, found⟩, hlevels, h⟩ := Steps.bind_eq_ok.mp h
  cases h
  obtain ⟨hnames, hne, hcovered⟩ := names_of_levels hlevels
  have hasked : asked args = names found := hnames.symm
  show Requests args fallback ((deepest found Level.output).or (fallback.bind Format.ofName?))
  cases hdeepest : deepest found Level.output with
  | some format =>
    refine .argument ?_
    rw [hasked, names, List.getLast?_map]
    exact congrArg (Option.map Format.name) hdeepest
  | none =>
    have hformats : found.filterMap Level.output = [] := List.getLast?_eq_none_iff.mp hdeepest
    have hnone : asked args = [] := by
      rw [hasked, names, hformats]
      rfl
    cases fallback with
    | none => exact .nothing hnone rfl
    | some name =>
      obtain ⟨level, hlevel⟩ := List.exists_mem_of_ne_nil found hne
      have hunset := List.filterMap_eq_nil_iff.mp hformats level hlevel
      obtain ⟨format, hformat⟩ := hcovered level hlevel hunset name rfl
      rw [Option.none_or, Option.bind_some, hformat]
      exact .fallback hnone (congrArg some (Format.name_of_ofName? hformat).symm)

end SiteConfig.CommandLine
