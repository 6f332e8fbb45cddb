import SiteConfig.CommandLine.Run
import SiteConfig.Proofs.CommandLine.Asked
import SiteConfig.Proofs.Preferences.Layers

/-!
# Which format the output has

The arguments, a variable of their own, a file of preferences and the other variables can each name
a format of output. This file says which of them counts, for whatever stands in each.

- `Task.answer? task around`: what a task gives that is rendered in the format.
- `Chosen args around format`: the format that counts, from the first place that names one.
- `Invocation.text_eq_of_chosen`: it is the format of the output.
- `underscoresApart_counts`: underscores are not all that separates the keys in the name of a
  variable.
- `Invocation.format_chosen`: the main statement, for all arguments and whatever surrounds them.
-/

namespace SiteConfig

open Preferences

namespace CommandLine

/-! ## Where the format comes from -/

/-- What a task gives that is rendered in the format of the output. -/
def Task.answer? (task : Task) (around : Surroundings) : Option (Except Failure Value) :=
  match task with
  | .expand file => some (load around file >>= expanded)
  | .flatten file => some (load around file >>= flattened)
  | .encode address mask => some (encoded address mask)
  | .decode cidr legacyMask => some (decoded cidr legacyMask)
  | .schema _ | .completions _ => none

/-- The format that counts: the last one that the arguments ask for, or else the one of the
variable, or else the one that the layers prefer, or else JSON. -/
inductive Chosen (args : List String) (around : Surroundings) : Format → Prop
  | argument {format : Format} (h : (asked args).getLast? = some format.name) :
      Chosen args around format
  | environment {format : Format} (hargs : asked args = [])
      (h : around.environment.lookup "APPSVC_OUTPUT" = some format.name) :
      Chosen args around format
  | preferred {format : Format} (hargs : asked args = [])
      (hvariable : around.environment.lookup "APPSVC_OUTPUT" = none)
      (h : Prefers around.preferences around.environment format) : Chosen args around format
  | otherwise (hargs : asked args = [])
      (hvariable : around.environment.lookup "APPSVC_OUTPUT" = none)
      (h : ∀ format, ¬ Prefers around.preferences around.environment format) :
      Chosen args around .json

namespace Invocation

variable {args : List String} {around : Surroundings} {invocation : Invocation}

/-- The format of an invocation is the one that counts. -/
theorem chosen_format
    (h : ofArguments (around.environment.lookup outputVariable) args = .ok invocation) :
    Chosen args around (invocation.format around) := by
  have hrequests := requests_of_ofArguments h
  unfold format
  generalize invocation.output = output at hrequests
  cases hrequests with
  | argument hargs => exact .argument hargs
  | fallback hargs hvariable => exact .environment hargs hvariable
  | nothing hargs hvariable =>
    rw [Option.getD_none]
    by_cases hprefers : ∃ preferred,
        Prefers around.preferences around.environment preferred
    · obtain ⟨preferred, hpreferred⟩ := hprefers
      rw [format_eq_of_prefers hpreferred]
      exact .preferred hargs hvariable hpreferred
    · have hnone := not_exists.mp hprefers
      rw [format_eq_json hnone]
      exact .otherwise hargs hvariable hnone

/-- The text of an invocation is its answer in the format of the invocation. -/
theorem text_eq {answer : Except Failure Value} (h : invocation.task.answer? around = some answer) :
    invocation.text around = answer >>= rendered (invocation.format around) := by
  obtain ⟨task, output, verbose, quiet⟩ := invocation
  cases task with
  | expand file =>
    cases h
    exact (bind_assoc (load around file) expanded _).symm
  | flatten file =>
    cases h
    exact (bind_assoc (load around file) flattened _).symm
  | encode address mask =>
    cases h
    rfl
  | decode cidr legacyMask =>
    cases h
    rfl
  | schema | completions => cases h

end Invocation

/-- The format that counts, in one go. -/
theorem Chosen.eq {args : List String} {around : Surroundings} {format : Format}
    (h : Chosen args around format) :
    format = (((asked args).getLast?.or (around.environment.lookup "APPSVC_OUTPUT")).bind
      Format.ofName?).getD (Preferences.format around.preferences around.environment) := by
  cases h with
  | argument hargs => rw [hargs, Option.some_or, Option.bind_some, Format.ofName?_name]; rfl
  | environment hargs hvariable =>
    rw [hargs, hvariable, List.getLast?_nil, Option.none_or, Option.bind_some,
      Format.ofName?_name]
    rfl
  | preferred hargs hvariable hprefers =>
    rw [hargs, hvariable, format_eq_of_prefers hprefers]
    rfl
  | otherwise hargs hvariable hnever =>
    rw [hargs, hvariable, format_eq_json hnever]
    rfl

/-- **One place decides, and it names one format.** -/
theorem Chosen.unique {args : List String} {around : Surroundings} {format other : Format}
    (h : Chosen args around format) (k : Chosen args around other) : other = format :=
  k.eq.trans h.eq.symm

/-! ## The names of variables -/

/-- Between underscores, the name has parts behind the opening of all variables, none of which is
empty, and the first is not `key`, in whatever case. -/
def UnderscoresApart (key name : String) : Prop :=
  ∃ rest first more, name.toList = "APPSVC_".toList ++ rest ∧
    rest.splitOn '_' = first :: more ∧ (∀ part ∈ first :: more, part ≠ []) ∧
    first.map Char.toLower ≠ key.toList

/-- Not only underscores separate the keys in the name of a variable, and white space around them
does not count: each of these variables is the one for the preferred format, though its first part
between underscores is not `DEFAULTS`. -/
theorem underscoresApart_counts :
    Preferences.load none [] = .ok ⟨"json"⟩ ∧
      (UnderscoresApart "defaults" "APPSVC_DEFAULTS.OUTPUT" ∧
        Preferences.load none [("APPSVC_DEFAULTS.OUTPUT", "yaml")] = .ok ⟨"yaml"⟩) ∧
      UnderscoresApart "defaults" "APPSVC_ DEFAULTS_OUTPUT" ∧
        Preferences.load none [("APPSVC_ DEFAULTS_OUTPUT", "yaml")] = .ok ⟨"yaml"⟩ := by
  refine ⟨by decide +kernel, ⟨?_, by decide +kernel⟩, ?_, by decide +kernel⟩
  · refine ⟨"DEFAULTS.OUTPUT".toList, "DEFAULTS.OUTPUT".toList, [], ?_⟩
    decide +kernel
  · refine ⟨" DEFAULTS_OUTPUT".toList, " DEFAULTS".toList, ["OUTPUT".toList], ?_⟩
    decide +kernel

/-- The variable that the command line looks at has no part in the preferences. -/
theorem isApart_outputVariable : Variable.IsApart "defaults" outputVariable :=
  ⟨"APPSVC_".toList, "OUTPUT".toList, "OUTPUT".toList, [], by decide +kernel⟩

namespace Invocation

/-- **Which format the output has.** The first of the four places that names one decides. What is
loaded is always the name of a format, so that none has to be made up for it; only what the layers
amount to is checked; and variables for other keys do not count. -/
theorem format_chosen :
    (∀ args around invocation answer,
      ofArguments (around.environment.lookup outputVariable) args = .ok invocation →
      invocation.task.answer? around = some answer →
      ∃ format, Chosen args around format ∧
        (∀ other, Chosen args around other → other = format) ∧
        invocation.text around = answer >>= rendered format) ∧
    (∀ file environment preferred, Preferences.load file environment = .ok preferred →
      preferred.name ∈ formatNames ∧ Text.lowered preferred.name = preferred.name) ∧
    (∀ file environment, ∃ format : Format,
      Format.ofNameInAnyCase? (loadOrPreset file environment).name = some format) ∧
    (∀ file environment layer v, fileLayer file = .ok layer → Sets environment v →
      ∀ preferred, Preferences.load file environment = .ok preferred ↔
        ∃ name, v = .text name ∧ Text.lowered name ∈ formatNames ∧
          preferred.name = Text.lowered name) ∧
    Variable.IsApart "defaults" outputVariable ∧
    ∀ file before name value after, Variable.IsApart "defaults" name →
      Preferences.load file (before ++ (name, value) :: after)
        = Preferences.load file (before ++ after) := by
  refine ⟨fun args around invocation answer haccepted hanswer => ?_,
    fun file environment preferred hload => ?_, fun file environment => ?_,
    fun file environment layer v hfile hsets preferred => load_of_sets hfile hsets,
    isApart_outputVariable,
    fun file before name value after hapart => load_of_isApart hapart value file before after⟩
  · have hchosen := chosen_format haccepted
    exact ⟨_, hchosen, fun _ => hchosen.unique, text_eq hanswer⟩
  · obtain ⟨format, hformat⟩ := exists_name_of_load hload
    rw [← hformat]
    exact ⟨mem_formatNames_iff.mpr ⟨format, rfl⟩, lowered_name format⟩
  · obtain ⟨format, hformat⟩ := exists_name_of_loadOrPreset file environment
    exact ⟨format, hformat ▸ ofNameInAnyCase?_name format⟩

/-- A variable with the name of a format and a file with a name that is none. -/
def sampleShell : Surroundings where
  file _ := .error .missing
  preferences := some "[defaults]\noutput = \"ini\"\n"
  environment := [("APPSVC_OUTPUT", "toml"), ("APPSVC_DEFAULTS_OUTPUT", "YAML")]

/-- The argument counts before the variable. What the other variable says is loaded though the file
says something that is refused. -/
theorem format_chosen_sampleShell :
    (∃ invocation, ofArguments (some "toml") ["cidr", "encode", "10.0.0.0", "-o", "json"]
        = .ok invocation ∧
      invocation.text sampleShell = (encoded "10.0.0.0" none >>= rendered .json)) ∧
    ∃ preferred, Preferences.load sampleShell.preferences sampleShell.environment = .ok preferred ∧
      preferred.name = "yaml" ∧
      Preferences.load sampleShell.preferences [("APPSVC_DEFAULTS_OUTPUT", "YAML")]
        = .ok preferred := by
  obtain ⟨htext, -, -, hoverrides, hvariable, hapart⟩ := format_chosen
  constructor
  · have haccepted : ofArguments (some "toml") ["cidr", "encode", "10.0.0.0", "-o", "json"]
        = .ok ⟨.encode "10.0.0.0" none, some .json, 0, false⟩ := by
      decide +kernel
    obtain ⟨format, -, hunique, hrendered⟩ :=
      htext ["cidr", "encode", "10.0.0.0", "-o", "json"] sampleShell _ _ haccepted rfl
    have hformat : Format.json = format := hunique .json (.argument (by decide +kernel))
    exact ⟨_, haccepted, hformat ▸ hrendered⟩
  · have hfile : fileLayer sampleShell.preferences
        = .ok (.object [("defaults", .object [("output", .text "ini")])]) := by
      decide +kernel
    have hlayer : environmentLayer [("APPSVC_DEFAULTS_OUTPUT", "YAML")]
        = .object [("defaults", .object [("output", .text "YAML")])] := by
      decide +kernel
    have hsets : Sets [("APPSVC_DEFAULTS_OUTPUT", "YAML")] (.text "YAML") :=
      ⟨_, _, hlayer, rfl, rfl⟩
    have hload := (hoverrides _ _ _ _ hfile hsets ⟨"yaml"⟩).mpr
      ⟨"YAML", rfl, by decide +kernel, by decide +kernel⟩
    have henvironment : sampleShell.environment
        = [] ++ (outputVariable, "toml") :: [("APPSVC_DEFAULTS_OUTPUT", "YAML")] := rfl
    refine ⟨_, ?_, rfl, hload⟩
    rw [henvironment, hapart _ _ _ _ _ hvariable]
    exact hload

end Invocation

end CommandLine

end SiteConfig
