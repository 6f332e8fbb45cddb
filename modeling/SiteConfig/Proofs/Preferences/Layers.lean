import SiteConfig.Preferences
import SiteConfig.Proofs.Preferences.Variable
import SiteConfig.Proofs.Steps

/-!
# What layers of preferences amount to

Layers are merged key by key, so that what they amount to can be said key by key too. Only what
stands under `defaults` in the end decides which format is preferred.

- `Preferences.get?_mergedFields`: what two merged objects have under a key.
- `Preferences.exists_environmentLayer`: the layer of an environment is an object in order.
- `Preferences.load_eq_ok_iff`: what is loaded is a name that was found, put in lower case.
- `Preferences.Prefers file environment format`: the layers prefer the format.
  `Preferences.format_eq_of_prefers`, `Preferences.format_eq_json`: so it is taken, and JSON if there
  is none.
- `Preferences.load_of_sets`: where the environment says something, the file has no part in it.
- `Preferences.load_of_isApart`: variables for other keys have no part either.
-/

namespace SiteConfig.Preferences

/-! ## Merging -/

/-- What is under a key once what is there later is merged over what was there. -/
def overlaid : Option Value → Option Value → Option Value
  | some w, some v => some (merged w v)
  | none, some v => some v
  | w?, none => w?

@[simp] theorem overlaid_none (w? : Option Value) : overlaid w? none = w? := by
  cases w? <;> rfl

section Fields

variable {old old' new : Fields} {key : String}

/-- One field of the later object changes what is under its own key. -/
theorem get?_mergedFields_cons (old new : Fields) (key k : String) (v : Value) :
    ∃ between : Fields, mergedFields old ((k, v) :: new) = mergedFields between new ∧
      (old.Sorted → between.Sorted) ∧
      between.get? key = if key = k then overlaid (old.get? key) (some v) else old.get? key := by
  refine ⟨_, by rw [mergedFields], fun hold => hold.insert _ _, ?_⟩
  rw [Fields.get?_insert]
  by_cases hkey : key = k
  · rw [if_pos hkey, if_pos hkey, hkey]
    cases old.get? k <;> rfl
  · rw [if_neg hkey, if_neg hkey]

theorem get?_mergedFields_of_not_mem (hkey : key ∉ new.keys) :
    Fields.get? (mergedFields old new) key = old.get? key := by
  induction new generalizing old with
  | nil => rw [mergedFields]
  | cons field rest ih =>
    obtain ⟨k, v⟩ := field
    obtain ⟨hne, hrest⟩ := not_or.mp (List.mem_cons.not.mp hkey)
    obtain ⟨between, heq, -, hget⟩ := get?_mergedFields_cons old rest key k v
    rw [heq, ih hrest, hget, if_neg hne]

/-- **Objects are merged key by key.** -/
theorem get?_mergedFields (hnodup : new.keys.Nodup) :
    Fields.get? (mergedFields old new) key = overlaid (old.get? key) (new.get? key) := by
  induction new generalizing old with
  | nil =>
    rw [mergedFields, Fields.get?_nil, overlaid_none]
  | cons field rest ih =>
    obtain ⟨k, v⟩ := field
    obtain ⟨hk, hrest⟩ := List.nodup_cons.mp hnodup
    obtain ⟨between, heq, -, hget⟩ := get?_mergedFields_cons old rest key k v
    rw [heq, Fields.get?_cons]
    by_cases hkey : key = k
    · -- The rest has nothing more for this key.
      rw [get?_mergedFields_of_not_mem (hkey ▸ hk), hget, if_pos hkey, if_pos hkey]
    · rw [ih hrest, hget, if_neg hkey, if_neg hkey]

/-- What is under a key afterwards depends on nothing but what was under it. -/
theorem get?_mergedFields_congr (h : old.get? key = old'.get? key) :
    Fields.get? (mergedFields old new) key = Fields.get? (mergedFields old' new) key := by
  induction new generalizing old old' with
  | nil => rwa [mergedFields, mergedFields]
  | cons field rest ih =>
    obtain ⟨k, v⟩ := field
    obtain ⟨between, heq, -, hget⟩ := get?_mergedFields_cons old rest key k v
    obtain ⟨between', heq', -, hget'⟩ := get?_mergedFields_cons old' rest key k v
    rw [heq, heq']
    refine ih ?_
    rw [hget, hget', h]

end Fields

/-- What an object has under a key; another value has nothing. -/
def under? (key : String) : Value → Option Value
  | .object fields => Fields.get? fields key
  | _ => none

/-- Unless both are objects, the later value takes the place of what was there. -/
theorem merged_eq_right {old new : Value}
    (h : ∀ a b : Fields, old = .object a → new ≠ .object b) : merged old new = new := by
  rw [merged]
  exact h

/-- An object that is merged over a value makes an object, key by key. -/
theorem exists_merged_object (v : Value) {new : Fields} (hnodup : new.keys.Nodup) :
    ∃ fields : Fields, merged v (.object new) = .object fields ∧
      ∀ key, fields.get? key = overlaid (under? key v) (new.get? key) := by
  cases v with
  | object old =>
    refine ⟨mergedFields old new, by rw [merged], fun key => ?_⟩
    exact get?_mergedFields hnodup
  | _ =>
    refine ⟨new, merged_eq_right fun _ _ => Value.noConfusion, fun key => ?_⟩
    cases new.get? key <;> rfl

theorem overlaid_some (w? : Option Value) (v : Value) :
    overlaid w? (some v) = some (merged (w?.getD .null) v) := by
  cases w? with
  | none => exact congrArg some (merged_eq_right fun _ _ => Value.noConfusion).symm
  | some w => rfl

/-- Only a text makes a text. -/
theorem merged_eq_text_iff {old new : Value} {name : String} :
    merged old new = .text name ↔ new = .text name := by
  by_cases hobject : ∃ fields : Fields, new = .object fields
  · obtain ⟨fields, rfl⟩ := hobject
    cases old with
    | object =>
      rw [merged]
      simp
    | _ => rw [merged_eq_right fun _ _ => Value.noConfusion]
  · rw [merged_eq_right fun _ fields _ heq => hobject ⟨fields, heq⟩]

mutual

/-- What is in order stays so when something in order is merged over it. -/
theorem inOrder_merged : ∀ new old : Value, old.InOrder → new.InOrder → (merged old new).InOrder
  | .object new, old => by
    intro hold hnew
    cases old with
    | object old =>
      rw [merged]
      exact inOrder_mergedFields new old hold hnew.of_mem
    | _ => rwa [merged_eq_right fun _ _ => Value.noConfusion]
  | .null, _ | .bool _, _ | .int _, _ | .float _, _ | .text _, _ | .list _, _ => by
    intro _ hnew
    rwa [merged_eq_right fun _ _ _ => Value.noConfusion]

theorem inOrder_mergedFields : ∀ (new : List (String × Value)) (old : Fields),
    (Value.object old).InOrder → (∀ field ∈ new, field.2.InOrder) →
      (Value.object (mergedFields old new)).InOrder
  | [], _ => by
    intro hold _
    rwa [mergedFields]
  | (key, v) :: rest, old => by
    intro hold hnew
    obtain ⟨hv, hrest⟩ := List.forall_mem_cons.mp hnew
    rw [mergedFields]
    refine inOrder_mergedFields rest _ (hold.insert key ?_) hrest
    split
    · next w hw => exact inOrder_merged v w (hold.of_get? hw) hv
    · exact hv

end

/-! ## The environment -/

section Environment

variable {key name : String} {left right : Fields}

/-- A value in order stays so inside objects of one key each. -/
theorem inOrder_nested {v : Value} (h : v.InOrder) (path : List String) :
    (Variable.nested path v).InOrder := by
  induction path with
  | nil => exact h
  | cons key rest ih => exact .object (List.pairwise_singleton _ _) (List.forall_mem_singleton.mpr ih)

/-- The layer of a variable is an object in order. -/
theorem exists_of_variableLayer? {value : String} {layer : Value}
    (h : variableLayer? name value = some layer) :
    ∃ fields : Fields, layer = .object fields ∧ layer.InOrder := by
  obtain ⟨path, hpath, rfl⟩ := Option.map_eq_some_iff.mp h
  obtain ⟨first, more, rfl⟩ := Variable.exists_cons_of_path? hpath
  exact ⟨_, rfl, inOrder_nested (Variable.inOrder_content value) (first :: more)⟩

/-- A variable leaves an object in order what it is. -/
theorem exists_withVariable (hleft : (Value.object left).InOrder) (entry : String × String) :
    ∃ after : Fields, withVariable (.object left) entry = .object after ∧
      (Value.object after).InOrder := by
  unfold withVariable
  cases hlayer : variableLayer? entry.1 entry.2 with
  | none => exact ⟨left, rfl, hleft⟩
  | some layer =>
    obtain ⟨new, rfl, hnew⟩ := exists_of_variableLayer? hlayer
    refine ⟨mergedFields left new, ?_, inOrder_mergedFields new left hleft hnew.of_mem⟩
    rw [Option.map_some, Option.getD_some, merged]

/-- What a variable leaves under a key depends on nothing but what was under it. -/
theorem under?_withVariable_congr (h : left.get? key = right.get? key)
    (entry : String × String) :
    under? key (withVariable (.object left) entry)
      = under? key (withVariable (.object right) entry) := by
  unfold withVariable
  cases hlayer : variableLayer? entry.1 entry.2 with
  | none => exact h
  | some layer =>
    obtain ⟨new, rfl, -⟩ := exists_of_variableLayer? hlayer
    rw [Option.map_some, Option.map_some, Option.getD_some, Option.getD_some, merged, merged]
    exact get?_mergedFields_congr h

/-- A variable for another key leaves alone what is under the key. -/
theorem under?_withVariable_of_isApart (h : Variable.IsApart key name) (value : String)
    (left : Fields) :
    under? key (withVariable (.object left) (name, value)) = left.get? key := by
  obtain ⟨first, more, hpath, hne⟩ := Variable.path?_of_isApart h
  have hlayer : variableLayer? name value
      = some (.object [(first, Variable.nested more (Variable.content value))]) := by
    rw [variableLayer?, hpath]
    rfl
  rw [withVariable, hlayer, Option.map_some, Option.getD_some, merged]
  refine get?_mergedFields_of_not_mem ?_
  simpa [Fields.keys] using hne.symm

/-- The variables of an environment leave an object in order what it is, one after the other. -/
theorem exists_foldl_withVariable (hleft : (Value.object left).InOrder)
    (environment : List (String × String)) :
    ∃ after : Fields, environment.foldl withVariable (.object left) = .object after ∧
      (Value.object after).InOrder := by
  induction environment generalizing left with
  | nil => exact ⟨left, rfl, hleft⟩
  | cons entry rest ih =>
    obtain ⟨between, hbetween, horder⟩ := exists_withVariable hleft entry
    rw [List.foldl_cons, hbetween]
    exact ih horder

/-- **The layer of an environment is an object in order.** -/
theorem exists_environmentLayer (environment : List (String × String)) :
    ∃ fields : Fields, environmentLayer environment = .object fields ∧
      (Value.object fields).InOrder := by
  have hempty : (Value.object []).InOrder :=
    .object List.Pairwise.nil fun field hfield => absurd hfield List.not_mem_nil
  exact exists_foldl_withVariable hempty environment

theorem under?_foldl_congr (hleft : (Value.object left).InOrder)
    (hright : (Value.object right).InOrder) (h : left.get? key = right.get? key)
    (environment : List (String × String)) :
    under? key (environment.foldl withVariable (.object left))
      = under? key (environment.foldl withVariable (.object right)) := by
  induction environment generalizing left right with
  | nil => exact h
  | cons entry rest ih =>
    obtain ⟨left', hleft', hleftOrder⟩ := exists_withVariable hleft entry
    obtain ⟨right', hright', hrightOrder⟩ := exists_withVariable hright entry
    have hunder := under?_withVariable_congr h entry
    rw [hleft', hright'] at hunder
    rw [List.foldl_cons, List.foldl_cons, hleft', hright']
    exact ih hleftOrder hrightOrder hunder

/-- **A variable for another key does not count**, wherever it stands in the environment. -/
theorem under?_environmentLayer_of_isApart (h : Variable.IsApart key name) (value : String)
    (before after : List (String × String)) :
    under? key (environmentLayer (before ++ (name, value) :: after))
      = under? key (environmentLayer (before ++ after)) := by
  obtain ⟨left, hleft, horder⟩ := exists_environmentLayer before
  obtain ⟨right, hright, hrightOrder⟩ := exists_withVariable horder (name, value)
  have hunder := under?_withVariable_of_isApart h value left
  have hfold : before.foldl withVariable (.object []) = .object left := hleft
  rw [hright] at hunder
  rw [environmentLayer, environmentLayer, List.foldl_append, List.foldl_append, hfold,
    List.foldl_cons, hright]
  exact under?_foldl_congr hrightOrder horder hunder after

end Environment

/-! ## Loading -/

section Loading

variable {file : Option String} {environment : List (String × String)} {layer : Value}

/-- The layers prefer the format: they can be merged, and the name that they amount to is that of
the format, in whatever case. -/
def Prefers (file : Option String) (environment : List (String × String)) (format : Format) :
    Prop :=
  ∃ layer name, fileLayer file = .ok layer ∧
    outputName (merged (merged preset layer) (environmentLayer environment)) = .ok name ∧
    Text.lowered name = format.name

theorem validated_eq_ok_iff {name : String} {preferred : Preferred} :
    validated name = .ok preferred ↔
      Text.lowered name ∈ formatNames ∧ preferred.name = Text.lowered name := by
  obtain ⟨found⟩ := preferred
  unfold validated
  dsimp only
  split
  · next h => simp [h, eq_comm]
  · next h => simp [h]

/-- **What is loaded is the name that the layers amount to**, in lower case. -/
theorem load_eq_ok_iff {preferred : Preferred} :
    load file environment = .ok preferred ↔
      ∃ layer name, fileLayer file = .ok layer ∧
        outputName (merged (merged preset layer) (environmentLayer environment)) = .ok name ∧
        Text.lowered name ∈ formatNames ∧ preferred.name = Text.lowered name := by
  simp only [load, Steps.bind_eq_ok, validated_eq_ok_iff, exists_and_left]

/-- The names that are checked against are those of the formats, in lower case. -/
theorem mem_formatNames_iff {name : String} :
    name ∈ formatNames ↔ ∃ format : Format, format.name = name := by
  constructor
  · intro h
    simp only [formatNames, List.mem_cons, List.not_mem_nil, or_false] at h
    rcases h with rfl | rfl | rfl
    · exact ⟨.json, rfl⟩
    · exact ⟨.yaml, rfl⟩
    · exact ⟨.toml, rfl⟩
  · rintro ⟨format, rfl⟩
    cases format <;> decide

theorem ofNameInAnyCase?_name (format : Format) :
    Format.ofNameInAnyCase? format.name = some format := by
  cases format <;> decide +kernel

theorem lowered_name (format : Format) : Text.lowered format.name = format.name := by
  cases format <;> decide +kernel

/-- What is loaded is a format's own name. -/
theorem exists_name_of_load {preferred : Preferred} (h : load file environment = .ok preferred) :
    ∃ format : Format, format.name = preferred.name := by
  obtain ⟨layer, name, -, -, hmem, hname⟩ := load_eq_ok_iff.mp h
  exact hname ▸ mem_formatNames_iff.mp hmem

/-- What is preferred for want of anything better has the name of a format too. -/
theorem exists_name_of_loadOrPreset (file : Option String)
    (environment : List (String × String)) :
    ∃ format : Format, format.name = (loadOrPreset file environment).name := by
  unfold loadOrPreset
  split
  · next h => exact exists_name_of_load h
  · exact ⟨.json, rfl⟩

/-- **The format that the layers prefer is taken.** -/
theorem format_eq_of_prefers {preferred : Format} (h : Prefers file environment preferred) :
    format file environment = preferred := by
  obtain ⟨layer, name, hlayer, hname, hlowered⟩ := h
  have hload : load file environment = .ok ⟨preferred.name⟩ :=
    load_eq_ok_iff.mpr ⟨layer, name, hlayer, hname,
      hlowered ▸ mem_formatNames_iff.mpr ⟨preferred, rfl⟩, hlowered.symm⟩
  rw [format, loadOrPreset, hload, ofNameInAnyCase?_name, Option.getD_some]

/-- If they prefer none, JSON is. -/
theorem format_eq_json (h : ∀ preferred, ¬ Prefers file environment preferred) :
    format file environment = .json := by
  cases hload : load file environment with
  | error trouble =>
    rw [format, loadOrPreset, hload]
    exact congrArg (Option.getD · .json) (ofNameInAnyCase?_name .json)
  | ok found =>
    obtain ⟨layer, name, hlayer, hname, hmem, -⟩ := load_eq_ok_iff.mp hload
    obtain ⟨preferred, hpreferred⟩ := mem_formatNames_iff.mp hmem
    exact absurd ⟨layer, name, hlayer, hname, hpreferred.symm⟩ (h preferred)

/-! ### What counts of the environment -/

theorem outputName_congr {left right : Fields}
    (h : left.get? "defaults" = right.get? "defaults") :
    outputName (.object left) = outputName (.object right) := by
  unfold outputName
  simp only [h]

/-- Of a layer in order that is merged over others, only what is under `defaults` counts. -/
theorem outputName_merged_congr {left right : Fields} (hleft : left.keys.Nodup)
    (hright : right.keys.Nodup) (h : left.get? "defaults" = right.get? "defaults")
    (lower : Value) :
    outputName (merged lower (.object left)) = outputName (merged lower (.object right)) := by
  obtain ⟨fields, hfields, hget⟩ := exists_merged_object lower hleft
  obtain ⟨fields', hfields', hget'⟩ := exists_merged_object lower hright
  rw [hfields, hfields']
  refine outputName_congr ?_
  rw [hget, hget', h]

/-- **Variables for other keys than `defaults` change nothing.** -/
theorem load_of_isApart {name : String} (h : Variable.IsApart "defaults" name) (value : String)
    (file : Option String) (before after : List (String × String)) :
    load file (before ++ (name, value) :: after) = load file (before ++ after) := by
  have hunder := under?_environmentLayer_of_isApart h value before after
  obtain ⟨left, hleft, hleftOrder⟩ :=
    exists_environmentLayer (before ++ (name, value) :: after)
  obtain ⟨right, hright, hrightOrder⟩ := exists_environmentLayer (before ++ after)
  rw [hleft, hright] at hunder
  unfold load
  cases fileLayer file with
  | error trouble => rfl
  | ok layer =>
    rw [hleft, hright]
    exact congrArg (· >>= validated)
      (outputName_merged_congr hleftOrder.sorted.nodup hrightOrder.sorted.nodup hunder _)

/-- The environment has a value for the preferred format. -/
def Sets (environment : List (String × String)) (v : Value) : Prop :=
  ∃ fields defaults : Fields, environmentLayer environment = .object fields ∧
    fields.get? "defaults" = some (.object defaults) ∧ defaults.get? "output" = some v

theorem outputName_eq_ok_iff {fields defaults : Fields}
    (hdefaults : fields.get? "defaults" = some (.object defaults)) {v : Value}
    (hv : defaults.get? "output" = some v) {name : String} :
    outputName (.object fields) = .ok name ↔ v = .text name := by
  unfold outputName
  simp only [hdefaults, hv]
  cases v with
  | text s => simp
  | _ => simp

/-- What the environment has for the preferred format is the name that is found, if it is a text,
whatever stands below. -/
theorem outputName_of_sets {v : Value} (h : Sets environment v) (lower : Value) {name : String} :
    outputName (merged lower (environmentLayer environment)) = .ok name ↔ v = .text name := by
  obtain ⟨fields, defaults, hlayer, hdefaults, hv⟩ := h
  obtain ⟨fields', hfields', horder⟩ := exists_environmentLayer environment
  cases hlayer.symm.trans hfields'
  obtain ⟨outer, houter, hgetOuter⟩ := exists_merged_object lower horder.sorted.nodup
  have hunder := hgetOuter "defaults"
  rw [hdefaults, overlaid_some] at hunder
  obtain ⟨inner, hinner, hgetInner⟩ := exists_merged_object
    ((under? "defaults" lower).getD .null) (horder.of_get? hdefaults).sorted.nodup
  have hget := hgetInner "output"
  rw [hv, overlaid_some] at hget
  rw [hinner] at hunder
  rw [hlayer, houter, outputName_eq_ok_iff hunder hget, merged_eq_text_iff]

/-- **What the environment says is all that counts**, if the file can be read at all: it is taken if
it is the name of a format, and else nothing is. -/
theorem load_of_sets (hfile : fileLayer file = .ok layer) {v : Value} (h : Sets environment v)
    {preferred : Preferred} :
    load file environment = .ok preferred ↔
      ∃ name, v = .text name ∧ Text.lowered name ∈ formatNames ∧
        preferred.name = Text.lowered name := by
  rw [load_eq_ok_iff]
  simp only [hfile, Except.ok.injEq, exists_and_left, exists_eq_left', outputName_of_sets h]

end Loading

end SiteConfig.Preferences
