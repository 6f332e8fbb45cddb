import SiteConfig.Preferences.Variable
import SiteConfig.Proofs.Fields

/-!
# What a variable stands for

- `Variable.IsApart key name`: the name is that of a variable whose first key is not `key`.
  `Variable.path?_of_isApart`: the path of such a name starts elsewhere.
- `Value.InOrder v`: every object of the value has its keys in order. `Variable.inOrder_content`: so
  has every value that a variable stands for.
-/

namespace SiteConfig

/-- Every object of the value has its keys in order. -/
inductive Value.InOrder : Value → Prop
  | null : InOrder .null
  | bool (b : Bool) : InOrder (.bool b)
  | int (n : Int) : InOrder (.int n)
  | float (x : Binary64) : InOrder (.float x)
  | text (s : String) : InOrder (.text s)
  | list {items : List Value} (hitems : ∀ v ∈ items, InOrder v) : InOrder (.list items)
  | object {fields : List (String × Value)} (hkeys : Fields.Sorted fields)
      (hfields : ∀ field ∈ fields, InOrder field.2) : InOrder (.object fields)

namespace Value.InOrder

theorem sorted {fields : Fields} (h : (Value.object fields).InOrder) : fields.Sorted := by
  cases h with
  | object hkeys _ => exact hkeys

theorem of_mem {fields : Fields} (h : (Value.object fields).InOrder) :
    ∀ field ∈ fields, field.2.InOrder := by
  cases h with
  | object _ hfields => exact hfields

theorem of_get? {fields : Fields} (h : (Value.object fields).InOrder) {key : String} {v : Value}
    (hget : fields.get? key = some v) : v.InOrder :=
  h.of_mem _ (Fields.mem_of_get?_eq_some hget)

theorem insert {fields : Fields} (h : (Value.object fields).InOrder) (key : String) {v : Value}
    (hv : v.InOrder) : (Value.object (Fields.insert key v fields)).InOrder := by
  have hsorted := h.sorted.insert key v
  refine .object hsorted fun field hfield => ?_
  have hget := Fields.get?_eq_some_of_mem hsorted.nodup hfield
  rw [Fields.get?_insert] at hget
  split at hget
  · cases hget
    exact hv
  · exact h.of_get? hget

end Value.InOrder

/-! ## Letters in lower case -/

namespace Text

/-- Only the ASCII letters in upper case change. -/
theorem toLower_cases (c : Char) :
    c.toLower = c ∨ (65 ≤ c.toNat ∧ c.toNat ≤ 90 ∧ c.toLower.toNat = c.toNat + 32) := by
  unfold Char.toLower
  split
  · next hupper =>
    have hlow : 65 ≤ c.val.toNat := UInt32.le_iff_toNat_le.mp hupper.1
    have hhigh : c.val.toNat ≤ 90 := UInt32.le_iff_toNat_le.mp hupper.2
    have hsum : (c.val + ('a'.val - 'A'.val)).toNat = c.val.toNat + 32 := by
      rw [UInt32.toNat_add]
      exact Nat.mod_eq_of_lt (Nat.lt_of_le_of_lt (Nat.add_le_add_right hhigh 32) (by decide))
    exact .inr ⟨hlow, hhigh, hsum⟩
  · exact .inl rfl

theorem isBlank_toLower (c : Char) : isBlank c.toLower = isBlank c := by
  rcases toLower_cases c with hsame | ⟨hlow, hhigh, hlower⟩
  · rw [hsame]
  · have hletter : ∀ d : Char, 65 ≤ d.toNat → d.toNat ≤ 122 → isBlank d = false := by
      intro d hlow hhigh
      simp only [isBlank, Bool.or_eq_false_iff, Bool.and_eq_false_iff, decide_eq_false_iff_not,
        beq_eq_false_iff_ne]
      omega
    rw [hletter c (by omega) (by omega), hletter c.toLower (by omega) (by omega)]

theorem trim_map_toLower (s : List Char) : trim (s.map Char.toLower) = (trim s).map Char.toLower := by
  have hblank : isBlank ∘ Char.toLower = isBlank := funext isBlank_toLower
  rw [trim, trimEnd, trim, trimEnd, List.dropWhile_map, hblank, ← List.map_reverse,
    List.dropWhile_map, hblank, List.map_reverse]

end Text

namespace Variable

/-! ## Names -/

/-- The characters between the keys in the name of a variable. -/
def isSeparator (c : Char) : Bool :=
  c == '_' || c == '.'

/-- The name is that of a variable for another key: white space aside, it has the opening that all
variables share, in any case, and behind it keys of which none is empty and the first is not `key`,
in whatever case. -/
def IsApart (key name : String) : Prop :=
  ∃ start rest first more, Text.trim name.toList = start ++ rest ∧
    start.map Char.toLower = opening.toList ∧
    (Text.trim rest).splitOnP isSeparator = first :: more ∧
    (∀ part ∈ first :: more, part ≠ []) ∧ first.map Char.toLower ≠ key.toList

theorem isSeparator_toLower (c : Char) : isSeparator c.toLower = isSeparator c := by
  rcases Text.toLower_cases c with hsame | ⟨hlow, hhigh, hlower⟩
  · rw [hsame]
  · -- Neither separator is among the letters.
    have hletter : ∀ d : Char, 65 ≤ d.toNat → d.toNat ≠ 95 → isSeparator d = false := by
      rintro d hlow hne
      rw [isSeparator, Bool.or_eq_false_iff, beq_eq_false_iff_ne, beq_eq_false_iff_ne]
      constructor
      · rintro rfl
        exact hne rfl
      · rintro rfl
        exact absurd hlow (by decide)
    rw [hletter c (by omega) (by omega), hletter c.toLower (by omega) (by omega)]

theorem splitOnP_map_toLower (s : List Char) :
    (s.map Char.toLower).splitOnP isSeparator
      = (s.splitOnP isSeparator).map (List.map Char.toLower) := by
  induction s with
  | nil => rfl
  | cons c rest ih =>
    rw [List.map_cons, List.splitOnP_cons_eq_if_modifyHead, List.splitOnP_cons_eq_if_modifyHead,
      isSeparator_toLower, ih]
    split
    · rfl
    · cases rest.splitOnP isSeparator <;> rfl

/-- Underscores separate as dots do. -/
theorem split_dotted (s : List Char) :
    Path.split '.' (s.map fun c => if c = '_' then '.' else c) = s.splitOnP isSeparator := by
  induction s with
  | nil => rfl
  | cons c rest ih =>
    rw [List.map_cons, Path.split, ih, List.splitOnP_cons_eq_if_modifyHead]
    by_cases hsep : isSeparator c = true
    · have hdot : (if c = '_' then '.' else c) = '.' := by
        rw [isSeparator, Bool.or_eq_true, beq_iff_eq, beq_iff_eq] at hsep
        rcases hsep with rfl | rfl <;> rfl
      rw [if_pos hdot, if_pos hsep]
    · have hne : c ≠ '_' ∧ c ≠ '.' := by
        rw [isSeparator, Bool.or_eq_true, beq_iff_eq, beq_iff_eq] at hsep
        exact not_or.mp hsep
      rw [if_neg hne.1, if_neg hne.2, if_neg hsep]
      cases hrest : rest.splitOnP isSeparator with
      | nil => exact absurd hrest (List.splitOnP_ne_nil isSeparator rest)
      | cons part parts => rfl

/-- A path has at least one key. -/
theorem exists_cons_of_path? {name : String} {path : List String} (h : path? name = some path) :
    ∃ first more, path = first :: more := by
  simp only [path?, split_dotted, Option.ite_none_left_eq_some, Option.ite_none_right_eq_some,
    Option.some.injEq] at h
  obtain ⟨-, -, rfl⟩ := h
  rw [← List.ne_nil_iff_exists_cons]
  exact fun hnil => List.splitOnP_ne_nil _ _ (List.map_eq_nil_iff.mp hnil)

/-- **The path of a variable for another key starts with another key.** -/
theorem path?_of_isApart {key name : String} (h : IsApart key name) :
    ∃ first more, path? name = some (first :: more) ∧ first ≠ key := by
  obtain ⟨start, rest, first, more, htrim, hstart, hsplit, hparts, hfirst⟩ := h
  have hfold : Text.fold (String.ofList (Text.trim name.toList))
      = opening.toList ++ rest.map Char.toLower := by
    rw [Text.fold, String.toList_ofList, htrim, List.map_append, hstart]
  have hlower : ((Text.trim (rest.map Char.toLower)).splitOnP isSeparator)
      = (first :: more).map (List.map Char.toLower) := by
    rw [Text.trim_map_toLower, splitOnP_map_toLower, hsplit]
  have hnonempty : ((first :: more).map (List.map Char.toLower)).any List.isEmpty = false := by
    rw [List.any_eq_false]
    intro part hpart
    obtain ⟨part, hmem, rfl⟩ := List.mem_map.mp hpart
    rw [List.isEmpty_map, List.isEmpty_iff]
    exact hparts part hmem
  refine ⟨String.ofList (first.map Char.toLower),
    (more.map (List.map Char.toLower)).map String.ofList, ?_, ?_⟩
  · unfold path?
    have hopening : opening.toList.isPrefixOf (opening.toList ++ rest.map Char.toLower) = true := by
      simp
    simp only [hfold, hopening, if_true, List.drop_left, split_dotted, hlower, hnonempty,
      Bool.false_eq_true, if_false]
    rfl
  · rintro rfl
    exact hfirst String.toList_ofList.symm

/-! ## Values -/

theorem inOrder_bare (s : List Char) : (bare s).InOrder := by
  unfold bare
  dsimp only
  generalize hnumber : Option.or _ _ = number?
  cases number? with
  | none => exact .text _
  | some v =>
    rw [Option.or_eq_some_iff, Option.or_eq_some_iff] at hnumber
    rcases hnumber with hfraction | ⟨-, hnatural | ⟨-, hnegative⟩⟩
    · split at hfraction
      · obtain ⟨x, -, rfl⟩ := Option.map_eq_some_iff.mp hfraction
        exact .float x
      · cases hfraction
    · obtain ⟨n, -, rfl⟩ := Option.map_eq_some_iff.mp hnatural
      exact .int n
    · split at hnegative
      · obtain ⟨n, -, rfl⟩ := Option.map_eq_some_iff.mp hnegative
        exact .int (-n)
      · cases hnegative

/-- Whatever is read with a bound has its keys in order. -/
structure ReadsInOrder (fuel : Nat) : Prop where
  value : ∀ s v rest, value? fuel s = some (v, rest) → v.InOrder
  items : ∀ s items rest, items? fuel s = some (items, rest) → ∀ v ∈ items, v.InOrder
  fields : ∀ s fields rest, fields? fuel s = some (fields, rest) →
    ∀ field ∈ fields, field.2.InOrder

namespace ReadsInOrder

variable {fuel : Nat} {s rest : List Char}

theorem value_succ (ih : ReadsInOrder fuel) {v : Value}
    (h : value? (fuel + 1) s = some (v, rest)) : v.InOrder := by
  rw [value?.eq_def] at h
  obtain ⟨⟨w, after⟩, hfound, heq⟩ := Option.map_eq_some_iff.mp h
  cases heq
  split at hfound
  · cases hfound
    exact .bool true
  · cases hfound
    exact .bool false
  · obtain ⟨⟨fields, _⟩, hfields, heq⟩ := Option.map_eq_some_iff.mp hfound
    cases heq
    refine .object (Fields.sorted_ofAssignments _) fun field hfield => ?_
    exact ih.fields _ _ _ hfields field (Fields.mem_of_mem_ofAssignments hfield)
  · obtain ⟨⟨items, _⟩, hitems, heq⟩ := Option.map_eq_some_iff.mp hfound
    cases heq
    exact .list (ih.items _ _ _ hitems)
  · obtain ⟨⟨cs, _⟩, -, heq⟩ := Option.map_eq_some_iff.mp hfound
    cases heq
    exact .text _
  · cases hfound
  · cases hfound
    exact .text _
  · cases hfound
  · dsimp only at hfound
    split at hfound
    · cases hfound
    · cases hfound
      exact inOrder_bare _

theorem items_succ (ih : ReadsInOrder fuel) {items : List Value}
    (h : items? (fuel + 1) s = some (items, rest)) : ∀ v ∈ items, v.InOrder := by
  rw [items?.eq_def] at h
  dsimp only at h
  split at h
  · cases h
    exact fun v hv => absurd hv List.not_mem_nil
  · split at h
    · next v _ hv =>
      obtain ⟨⟨more, _⟩, hmore, heq⟩ := Option.map_eq_some_iff.mp h
      cases heq
      exact List.forall_mem_cons.mpr ⟨ih.value _ _ _ hv, ih.items _ _ _ hmore⟩
    · next v _ hv =>
      cases h
      exact List.forall_mem_singleton.mpr (ih.value _ _ _ hv)
    · cases h

theorem fields_succ (ih : ReadsInOrder fuel) {fields : Fields}
    (h : fields? (fuel + 1) s = some (fields, rest)) :
    ∀ field ∈ fields, field.2.InOrder := by
  rw [fields?.eq_def] at h
  dsimp only at h
  split at h
  · cases h
    exact fun field hfield => absurd hfield List.not_mem_nil
  · split at h
    · split at h
      · next hv =>
        obtain ⟨⟨more, _⟩, hmore, heq⟩ := Option.map_eq_some_iff.mp h
        cases heq
        exact List.forall_mem_cons.mpr ⟨ih.value _ _ _ hv, ih.fields _ _ _ hmore⟩
      · next hv =>
        cases h
        exact List.forall_mem_singleton.mpr (ih.value _ _ _ hv)
      · cases h
    · cases h

end ReadsInOrder

theorem readsInOrder (fuel : Nat) : ReadsInOrder fuel := by
  induction fuel with
  | zero =>
    constructor
    · intro s v rest h
      cases h
    · intro s items rest h
      cases h
    · intro s fields rest h
      cases h
  | succ fuel ih => exact ⟨fun _ _ _ => ih.value_succ, fun _ _ _ => ih.items_succ,
      fun _ _ _ => ih.fields_succ⟩

/-- **What a variable stands for has its keys in order.** -/
theorem inOrder_content (s : String) : (content s).InOrder := by
  unfold content
  split
  · next v hv => exact (readsInOrder _).value _ _ _ hv
  · exact .text s

end Variable

end SiteConfig
