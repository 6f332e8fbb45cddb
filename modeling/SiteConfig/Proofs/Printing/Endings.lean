import SiteConfig.CommandLine.Run
import SiteConfig.Proofs.Json.RoundTrip

/-!
# How printed texts end

What is printed of a text is the text without the white space at its end, and one line break. So what
a format writes is printed as it was written exactly if it ends with one line break behind a character
that shows, or if it is empty.

- `Text.EndsLine s`: the text ends in this way.
- `CommandLine.printed_trimEnd_iff`: exactly then nothing is lost in printing.
- `Toml.endsLine_documentText`: so it is with everything that TOML can hold.
-/

namespace SiteConfig

namespace Text

/-- The text ends with a character that shows. -/
def EndsShown (s : List Char) : Prop :=
  ∃ front c, isBlank c = false ∧ s = front ++ [c]

/-- The text ends with a line break behind a character that shows. -/
def EndsLine (s : List Char) : Prop :=
  ∃ front, EndsShown front ∧ s = front ++ ['\n']

theorem endsShown_concat {front : List Char} {c : Char} :
    EndsShown (front ++ [c]) ↔ isBlank c = false := by
  constructor
  · rintro ⟨front', c', hc', heq⟩
    cases (List.append_inj' heq rfl).2
    exact hc'
  · exact fun hc => ⟨front, c, hc, rfl⟩

theorem endsLine_concat {front : List Char} {c : Char} :
    EndsLine (front ++ [c]) ↔ c = '\n' ∧ EndsShown front := by
  constructor
  · rintro ⟨line, hline, heq⟩
    obtain ⟨rfl, hc⟩ := List.append_inj' heq rfl
    exact ⟨(List.cons.inj hc).1, hline⟩
  · rintro ⟨rfl, hline⟩
    exact ⟨front, hline, rfl⟩

instance (s : List Char) : Decidable (EndsShown s) :=
  decidable_of_iff ((s.getLast?.any fun c => !isBlank c) = true) <| by
    rcases List.eq_nil_or_concat s with rfl | ⟨front, c, rfl⟩
    · simp [EndsShown]
    · simp [endsShown_concat]

instance (s : List Char) : Decidable (EndsLine s) :=
  decidable_of_iff (s.getLast? = some '\n' ∧ EndsShown s.dropLast) <| by
    rcases List.eq_nil_or_concat s with rfl | ⟨front, c, rfl⟩
    · simp [EndsLine]
    · simp [endsLine_concat]

/-- Only the end of a text counts. -/
theorem endsShown_append_iff {front back : List Char} (hback : back ≠ []) :
    EndsShown (front ++ back) ↔ EndsShown back := by
  rcases List.eq_nil_or_concat back with hnil | ⟨middle, c, rfl⟩
  · exact absurd hnil hback
  · rw [List.concat_eq_append, ← List.append_assoc, endsShown_concat, endsShown_concat]

theorem endsLine_append_iff {front back : List Char} (hback : back ≠ []) (hline : back ≠ ['\n']) :
    EndsLine (front ++ back) ↔ EndsLine back := by
  rcases List.eq_nil_or_concat back with hnil | ⟨middle, c, rfl⟩
  · exact absurd hnil hback
  · rw [List.concat_eq_append, ← List.append_assoc, endsLine_concat, endsLine_concat]
    refine and_congr_right ?_
    rintro rfl
    refine endsShown_append_iff ?_
    rintro rfl
    exact hline rfl

theorem endsShown_singleton {c : Char} (hc : isBlank c = false) : EndsShown [c] :=
  ⟨[], c, hc, rfl⟩

theorem EndsShown.append {s : List Char} (h : EndsShown s) (front : List Char) :
    EndsShown (front ++ s) := by
  obtain ⟨middle, c, hc, rfl⟩ := h
  exact ⟨front ++ middle, c, hc, (List.append_assoc ..).symm⟩

theorem EndsShown.trimEnd_eq {s : List Char} (h : EndsShown s) : trimEnd s = s ∧ s ≠ [] := by
  obtain ⟨front, c, hc, rfl⟩ := h
  exact ⟨trimEnd_append_of_not_isBlank front c hc, by simp⟩

theorem EndsLine.append {s : List Char} (h : EndsLine s) (front : List Char) :
    EndsLine (front ++ s) := by
  obtain ⟨line, hline, rfl⟩ := h
  exact ⟨front ++ line, hline.append front, (List.append_assoc ..).symm⟩

/-- What is left without the white space at the end of a text ends with a character that shows. -/
theorem trimEnd_eq_nil_or (s : List Char) : trimEnd s = [] ∨ EndsShown (trimEnd s) := by
  rcases List.eq_nil_or_concat (trimEnd s) with hnil | ⟨front, c, hc⟩
  · exact .inl hnil
  · rw [List.concat_eq_append] at hc
    refine .inr ⟨front, c, ?_, hc⟩
    have hhead : (s.reverse.dropWhile isBlank).head? = some c := by
      rw [← List.getLast?_reverse]
      exact (congrArg List.getLast? hc).trans List.getLast?_concat
    have hnot := List.head?_dropWhile_not isBlank s.reverse
    rw [hhead] at hnot
    simpa using hnot

theorem EndsLine.trimEnd {s : List Char} (h : EndsLine s) :
    trimEnd s ≠ [] ∧ s = trimEnd s ++ ['\n'] := by
  obtain ⟨line, hline, rfl⟩ := h
  obtain ⟨htrim, hne⟩ := hline.trimEnd_eq
  rw [trimEnd_append_of_isBlank _ _ (by decide), htrim]
  exact ⟨hne, rfl⟩

end Text

/-- **What is printed is what was written**, if that ends as a line, or is empty; else it is not. -/
theorem CommandLine.printed_trimEnd_iff {s : List Char} :
    printed false (String.ofList (Text.trimEnd s)) = String.ofList s ↔ s = [] ∨ Text.EndsLine s := by
  have hprinted : printed false (String.ofList (Text.trimEnd s))
      = String.ofList (if Text.trimEnd s = [] then [] else Text.trimEnd s ++ ['\n']) := by
    unfold printed
    by_cases hnil : Text.trimEnd s = []
    · rw [if_pos hnil, hnil]
      rfl
    · have hempty : ¬ (String.ofList (Text.trimEnd s)).isEmpty = true := by
        rw [String.isEmpty_iff, ← String.ofList_nil, String.ofList_inj]
        exact hnil
      rw [if_neg hnil, String.ofList_append, Bool.false_or, if_neg hempty]
  rw [hprinted, String.ofList_inj]
  constructor
  · intro h
    by_cases hnil : Text.trimEnd s = []
    · rw [if_pos hnil] at h
      exact .inl h.symm
    · rw [if_neg hnil] at h
      rcases Text.trimEnd_eq_nil_or s with hnil' | hshown
      · exact absurd hnil' hnil
      · exact .inr ⟨_, hshown, h.symm⟩
  · rintro (rfl | hline)
    · rfl
    · obtain ⟨hne, heq⟩ := hline.trimEnd
      rw [if_neg hne, ← heq]

/-! ## TOML -/

namespace Toml

open Text (EndsLine EndsShown)

theorem endsLine_append_or {front back : List Char} (hfront : front = [] ∨ EndsLine front)
    (hback : back = [] ∨ EndsLine back) : front ++ back = [] ∨ EndsLine (front ++ back) := by
  rcases hback with rfl | hback
  · rwa [List.append_nil]
  · exact .inr (hback.append front)

/-- The text of a value ends with a quote, a bracket or a letter. -/
theorem endsShown_valueText {v : Value} {depth : Nat} (h : v.Plain depth) :
    EndsShown (valueText v) := by
  have hend : ∀ (front : List Char) {c : Char}, Text.isBlank c = false → EndsShown (front ++ [c]) :=
    fun front _ hc => (Text.endsShown_singleton hc).append front
  cases h with
  | bool _ b =>
    cases b with
    | true => exact hend ['t', 'r', 'u'] (by decide)
    | false => exact hend ['f', 'a', 'l', 's'] (by decide)
  | text _ s =>
    rw [valueText, textValue]
    cases Quoting.of s.toList with
    | basic => exact hend ('"' :: escaped false 0 s.toList) (by decide)
    | literal => exact hend ('\'' :: s.toList) (by decide)
    | basicLines => exact (hend ['"', '"'] (by decide)).append _
    | literalLines => exact (hend ['\'', '\''] (by decide)).append _
  | @list _ items =>
    match items with
    | [] => exact hend ['['] (by decide)
    | [v] =>
      rw [valueText]
      exact hend ('[' :: valueText v) (by decide)
    | v :: w :: rest =>
      rw [valueText]
      exact (hend ['\n'] (by decide)).append ('[' :: itemLines (v :: w :: rest))
  | @object _ fields =>
    match fields with
    | [] => exact hend ['{'] (by decide)
    | (key, v) :: rest =>
      rw [valueText]
      exact (hend [' '] (by decide)).append ('{' :: ' ' :: (keyText key ++ ' ' :: '=' :: ' ' ::
        valueText v ++ pairTexts rest))

/-- Assignments, a line each. -/
def assignmentLines (fields : Fields) : List Char :=
  fields.flatMap fun (key, v) => keyText key ++ ' ' :: '=' :: ' ' :: (valueText v ++ ['\n'])

theorem endsLine_assignments {fields : Fields} {depth : Nat}
    (h : ∀ field ∈ fields, field.2.Plain depth) :
    assignments fields = [] ∨ EndsLine (assignments fields) := by
  have hlines : ∀ kept : Fields, (∀ field ∈ kept, field.2.Plain depth) →
      assignmentLines kept = [] ∨ EndsLine (assignmentLines kept) := by
    intro kept hkept
    induction kept with
    | nil => exact .inl rfl
    | cons field rest ih =>
      obtain ⟨hfield, hrest⟩ := List.forall_mem_cons.mp hkept
      have hline : EndsLine (keyText field.1 ++ ' ' :: '=' :: ' ' :: (valueText field.2 ++ ['\n'])) :=
        Text.EndsLine.append ⟨' ' :: '=' :: ' ' :: valueText field.2,
          (endsShown_valueText hfield).append [' ', '=', ' '], rfl⟩ _
      exact endsLine_append_or (.inr hline) (ih hrest)
  exact hlines _ fun field hfield => h field (List.mem_filter.mp hfield).1

theorem endsLine_headed {brackets : Nat} (hbrackets : brackets ≠ 0) (path : List String)
    {fields : Fields} {depth : Nat} (h : ∀ field ∈ fields, field.2.Plain depth) :
    EndsLine (headed brackets path fields) := by
  obtain ⟨n, rfl⟩ := Nat.exists_eq_succ_of_ne_zero hbrackets
  have hheader : EndsShown
      (List.replicate (n + 1) '[' ++ pathText path ++ List.replicate (n + 1) ']') := by
    have hbracket : EndsShown [']'] := Text.endsShown_singleton (by decide)
    have hclosing : EndsShown (List.replicate (n + 1) ']') := by
      rw [List.replicate_succ']
      exact hbracket.append _
    exact hclosing.append _
  have htext : headed (n + 1) path fields
      = List.replicate (n + 1) '[' ++ pathText path ++ List.replicate (n + 1) ']' ++ ['\n']
        ++ assignments fields := by
    rw [headed, List.append_assoc _ ['\n']]
    rfl
  rw [htext]
  rcases endsLine_assignments h with hnil | hlines
  · rw [hnil, List.append_nil]
    exact ⟨_, hheader, rfl⟩
  · exact hlines.append _

mutual

theorem endsLine_valueSections : ∀ (v : Value) {depth : Nat} (path : List String), v.Plain depth →
    ∀ s ∈ valueSections path v, EndsLine s
  | .object fields, depth, path, hplain => by
    cases hplain with
    | @object depth _ hfields =>
    rw [valueSections]
    intro s hs
    rcases List.mem_append.mp hs with hs | hs
    · by_cases hneeds : needsHeader fields = true
      · rw [if_pos hneeds, List.mem_singleton] at hs
        subst hs
        exact endsLine_headed (by decide) path hfields
      · rw [if_neg hneeds] at hs
        cases hs
    · exact endsLine_fieldSections fields path hfields s hs
  | .list items, depth, path, hplain => by
    cases hplain with
    | @list depth _ hitems =>
    rw [valueSections]
    intro s hs
    by_cases htables : items.all isTable = true
    · rw [if_pos htables] at hs
      exact endsLine_itemSections items path hitems s hs
    · rw [if_neg htables] at hs
      cases hs
  | .null, _, _, _ => by simp [valueSections]
  | .bool b, _, _, _ => by simp [valueSections]
  | .int n, _, _, _ => by simp [valueSections]
  | .float x, _, _, _ => by simp [valueSections]
  | .text s, _, _, _ => by simp [valueSections]

theorem endsLine_itemSections : ∀ (items : List Value) {depth : Nat} (path : List String),
    (∀ v ∈ items, v.Plain depth) → ∀ s ∈ itemSections path items, EndsLine s
  | [], _, _, _ => by simp [itemSections]
  | .object fields :: rest, depth, path, hplain => by
    obtain ⟨hfirst, hrest⟩ := List.forall_mem_cons.mp hplain
    cases hfirst with
    | @object depth _ hfields =>
    rw [itemSections]
    intro s hs
    rcases List.mem_cons.mp hs with rfl | hs
    · exact endsLine_headed (by decide) path hfields
    · rcases List.mem_append.mp hs with hs | hs
      · exact endsLine_fieldSections fields path hfields s hs
      · exact endsLine_itemSections rest path hrest s hs
  | .null :: _, _, _, _ => by simp [itemSections]
  | .bool b :: _, _, _, _ => by simp [itemSections]
  | .int n :: _, _, _, _ => by simp [itemSections]
  | .float x :: _, _, _, _ => by simp [itemSections]
  | .text s :: _, _, _, _ => by simp [itemSections]
  | .list items :: _, _, _, _ => by simp [itemSections]

theorem endsLine_fieldSections : ∀ (fields : List (String × Value)) {depth : Nat}
    (path : List String), (∀ field ∈ fields, field.2.Plain depth) →
      ∀ s ∈ fieldSections path fields, EndsLine s
  | [], _, _, _ => by simp [fieldSections]
  | (key, v) :: rest, depth, path, hplain => by
    obtain ⟨hfirst, hrest⟩ := List.forall_mem_cons.mp hplain
    rw [fieldSections]
    intro s hs
    rcases List.mem_append.mp hs with hs | hs
    · exact endsLine_valueSections v _ hfirst s hs
    · exact endsLine_fieldSections rest path hrest s hs

end

theorem endsLine_intercalate {parts : List (List Char)} (h : ∀ s ∈ parts, EndsLine s)
    (hne : parts ≠ []) : EndsLine (List.intercalate ['\n'] parts) := by
  induction parts with
  | nil => exact absurd rfl hne
  | cons first rest ih =>
    obtain ⟨hfirst, hrest⟩ := List.forall_mem_cons.mp h
    by_cases hmore : rest = []
    · rw [hmore, List.intercalate_singleton]
      exact hfirst
    · rw [List.intercalate_cons_of_ne_nil hmore]
      exact (ih hrest hmore).append _

/-- **A TOML text is empty or ends as a line**, whatever it holds. -/
theorem endsLine_documentText {fields : Fields} {depth : Nat}
    (h : ∀ field ∈ fields, field.2.Plain depth) :
    documentText fields = [] ∨ EndsLine (documentText fields) := by
  have hparts : ∀ s ∈ (if (assignments fields).isEmpty then [] else [assignments fields])
      ++ fieldSections [] fields, EndsLine s := by
    intro s hs
    rcases List.mem_append.mp hs with hs | hs
    · by_cases hempty : (assignments fields).isEmpty = true
      · rw [if_pos hempty] at hs
        cases hs
      · rw [if_neg hempty, List.mem_singleton] at hs
        subst hs
        exact (endsLine_assignments h).resolve_left fun hnil => hempty (List.isEmpty_iff.mpr hnil)
    · exact endsLine_fieldSections fields [] h s hs
  unfold documentText
  by_cases hnil : (if (assignments fields).isEmpty then [] else [assignments fields])
      ++ fieldSections [] fields = []
  · exact .inl (congrArg (List.intercalate ['\n']) hnil)
  · exact .inr (endsLine_intercalate hparts hnil)

end Toml

end SiteConfig
