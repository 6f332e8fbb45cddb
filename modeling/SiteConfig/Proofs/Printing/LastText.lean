import SiteConfig.Proofs.Printing.Endings

/-!
# How a YAML text ends

A YAML text ends with what stands last in the value. A truth value, an empty collection and a quoted
text end with a character that shows. A text without quotes ends as it ends itself, and so does the
last line of a block of lines, so that white space at the end of the text is at the end of the
document.

- `Value.lastText? v`: the text that stands last in a value.
- `Yaml.KeepsEnd s`: the text is quoted, or it ends with a character that shows; a block of lines may
  end with one line break behind it.
- `Yaml.closed_body`: what is written for a value ends well exactly if its last text does, by
  induction on the value.
- `Yaml.endsLine_documentText_iff`: so the text of a document ends as a line exactly then.
-/

namespace SiteConfig

namespace Value

mutual

/-- The text that stands last in a value, if it is a text that does. -/
def lastText? : Value → Option String
  | .text s => some s
  | .list items => lastOfItems? items
  | .object fields => lastOfFields? fields
  | _ => none

/-- The text that stands last in a list of values. -/
def lastOfItems? : List Value → Option String
  | [] => none
  | v :: rest => if rest.isEmpty then lastText? v else lastOfItems? rest

/-- The text that stands last in an object. -/
def lastOfFields? : List (String × Value) → Option String
  | [] => none
  | (_, v) :: rest => if rest.isEmpty then lastText? v else lastOfFields? rest

end

end Value

namespace Yaml

open Text (EndsLine EndsShown)

/-- The text ends with a character that shows, or with one line break behind one. -/
def Closed (s : List Char) : Prop :=
  EndsShown s ∨ EndsLine s

/-- What is written for a text does not end with white space of the text, one line break apart. -/
def KeepsEnd (s : List Char) : Prop :=
  match Style.of s with
  | .plain => EndsShown s
  | .single => True
  | .double => True
  | .literal => Closed s

instance (s : List Char) : Decidable (Closed s) :=
  inferInstanceAs (Decidable (_ ∨ _))

instance (s : List Char) : Decidable (KeepsEnd s) :=
  match h : Style.of s with
  | .plain => decidable_of_iff (EndsShown s) (by rw [KeepsEnd, h])
  | .single => isTrue (by rw [KeepsEnd, h]; trivial)
  | .double => isTrue (by rw [KeepsEnd, h]; trivial)
  | .literal => decidable_of_iff (Closed s) (by rw [KeepsEnd, h])

/-- The text starts with a character other than a line break. -/
def Starts (s : List Char) : Prop :=
  ∃ c rest, s = c :: rest ∧ c ≠ '\n'

theorem Starts.append {s : List Char} (h : Starts s) (back : List Char) : Starts (s ++ back) := by
  obtain ⟨c, rest, rfl, hc⟩ := h
  exact ⟨c, rest ++ back, rfl, hc⟩

theorem closed_append_iff {front back : List Char} (hback : Starts back) :
    Closed (front ++ back) ↔ Closed back := by
  obtain ⟨c, rest, rfl, hc⟩ := hback
  refine or_congr (Text.endsShown_append_iff (List.cons_ne_nil c rest))
    (Text.endsLine_append_iff (List.cons_ne_nil c rest) fun h => ?_)
  exact hc (List.cons.inj h).1

/-! ## Scalars -/

theorem isBlank_of_isBreak {c : Char} (h : isBreak c = true) : Text.isBlank c = true := by
  simp only [isBreak, Bool.or_eq_true, beq_iff_eq] at h
  rcases h with (((rfl | rfl) | rfl) | rfl) | rfl
  all_goals decide

/-- Indenting a text leaves its last character where it is. -/
theorem indented_concat (indent : Nat) (fresh : Bool) (s : List Char) (c : Char) :
    ∃ n, indented indent fresh (s ++ [c])
      = indented indent fresh s ++ (List.replicate n ' ' ++ [c]) ∧ (isBreak c = true → n = 0) := by
  induction s generalizing fresh with
  | nil =>
    by_cases hc : isBreak c = true
    · exact ⟨0, by simp [indented, hc], fun _ => rfl⟩
    · cases fresh with
      | true => exact ⟨indent, by simp [indented, hc, spaces], fun h => absurd h hc⟩
      | false => exact ⟨0, by simp [indented, hc], fun _ => rfl⟩
  | cons d rest ih =>
    by_cases hd : isBreak d = true
    · obtain ⟨n, hn, hzero⟩ := ih true
      exact ⟨n, by simp [indented, hd, hn], hzero⟩
    · obtain ⟨n, hn, hzero⟩ := ih false
      exact ⟨n, by simp [indented, hd, hn], hzero⟩

/-- A block of lines ends as its text does. -/
theorem closed_literal_iff {indent : Nat} {s : List Char} (hs : s ≠ []) (header : List Char) :
    Closed (header ++ '\n' :: indented indent true s) ↔ Closed s := by
  rcases List.eq_nil_or_concat s with hnil | ⟨front, c, rfl⟩
  · exact absurd hnil hs
  rw [List.concat_eq_append]
  obtain ⟨n, hn, hzero⟩ := indented_concat indent true front c
  have htext : header ++ '\n' :: indented indent true (front ++ [c])
      = header ++ '\n' :: (indented indent true front ++ List.replicate n ' ') ++ [c] := by
    rw [hn]
    simp
  rw [htext]
  unfold Closed
  rw [Text.endsShown_concat, Text.endsShown_concat, Text.endsLine_concat, Text.endsLine_concat]
  refine or_congr_right (and_congr_right ?_)
  rintro rfl
  -- Behind a line break there is no indentation, so the line in front of it ends as it is.
  rw [hzero (by decide), List.replicate_zero, List.append_nil]
  rcases List.eq_nil_or_concat front with rfl | ⟨line, d, rfl⟩
  · have hleft : ¬ EndsShown (header ++ '\n' :: indented indent true []) := by
      rw [indented, Text.endsShown_concat]
      decide
    have hright : ¬ EndsShown [] := by decide
    simp only [hleft, hright]
  · rw [List.concat_eq_append]
    obtain ⟨m, hm, -⟩ := indented_concat indent true line d
    have hline : header ++ '\n' :: indented indent true (line ++ [d])
        = header ++ '\n' :: (indented indent true line ++ List.replicate m ' ') ++ [d] := by
      rw [hm]
      simp
    rw [hline, Text.endsShown_concat, Text.endsShown_concat]

/-- A text that is written plainly has one line, and it is not empty. -/
theorem of_eq_plain {s : List Char} (h : Style.of s = .plain) : s ≠ [] ∧ '\n' ∉ s := by
  refine ⟨?_, fun hmem => ?_⟩
  · rintro rfl
    exact absurd h (by decide)
  · rw [Style.of, if_pos (List.contains_iff_mem.mpr hmem)] at h
    by_cases hfits : literalFits s = true
    · rw [if_pos hfits] at h
      cases h
    · rw [if_neg hfits] at h
      cases h

/-- A block of lines has more than one line. -/
theorem of_eq_literal {s : List Char} (h : Style.of s = .literal) : s ≠ [] := by
  rintro rfl
  exact absurd h (by decide)

theorem starts_scalarText (indent : Nat) (s : List Char) : Starts (scalarText indent s) := by
  unfold scalarText
  cases hstyle : Style.of s with
  | plain =>
    obtain ⟨hne, hline⟩ := of_eq_plain hstyle
    obtain ⟨c, rest, rfl⟩ := List.exists_cons_of_ne_nil hne
    exact ⟨c, rest, rfl, fun hc => hline (hc ▸ List.mem_cons_self)⟩
  | single => exact ⟨'\'', _, rfl, by decide⟩
  | double => exact ⟨'"', _, rfl, by decide⟩
  | literal => exact ⟨'|', _, rfl, by decide⟩

theorem closed_of_endsShown {s : List Char} (h : EndsShown s) (front : List Char) :
    Closed (front ++ s) :=
  .inl (h.append front)

/-- What is written for a text ends well exactly if the text is quoted or ends well itself. -/
theorem closed_scalarText {indent : Nat} {s : List Char} :
    Closed (scalarText indent s) ↔ KeepsEnd s := by
  unfold scalarText KeepsEnd
  cases hstyle : Style.of s with
  | plain =>
    refine or_iff_left ?_
    rintro ⟨front, -, rfl⟩
    exact (of_eq_plain hstyle).2 (List.mem_append_right front List.mem_cons_self)
  | single =>
    exact iff_of_true
      (closed_of_endsShown (Text.endsShown_singleton (by decide)) ('\'' :: (_ ++ _))) trivial
  | double =>
    exact iff_of_true
      (closed_of_endsShown (Text.endsShown_singleton (by decide)) ('"' :: _)) trivial
  | literal => exact closed_literal_iff (of_eq_literal hstyle) ('|' :: blockHints s)

/-! ## Collections -/

theorem starts_stacked {indent : Nat} {parts : List (List Char)} (hne : parts ≠ [])
    (h : ∀ part ∈ parts, Starts part) : Starts (stacked indent parts) := by
  match parts with
  | [] => exact absurd rfl hne
  | [part] => exact h part List.mem_cons_self
  | part :: next :: rest =>
    rw [stacked, List.append_assoc]
    · exact (h part List.mem_cons_self).append _
    · exact fun hnil => absurd hnil (List.cons_ne_nil next rest)

/-- Of stacked parts, the last one counts. -/
theorem closed_stacked_cons {indent : Nat} {part : List Char} {rest : List (List Char)}
    (hne : rest ≠ []) (h : ∀ part ∈ rest, Starts part) :
    Closed (stacked indent (part :: rest)) ↔ Closed (stacked indent rest) := by
  rw [stacked]
  · exact closed_append_iff (starts_stacked hne h)
  · exact hne

theorem starts_items (indent : Nat) (vs : List Value) : ∀ part ∈ items indent vs, Starts part := by
  induction vs with
  | nil => simp [items]
  | cons v rest ih =>
    rw [items]
    exact List.forall_mem_cons.mpr ⟨⟨'-', _, rfl, by decide⟩, ih⟩

/-- An entry of a mapping ends with what is written for its value, at some column. -/
theorem entries_cons (indent : Nat) (key : String) (v : Value) (rest : Fields) :
    ∃ front column, Starts front ∧
      entries indent ((key, v) :: rest) = (front ++ body column v) :: entries indent rest := by
  have hkey := starts_scalarText (indent + 2) key.toList
  rw [entries]
  by_cases hsimple : isSimpleKey key = true
  · simp only [if_pos hsimple]
    have hspaced : ∀ v : Value, ∃ front column, Starts front ∧
        scalarText (indent + 2) key.toList ++ [':'] ++ ' ' :: body (indent + 2) v
          = front ++ body column v := fun v =>
      ⟨scalarText (indent + 2) key.toList ++ [':'] ++ [' '], indent + 2,
        (hkey.append [':']).append [' '], by simp⟩
    split
    · rename_i w ws
      exact ⟨scalarText (indent + 2) key.toList ++ [':'] ++ '\n' :: spaces indent, indent,
        (hkey.append [':']).append _, by rw [body]⟩
    · rename_i field fields
      exact ⟨scalarText (indent + 2) key.toList ++ [':'] ++ '\n' :: spaces (indent + 2), indent + 2,
        (hkey.append [':']).append _, by rw [body]⟩
    · obtain ⟨front, column, hfront, htext⟩ := hspaced v
      exact ⟨front, column, hfront, by rw [htext]⟩
  · simp only [if_neg hsimple]
    refine ⟨'?' :: ' ' :: scalarText (indent + 2) key.toList
      ++ lineStart indent ('?' :: ' ' :: scalarText (indent + 2) key.toList) ++ [':', ' '], indent + 2,
      ⟨'?', _, rfl, by decide⟩, by simp⟩

theorem starts_entries (indent : Nat) (fields : Fields) :
    ∀ part ∈ entries indent fields, Starts part := by
  induction fields with
  | nil => simp [entries]
  | cons field rest ih =>
    obtain ⟨front, column, hfront, hentry⟩ := entries_cons indent field.1 field.2 rest
    rw [hentry]
    exact List.forall_mem_cons.mpr ⟨hfront.append _, ih⟩

/-- What is written for a value starts on its own line. -/
theorem starts_body {v : Value} {depth : Nat} (h : v.Plain depth) (indent : Nat) :
    Starts (body indent v) := by
  cases h with
  | bool _ b =>
    cases b with
    | true => exact ⟨'t', _, rfl, by decide⟩
    | false => exact ⟨'f', _, rfl, by decide⟩
  | text _ s => exact starts_scalarText indent s.toList
  | @list _ vs =>
    match vs with
    | [] => exact ⟨'[', _, rfl, by decide⟩
    | v :: rest =>
      rw [body]
      exact starts_stacked (by simp [items]) (starts_items indent _)
  | @object _ fields =>
    match fields with
    | [] => exact ⟨'{', _, rfl, by decide⟩
    | field :: rest =>
      obtain ⟨front, column, hfront, hentry⟩ := entries_cons indent field.1 field.2 rest
      rw [body]
      exact starts_stacked (by simp [hentry]) (starts_entries indent _)

mutual

/-- **What is written for a value ends as its last text does**: nothing behind that text belongs to
another part of the value. -/
theorem closed_body : ∀ (v : Value) {depth : Nat} (indent : Nat), v.Plain depth →
    (Closed (body indent v) ↔ ∀ s ∈ v.lastText?, KeepsEnd s.toList)
  | .bool b, _, _, _ => by
    cases b with
    | true =>
      simpa [body, Json.scalar, Value.lastText?] using
        closed_of_endsShown (Text.endsShown_singleton (by decide)) ['t', 'r', 'u']
    | false =>
      simpa [body, Json.scalar, Value.lastText?] using
        closed_of_endsShown (Text.endsShown_singleton (by decide)) ['f', 'a', 'l', 's']
  | .text s, _, indent, _ => by
    rw [body, closed_scalarText]
    simp [Value.lastText?]
  | .list [], _, _, _ => by
    simpa [body, Value.lastText?, Value.lastOfItems?] using
      closed_of_endsShown (Text.endsShown_singleton (by decide)) ['[']
  | .list (v :: rest), _, indent, .list hitems => by
    rw [body, Value.lastText?]
    exact closed_items (v :: rest) indent hitems (List.cons_ne_nil v rest)
  | .object [], _, _, _ => by
    simpa [body, Value.lastText?, Value.lastOfFields?] using
      closed_of_endsShown (Text.endsShown_singleton (by decide)) ['\x7b']
  | .object (field :: rest), _, indent, .object hfields => by
    rw [body, Value.lastText?]
    exact closed_entries (field :: rest) indent hfields (List.cons_ne_nil field rest)

theorem closed_items : ∀ (vs : List Value) {depth : Nat} (indent : Nat),
    (∀ v ∈ vs, v.Plain depth) → vs ≠ [] →
      (Closed (stacked indent (items indent vs)) ↔ ∀ s ∈ Value.lastOfItems? vs, KeepsEnd s.toList)
  | [], _, _, _, hne => absurd rfl hne
  | [v], _, indent, hplain, _ => by
    obtain ⟨hv, -⟩ := List.forall_mem_cons.mp hplain
    rw [items, items, stacked, Value.lastOfItems?, if_pos List.isEmpty_nil,
      ← closed_body v (indent + 2) hv]
    exact @closed_append_iff ['-', ' '] _ (starts_body hv (indent + 2))
  | v :: w :: rest, _, indent, hplain, _ => by
    obtain ⟨-, hrest⟩ := List.forall_mem_cons.mp hplain
    rw [items, closed_stacked_cons (by simp [items]) (starts_items indent (w :: rest)),
      Value.lastOfItems?, if_neg (by simp)]
    exact closed_items (w :: rest) indent hrest (List.cons_ne_nil w rest)

theorem closed_entries : ∀ (fields : List (String × Value)) {depth : Nat} (indent : Nat),
    (∀ field ∈ fields, field.2.Plain depth) → fields ≠ [] →
      (Closed (stacked indent (entries indent fields)) ↔
        ∀ s ∈ Value.lastOfFields? fields, KeepsEnd s.toList)
  | [], _, _, _, hne => absurd rfl hne
  | [(key, v)], _, indent, hplain, _ => by
    obtain ⟨hv, -⟩ := List.forall_mem_cons.mp hplain
    obtain ⟨front, column, -, hentry⟩ := entries_cons indent key v []
    rw [hentry, entries, stacked, Value.lastOfFields?, if_pos List.isEmpty_nil,
      closed_append_iff (starts_body hv column)]
    exact closed_body v column hv
  | (key, v) :: next :: rest, _, indent, hplain, _ => by
    obtain ⟨-, hrest⟩ := List.forall_mem_cons.mp hplain
    obtain ⟨front, column, -, hentry⟩ := entries_cons indent key v (next :: rest)
    have hmore : entries indent (next :: rest) ≠ [] := by
      obtain ⟨_, _, -, hnext⟩ := entries_cons indent next.1 next.2 rest
      exact hnext ▸ List.cons_ne_nil _ _
    rw [hentry, closed_stacked_cons hmore (starts_entries indent (next :: rest)),
      Value.lastOfFields?, if_neg (by simp)]
    exact closed_entries (next :: rest) indent hrest (List.cons_ne_nil next rest)

end

/-- **A YAML text ends as a line exactly if its last text keeps its end**: it is quoted, or no white
space stands at its end but the line break that ends a block of lines. -/
theorem endsLine_documentText_iff {fields : Fields} {depth : Nat}
    (h : (Value.object fields).Plain depth) :
    EndsLine (documentText (.object fields)) ↔
      ∀ s ∈ (Value.object fields).lastText?, KeepsEnd s.toList := by
  have hdocument : documentText (.object fields)
      = body 0 (.object fields) ++ lineStart 0 (body 0 (.object fields)) := rfl
  rw [← closed_body (.object fields) 0 h, hdocument]
  obtain ⟨first, rest, htext, -⟩ := starts_body h 0
  generalize body 0 (.object fields) = text at htext ⊢
  rcases List.eq_nil_or_concat text with rfl | ⟨front, c, rfl⟩
  · cases htext
  rw [List.concat_eq_append, lineStart, List.getLast?_concat]
  by_cases hbreak : isBreak c = true
  · simp only [Option.any_some, hbreak, if_true, spaces, List.replicate_zero, List.append_nil]
    refine ⟨.inr, fun hclosed => hclosed.resolve_left fun hshown => ?_⟩
    rw [Text.endsShown_concat, isBlank_of_isBreak hbreak] at hshown
    exact absurd hshown (by decide)
  · simp only [Option.any_some, hbreak, spaces, List.replicate_zero]
    rw [if_neg (by decide), Text.endsLine_concat]
    refine ⟨fun hline => .inl hline.2, fun hclosed => ⟨rfl, hclosed.resolve_right fun hline => ?_⟩⟩
    rw [Text.endsLine_concat] at hline
    exact hbreak (hline.1 ▸ by decide)

end Yaml

end SiteConfig
