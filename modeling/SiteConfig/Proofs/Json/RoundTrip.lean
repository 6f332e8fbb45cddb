import SiteConfig.Json.Reader
import SiteConfig.Json.Writer
import SiteConfig.Proofs.Plain

/-!
# JSON that is written is read back

- `Json.textBody_flatMap`: a text in quotes is read back.
- `Json.value_prettyAt`: so is a value, from the front of a text, by induction on the value; each
  step of the reader is paid for by a character that was written.
- `Json.readChars_prettyAt`: so the text of a value is read back, up to the order of its keys.
-/

namespace SiteConfig

namespace Json

/-! ## White space -/

theorem skip_replicate (n : Nat) (cs : List Char) : skip (List.replicate n ' ' ++ cs) = skip cs := by
  induction n with
  | zero => rfl
  | succ n ih =>
    rw [List.replicate_succ, List.cons_append, skip, if_pos (.inl rfl), ih]

theorem skip_newline (level : Nat) (cs : List Char) : skip (newline level ++ cs) = skip cs := by
  rw [newline, List.cons_append, skip, if_pos (.inr (.inl rfl)), skip_replicate]

theorem skip_cons {c : Char} (hc : ¬ (c = ' ' ∨ c = '\n' ∨ c = '\t' ∨ c = '\r')) (cs : List Char) :
    skip (c :: cs) = c :: cs := by
  rw [skip, if_neg hc]

/-! ## Texts -/

theorem radix?_hex : ∀ n < 0x20, Text.radix? 16 (Text.hex 4 n) = some n := by
  decide +kernel

/-- A character that was escaped is read back, whatever its escape. -/
theorem textBody_escape (c : Char) (cs : List Char) :
    textBody (escape c ++ cs) = (textBody cs).map fun (s, r) => (c :: s, r) := by
  unfold escape
  by_cases hquote : c = '"'
  · subst hquote
    simp [textBody]
  by_cases hslash : c = '\\'
  · subst hslash
    simp [textBody]
  by_cases hback : c = '\x08'
  · subst hback
    simp [textBody]
  by_cases hfeed : c = '\x0C'
  · subst hfeed
    simp [textBody]
  by_cases hline : c = '\n'
  · subst hline
    simp [textBody]
  by_cases hreturn : c = '\r'
  · subst hreturn
    simp [textBody]
  by_cases htab : c = '\t'
  · subst htab
    simp [textBody]
  rw [if_neg hquote, if_neg hslash, if_neg hback, if_neg hfeed, if_neg hline, if_neg hreturn,
    if_neg htab]
  by_cases hcontrol : c.toNat < 0x20
  · obtain ⟨x, y, z, w, hdigits⟩ : ∃ x y z w, Text.hex 4 c.toNat = [x, y, z, w] :=
      ⟨_, _, _, _, rfl⟩
    have hunit : unit? x y z w = some c.toNat := by
      rw [unit?, ← hdigits, radix?_hex _ hcontrol]
    rw [if_pos hcontrol, hdigits]
    simp only [List.cons_append, List.nil_append, textBody, hunit]
    -- The number is no half of a pair.
    rw [if_neg (by omega), if_neg (by omega), Char.ofNat_toNat]
  · rw [if_neg hcontrol]
    simp [textBody, hslash, hcontrol]

theorem textBody_flatMap (s cs : List Char) :
    textBody (s.flatMap escape ++ '"' :: cs) = some (s, cs) := by
  induction s with
  | nil => rfl
  | cons c s ih =>
    rw [List.flatMap_cons, List.append_assoc, textBody_escape, ih]
    rfl

/-! ## Values -/

variable {v : Value} {depth fuel level : Nat}

theorem value_newline (cs : List Char) :
    value fuel depth (newline level ++ cs) = value fuel depth cs := by
  cases fuel with
  | zero => rfl
  | succ fuel => rw [value, value, skip_newline]

/-- The text of a value starts with a character that is no white space and no closing bracket. -/
theorem exists_prettyAt (h : v.Plain depth) (level : Nat) :
    ∃ c cs, prettyAt level v = c :: cs ∧ ¬ (c = ' ' ∨ c = '\n' ∨ c = '\t' ∨ c = '\r') ∧
      c ≠ ']' ∧ c ≠ '}' := by
  cases h with
  | bool _ b => cases b <;> exact ⟨_, _, rfl, by decide⟩
  | text => exact ⟨_, _, rfl, by decide⟩
  | @list _ items =>
    cases items with
    | nil => exact ⟨_, _, rfl, by decide⟩
    | cons => exact ⟨_, _, rfl, by decide⟩
  | @object _ fields =>
    cases fields with
    | nil => exact ⟨_, _, rfl, by decide⟩
    | cons => exact ⟨_, _, rfl, by decide⟩

/-- What follows an item of a list: more of them, or the closing bracket. -/
def afterItem (fuel depth : Nat) (v : Value) (s : List Char) : Taken (List Value) :=
  match skip s with
  | ',' :: rest => (items fuel depth rest).map fun (vs, r) => (v :: vs, r)
  | ']' :: rest => some ([v], rest)
  | _ => none

theorem items_of_value {s rest : List Char} (h : value fuel depth s = some (v, rest)) :
    items (fuel + 1) depth s = afterItem fuel depth v rest := by
  rw [items, h]
  rfl

/-- What follows a field of an object: more of them, or the closing brace. -/
def afterField (fuel depth : Nat) (field : String × Value) (s : List Char) : Taken Fields :=
  match skip s with
  | ',' :: rest => (fields fuel depth rest).map fun (fs, r) => (field :: fs, r)
  | '}' :: rest => some ([field], rest)
  | _ => none

theorem fields_of_value {k : String} {s rest : List Char}
    (h : value fuel depth s = some (v, rest)) :
    fields (fuel + 1) depth (quoted k ++ ':' :: ' ' :: s) = afterField fuel depth (k, v) rest := by
  have hspace : value fuel depth (' ' :: s) = some (v, rest) := by
    rw [← h]
    cases fuel with
    | zero => rfl
    | succ fuel => rw [value, value, skip, if_pos (.inl rfl)]
  have htext : quoted k ++ ':' :: ' ' :: s
      = '"' :: (k.toList.flatMap escape ++ '"' :: ':' :: ' ' :: s) := by
    simp only [quoted, List.append_assoc, List.cons_append, List.nil_append]
  rw [htext, fields, skip_cons (by decide)]
  simp only [textBody_flatMap, skip_cons (show ¬ (':' = ' ' ∨ ':' = '\n' ∨ ':' = '\t' ∨ ':' = '\r')
    by decide), hspace, String.ofList_toList]
  rfl

theorem fields_newline (cs : List Char) :
    fields fuel depth (newline level ++ cs) = fields fuel depth cs := by
  cases fuel with
  | zero => rfl
  | succ fuel => rw [fields, fields, skip_newline]

/-- A list that is not empty is read item by item. -/
theorem value_list (h : v.Plain depth) (cs : List Char) :
    value (fuel + 1) (depth + 1) ('[' :: (newline (level + 1) ++ (prettyAt (level + 1) v ++ cs)))
      = (items fuel depth (prettyAt (level + 1) v ++ cs)).map fun (vs, r) => (.list vs, r) := by
  obtain ⟨c, more, hc, hspace, hbracket, -⟩ := exists_prettyAt h (level + 1)
  rw [value, skip_cons (by decide)]
  simp only [skip_newline]
  rw [hc, List.cons_append, skip_cons hspace]
  split
  · next heq => exact absurd (List.cons.inj heq).1 hbracket
  · rfl

/-- An object that is not empty is read field by field. -/
theorem value_object (k : String) (cs : List Char) :
    value (fuel + 1) (depth + 1) ('{' :: (newline (level + 1) ++ (quoted k ++ cs)))
      = (fields fuel depth (quoted k ++ cs)).map fun (fs, r) =>
        (.object (Fields.ofAssignments fs), r) := by
  rw [value, skip_cons (by decide)]
  simp only [skip_newline]
  rw [quoted, List.cons_append, skip_cons (by decide)]
  rfl

/-- A step of the reader is left as long as there is text. -/
theorem exists_fuel (h : v.Plain depth) (hfuel : (prettyAt level v).length ≤ fuel) :
    ∃ rest, fuel = rest + 1 := by
  obtain ⟨c, cs, hc, -⟩ := exists_prettyAt h level
  rw [hc, List.length_cons] at hfuel
  exact ⟨fuel - 1, by omega⟩

mutual

/-- A value that was written is read back, its keys in order, and the text behind it is left. -/
theorem value_prettyAt : ∀ (v : Value) {depth fuel : Nat} (level : Nat) (cs : List Char),
    v.Plain depth → (prettyAt level v).length ≤ fuel →
      value fuel depth (prettyAt level v ++ cs) = some (v.ordered, cs)
  | .null, _, _, _, _, hplain, _ => nomatch hplain
  | .bool b, depth, fuel, level, cs, hplain, hfuel => by
    obtain ⟨fuel, rfl⟩ := exists_fuel hplain hfuel
    simp only [Value.ordered]
    cases b <;> rfl
  | .int n, _, _, _, _, hplain, _ => nomatch hplain
  | .float x, _, _, _, _, hplain, _ => nomatch hplain
  | .text s, depth, fuel, level, cs, hplain, hfuel => by
    obtain ⟨fuel, rfl⟩ := exists_fuel hplain hfuel
    have htext : prettyAt level (.text s) ++ cs = '"' :: (s.toList.flatMap escape ++ '"' :: cs) := by
      simp [prettyAt, scalar, quoted]
    rw [htext, value, skip_cons (by decide)]
    simp only [textBody_flatMap, Option.map_some, String.ofList_toList, Value.ordered]
  | .list [], depth, fuel, level, cs, hplain, hfuel => by
    obtain ⟨fuel, rfl⟩ := exists_fuel hplain hfuel
    cases hplain
    simp only [Value.ordered, Value.orderedItems]
    rfl
  | .list (v :: rest), depth, fuel, level, cs, hplain, hfuel => by
    cases hplain with
    | @list depth _ hitems =>
    obtain ⟨hv, hrest⟩ := List.forall_mem_cons.mp hitems
    have htext : prettyAt level (.list (v :: rest)) ++ cs
        = '[' :: (newline (level + 1) ++ (prettyAt (level + 1) v ++
          (prettyItems (level + 1) rest ++ (newline level ++ ']' :: cs)))) := by
      simp only [prettyAt, List.append_assoc, List.cons_append, List.nil_append]
    have hlength : (prettyAt (level + 1) v).length + (prettyItems (level + 1) rest).length + 2
        ≤ fuel := by
      simp only [prettyAt, List.length_append, List.length_cons] at hfuel
      omega
    obtain ⟨fuel, rfl⟩ : ∃ f, fuel = f + 2 := ⟨fuel - 2, by omega⟩
    rw [htext, value_list hv, items_of_value (value_prettyAt v _ _ hv (by omega)),
      afterItem_prettyItems rest _ _ _ _ hrest (by omega), Value.ordered, Value.orderedItems]
    rfl
  | .object [], depth, fuel, level, cs, hplain, hfuel => by
    obtain ⟨fuel, rfl⟩ := exists_fuel hplain hfuel
    cases hplain
    simp only [Value.ordered, Value.orderedFields]
    rfl
  | .object ((k, v) :: rest), depth, fuel, level, cs, hplain, hfuel => by
    cases hplain with
    | @object depth _ hfields =>
    obtain ⟨hv, hrest⟩ := List.forall_mem_cons.mp hfields
    have htext : prettyAt level (.object ((k, v) :: rest)) ++ cs
        = '{' :: (newline (level + 1) ++ (quoted k ++ ':' :: ' ' :: (prettyAt (level + 1) v ++
          (prettyFields (level + 1) rest ++ (newline level ++ '}' :: cs))))) := by
      simp only [prettyAt, List.append_assoc, List.cons_append, List.nil_append]
    have hlength : (prettyAt (level + 1) v).length + (prettyFields (level + 1) rest).length + 2
        ≤ fuel := by
      simp only [prettyAt, List.length_append, List.length_cons] at hfuel
      omega
    obtain ⟨fuel, rfl⟩ : ∃ f, fuel = f + 2 := ⟨fuel - 2, by omega⟩
    rw [htext, value_object, fields_of_value (value_prettyAt v _ _ hv (by omega)),
      afterField_prettyFields rest _ _ _ _ hrest (by omega), Value.ordered, Value.orderedFields]
    rfl

theorem afterItem_prettyItems : ∀ (rest : List Value) {depth fuel : Nat} (level outer : Nat)
    (v : Value) (cs : List Char), (∀ w ∈ rest, w.Plain depth) →
      (prettyItems level rest).length ≤ fuel →
        afterItem fuel depth v (prettyItems level rest ++ (newline outer ++ ']' :: cs))
          = some (v :: Value.orderedItems rest, cs)
  | [], depth, fuel, level, outer, v, cs, _, _ => by
    rw [prettyItems, List.nil_append, afterItem, skip_newline, skip_cons (by decide),
      Value.orderedItems]
    rfl
  | w :: rest, depth, fuel, level, outer, v, cs, hplain, hfuel => by
    obtain ⟨hw, hrest⟩ := List.forall_mem_cons.mp hplain
    have htext : prettyItems level (w :: rest) ++ (newline outer ++ ']' :: cs)
        = ',' :: (newline level ++ (prettyAt level w ++
          (prettyItems level rest ++ (newline outer ++ ']' :: cs)))) := by
      simp only [prettyItems, List.append_assoc, List.cons_append]
    have hlength : (prettyAt level w).length + (prettyItems level rest).length + 1 ≤ fuel := by
      simp only [prettyItems, List.length_append, List.length_cons] at hfuel
      omega
    obtain ⟨fuel, rfl⟩ : ∃ f, fuel = f + 1 := ⟨fuel - 1, by omega⟩
    have hitems : items (fuel + 1) depth (newline level ++ (prettyAt level w ++
        (prettyItems level rest ++ (newline outer ++ ']' :: cs))))
          = some (w.ordered :: Value.orderedItems rest, cs) := by
      rw [items_of_value ((value_newline _).trans (value_prettyAt w _ _ hw (by omega))),
        afterItem_prettyItems rest _ _ _ _ hrest (by omega)]
    rw [htext, afterItem, skip_cons (by decide)]
    simp only [hitems, Value.orderedItems]
    rfl

theorem afterField_prettyFields : ∀ (rest : List (String × Value)) {depth fuel : Nat}
    (level outer : Nat) (field : String × Value) (cs : List Char),
      (∀ other ∈ rest, other.2.Plain depth) → (prettyFields level rest).length ≤ fuel →
        afterField fuel depth field (prettyFields level rest ++ (newline outer ++ '}' :: cs))
          = some (field :: Value.orderedFields rest, cs)
  | [], depth, fuel, level, outer, field, cs, _, _ => by
    rw [prettyFields, List.nil_append, afterField, skip_newline, skip_cons (by decide),
      Value.orderedFields]
    rfl
  | (k, w) :: rest, depth, fuel, level, outer, field, cs, hplain, hfuel => by
    obtain ⟨hw, hrest⟩ := List.forall_mem_cons.mp hplain
    have htext : prettyFields level ((k, w) :: rest) ++ (newline outer ++ '}' :: cs)
        = ',' :: (newline level ++ (quoted k ++ ':' :: ' ' :: (prettyAt level w ++
          (prettyFields level rest ++ (newline outer ++ '}' :: cs))))) := by
      simp only [prettyFields, List.append_assoc, List.cons_append, List.nil_append]
    have hlength : (prettyAt level w).length + (prettyFields level rest).length + 1 ≤ fuel := by
      simp only [prettyFields, List.length_append, List.length_cons] at hfuel
      omega
    obtain ⟨fuel, rfl⟩ : ∃ f, fuel = f + 1 := ⟨fuel - 1, by omega⟩
    have hfields : fields (fuel + 1) depth (newline level ++ (quoted k ++ ':' :: ' ' ::
        (prettyAt level w ++ (prettyFields level rest ++ (newline outer ++ '}' :: cs)))))
          = some ((k, w.ordered) :: Value.orderedFields rest, cs) := by
      rw [fields_newline, fields_of_value (value_prettyAt w _ _ hw (by omega)),
        afterField_prettyFields rest _ _ _ _ hrest (by omega)]
    rw [htext, afterField, skip_cons (by decide)]
    simp only [hfields, Value.orderedFields]
    rfl

end

/-- **What is written is read back**, with white space behind it or without. -/
theorem readChars_prettyAt (h : v.Plain maxDepth) {blanks : List Char} (hblanks : skip blanks = []) :
    readChars (prettyAt 0 v ++ blanks) = some v.ordered := by
  have hlength : (prettyAt 0 v).length ≤ 2 * (prettyAt 0 v ++ blanks).length + 2 := by
    rw [List.length_append]
    omega
  rw [readChars, value_prettyAt v 0 blanks h hlength]
  simp [hblanks]

end Json

end SiteConfig
