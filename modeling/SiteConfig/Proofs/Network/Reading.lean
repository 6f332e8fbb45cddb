import Mathlib.Data.List.TakeWhile
import SiteConfig.Network.Cidr

/-!
# Networks are read back from their texts

Writing an address or a network and reading the text again gives the same address or network. For
addresses the converse holds too: the dotted quad is the only spelling.

- `Text.trim_eq_self`: trimming does nothing to a text without white space.
- `Address.parse?_eq_some_iff`: a text is read as an address exactly when it is its dotted quad.
- `Network.parse?_text`: the text `a.b.c.d/n` is read as the network it was written for.
-/

namespace SiteConfig

/-! ## White space -/

namespace Text

theorem trimEnd_eq_self {s : List Char} (h : ∀ c ∈ s, isBlank c = false) : trimEnd s = s := by
  rcases List.eq_nil_or_concat s with rfl | ⟨front, c, rfl⟩
  · rfl
  · rw [List.concat_eq_append]
    exact trimEnd_append_of_not_isBlank front c (h c (by simp))

theorem trim_eq_self {s : List Char} (h : ∀ c ∈ s, isBlank c = false) : trim s = s := by
  cases s with
  | nil => rfl
  | cons c rest =>
    have hc : isBlank c = false := h c (by simp)
    rw [trim, List.dropWhile_cons_of_neg (by simp [hc])]
    exact trimEnd_eq_self h

/-- Trimming invents no characters. -/
theorem mem_of_mem_trim {s : List Char} {c : Char} (h : c ∈ trim s) : c ∈ s := by
  have h' : c ∈ (s.dropWhile isBlank).reverse.dropWhile isBlank := by
    simpa [trim, trimEnd] using h
  have h'' : c ∈ s.dropWhile isBlank :=
    List.mem_reverse.mp ((List.dropWhile_sublist _).subset h')
  exact (List.dropWhile_sublist _).subset h''

/-- Trimming drops nothing but white space. -/
theorem mem_trim {s : List Char} {c : Char} (h : c ∈ s) (hc : isBlank c = false) : c ∈ trim s := by
  have hdrop : ∀ l : List Char, c ∈ l → c ∈ l.dropWhile isBlank := by
    intro l hl
    rw [← List.takeWhile_append_dropWhile (p := isBlank) (l := l), List.mem_append] at hl
    rcases hl with hfront | hback
    · rw [List.mem_takeWhile_imp hfront] at hc
      cases hc
    · exact hback
  exact List.mem_reverse.mpr (hdrop _ (List.mem_reverse.mpr (hdrop s h)))

theorem not_isBlank_of_isDigit {c : Char} (h : c.isDigit = true) : isBlank c = false := by
  have hrange : 48 ≤ c.toNat ∧ c.toNat ≤ 57 := by
    simp only [Char.isDigit, Bool.and_eq_true, decide_eq_true_eq, ge_iff_le,
      UInt32.le_iff_toNat_le] at h
    exact h
  simp only [isBlank, Bool.or_eq_false_iff, Bool.and_eq_false_iff, decide_eq_false_iff_not,
    beq_eq_false_iff_ne]
  omega

theorem not_mem_decimal {c : Char} (h : c.isDigit = false) (n : Nat) : c ∉ decimal n := by
  intro hc
  rw [isDigit_of_mem_decimal hc] at h
  cases h

end Text

/-! ## Dotted quads -/

namespace Address

theorem parts_ne_nil (s : List Char) : parts s ≠ [] := by
  cases s with
  | nil => simp [parts]
  | cons c rest =>
    rw [parts]
    split
    · simp
    · split <;> simp

theorem parts_of_not_mem {p : List Char} (h : '.' ∉ p) : parts p = [p] := by
  induction p with
  | nil => rfl
  | cons c rest ih =>
    have hc : c ≠ '.' := fun e => h (by simp [e])
    have hrest : '.' ∉ rest := fun m => h (by simp [m])
    rw [parts, if_neg hc, ih hrest]

theorem parts_append {p : List Char} (h : '.' ∉ p) (s : List Char) :
    parts (p ++ '.' :: s) = p :: parts s := by
  induction p with
  | nil => rw [List.nil_append, parts, if_pos rfl]
  | cons c rest ih =>
    have hc : c ≠ '.' := fun e => h (by simp [e])
    have hrest : '.' ∉ rest := fun m => h (by simp [m])
    rw [List.cons_append, parts, if_neg hc, ih hrest]

/-- Nothing is lost between the points. -/
theorem intercalate_parts (s : List Char) : ['.'].intercalate (parts s) = s := by
  induction s with
  | nil => rfl
  | cons c rest ih =>
    rw [parts]
    obtain ⟨p, more, hp⟩ := List.exists_cons_of_ne_nil (parts_ne_nil rest)
    rw [hp] at ih ⊢
    by_cases hc : c = '.'
    · rw [if_pos hc, hc, ← ih]
      rfl
    · rw [if_neg hc, ← ih]
      cases more <;> rfl

theorem octets_le (a : Address) :
    a.octets.1 ≤ 255 ∧ a.octets.2.1 ≤ 255 ∧ a.octets.2.2.1 ≤ 255 ∧ a.octets.2.2.2 ≤ 255 := by
  have ha : a.toNat < 2 ^ 32 := a.isLt
  simp only [octets]
  omega

theorem ofOctets_octets (a : Address) :
    ofOctets a.octets.1 a.octets.2.1 a.octets.2.2.1 a.octets.2.2.2 = a := by
  have ha : a.toNat < 2 ^ 32 := a.isLt
  apply BitVec.eq_of_toNat_eq
  simp only [ofOctets, octets, BitVec.toNat_ofNat]
  omega

theorem octets_ofOctets {p q r s : Nat} (hp : p ≤ 255) (hq : q ≤ 255) (hr : r ≤ 255)
    (hs : s ≤ 255) : (ofOctets p q r s).octets = (p, q, r, s) := by
  simp only [octets, ofOctets, BitVec.toNat_ofNat, Prod.mk.injEq]
  omega

/-- Between the points of a dotted quad stand the octets. -/
theorem parts_text (a : Address) :
    parts a.text = [Text.decimal a.octets.1, Text.decimal a.octets.2.1,
      Text.decimal a.octets.2.2.1, Text.decimal a.octets.2.2.2] := by
  have hdot : ∀ n, '.' ∉ Text.decimal n := Text.not_mem_decimal (by decide)
  show parts (Text.decimal _ ++ '.' :: Text.decimal _ ++ '.' :: Text.decimal _
    ++ '.' :: Text.decimal _) = _
  simp only [List.append_assoc, List.cons_append]
  rw [parts_append (hdot _), parts_append (hdot _), parts_append (hdot _),
    parts_of_not_mem (hdot _)]
  rfl

theorem text_ne_nil (a : Address) : a.text ≠ [] := by
  intro h
  have hparts := congrArg List.length a.parts_text
  rw [h] at hparts
  cases hparts

@[simp] theorem parse?_text (a : Address) : parse? a.text = some a := by
  obtain ⟨hp, hq, hr, hs⟩ := a.octets_le
  rw [parse?, parts_text]
  simp only [octet?_eq_some_iff.mpr ⟨hp, rfl⟩, octet?_eq_some_iff.mpr ⟨hq, rfl⟩,
    octet?_eq_some_iff.mpr ⟨hr, rfl⟩, octet?_eq_some_iff.mpr ⟨hs, rfl⟩]
  rw [ofOctets_octets]

theorem eq_text_of_parse? {s : List Char} {a : Address} (h : parse? s = some a) :
    s = a.text := by
  rw [parse?] at h
  split at h
  · next p q r t hparts =>
    split at h
    · next k l m n hk hl hm hn =>
      obtain ⟨hk255, rfl⟩ := octet?_eq_some_iff.mp hk
      obtain ⟨hl255, rfl⟩ := octet?_eq_some_iff.mp hl
      obtain ⟨hm255, rfl⟩ := octet?_eq_some_iff.mp hm
      obtain ⟨hn255, rfl⟩ := octet?_eq_some_iff.mp hn
      simp only [Option.some.injEq] at h
      subst h
      rw [text, octets_ofOctets hk255 hl255 hm255 hn255, ← intercalate_parts s, hparts]
      simp [List.intercalate]
    · simp at h
  · simp at h

/-- **The dotted quad is the only spelling** of an address. -/
theorem parse?_eq_some_iff {s : List Char} {a : Address} : parse? s = some a ↔ s = a.text :=
  ⟨eq_text_of_parse?, fun h => h ▸ parse?_text a⟩

theorem isDigit_or_dot_of_mem_text {a : Address} {c : Char} (h : c ∈ a.text) :
    c.isDigit = true ∨ c = '.' := by
  simp only [text, List.mem_append, List.mem_cons] at h
  rcases h with ((h | h | h) | h | h) | h | h <;>
    first
      | exact .inr h
      | exact .inl (Text.isDigit_of_mem_decimal h)

theorem slash_not_mem_text (a : Address) : '/' ∉ a.text := by
  intro h
  rcases isDigit_or_dot_of_mem_text h with h | h <;> cases h

/-- A text with a slash in it is no address, with or without white space around it. -/
theorem parse?_trim_of_slash {s : List Char} (h : '/' ∈ s) : parse? (Text.trim s) = none := by
  cases hparse : parse? (Text.trim s) with
  | none => rfl
  | some a =>
    have hslash := Text.mem_trim h (by decide)
    rw [eq_text_of_parse? hparse] at hslash
    exact absurd hslash a.slash_not_mem_text

theorem not_isBlank_of_mem_text {a : Address} {c : Char} (h : c ∈ a.text) :
    Text.isBlank c = false := by
  rcases isDigit_or_dot_of_mem_text h with h | rfl
  · exact Text.not_isBlank_of_isDigit h
  · decide

@[simp] theorem trim_text (a : Address) : Text.trim a.text = a.text :=
  Text.trim_eq_self fun _ => not_isBlank_of_mem_text

theorem parse?_trim_text (a : Address) :
    parse? (Text.trim (String.ofList a.text).toList) = some a := by
  rw [String.toList_ofList, trim_text, parse?_text]

theorem ofList_text_ne (a : Address) : String.ofList a.text ≠ "" := fun hempty =>
  a.text_ne_nil (String.ofList_eq_empty_iff.mp hempty)

end Address

/-! ## Networks -/

namespace Network

theorem length?_le {s : List Char} {n : Nat} (h : length? s = some n) : n ≤ Mask.maxPrefix := by
  simp only [length?] at h
  split at h
  · next m _ =>
    by_cases hm : m ≤ Mask.maxPrefix
    · rw [if_pos hm] at h
      cases h
      exact hm
    · rw [if_neg hm] at h
      cases h
  · cases h

theorem length?_decimal {n : Nat} (h : n ≤ Mask.maxPrefix) :
    length? (Text.decimal n) = some n := by
  unfold length?
  split
  · next rest hplus =>
    have hmem : '+' ∈ Text.decimal n := hplus ▸ List.mem_cons_self
    exact absurd hmem (Text.not_mem_decimal (by decide) n)
  · simp [h]

theorem not_isBlank_of_mem_text {net : Network} {c : Char} (h : c ∈ net.text) :
    Text.isBlank c = false := by
  simp only [text, List.mem_append, List.mem_cons] at h
  rcases h with h | rfl | h
  · exact Address.not_isBlank_of_mem_text h
  · decide
  · exact Text.not_isBlank_of_isDigit (Text.isDigit_of_mem_decimal h)

/-- **The text of a network is read as the network.** -/
theorem parse?_text {net : Network} (h : net.length ≤ Mask.maxPrefix) :
    parse? net.text = some net := by
  have hslash : ∀ c ∈ net.address.text, decide (c ≠ '/') = true := by
    intro c hc
    rw [decide_eq_true_eq]
    rintro rfl
    exact Address.slash_not_mem_text net.address hc
  have hafter : net.text.dropWhile (· ≠ '/') = '/' :: Text.decimal net.length := by
    rw [text, List.dropWhile_append_of_pos hslash, List.dropWhile_cons_of_neg (by decide)]
  have hbefore : net.text.takeWhile (· ≠ '/') = net.address.text := by
    rw [text, List.takeWhile_append_of_pos hslash, List.takeWhile_cons_of_neg (by decide),
      List.append_nil]
  simp only [parse?, Text.trim_eq_self fun _ => not_isBlank_of_mem_text, hafter, hbefore,
    Address.parse?_text, length?_decimal h]

/-- What is read as a network has a slash in it. -/
theorem slash_mem_of_parse? {s : List Char} {net : Network} (h : parse? s = some net) :
    '/' ∈ s := by
  apply Text.mem_of_mem_trim
  by_contra hslash
  have hall : ∀ c ∈ Text.trim s, decide (c ≠ '/') = true := by
    intro c hc
    rw [decide_eq_true_eq]
    rintro rfl
    exact hslash hc
  have hnil : (Text.trim s).dropWhile (· ≠ '/') = [] := List.dropWhile_eq_nil_iff.mpr hall
  simp only [parse?, hnil] at h
  cases h

/-- What is read as a network has a prefix length of at most 32. -/
theorem length_le_of_parse? {s : List Char} {net : Network} (h : parse? s = some net) :
    net.length ≤ Mask.maxPrefix := by
  simp only [parse?] at h
  split at h
  · split at h
    · next hn =>
      cases h
      exact length?_le hn
    · cases h
  · cases h

/-- What stands before the slash of a network is its address. -/
theorem parse?_takeWhile {s : List Char} {net : Network} (h : parse? s = some net) :
    Address.parse? ((Text.trim s).takeWhile (· ≠ '/')) = some net.address := by
  simp only [parse?] at h
  split at h
  · split at h
    · next ha _ =>
      cases h
      exact ha
    · cases h
  · cases h

end Network

end SiteConfig
