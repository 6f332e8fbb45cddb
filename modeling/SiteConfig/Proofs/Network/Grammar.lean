import Mathlib.Data.List.Induction
import SiteConfig.Proofs.Network.Encoding

/-!
# The grammar of addresses and networks

What an address, a mask and a network look like is said here character by character, without a
reader, and with it which pairs of texts can be encoded and what is wrong with the others.

- `Text.Padded t s`: the text `s` is `t` with white space around it.
- `Address.Octet`, `Address.Quad`: four decimal octets with points between them.
- `Network.Length`, `Network.Literal`: a quad, a slash and a prefix length of any number of digits.
- `Cidr.Accepts ip mask`, `Cidr.Refuses ip mask fault`: the pairs that can be encoded, and the fault
  of each of the others.
- `Cidr.encode_iff`: encoding succeeds on the former and reports the fault of the latter.
-/

namespace SiteConfig

/-! ## White space around a text -/

namespace Text

/-- The text `s` is `t` with white space in front of it and behind it. -/
def Padded (t s : List Char) : Prop :=
  ∃ front back, s = front ++ t ++ back ∧ (∀ c ∈ front, isBlank c = true) ∧
    ∀ c ∈ back, isBlank c = true

theorem trimEnd_append_of_forall (s : List Char) {back : List Char}
    (h : ∀ c ∈ back, isBlank c = true) : trimEnd (s ++ back) = trimEnd s := by
  have hback : ∀ c ∈ back.reverse, isBlank c = true := fun c hc => h c (List.mem_reverse.mp hc)
  rw [trimEnd, trimEnd, List.reverse_append, List.dropWhile_append_of_pos hback]

/-- What is left of a text without the white space at its end, and that white space. -/
theorem exists_trimEnd_append (s : List Char) :
    ∃ back, s = trimEnd s ++ back ∧ ∀ c ∈ back, isBlank c = true := by
  refine ⟨(s.reverse.takeWhile isBlank).reverse, ?_, fun c hc => ?_⟩
  · rw [trimEnd, ← List.reverse_append, List.takeWhile_append_dropWhile, List.reverse_reverse]
  · exact List.mem_takeWhile_imp (List.mem_reverse.mp hc)

theorem padded_trim (s : List Char) : Padded (trim s) s := by
  obtain ⟨back, hback, hblank⟩ := exists_trimEnd_append (s.dropWhile isBlank)
  refine ⟨s.takeWhile isBlank, back, ?_, fun c hc => List.mem_takeWhile_imp hc, hblank⟩
  calc s = s.takeWhile isBlank ++ s.dropWhile isBlank := List.takeWhile_append_dropWhile.symm
    _ = s.takeWhile isBlank ++ (trim s ++ back) := congrArg _ hback
    _ = s.takeWhile isBlank ++ trim s ++ back := (List.append_assoc ..).symm

/-- Trimming finds the one text without white space that is padded. -/
theorem padded_iff {t s : List Char} (h : ∀ c ∈ t, isBlank c = false) :
    Padded t s ↔ trim s = t := by
  constructor
  · rintro ⟨front, back, rfl, hfront, hback⟩
    have hdrop : (t ++ back).dropWhile isBlank = (t ++ []).dropWhile isBlank ++ back ∨
        t = [] ∧ (t ++ back).dropWhile isBlank = [] := by
      cases t with
      | nil => exact .inr ⟨rfl, List.dropWhile_eq_nil_iff.mpr hback⟩
      | cons c rest =>
        have hc : ¬ isBlank c = true := by simp [h c List.mem_cons_self]
        exact .inl (by simp [List.dropWhile_cons_of_neg hc])
    rw [trim, List.append_assoc, List.dropWhile_append_of_pos hfront]
    rcases hdrop with hdrop | ⟨rfl, hdrop⟩
    · rw [hdrop, trimEnd_append_of_forall _ hback, List.append_nil]
      exact trim_eq_self h
    · rw [hdrop]
      rfl
  · rintro rfl
    exact padded_trim s

/-- The value of a digit is the digit. -/
theorem digitChar_of_isDigit {c : Char} (h : c.isDigit = true) :
    (c.toNat - '0'.toNat).digitChar = c ∧ c.toNat - '0'.toNat < 10 := by
  have hrange : 48 ≤ c.toNat ∧ c.toNat ≤ 57 := by
    simp only [Char.isDigit, Bool.and_eq_true, decide_eq_true_eq, ge_iff_le,
      UInt32.le_iff_toNat_le] at h
    exact h
  have hlt : c.toNat - '0'.toNat < 10 := by
    have hzero : '0'.toNat = 48 := rfl
    omega
  refine ⟨Char.toNat_inj.mp ?_, hlt⟩
  rw [Nat.toNat_digitChar_of_lt_ten hlt]
  have hzero : '0'.toNat = 48 := rfl
  omega

theorem decimal_ten_mul_add {n d : Nat} (hn : 0 < n) (hd : d < 10) :
    decimal (10 * n + d) = decimal n ++ [d.digitChar] := by
  rw [decimal, ← Nat.toDigits_append_toDigits (by decide) hn hd, Nat.toDigits_of_lt_base hd]
  rfl

/-- No number but zero is written with a zero in front. -/
theorem head?_decimal_ne {n : Nat} (h : 0 < n) : (decimal n).head? ≠ some '0' := by
  induction n using Nat.strongRecOn with
  | ind n ih =>
    by_cases hn : n < 10
    · rw [decimal, Nat.toDigits_of_lt_base hn]
      intro hzero
      rw [List.head?_cons, Option.some.injEq, Nat.digitChar_eq_zero] at hzero
      omega
    · have hsplit : decimal n = decimal (n / 10) ++ [(n % 10).digitChar] :=
        Nat.toDigits_of_base_le (by decide) (Nat.not_lt.mp hn)
      rw [hsplit, List.head?_append_of_ne_nil _ (decimal_ne_nil _)]
      exact ih (n / 10) (by omega) (by omega)

/-- **A number has one spelling** without zeros in front: its own decimal digits. -/
theorem eq_decimal_of_digits {s : List Char} (hne : s ≠ []) (hdigits : ∀ c ∈ s, c.isDigit = true)
    (hzero : s.head? = some '0' → s = ['0']) : s = decimal (Nat.ofDigitChars 10 s 0) := by
  -- From the last digit on: a number is its front part times ten, and that digit.
  induction s using List.reverseRecOn with
  | nil => exact absurd rfl hne
  | append_singleton front d ih =>
    obtain ⟨hd, hlt⟩ := digitChar_of_isDigit (hdigits d (by simp))
    rw [Nat.ofDigitChars_append, Nat.ofDigitChars_cons, Nat.ofDigitChars_nil]
    by_cases hfront : front = []
    · subst hfront
      rw [Nat.ofDigitChars_nil, Nat.mul_zero, Nat.zero_add, decimal, Nat.toDigits_of_lt_base hlt,
        hd, List.nil_append]
    · have hhead : front.head? ≠ some '0' := by
        intro h
        have h' := hzero (by rwa [List.head?_append_of_ne_nil _ hfront])
        rw [List.append_eq_singleton_iff] at h'
        rcases h' with ⟨hnil, -⟩ | ⟨-, hnil⟩
        · exact hfront hnil
        · cases hnil
      have hih := ih hfront (fun c hc => hdigits c (by simp [hc])) fun h => absurd h hhead
      have hpos : 0 < Nat.ofDigitChars 10 front 0 := by
        rw [Nat.pos_iff_ne_zero]
        intro h
        rw [h] at hih
        rw [hih] at hhead
        exact hhead rfl
      rw [decimal_ten_mul_add hpos hlt, ← hih, hd]

end Text

/-! ## Addresses -/

namespace Address

/-- The octet `n`: decimal digits without a zero in front, and a value of at most 255. -/
structure Octet (s : List Char) (n : Nat) : Prop where
  ne_nil : s ≠ []
  digits : ∀ c ∈ s, c.isDigit = true
  noLeadingZero : s.head? = some '0' → s = ['0']
  value : Nat.ofDigitChars 10 s 0 = n
  le : n ≤ 255

/-- The dotted quad of an address. -/
inductive Quad : List Char → Address → Prop
  | octets {p q r s : List Char} {k l m n : Nat} (hp : Octet p k) (hq : Octet q l)
      (hr : Octet r m) (hs : Octet s n) :
      Quad (p ++ '.' :: (q ++ '.' :: (r ++ '.' :: s))) (ofOctets k l m n)

theorem octet_iff {s : List Char} {n : Nat} : Octet s n ↔ octet? s = some n := by
  rw [octet?_eq_some_iff]
  constructor
  · intro h
    refine ⟨h.le, ?_⟩
    rw [← h.value]
    exact Text.eq_decimal_of_digits h.ne_nil h.digits h.noLeadingZero
  · rintro ⟨hle, rfl⟩
    refine ⟨Text.decimal_ne_nil n, fun c => Text.isDigit_of_mem_decimal, fun hhead => ?_,
      Nat.ofDigitChars_ten_toDigits, hle⟩
    rcases Nat.eq_zero_or_pos n with rfl | hpos
    · rfl
    · exact absurd hhead (Text.head?_decimal_ne hpos)

theorem Octet.dot_not_mem {s : List Char} {n : Nat} (h : Octet s n) : '.' ∉ s := by
  intro hdot
  have := h.digits '.' hdot
  cases this

theorem Quad.parse? {s : List Char} {a : Address} (h : Quad s a) : parse? s = some a := by
  cases h with
  | octets hp hq hr hs =>
    rw [Address.parse?, parts_append hp.dot_not_mem, parts_append hq.dot_not_mem,
      parts_append hr.dot_not_mem, parts_of_not_mem hs.dot_not_mem]
    simp only [octet_iff.mp hp, octet_iff.mp hq, octet_iff.mp hr, octet_iff.mp hs]

theorem quad_text (a : Address) : Quad a.text a := by
  obtain ⟨hp, hq, hr, hs⟩ := a.octets_le
  have hoctet : ∀ {n : Nat}, n ≤ 255 → Octet (Text.decimal n) n :=
    fun h => octet_iff.mpr (octet?_eq_some_iff.mpr ⟨h, rfl⟩)
  have h := Quad.octets (hoctet hp) (hoctet hq) (hoctet hr) (hoctet hs)
  rw [ofOctets_octets] at h
  simpa [text] using h

/-- Exactly the dotted quads can be read. -/
theorem quad_iff {s : List Char} {a : Address} : Quad s a ↔ parse? s = some a := by
  constructor
  · exact Quad.parse?
  · intro h
    rw [parse?_eq_some_iff] at h
    exact h ▸ a.quad_text

theorem Quad.eq_text {s : List Char} {a : Address} (h : Quad s a) : s = a.text :=
  parse?_eq_some_iff.mp h.parse?

end Address

/-! ## Networks -/

namespace Network

/-- A prefix length: one or more digits, zeros in front allowed, perhaps behind a plus sign, with a
value of at most 32. -/
inductive Length : List Char → Nat → Prop
  | plain {ds : List Char} (hne : ds ≠ []) (hdigits : ∀ c ∈ ds, c.isDigit = true)
      (hle : Nat.ofDigitChars 10 ds 0 ≤ 32) : Length ds (Nat.ofDigitChars 10 ds 0)
  | signed {ds : List Char} (hne : ds ≠ []) (hdigits : ∀ c ∈ ds, c.isDigit = true)
      (hle : Nat.ofDigitChars 10 ds 0 ≤ 32) : Length ('+' :: ds) (Nat.ofDigitChars 10 ds 0)

/-- A dotted quad, a slash and a prefix length, with nothing in between. -/
inductive Literal : List Char → Network → Prop
  | slash {s t : List Char} {a : Address} {n : Nat} (ha : Address.Quad s a) (hn : Length t n) :
      Literal (s ++ '/' :: t) ⟨a, n⟩

theorem length_iff {s : List Char} {n : Nat} : Length s n ↔ length? s = some n := by
  have hnatural : ∀ {ds : List Char}, ds ≠ [] → (∀ c ∈ ds, c.isDigit = true) →
      Text.natural? ds = some (Nat.ofDigitChars 10 ds 0) := by
    intro ds hne hdigits
    unfold Text.natural?
    rw [if_pos ⟨hne, List.all_eq_true.mpr hdigits⟩]
  constructor
  · intro h
    cases h with
    | plain hne hdigits hle =>
      unfold length?
      split
      · -- A plus sign is no digit.
        next rest =>
        have := hdigits '+' List.mem_cons_self
        cases this
      · simp only [hnatural hne hdigits]
        exact if_pos hle
    | signed hne hdigits hle =>
      simp only [length?, hnatural hne hdigits]
      exact if_pos hle
  · intro h
    have hdigits : ∀ {ds : List Char} {m : Nat}, Text.natural? ds = some m →
        ds ≠ [] ∧ (∀ c ∈ ds, c.isDigit = true) ∧ Nat.ofDigitChars 10 ds 0 = m := by
      intro ds m hm
      unfold Text.natural? at hm
      split at hm
      · next hds =>
        cases hm
        exact ⟨hds.1, List.all_eq_true.mp hds.2, rfl⟩
      · cases hm
    have hle := length?_le h
    simp only [length?] at h
    split at h
    · next m hm =>
      split at h
      · cases h
        split at hm
        · obtain ⟨hne, hall, rfl⟩ := hdigits hm
          exact .signed hne hall hle
        · obtain ⟨hne, hall, rfl⟩ := hdigits hm
          exact .plain hne hall hle
      · cases h
    · cases h

theorem Length.not_isBlank {s : List Char} {n : Nat} (h : Length s n) :
    ∀ c ∈ s, Text.isBlank c = false := by
  cases h with
  | plain _ hdigits _ => exact fun c hc => Text.not_isBlank_of_isDigit (hdigits c hc)
  | signed _ hdigits _ =>
    rw [List.forall_mem_cons]
    exact ⟨by decide, fun c hc => Text.not_isBlank_of_isDigit (hdigits c hc)⟩

theorem Literal.not_isBlank {s : List Char} {net : Network} (h : Literal s net) :
    ∀ c ∈ s, Text.isBlank c = false := by
  cases h with
  | slash ha hn =>
    rw [ha.eq_text, List.forall_mem_append, List.forall_mem_cons]
    exact ⟨fun c => Address.not_isBlank_of_mem_text, by decide, hn.not_isBlank⟩

/-- Exactly the networks, with white space around them, can be read. -/
theorem exists_literal_iff {s : List Char} {net : Network} :
    (∃ t, Text.Padded t s ∧ Literal t net) ↔ parse? s = some net := by
  constructor
  · rintro ⟨t, hpadded, hliteral⟩
    rw [Text.padded_iff hliteral.not_isBlank] at hpadded
    cases hliteral with
    | @slash u v a n ha hn =>
      have hslash : ∀ c ∈ u, decide (c ≠ '/') = true := by
        intro c hc
        rw [decide_eq_true_eq]
        rintro rfl
        rw [ha.eq_text] at hc
        exact a.slash_not_mem_text hc
      simp only [parse?, hpadded, List.dropWhile_append_of_pos hslash,
        List.takeWhile_append_of_pos hslash, ne_eq, not_true_eq_false, decide_false,
        Bool.false_eq_true, not_false_eq_true, List.dropWhile_cons_of_neg,
        List.takeWhile_cons_of_neg, List.append_nil, ha.parse?, length_iff.mp hn]
  · intro h
    refine ⟨Text.trim s, Text.padded_trim s, ?_⟩
    simp only [parse?] at h
    split at h
    · next c rest hdrop =>
      split at h
      · next a n ha hn =>
        cases h
        -- What ends the part before the slash is the slash.
        have hc : c = '/' := by
          have hhead := List.head?_dropWhile_not (fun c => decide (c ≠ '/')) (Text.trim s)
          rw [hdrop, List.head?_cons] at hhead
          simpa using hhead
        subst hc
        have hsplit : Text.trim s = (Text.trim s).takeWhile (· ≠ '/') ++ '/' :: rest := by
          rw [← hdrop, List.takeWhile_append_dropWhile]
        rw [hsplit]
        exact .slash (Address.quad_iff.mpr ha) (length_iff.mpr hn)
      · cases h
    · cases h

end Network

/-! ## Encoding -/

namespace Cidr

/-- The text is the dotted quad of an address, up to white space around it. -/
def IsAddress (s : String) (a : Address) : Prop :=
  ∃ t, Text.Padded t s.toList ∧ Address.Quad t a

/-- The text is a network with its prefix length, up to white space around it. -/
def IsNetwork (s : String) (net : Network) : Prop :=
  ∃ t, Text.Padded t s.toList ∧ Network.Literal t net

/-- The pairs of an address and a mask that can be encoded. Whether there is a mask, and whether the
address has a slash, is looked up in the texts as they are, white space included. -/
inductive Accepts (ip mask : String) : Prop
  | masked {a m : Address} {n : Nat} (hmask : mask ≠ "") (hip : IsAddress ip a)
      (hm : IsAddress mask m) (hn : Mask.HasLength m n)
  | carried {net : Network} (hmask : mask = "") (hslash : '/' ∈ ip.toList)
      (hip : IsNetwork ip net)
  | single {a : Address} (hmask : mask = "") (hslash : '/' ∉ ip.toList) (hip : IsAddress ip a)

/-- What is wrong with a pair of an address and a mask. The address is blamed first; literals are
reported as they are written, and a mask with its bits in disorder in its canonical spelling. -/
inductive Refuses (ip mask : String) : Fault → Prop
  | address (hmask : mask ≠ "") (hip : ∀ a, ¬ IsAddress ip a) : Refuses ip mask (.network ip)
  | maskText {a : Address} (hmask : mask ≠ "") (hip : IsAddress ip a)
      (hm : ∀ m, ¬ IsAddress mask m) : Refuses ip mask (.network mask)
  | maskBits {a m : Address} (hmask : mask ≠ "") (hip : IsAddress ip a) (hm : IsAddress mask m)
      (hn : ∀ n, ¬ Mask.HasLength m n) : Refuses ip mask (.mask (String.ofList m.text))
  | carried (hmask : mask = "") (hslash : '/' ∈ ip.toList) (hip : ∀ net, ¬ IsNetwork ip net) :
      Refuses ip mask (.network ip)
  | single (hmask : mask = "") (hslash : '/' ∉ ip.toList) (hip : ∀ a, ¬ IsAddress ip a) :
      Refuses ip mask (.network ip)

theorem isAddress_iff {s : String} {a : Address} : IsAddress s a ↔ address s = .ok a := by
  rw [address_eq_ok_iff]
  constructor
  · rintro ⟨t, hpadded, hquad⟩
    have hblank : ∀ c ∈ t, Text.isBlank c = false := by
      rw [hquad.eq_text]
      exact fun c => Address.not_isBlank_of_mem_text
    rw [(Text.padded_iff hblank).mp hpadded]
    exact hquad.parse?
  · intro h
    exact ⟨_, Text.padded_trim _, Address.quad_iff.mpr h⟩

theorem isNetwork_iff {s : String} {net : Network} : IsNetwork s net ↔ network s = .ok net := by
  rw [network_eq_ok_iff]
  exact Network.exists_literal_iff

theorem address_eq_error_iff {s : String} {fault : Fault} :
    address s = .error fault ↔ (∀ a, ¬ IsAddress s a) ∧ fault = .network s := by
  simp only [isAddress_iff]
  unfold address
  cases Address.parse? (Text.trim s.toList) with
  | none => simp [eq_comm]
  | some a => simp

theorem network_eq_error_iff {s : String} {fault : Fault} :
    network s = .error fault ↔ (∀ net, ¬ IsNetwork s net) ∧ fault = .network s := by
  simp only [isNetwork_iff]
  unfold network
  cases Network.parse? s.toList with
  | none => simp [eq_comm]
  | some net => simp

theorem prefixLength_eq_error_iff {m : Address} {fault : Fault} :
    prefixLength m = .error fault ↔
      (∀ n, ¬ Mask.HasLength m n) ∧ fault = .mask (String.ofList m.text) := by
  simp only [← prefixLength_eq_ok_iff]
  unfold prefixLength
  cases Mask.prefixLength? m with
  | none => simp [eq_comm]
  | some n => simp

theorem exists_encode_iff_accepts {ip mask : String} :
    (∃ c, encode ip mask = .ok c) ↔ Accepts ip mask := by
  simp only [encode_eq_ok_iff]
  constructor
  · rintro ⟨c, net, h⟩
    cases h with
    | masked hmask ha hm hn =>
      exact .masked hmask (isAddress_iff.mpr (address_eq_ok_iff.mpr ha))
        (isAddress_iff.mpr (address_eq_ok_iff.mpr hm)) hn
    | carried hmask hslash hnet =>
      exact .carried hmask hslash (isNetwork_iff.mpr (network_eq_ok_iff.mpr hnet))
    | single hmask hslash ha =>
      exact .single hmask hslash (isAddress_iff.mpr (address_eq_ok_iff.mpr ha))
  · intro h
    cases h with
    | masked hmask hip hm hn =>
      exact ⟨_, _, .masked hmask (address_eq_ok_iff.mp (isAddress_iff.mp hip))
        (address_eq_ok_iff.mp (isAddress_iff.mp hm)) hn⟩
    | carried hmask hslash hip =>
      exact ⟨_, _, .carried hmask hslash (network_eq_ok_iff.mp (isNetwork_iff.mp hip))⟩
    | single hmask hslash hip =>
      exact ⟨_, _, .single hmask hslash (address_eq_ok_iff.mp (isAddress_iff.mp hip))⟩

theorem encode_eq_error_iff_refuses {ip mask : String} {fault : Fault} :
    encode ip mask = .error fault ↔ Refuses ip mask fault := by
  unfold encode
  by_cases hmask : mask = ""
  · rw [if_neg (not_not_intro hmask)]
    by_cases hslash : '/' ∈ ip.toList
    · rw [if_pos hslash]
      simp only [Steps.bind_eq_error, network_eq_error_iff, Steps.pure_eq_error_iff, and_false,
        exists_false, or_false]
      constructor
      · rintro ⟨hip, rfl⟩
        exact .carried hmask hslash hip
      · intro h
        cases h with
        | carried _ _ hip => exact ⟨hip, rfl⟩
        | single _ hnot => exact absurd hslash hnot
        | address hmask' | maskText hmask' | maskBits hmask' => exact absurd hmask hmask'
    · rw [if_neg hslash]
      simp only [Steps.bind_eq_error, address_eq_error_iff, Steps.pure_eq_error_iff, and_false,
        exists_false, or_false]
      constructor
      · rintro ⟨hip, rfl⟩
        exact .single hmask hslash hip
      · intro h
        cases h with
        | single _ _ hip => exact ⟨hip, rfl⟩
        | carried _ hslash' => exact absurd hslash' hslash
        | address hmask' | maskText hmask' | maskBits hmask' => exact absurd hmask hmask'
  · rw [if_pos hmask]
    simp only [Steps.bind_eq_error, address_eq_error_iff, prefixLength_eq_error_iff,
      ← isAddress_iff, Steps.pure_eq_error_iff, and_false, exists_false, or_false]
    constructor
    · rintro (⟨hip, rfl⟩ | ⟨a, hip, ⟨hm, rfl⟩ | ⟨m, hm, hn, rfl⟩⟩)
      · exact .address hmask hip
      · exact .maskText hmask hip hm
      · exact .maskBits hmask hip hm hn
    · intro h
      cases h with
      | address _ hip => exact .inl ⟨hip, rfl⟩
      | maskText _ hip hm => exact .inr ⟨_, hip, .inl ⟨hm, rfl⟩⟩
      | maskBits _ hip hm hn => exact .inr ⟨_, hip, .inr ⟨_, hm, hn, rfl⟩⟩
      | carried hempty | single hempty => exact absurd hempty hmask

/-- **Encoding accepts its grammar and nothing else**, and says of everything else what is wrong
with it. -/
theorem encode_iff (ip mask : String) :
    ((∃ c, encode ip mask = .ok c) ↔ Accepts ip mask) ∧
      ∀ fault, encode ip mask = .error fault ↔ Refuses ip mask fault :=
  ⟨exists_encode_iff_accepts, fun _ => encode_eq_error_iff_refuses⟩

/-- A sign and any number of zeros may stand in front of a prefix length, but not in front of an
octet. -/
example : encode " 10.0.0.0/+0000000000016 " "" = .ok " 10.0.0.0/+0000000000016 " ∧
    encode "10.0.0.01/16" "" = .error (.network "10.0.0.01/16") := by
  decide +kernel

end Cidr

end SiteConfig
