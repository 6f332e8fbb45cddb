import Mathlib.Algebra.Group.Nat.Defs
import SiteConfig.Proofs.Network.Grammar

/-!
# Which words are masks, and how masks are ordered

Of all words only 33 are masks, and of all numbers only 33 are lengths. Which word has a length, and
what the word of a length is, can be read from the bits alone; as numbers, masks stand in the order
of their lengths.

- `Mask.Interrupted m`: in the word `m`, a zero stands before a one.
- `Mask.exists_hasLength_iff`: the masks are the words that are not interrupted.
- `Mask.HasLength.toNat_add`: a mask of length `n`, as a number, and the `2 ^ (32 - n)` addresses of
  a network of that length make up all addresses.
- `Mask.HasLength.lt_iff_lt`: the longer of two lengths has the larger mask.
- `Cidr.prefixLength_inverse`: the length is read off a word exactly when the word is made for that
  length, and where there is no length or no mask, why not.
-/

namespace SiteConfig

namespace Mask

/-! ## Words without a length -/

/-- Counted from the highest bit, some zero of the word is followed by a one. -/
def Interrupted (m : Address) : Prop :=
  ∃ j < 32, ∃ i < j, m.getMsbD i = false ∧ m.getMsbD j = true

instance (m : Address) : Decidable (Interrupted m) :=
  inferInstanceAs (Decidable (∃ j < 32, ∃ i < j, m.getMsbD i = false ∧ m.getMsbD j = true))

theorem HasLength.not_interrupted {m : Address} {n : Nat} (h : HasLength m n) :
    ¬ Interrupted m := by
  rintro ⟨j, hj, i, hij, hzero, hone⟩
  have hi : i < 32 := Nat.lt_trans hij hj
  -- The zero stands behind the first `n` bits, and the one among them.
  have hni : ¬ i < n := by
    intro hin
    rw [h.2 i hi, decide_eq_true hin] at hzero
    cases hzero
  have hjn : j < n := by
    rw [h.2 j hj] at hone
    exact of_decide_eq_true hone
  exact hni (Nat.lt_trans hij hjn)

/-- The leading ones end at a zero, or at the end of the word. -/
theorem getMsbD_leadingOnes (m : Address) : m.getMsbD (leadingOnes m) = false := by
  rw [Bool.eq_false_iff]
  intro hone
  obtain ⟨k, hk⟩ := Nat.exists_eq_add_of_lt (BitVec.lt_of_getMsbD hone)
  -- A one there would be one more of the leading ones.
  have hfront : ∀ i ∈ List.range (leadingOnes m + 1), m.getMsbD i = true := by
    intro i hi
    rw [List.mem_range, Nat.lt_succ_iff_lt_or_eq] at hi
    rcases hi with hi | rfl
    · exact getMsbD_of_lt_leadingOnes hi
    · exact hone
  have hrange : List.range 32 = List.range (leadingOnes m + 1 + k) := by
    rw [hk, Nat.add_right_comm]
  have hlength : ((List.range 32).takeWhile m.getMsbD).length = leadingOnes m := rfl
  rw [hrange, List.range_add, List.takeWhile_append_of_pos hfront, List.length_append,
    List.length_range] at hlength
  omega

/-- **A word is a mask exactly if no zero in it is followed by a one.** -/
theorem exists_hasLength_iff {m : Address} : (∃ n, HasLength m n) ↔ ¬ Interrupted m := by
  constructor
  · rintro ⟨n, h⟩
    exact h.not_interrupted
  · intro h
    -- Only the number of leading ones can be the length; `k` bits are behind them.
    obtain ⟨k, hk⟩ := Nat.exists_eq_add_of_le (leadingOnes_le m)
    have hones : ∀ i < leadingOnes m, m.getMsbD i = true :=
      fun i hi => getMsbD_of_lt_leadingOnes hi
    have hzeros : ∀ i < k, m.getMsbD (leadingOnes m + i) = false := by
      intro i hi
      rw [Bool.eq_false_iff]
      intro hone
      -- The zero that ends the leading ones would be followed by this one.
      have hne : i ≠ 0 := by
        rintro rfl
        rw [Nat.add_zero, getMsbD_leadingOnes] at hone
        cases hone
      exact h ⟨leadingOnes m + i, by omega, leadingOnes m, by omega, getMsbD_leadingOnes m, hone⟩
    exact ⟨leadingOnes m, (hasLength_iff hk.symm).mpr ⟨hones, hzeros⟩⟩

/-! ## Masks as numbers -/

/-- A number above 32 has no mask, and every other one has. -/
theorem ofPrefix?_eq_none_iff {n : Nat} : ofPrefix? n = none ↔ 32 < n := by
  show (if n ≤ 32 then some (ofLength n) else none) = none ↔ 32 < n
  by_cases hn : n ≤ 32
  · simp [hn]
  · simp [hn, Nat.lt_of_not_le hn]

/-- The mask of a network, as a number, is what is left of all addresses without the network. -/
theorem HasLength.toNat_add {m : Address} {n : Nat} (h : HasLength m n) :
    m.toNat + 2 ^ (32 - n) = 2 ^ 32 := by
  have hm : m = BitVec.allOnes 32 <<< (32 - n) := h.unique (hasLength_ofLength h.le)
  have hpos : 0 < 2 ^ (32 - n) := Nat.two_pow_pos _
  have hle : 2 ^ (32 - n) ≤ 2 ^ 32 := Nat.pow_le_pow_right (by decide) (Nat.sub_le _ _)
  rw [hm, BitVec.toNat_shiftLeft, BitVec.toNat_allOnes, Nat.shiftLeft_eq]
  generalize 2 ^ (32 - n) = size at hpos hle
  omega

/-- **Masks are ordered as their lengths are.** -/
theorem HasLength.lt_iff_lt {m m' : Address} {n n' : Nat} (h : HasLength m n)
    (h' : HasLength m' n') : m < m' ↔ n < n' := by
  have hn : n ≤ 32 := h.le
  have hn' : n' ≤ 32 := h'.le
  have hsize := h.toNat_add
  have hsize' := h'.toNat_add
  calc m < m' ↔ m.toNat < m'.toNat := BitVec.lt_def
    _ ↔ 2 ^ (32 - n') < 2 ^ (32 - n) := by omega
    _ ↔ 32 - n' < 32 - n := Nat.pow_lt_pow_iff_right (by decide)
    _ ↔ n < n' := by omega

end Mask

namespace Cidr

/-- A length is read off a word exactly when the word is the mask that is made for the length. -/
theorem prefixLength_eq_ok_iff_ofPrefix? {m : Address} {n : Nat} :
    prefixLength m = .ok n ↔ Mask.ofPrefix? n = some m := by
  rw [prefixLength_eq_ok_iff, Mask.ofPrefix?_eq_some_iff]

/-- Exactly the interrupted words have no length, and are reported in their dotted notation. -/
theorem prefixLength_eq_error_iff_interrupted {m : Address} {fault : Fault} :
    prefixLength m = .error fault ↔
      Mask.Interrupted m ∧
        ∃ quad, Address.Quad quad m ∧ fault = .mask (String.ofList quad) := by
  rw [prefixLength_eq_error_iff, ← not_exists, Mask.exists_hasLength_iff, not_not]
  constructor
  · rintro ⟨hinterrupted, hfault⟩
    exact ⟨hinterrupted, m.text, m.quad_text, hfault⟩
  · rintro ⟨hinterrupted, quad, hquad, hfault⟩
    rw [hquad.eq_text] at hfault
    exact ⟨hinterrupted, hfault⟩

/-- **Reading off lengths and making masks are exact inverses**, for every word and every number.
There is no mask for a number above 32, and the mask of any other number has that many bits set,
from the highest on. There is no length for a word in which a zero is followed by a one, and such a
word is reported in its own dotted notation. Longer lengths have larger masks. -/
theorem prefixLength_inverse :
    (∀ (m : Address) (n : Nat), prefixLength m = .ok n ↔ Mask.ofPrefix? n = some m) ∧
    (∀ n, Mask.ofPrefix? n = none ↔ 32 < n) ∧
    (∀ n ≤ 32, ∃ m, Mask.ofPrefix? n = some m ∧ ∀ j < 32, m.getMsbD j = true ↔ j < n) ∧
    (∀ (m : Address) (fault : Fault), prefixLength m = .error fault ↔
      Mask.Interrupted m ∧
        ∃ quad, Address.Quad quad m ∧ fault = .mask (String.ofList quad)) ∧
    ∀ n n', n < n' → n' ≤ 32 →
      ∃ m m', Mask.ofPrefix? n = some m ∧ Mask.ofPrefix? n' = some m' ∧ m < m' := by
  refine ⟨fun m n => prefixLength_eq_ok_iff_ofPrefix?, fun n => Mask.ofPrefix?_eq_none_iff,
    fun n hn => ?bits, fun m fault => prefixLength_eq_error_iff_interrupted,
    fun n n' hlt hn' => ?order⟩
  case bits =>
    refine ⟨Mask.ofLength n, Mask.ofPrefix?_of_le hn, fun j hj => ?_⟩
    rw [(Mask.hasLength_ofLength hn).2 j hj, decide_eq_true_iff]
  case order =>
    have hn : n ≤ 32 := Nat.le_trans (Nat.le_of_lt hlt) hn'
    have horder := (Mask.hasLength_ofLength hn).lt_iff_lt (Mask.hasLength_ofLength hn')
    exact ⟨Mask.ofLength n, Mask.ofLength n', Mask.ofPrefix?_of_le hn, Mask.ofPrefix?_of_le hn',
      horder.mpr hlt⟩

/-- For the length zero all bits are shifted out, and the length one sets the highest bit. A word
with its second octet left out has no length. -/
theorem prefixLength_inverse_sampleMasks :
    Mask.ofPrefix? 0 = some 0#32 ∧ Mask.ofPrefix? 1 = some 0x80000000#32 ∧
      prefixLength 0#32 = .ok 0 ∧ prefixLength 0x80000000#32 = .ok 1 ∧
      (0 < 1 ∧ 1 ≤ 32 ∧ 0#32 < 0x80000000#32) ∧
      (31 < 32 ∧ BitVec.getMsbD 0x80000000#32 31 = false) ∧
      Mask.ofPrefix? 33 = none ∧
      prefixLength 0xff00ff00#32 = .error (.mask "255.0.255.0") := by
  have hempty : Mask.ofPrefix? 0 = some 0#32 := by decide
  have hhighest : Mask.ofPrefix? 1 = some 0x80000000#32 := by decide
  have hquad : Address.Quad "255.0.255.0".toList 0xff00ff00#32 :=
    Address.quad_iff.mpr (by decide +kernel)
  obtain ⟨hundoes, hnone, hbits, hfails, horder⟩ := prefixLength_inverse
  obtain ⟨m, m', hm, hm', hlt⟩ := horder 0 1 (by decide) (by decide)
  cases hempty.symm.trans hm
  cases hhighest.symm.trans hm'
  obtain ⟨m, hm, hset⟩ := hbits 1 (by decide)
  cases hhighest.symm.trans hm
  have hclear : BitVec.getMsbD 0x80000000#32 31 = false := by
    rw [Bool.eq_false_iff, ne_eq, hset 31 (by decide)]
    decide
  exact ⟨hempty, hhighest, (hundoes _ _).mpr hempty, (hundoes _ _).mpr hhighest,
    ⟨by decide, by decide, hlt⟩, ⟨by decide, hclear⟩, (hnone 33).mpr (by decide),
    (hfails _ _).mpr ⟨by decide, _, hquad, by rw [String.ofList_toList]⟩⟩

end Cidr

end SiteConfig
