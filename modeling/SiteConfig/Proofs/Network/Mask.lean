import Mathlib.Data.List.TakeWhile
import SiteConfig.Network.Mask

/-!
# Masks and prefix lengths are two views of one thing

A word has prefix length `n` when, counted from the highest bit, its first `n` bits are ones and
all others are zeros (`Mask.HasLength`). Reading the length off a mask and making the mask of a
length both agree with this view, so each undoes the other.

- `Mask.prefixLength?_eq_some_iff`: the length that is read off a mask.
- `Mask.ofPrefix?_eq_some_iff`: the mask that is made for a length.
- `Mask.and_eq_and_iff`: comparing two addresses under the mask of length `n` compares their first
  `n` bits.
-/

namespace SiteConfig.Mask

/-- The first `n` bits of the word are ones, the others are zeros. -/
def HasLength (m : Address) (n : Nat) : Prop :=
  n ≤ maxPrefix ∧ ∀ i < 32, m.getMsbD i = decide (i < n)

theorem HasLength.le {m : Address} {n : Nat} (h : HasLength m n) : n ≤ maxPrefix := h.1

/-- A word is determined by its length. -/
theorem HasLength.unique {m m' : Address} {n : Nat} (h : HasLength m n) (h' : HasLength m' n) :
    m = m' := by
  apply BitVec.eq_of_getMsbD_eq
  intro i hi
  rw [h.2 i hi, h'.2 i hi]

/-! ## Reading the length off a mask -/

section Counting

variable {p : Nat → Bool} {n k : Nat}

/-- Where the first `n` positions satisfy a predicate, no others do exactly when `n` do in all. -/
theorem countP_range_eq_iff (hfront : ∀ i < n, p i = true) :
    (List.range (n + k)).countP p = n ↔ ∀ i < k, p (n + i) = false := by
  have hn : (List.range n).countP p = n := by
    have h := List.countP_eq_length.mpr fun i hi => hfront i (List.mem_range.mp hi)
    rwa [List.length_range] at h
  rw [List.range_add, List.countP_append, hn, Nat.add_eq_left, List.countP_eq_zero]
  simp

theorem takeWhile_range_add (hfront : ∀ i < n, p i = true) (hback : ∀ i < k, p (n + i) = false) :
    (List.range (n + k)).takeWhile p = List.range n := by
  rw [List.range_add, List.takeWhile_append_of_pos fun i hi => hfront i (List.mem_range.mp hi)]
  cases k with
  | zero => simp
  | succ k =>
    have h : p n = false := hback 0 (Nat.succ_pos k)
    simp [List.range_succ_eq_map, h]

end Counting

theorem leadingOnes_le (m : Address) : leadingOnes m ≤ 32 := by
  have h := (List.takeWhile_sublist m.getMsbD (l := List.range 32)).length_le
  rwa [List.length_range] at h

/-- All bits before the first zero are ones. -/
theorem getMsbD_of_lt_leadingOnes {m : Address} {i : Nat} (h : i < leadingOnes m) :
    m.getMsbD i = true := by
  have htake := List.prefix_iff_eq_take.mp (List.takeWhile_prefix m.getMsbD (l := List.range 32))
  have hmem : i ∈ (List.range 32).takeWhile m.getMsbD := by
    rw [htake, List.take_range, List.mem_range]
    exact Nat.lt_min.mpr ⟨h, Nat.lt_of_lt_of_le h (leadingOnes_le m)⟩
  exact List.mem_takeWhile_imp hmem

theorem hasLength_iff {m : Address} {n k : Nat} (h : n + k = 32) :
    HasLength m n ↔ (∀ i < n, m.getMsbD i = true) ∧ ∀ i < k, m.getMsbD (n + i) = false := by
  constructor
  · rintro ⟨-, hbits⟩
    refine ⟨fun i hi => ?_, fun i hi => ?_⟩
    · simpa [hi] using hbits i (by omega)
    · rw [hbits (n + i) (by omega), decide_eq_false (by omega)]
  · rintro ⟨hones, hzeros⟩
    refine ⟨by simp only [maxPrefix]; omega, fun i hi => ?_⟩
    by_cases hin : i < n
    · rw [hones i hin, decide_eq_true hin]
    · obtain ⟨j, rfl⟩ := Nat.exists_eq_add_of_le (Nat.le_of_not_lt hin)
      rw [hzeros j (by omega), decide_eq_false hin]

theorem prefixLength?_eq_some_iff {m : Address} {n : Nat} :
    prefixLength? m = some n ↔ HasLength m n := by
  constructor
  · intro h
    simp only [prefixLength?] at h
    split at h
    · next hones =>
      cases h
      obtain ⟨k, hk⟩ := Nat.exists_eq_add_of_le (leadingOnes_le m)
      have hrange : List.range 32 = List.range (leadingOnes m + k) := congrArg List.range hk
      rw [ones, hrange, countP_range_eq_iff fun _ => getMsbD_of_lt_leadingOnes] at hones
      exact (hasLength_iff hk.symm).mpr ⟨fun _ => getMsbD_of_lt_leadingOnes, hones⟩
    · cases h
  · intro h
    obtain ⟨k, hk⟩ := Nat.exists_eq_add_of_le h.le
    obtain ⟨hfront, hback⟩ := (hasLength_iff hk.symm).mp h
    have hlead : leadingOnes m = n := by
      show ((List.range maxPrefix).takeWhile m.getMsbD).length = n
      rw [hk, takeWhile_range_add hfront hback, List.length_range]
    have hones : ones m = n := by
      show (List.range maxPrefix).countP m.getMsbD = n
      rw [hk]
      exact (countP_range_eq_iff hfront).mpr hback
    simp only [prefixLength?]
    rw [hlead, if_pos hones]

/-- A length is determined by its word. -/
theorem HasLength.length_unique {m : Address} {n n' : Nat} (h : HasLength m n)
    (h' : HasLength m n') : n = n' :=
  Option.some.inj ((prefixLength?_eq_some_iff.mpr h).symm.trans (prefixLength?_eq_some_iff.mpr h'))

/-! ## Making the mask of a length -/

/-- The mask of a length. -/
def ofLength (n : Nat) : Address :=
  BitVec.allOnes 32 <<< (maxPrefix - n)

theorem hasLength_ofLength {n : Nat} (h : n ≤ maxPrefix) : HasLength (ofLength n) n := by
  refine ⟨h, fun i hi => ?_⟩
  rw [ofLength, BitVec.getMsbD_shiftLeft, BitVec.getMsbD_allOnes, decide_eq_decide]
  simp only [maxPrefix] at h ⊢
  omega

/-- The mask of a single host is all ones. -/
theorem hasLength_allOnes : HasLength (BitVec.allOnes 32) maxPrefix := by
  refine ⟨Nat.le_refl _, fun i hi => ?_⟩
  rw [BitVec.getMsbD_allOnes]
  rfl

theorem ofPrefix?_eq_some_iff {m : Address} {n : Nat} :
    ofPrefix? n = some m ↔ HasLength m n := by
  unfold ofPrefix?
  constructor
  · intro h
    split at h
    · next hn =>
      cases h
      exact hasLength_ofLength hn
    · cases h
  · intro h
    rw [if_pos h.le, h.unique (hasLength_ofLength h.le), ofLength]

theorem ofPrefix?_of_le {n : Nat} (h : n ≤ maxPrefix) : ofPrefix? n = some (ofLength n) :=
  ofPrefix?_eq_some_iff.mpr (hasLength_ofLength h)

/-! ## Comparing under a mask -/

/-- **Under the mask of length `n`, addresses agree exactly when their first `n` bits do.** -/
theorem and_eq_and_iff {m : Address} {n : Nat} (h : HasLength m n) (x a : Address) :
    x &&& m = a &&& m ↔ ∀ i < n, x.getMsbD i = a.getMsbD i := by
  constructor
  · intro heq i hi
    have hi32 : i < 32 := Nat.lt_of_lt_of_le hi h.le
    have hbit := congrArg (BitVec.getMsbD · i) heq
    simpa [BitVec.getMsbD_and, h.2 i hi32, hi] using hbit
  · intro hbits
    apply BitVec.eq_of_getMsbD_eq
    intro i hi
    rw [BitVec.getMsbD_and, BitVec.getMsbD_and, h.2 i hi]
    by_cases hin : i < n
    · rw [hbits i hin]
    · simp [hin]

end SiteConfig.Mask
