/-!
# Lists read item by item

- `traverse f`: applies a fallible step to every item and its index, in order, and stops at the
  first failure.
- `traverse_eq_ok_iff`: it succeeds exactly when every step does, with the steps' results.
- `traverse_eq_error_iff`: otherwise it fails as the step at the lowest failing index does.
-/

namespace SiteConfig.Indexed

variable {α β ε : Type}

/-- Applies a step to every item, the first of which has a given index. -/
def traverseFrom (f : Nat → α → Except ε β) : Nat → List α → Except ε (List β)
  | _, [] => .ok []
  | i, a :: rest =>
    match f i a with
    | .error e => .error e
    | .ok b =>
      match traverseFrom f (i + 1) rest with
      | .error e => .error e
      | .ok bs => .ok (b :: bs)

/-- Applies a step to every item and its index. -/
def traverse (f : Nat → α → Except ε β) (items : List α) : Except ε (List β) :=
  traverseFrom f 0 items

theorem traverseFrom_eq_ok_iff (f : Nat → α → Except ε β) (i : Nat) (items : List α)
    (bs : List β) :
    traverseFrom f i items = .ok bs ↔
      bs.length = items.length ∧
        ∀ (j : Nat) (a : α), items[j]? = some a → ∃ b, bs[j]? = some b ∧ f (i + j) a = .ok b := by
  induction items generalizing i bs with
  | nil => cases bs <;> simp [traverseFrom]
  | cons a rest ih =>
    rw [traverseFrom]
    constructor
    · intro h
      split at h
      · simp at h
      · next b hb =>
        split at h
        · simp at h
        · next cs hcs =>
          simp only [Except.ok.injEq] at h
          subst h
          obtain ⟨hlen, hall⟩ := (ih (i + 1) cs).1 hcs
          refine ⟨by simp [hlen], fun j c hj => ?_⟩
          cases j with
          | zero =>
            simp only [List.getElem?_cons_zero, Option.some.injEq] at hj
            subst hj
            exact ⟨b, by simp, by simpa using hb⟩
          | succ j =>
            obtain ⟨d, hd, hf⟩ := hall j c (by simpa using hj)
            refine ⟨d, by simpa using hd, ?_⟩
            rw [← hf]
            congr 1
            omega
    · rintro ⟨hlen, hall⟩
      cases bs with
      | nil => simp at hlen
      | cons b cs =>
        obtain ⟨b', hb', hf⟩ := hall 0 a (by simp)
        simp only [List.getElem?_cons_zero, Option.some.injEq] at hb'
        subst hb'
        have hrest : traverseFrom f (i + 1) rest = .ok cs := by
          refine (ih (i + 1) cs).2 ⟨by simpa using hlen, fun j c hj => ?_⟩
          obtain ⟨d, hd, hg⟩ := hall (j + 1) c (by simpa using hj)
          refine ⟨d, by simpa using hd, ?_⟩
          rw [← hg]
          congr 1
          omega
        rw [Nat.add_zero] at hf
        simp [hf, hrest]

theorem traverse_eq_ok_iff (f : Nat → α → Except ε β) (items : List α) (bs : List β) :
    traverse f items = .ok bs ↔
      bs.length = items.length ∧
        ∀ (j : Nat) (a : α), items[j]? = some a → ∃ b, bs[j]? = some b ∧ f j a = .ok b := by
  simpa [traverse] using traverseFrom_eq_ok_iff f 0 items bs

theorem traverseFrom_eq_error_iff (f : Nat → α → Except ε β) (i : Nat) (items : List α) (e : ε) :
    traverseFrom f i items = .error e ↔
      ∃ (j : Nat) (a : α), items[j]? = some a ∧ f (i + j) a = .error e ∧
        ∀ (k : Nat) (c : α), k < j → items[k]? = some c → ∃ b, f (i + k) c = .ok b := by
  induction items generalizing i with
  | nil => simp [traverseFrom]
  | cons a rest ih =>
    rw [traverseFrom]
    constructor
    · intro h
      split at h
      · next e' he =>
        simp only [Except.error.injEq] at h
        subst h
        exact ⟨0, a, by simp, by simpa using he, fun k _ hk => absurd hk (Nat.not_lt_zero k)⟩
      · next b hb =>
        split at h
        · next e' he =>
          simp only [Except.error.injEq] at h
          subst h
          obtain ⟨j, c, hj, hf, hbefore⟩ := (ih (i + 1)).1 he
          refine ⟨j + 1, c, by simpa using hj, ?_, fun k d hk hd => ?_⟩
          · rw [← hf]
            congr 1
            omega
          · cases k with
            | zero =>
              simp only [List.getElem?_cons_zero, Option.some.injEq] at hd
              subst hd
              exact ⟨b, by simpa using hb⟩
            | succ k =>
              obtain ⟨b', hb'⟩ := hbefore k d (by omega) (by simpa using hd)
              refine ⟨b', ?_⟩
              rw [← hb']
              congr 1
              omega
        · simp at h
    · rintro ⟨j, c, hj, hf, hbefore⟩
      cases j with
      | zero =>
        simp only [List.getElem?_cons_zero, Option.some.injEq] at hj
        subst hj
        rw [Nat.add_zero] at hf
        simp [hf]
      | succ j =>
        obtain ⟨b, hb⟩ := hbefore 0 a (by omega) (by simp)
        rw [Nat.add_zero] at hb
        have hrest : traverseFrom f (i + 1) rest = .error e := by
          refine (ih (i + 1)).2 ⟨j, c, by simpa using hj, ?_, fun k d hk hd => ?_⟩
          · rw [← hf]
            congr 1
            omega
          · obtain ⟨b', hb'⟩ := hbefore (k + 1) d (by omega) (by simpa using hd)
            refine ⟨b', ?_⟩
            rw [← hb']
            congr 1
            omega
        simp [hb, hrest]

theorem traverse_eq_error_iff (f : Nat → α → Except ε β) (items : List α) (e : ε) :
    traverse f items = .error e ↔
      ∃ (j : Nat) (a : α), items[j]? = some a ∧ f j a = .error e ∧
        ∀ (k : Nat) (c : α), k < j → items[k]? = some c → ∃ b, f k c = .ok b := by
  simpa [traverse] using traverseFrom_eq_error_iff f 0 items e

end SiteConfig.Indexed
