import Mathlib.Data.List.Forall2
import SiteConfig.Indexed

/-!
# Fallible steps, one after the other

What a sequence of steps, or a list of them, says when it succeeds: that each step did.

- `Steps.bind_eq_ok`, `Steps.map_eq_ok`, `Steps.pure_eq_ok`: a sequence of steps that succeeds.
  `Steps.bind_eq_error`, `Steps.map_eq_error`: one that fails. `Steps.exists_error_iff`: a step does
  one or the other.
- `Steps.checked`: a step of which only success and failure count. `Indexed.checked_bind`: a
  sequence of steps fails and succeeds as a list of checks does, one for each step.
- `Indexed.traverse_eq_map`, `Indexed.exists_traverse_eq_ok`: a list of steps none of which fails.
  `Indexed.exists_traverse_iff_forall`: when this is so.
- `Indexed.exists_of_mem_traverse`: what comes out of a list of steps came out of one of them.
- `Indexed.traverse_eq_ok_iff_forall₂`: where the index does not matter, the results stand to the
  items as a step's result to its item.
-/

namespace SiteConfig

namespace Steps

variable {ε α β : Type}

theorem bind_eq_ok {x : Except ε α} {f : α → Except ε β} {b : β} :
    (x >>= f) = .ok b ↔ ∃ a, x = .ok a ∧ f a = .ok b := by
  cases x with
  | error e => simp [bind, Except.bind]
  | ok a => simp [bind, Except.bind]

/-- Sequences of steps do the same if each step does. -/
theorem bind_eq_bind {x y : Except ε α} {f g : α → Except ε β} (h : x = y)
    (hnext : ∀ a, f a = g a) : (x >>= f) = (y >>= g) := by
  rw [h, funext hnext]

theorem map_eq_ok {x : Except ε α} {f : α → β} {b : β} :
    x.map f = .ok b ↔ ∃ a, x = .ok a ∧ f a = b := by
  cases x with
  | error e => simp [Except.map]
  | ok a => simp [Except.map]

/-- A sequence of steps fails as the first of them that does. -/
theorem bind_eq_error {x : Except ε α} {f : α → Except ε β} {e : ε} :
    (x >>= f) = .error e ↔ x = .error e ∨ ∃ a, x = .ok a ∧ f a = .error e := by
  cases x with
  | error e' => simp [bind, Except.bind]
  | ok a => simp [bind, Except.bind]

theorem map_eq_error {x : Except ε α} {f : α → β} {e : ε} :
    x.map f = .error e ↔ x = .error e := by
  cases x with
  | error e' => simp [Except.map]
  | ok a => simp [Except.map]

theorem map_map {γ : Type} (x : Except ε α) (f : α → β) (g : β → γ) :
    (x.map f).map g = x.map fun a => g (f a) := by
  cases x with
  | error e => rfl
  | ok a => rfl

theorem pure_eq_ok {a b : α} : (pure a : Except ε α) = .ok b ↔ a = b := by
  simp [pure, Except.pure]

/-- The last step of a sequence does not fail. -/
theorem pure_eq_error_iff {a : α} {e : ε} : (pure a : Except ε α) = .error e ↔ False := by
  simp [pure, Except.pure]

/-- A step fails or succeeds. -/
theorem exists_error_iff {x : Except ε α} : (∃ e, x = .error e) ↔ ¬ ∃ a, x = .ok a := by
  cases x with
  | error e => simp
  | ok a => simp

/-- Whether a step succeeds, and how it fails if it does not: what it gives is dropped. -/
def checked (x : Except ε α) : Except ε Unit :=
  x.map fun _ => ()

theorem checked_eq_ok_iff {x : Except ε α} : checked x = .ok () ↔ ∃ a, x = .ok a := by
  cases x with
  | error e => simp [checked, Except.map]
  | ok a => simp [checked, Except.map]

/-- There is only one way for a check to succeed. -/
theorem exists_unit_iff {x : Except ε Unit} : (∃ u, x = .ok u) ↔ x = .ok () := by
  constructor
  · rintro ⟨⟨⟩, h⟩
    exact h
  · intro h
    exact ⟨(), h⟩

theorem checked_eq_error_iff {x : Except ε α} {e : ε} : checked x = .error e ↔ x = .error e :=
  map_eq_error

end Steps

namespace Indexed

variable {α β ε : Type} {f : Nat → α → Except ε β}

theorem traverse_eq_map {items : List α} {g : α → β}
    (h : ∀ (i : Nat) (a : α), items[i]? = some a → f i a = .ok (g a)) :
    traverse f items = .ok (items.map g) := by
  rw [traverse_eq_ok_iff]
  refine ⟨List.length_map g, fun i a ha => ⟨g a, ?_, h i a ha⟩⟩
  rw [List.getElem?_map, ha]
  rfl

theorem exists_traverse_eq_ok {items : List α}
    (h : ∀ (i : Nat) (a : α), items[i]? = some a → ∃ b, f i a = .ok b) :
    ∃ bs, traverse f items = .ok bs := by
  cases hrun : traverse f items with
  | ok bs => exact ⟨bs, rfl⟩
  | error e =>
    obtain ⟨i, a, ha, he, -⟩ := (traverse_eq_error_iff f items e).mp hrun
    obtain ⟨b, hb⟩ := h i a ha
    rw [he] at hb
    cases hb

/-- What holds at every index holds of every item. -/
theorem forall_getElem?_iff {items : List α} {P : α → Prop} :
    (∀ (i : Nat) (a : α), items[i]? = some a → P a) ↔ ∀ a ∈ items, P a := by
  constructor
  · intro h a ha
    obtain ⟨i, hi⟩ := List.mem_iff_getElem?.mp ha
    exact h i a hi
  · intro h i a hi
    exact h a (List.mem_of_getElem? hi)

theorem exists_traverse_iff {items : List α} :
    (∃ bs, traverse f items = .ok bs) ↔
      ∀ (i : Nat) (a : α), items[i]? = some a → ∃ b, f i a = .ok b := by
  constructor
  · rintro ⟨bs, hrun⟩ i a ha
    obtain ⟨b, -, hb⟩ := ((traverse_eq_ok_iff f items bs).mp hrun).2 i a ha
    exact ⟨b, hb⟩
  · exact exists_traverse_eq_ok

/-- A list of steps succeeds exactly if each does, where it is the item that decides whether its step
does. -/
theorem exists_traverse_iff_forall {P : α → Prop} (h : ∀ i a, (∃ b, f i a = .ok b) ↔ P a)
    {items : List α} : (∃ bs, traverse f items = .ok bs) ↔ ∀ a ∈ items, P a := by
  simp only [exists_traverse_iff, h]
  exact forall_getElem?_iff

/-- A step whose check is the first of a list, in front of steps that are checked by the rest of the
list, is checked by the list. -/
theorem checked_bind {γ : Type} {check : Nat → α → Except ε Unit} {i : Nat} {a : α}
    {rest : List α} {x : Except ε β} {next : β → Except ε γ}
    (hcheck : check i a = Steps.checked x)
    (hnext : ∀ b, Steps.checked (next b) = Steps.checked (traverseFrom check (i + 1) rest)) :
    Steps.checked (x >>= next) = Steps.checked (traverseFrom check i (a :: rest)) := by
  rw [traverseFrom, hcheck]
  cases x with
  | error e => rfl
  | ok b =>
    have hrest : Steps.checked (Except.ok b >>= next)
        = Steps.checked (traverseFrom check (i + 1) rest) := hnext b
    have hfirst : Steps.checked (Except.ok b : Except ε β) = .ok () := rfl
    rw [hrest, hfirst]
    cases traverseFrom check (i + 1) rest with
    | error e => rfl
    | ok cs => rfl

theorem exists_of_mem_traverse {items : List α} {bs : List β} {b : β}
    (h : traverse f items = .ok bs) (hb : b ∈ bs) :
    ∃ (i : Nat) (a : α), items[i]? = some a ∧ f i a = .ok b := by
  obtain ⟨hlen, hall⟩ := (traverse_eq_ok_iff f items bs).mp h
  obtain ⟨i, hi, hbi⟩ := List.mem_iff_getElem.mp hb
  have ha : items[i]? = some items[i] := List.getElem?_eq_getElem (hlen ▸ hi)
  obtain ⟨b', hb', hf⟩ := hall i _ ha
  rw [List.getElem?_eq_getElem hi, hbi] at hb'
  cases hb'
  exact ⟨i, _, ha, hf⟩

/-- What is the same of every item and of what comes out of it is the same of the lists. -/
theorem map_eq_map_of_traverse {γ : Type} {items : List α} {bs : List β} {g : α → γ} {g' : β → γ}
    (h : traverse f items = .ok bs)
    (hstep : ∀ (i : Nat) (a : α) (b : β), a ∈ items → f i a = .ok b → g a = g' b) :
    items.map g = bs.map g' := by
  obtain ⟨hlen, hall⟩ := (traverse_eq_ok_iff f items bs).mp h
  refine List.ext_getElem? fun i => ?_
  rw [List.getElem?_map, List.getElem?_map]
  cases ha : items[i]? with
  | none =>
    have hout : bs[i]? = none := by
      rw [List.getElem?_eq_none_iff] at ha ⊢
      omega
    rw [hout]
    rfl
  | some a =>
    obtain ⟨b, hb, hf⟩ := hall i a ha
    rw [hb, Option.map_some, Option.map_some, hstep i a b (List.mem_of_getElem? ha) hf]

/-- Only what the step does with the items matters. -/
theorem traverse_congr {g : Nat → α → Except ε β} {items : List α}
    (h : ∀ (i : Nat) (a : α), items[i]? = some a → f i a = g i a) :
    traverse f items = traverse g items := by
  cases hrun : traverse g items with
  | ok bs =>
    rw [traverse_eq_ok_iff] at hrun ⊢
    refine ⟨hrun.1, fun i a ha => ?_⟩
    rw [h i a ha]
    exact hrun.2 i a ha
  | error e =>
    rw [traverse_eq_error_iff] at hrun ⊢
    obtain ⟨i, a, ha, he, hbefore⟩ := hrun
    refine ⟨i, a, ha, (h i a ha).trans he, fun j c hj hc => ?_⟩
    rw [h j c hc]
    exact hbefore j c hj hc

theorem traverse_map {γ : Type} (g : γ → α) (items : List γ) :
    traverse f (items.map g) = traverse (fun i c => f i (g c)) items := by
  suffices h : ∀ i, traverseFrom f i (items.map g)
      = traverseFrom (fun i c => f i (g c)) i items from h 0
  induction items with
  | nil => intro i; rfl
  | cons c rest ih =>
    intro i
    rw [List.map_cons, traverseFrom, traverseFrom, ih]

theorem traverseFrom_eq_ok_iff_forall₂ {R : α → β → Prop} (h : ∀ i a b, f i a = .ok b ↔ R a b)
    {i : Nat} {items : List α} {bs : List β} :
    traverseFrom f i items = .ok bs ↔ List.Forall₂ R items bs := by
  induction items generalizing i bs with
  | nil => simp [traverseFrom, eq_comm]
  | cons a rest ih =>
    rw [traverseFrom, List.forall₂_cons_left_iff]
    simp only [← h i, ← ih (i := i + 1)]
    cases f i a with
    | error e => simp
    | ok b =>
      cases traverseFrom f (i + 1) rest with
      | error e => simp
      | ok cs => simp [eq_comm]

/-- Where the index does not matter, the results stand to the items as a step's result to its
item. -/
theorem traverse_eq_ok_iff_forall₂ {R : α → β → Prop} (h : ∀ i a b, f i a = .ok b ↔ R a b)
    {items : List α} {bs : List β} : traverse f items = .ok bs ↔ List.Forall₂ R items bs :=
  traverseFrom_eq_ok_iff_forall₂ h

/-- What holds of every result of a step holds of all results. -/
theorem forall_of_forall₂ {R : α → β → Prop} {P : β → Prop} (h : ∀ a b, R a b → P b)
    {items : List α} {bs : List β} (hall : List.Forall₂ R items bs) : ∀ b ∈ bs, P b := by
  induction hall with
  | nil =>
    intro b hb
    cases hb
  | cons hab _ ih => exact List.forall_mem_cons.mpr ⟨h _ _ hab, ih⟩

/-- What each two items have between them, the two lists have between them. -/
theorem exists_forall₂_between {γ : Type} {R : α → β → Prop} {P : α → γ → Prop} {Q : β → γ → Prop}
    (h : ∀ a b, R a b → ∃ c, P a c ∧ Q b c) {items : List α} {bs : List β}
    (hall : List.Forall₂ R items bs) :
    ∃ cs, List.Forall₂ P items cs ∧ List.Forall₂ Q bs cs := by
  induction hall with
  | nil => exact ⟨[], .nil, .nil⟩
  | cons hab _ ih =>
    obtain ⟨c, hac, hbc⟩ := h _ _ hab
    obtain ⟨cs, hleft, hright⟩ := ih
    exact ⟨c :: cs, .cons hac hleft, .cons hbc hright⟩

end Indexed

end SiteConfig
