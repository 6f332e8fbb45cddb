/-!
# Texts up to ASCII case

Letters outside ASCII are never folded: `É` and `é` stay different.

- `fold`: a text with its ASCII letters in lower case.
- `sameUpToCase`: equality of the folded texts, an equivalence relation.
-/

namespace SiteConfig.Text

/-- The characters of a text, ASCII letters in lower case. -/
def fold (s : String) : List Char :=
  s.toList.map Char.toLower

/-- The text with its ASCII letters in lower case. -/
def lowered (s : String) : String :=
  String.ofList (fold s)

/-- Equality that ignores the case of ASCII letters. -/
def sameUpToCase (a b : String) : Bool :=
  fold a == fold b

theorem sameUpToCase_iff {a b : String} : sameUpToCase a b = true ↔ fold a = fold b := by
  simp [sameUpToCase]

@[simp] theorem sameUpToCase_refl (a : String) : sameUpToCase a a = true := by
  simp [sameUpToCase]

/-- In no case is a text that is not empty the empty one. -/
theorem sameUpToCase_empty_iff {a : String} : sameUpToCase a "" = true ↔ a = "" := by
  rw [sameUpToCase_iff, fold, fold, String.toList_empty, List.map_nil, List.map_eq_nil_iff,
    String.toList_eq_nil_iff]

theorem sameUpToCase_comm (a b : String) : sameUpToCase a b = sameUpToCase b a := by
  rw [Bool.eq_iff_iff, sameUpToCase_iff, sameUpToCase_iff]
  exact eq_comm

end SiteConfig.Text
