import ClientGen.Proofs.Text.Search
import Mathlib.Data.String.Basic

/-!
# Texts put together with seams

Slashes and stars make comments of a text when they stand in a row. Texts that are put together with something solid
between them, in which there is neither, get no further comments by it.
-/

namespace ClientGen.Text

/-- A text with something in it, but no slash and no star. -/
def Solid (s : String) : Prop := s ≠ "" ∧ '/' ∉ s.toList ∧ '*' ∉ s.toList

instance : DecidablePred Solid := fun _ => inferInstanceAs (Decidable (_ ∧ _))

def IsDelimiter (c : Char) : Prop := c = '/' ∨ c = '*'

/-- What all texts without stars have, and what texts that are put together with something solid between them have if
each of them does. -/
structure Seamless (P : String → Prop) : Prop where
  starless : ∀ {s}, '*' ∉ s.toList → P s
  between : ∀ {a seam b}, P a → Solid seam → P b → P (a ++ seam ++ b)

namespace Solid

variable {seam : String} (h : Solid seam)
include h

theorem notMem {c : Char} (hc : IsDelimiter c) : c ∉ seam.toList := by
  rcases hc with rfl | rfl
  · exact h.2.1
  · exact h.2.2

theorem not_meets_left {x y : Char} (hy : IsDelimiter y) (a : List Char) : ¬ Meets x y a seam.toList := fun hmeet =>
  h.notMem hy (List.mem_of_mem_head? hmeet.2)

theorem not_meets_right {x y : Char} (hx : IsDelimiter x) (a b : List Char) : ¬ Meets x y (a ++ seam.toList) b := by
  rintro ⟨hlast, _⟩
  have hne : seam.toList ≠ [] := by simpa using h.1
  rw [List.getLast?_append_of_ne_nil _ hne] at hlast
  exact h.notMem hx (List.mem_of_getLast? hlast)

end Solid

theorem seamless_starless : Seamless fun s => '*' ∉ s.toList where
  starless h := h
  between ha hseam hb := by simp [ha, hseam.2.2, hb]

/-- To have none of a pair of delimiters in a row, one of them a star. -/
theorem seamless_pair {x y : Char} (hx : IsDelimiter x) (hy : IsDelimiter y) (hstar : '*' ∈ [x, y]) :
    Seamless fun s => ¬ [x, y] <:+: s.toList where
  starless hs hpair := hs (hpair.subset hstar)
  between {a seam b} ha hseam hb hpair := by
    rw [String.toList_append, String.toList_append] at hpair
    rcases pair_infix_append hpair with hleft | hright | hmeet
    · rcases pair_infix_append hleft with h | h | hmeet
      · exact ha h
      · exact hseam.notMem hx (h.subset (by simp))
      · exact hseam.not_meets_left hy _ hmeet
    · exact hb hright
    · exact hseam.not_meets_right hx _ _ hmeet

namespace Seamless

variable {P : String → Prop} (hP : Seamless P) {a b seam : String} {l : List String}
include hP

theorem before (ha : P a) (hseam : Solid seam) : P (a ++ seam) := by
  have h := hP.between ha hseam (hP.starless (s := "") (by simp))
  rwa [String.append_empty] at h

theorem behind (hseam : Solid seam) (hb : P b) : P (seam ++ b) := by
  have h := hP.between (hP.starless (s := "") (by simp)) hseam hb
  rwa [String.empty_append] at h

/-- Texts in a row behind another one, each behind something solid. -/
theorem chain {α : Type} {f : α → String} {l : List α} (ha : P a) (hseam : Solid seam) (hl : ∀ x ∈ l, P (f x)) :
    P (a ++ concat (l.map fun x => seam ++ f x)) := by
  induction l generalizing a with
  | nil => simpa using ha
  | cons x l ih =>
    obtain ⟨hx, hrest⟩ := List.forall_mem_cons.1 hl
    rw [List.map_cons, concat_cons, ← String.append_assoc, ← String.append_assoc]
    exact ih (hP.between ha hseam hx) hrest

theorem joined (hseam : Solid seam) (hl : ∀ s ∈ l, P s) : P (joined seam l) := by
  cases l with
  | nil => exact hP.starless (by simp [Text.joined])
  | cons s l =>
    obtain ⟨hs, hrest⟩ := List.forall_mem_cons.1 hl
    rw [joined_cons]
    exact hP.chain hs hseam hrest

theorem unlines_append (hl : ∀ s ∈ l, P s) (hb : P b) : P (unlines l ++ b) := by
  induction l with
  | nil => simpa using hb
  | cons s l ih =>
    obtain ⟨hs, hrest⟩ := List.forall_mem_cons.1 hl
    rw [unlines_cons, String.append_assoc]
    exact hP.between hs (by decide) (ih hrest)

theorem unlines (hl : ∀ s ∈ l, P s) : P (unlines l) := by
  have h := hP.unlines_append hl (hP.starless (s := "") (by simp))
  rwa [String.append_empty] at h

end Seamless

end ClientGen.Text
