import ClientGen.Text.Basic
import Mathlib.Data.List.Basic

/-!
# Joined texts

How `concat`, `joined` and `unlines` work on longer lists.
-/

namespace ClientGen.Text

@[simp] theorem concat_nil : concat [] = "" := rfl

@[simp] theorem concat_cons (s : String) (l : List String) : concat (s :: l) = s ++ concat l := rfl

@[simp] theorem concat_append (l l' : List String) : concat (l ++ l') = concat l ++ concat l' := by
  induction l with
  | nil => simp
  | cons s l ih => simp [ih, String.append_assoc]

theorem concat_flatMap {α : Type} (f : α → List String) (l : List α) :
    concat (l.flatMap f) = concat (l.map fun a => concat (f a)) := by
  induction l with
  | nil => rfl
  | cons a l ih => simp [ih]

@[simp] theorem unlines_nil : unlines [] = "" := rfl

@[simp] theorem unlines_cons (s : String) (l : List String) : unlines (s :: l) = s ++ "\n" ++ unlines l := rfl

@[simp] theorem unlines_append (l l' : List String) : unlines (l ++ l') = unlines l ++ unlines l' := by
  simp [unlines]

theorem unlines_flatMap {α : Type} (f : α → List String) (l : List α) :
    unlines (l.flatMap f) = concat (l.map fun a => unlines (f a)) := by
  induction l with
  | nil => rfl
  | cons a l ih => simp [ih]

theorem isInfix_unlines {s : String} {l : List String} (h : s ∈ l) : s.toList <:+: (unlines l).toList := by
  induction l with
  | nil => cases h
  | cons t l ih =>
    rw [unlines_cons, String.toList_append, String.toList_append]
    rcases List.mem_cons.1 h with rfl | h
    · exact ⟨[], "\n".toList ++ (unlines l).toList, by simp⟩
    · exact (ih h).trans (List.suffix_append _ _).isInfix

/-- A separator follows every text but the last. -/
theorem joined_cons (separator s : String) (l : List String) :
    joined separator (s :: l) = s ++ concat (l.map (separator ++ ·)) := by
  induction l generalizing s with
  | nil => simp [joined]
  | cons s' l ih => simp [joined, ih, String.append_assoc]

theorem joined_cons_of_ne_nil (separator s : String) {l : List String} (h : l ≠ []) :
    joined separator (s :: l) = s ++ separator ++ joined separator l := by
  cases l with
  | nil => exact absurd rfl h
  | cons s' l => rfl

/-- A joined text begins as the first of its texts does. -/
theorem head?_joined {separator s : String} {l : List String} (h : l.head? = some s) (hne : s ≠ "") :
    (joined separator l).toList.head? = s.toList.head? := by
  obtain ⟨rest, rfl⟩ := List.head?_eq_some_iff.1 h
  rw [joined_cons, String.toList_append]
  exact List.head?_append_of_ne_nil _ (by simpa using hne)

/-- A joined text ends as the last of its texts does. -/
theorem getLast?_joined {separator s : String} {l : List String} (h : l.getLast? = some s) (hne : s ≠ "") :
    (joined separator l).toList.getLast? = s.toList.getLast? := by
  induction l with
  | nil => cases h
  | cons t l ih =>
    cases l with
    | nil =>
      obtain rfl := Option.some.inj h
      rfl
    | cons next l =>
      rw [List.getLast?_cons_cons] at h
      have hrest := ih h
      have hs : s.toList.getLast?.isSome = true := by simpa using hne
      rw [← hrest] at hs ⊢
      rw [joined, String.toList_append, List.getLast?_append, Option.or_of_isSome hs]

theorem mem_toList_joined {separator : String} {l : List String} {c : Char}
    (h : c ∈ (joined separator l).toList) : c ∈ separator.toList ∨ ∃ s ∈ l, c ∈ s.toList := by
  fun_induction joined separator l with
  | case1 => simp at h
  | case2 piece => exact .inr ⟨piece, List.mem_cons_self, h⟩
  | case3 piece next rest ih =>
    simp only [String.toList_append, List.mem_append] at h
    rcases h with (hpiece | hseparator) | hrest
    · exact .inr ⟨piece, List.mem_cons_self, hpiece⟩
    · exact .inl hseparator
    · exact (ih hrest).imp_right fun ⟨s, hs, hc⟩ => ⟨s, List.mem_cons_of_mem _ hs, hc⟩

end ClientGen.Text
