import ClientGen.Proofs.Text.Joined
import ClientGen.Text.Basic

/-!
# Search within longer texts

How replacing and cutting go through a text that is put together from others, and where two characters come to stand in
a row in it.
-/

namespace ClientGen.Text

/-! ## Replacing -/

@[simp] theorem after?_append (p s : List Char) : after? p (p ++ s) = some s := by
  induction p with
  | nil => rfl
  | cons c p ih => simp [after?, ih]

theorem after?_eq_some_iff {p s rest : List Char} : after? p s = some rest ↔ s = p ++ rest := by
  induction p generalizing s with
  | nil => simp [after?]
  | cons c p ih =>
    cases s with
    | nil => simp [after?]
    | cons d s =>
      by_cases h : c = d
      · simp [after?, h, ih]
      · simp [after?, h, Ne.symm h]

/-- A text without an ending is what stands before it. -/
theorem before?_eq_some_iff {ending s before : String} : before? ending s = some before ↔ s = before ++ ending := by
  have hreverse : ∀ rest : List Char, after? ending.toList.reverse s.toList.reverse = some rest ↔
      s.toList = rest.reverse ++ ending.toList := by
    intro rest
    rw [after?_eq_some_iff, ← List.reverse_inj]
    simp
  rw [before?, Option.map_eq_some_iff, ← String.toList_inj, String.toList_append]
  constructor
  · rintro ⟨rest, hrest, rfl⟩
    rw [String.toList_ofList]
    exact (hreverse rest).1 hrest
  · intro h
    refine ⟨before.toList.reverse, (hreverse _).2 ?_, ?_⟩
    · rw [List.reverse_reverse, h]
    · rw [List.reverse_reverse, String.ofList_toList]

/-- Two endings of one text: one of them ends in the other. -/
theorem append_ne_append {s t : String} (h : ¬ s.toList <:+ t.toList) (h' : ¬ t.toList <:+ s.toList) (a b : String) :
    a ++ s ≠ b ++ t := by
  intro heq
  have hs : s.toList <:+ (a ++ s).toList := String.toList_append ▸ List.suffix_append _ _
  have ht : t.toList <:+ (a ++ s).toList := heq ▸ String.toList_append ▸ List.suffix_append _ _
  exact (List.suffix_or_suffix_of_suffix hs ht).elim h h'

theorem isSome_after?_iff {p s : List Char} : (after? p s).isSome = true ↔ p <+: s := by
  simp only [Option.isSome_iff_exists, after?_eq_some_iff, List.IsPrefix, eq_comm (a := s)]

theorem replaceAfter_append {piece image : List Char} (skipped s : List Char) :
    replaceAfter piece image skipped.length (skipped ++ s) = replace piece image s := by
  induction skipped with
  | nil => rfl
  | cons c skipped ih => exact ih

theorem replace_piece {piece image : List Char} (hne : piece ≠ []) (s : List Char) :
    replace piece image (piece ++ s) = image ++ replace piece image s := by
  cases piece with
  | nil => exact absurd rfl hne
  | cons c piece =>
    have hfound : (after? (c :: piece) (c :: (piece ++ s))).isSome = true := by
      rw [← List.cons_append, after?_append]
      rfl
    rw [replace, List.cons_append, replaceAfter, if_pos hfound, List.length_cons, Nat.add_sub_cancel,
      replaceAfter_append]

theorem replace_cons {piece image : List Char} {c : Char} {s : List Char} (h : ¬ piece <+: c :: s) :
    replace piece image (c :: s) = c :: replace piece image s := by
  rw [replace, replaceAfter, if_neg (mt isSome_after?_iff.1 h), replace]

/-- Going through a text as a replacement does, from one occurrence of the piece to the next. -/
theorem replace_induction {piece : List Char} (hne : piece ≠ []) {P : List Char → Prop} (hnil : P [])
    (hpiece : ∀ s, P s → P (piece ++ s)) (hcons : ∀ c s, ¬ piece <+: c :: s → P s → P (c :: s)) (s : List Char) :
    P s := by
  induction hlength : s.length using Nat.strongRecOn generalizing s with
  | _ n ih =>
    cases s with
    | nil => exact hnil
    | cons c s =>
      by_cases hfound : piece <+: c :: s
      · obtain ⟨rest, hrest⟩ := hfound
        have hshorter : rest.length < n := by
          have hcount := congrArg List.length hrest
          have hpositive := List.length_pos_iff.2 hne
          simp only [List.length_append, List.length_cons] at hcount hlength
          omega
        exact hrest ▸ hpiece rest (ih _ hshorter rest rfl)
      · exact hcons c s hfound (ih s.length (by simp [← hlength]) s rfl)

/-- A text without a piece stays as it is when the piece is replaced. -/
theorem replace_eq_self {piece image s : List Char} (h : ¬ piece <:+: s) : replace piece image s = s := by
  induction s with
  | nil => rfl
  | cons c s ih => rw [replace_cons fun hp => h hp.isInfix, ih fun hs => h (List.infix_cons hs)]

/-- A text in which the first character of a piece does not occur stays as it is. -/
theorem replace_append_of_notMem {c : Char} {piece image p : List Char} (h : c ∉ p) (s : List Char) :
    replace (c :: piece) image (p ++ s) = p ++ replace (c :: piece) image s := by
  induction p with
  | nil => rfl
  | cons d p ih =>
    have hd : c ≠ d := fun heq => h (heq ▸ List.mem_cons_self)
    have hnot : ¬ c :: piece <+: d :: (p ++ s) := fun hp => hd (List.cons_prefix_cons.1 hp).1
    rw [List.cons_append, replace_cons hnot, ih fun hm => h (List.mem_cons_of_mem _ hm), List.cons_append]

/-! ## Parting and cutting -/

/-- A text before the first occurrence of a character, and after it if there is one. -/
def partedAt (c : Char) : List Char → List Char × Option (List Char)
  | [] => ([], none)
  | d :: s =>
    if d = c then ([], some s)
    else
      let (before, after) := partedAt c s
      (d :: before, after)

theorem partedAt_of_notMem {c : Char} {s : List Char} (h : c ∉ s) : partedAt c s = (s, none) := by
  induction s with
  | nil => rfl
  | cons d s ih =>
    have hd : d ≠ c := fun heq => h (heq ▸ List.mem_cons_self)
    rw [partedAt, if_neg hd, ih fun hm => h (List.mem_cons_of_mem _ hm)]

theorem partedAt_append {c : Char} {s : List Char} (h : c ∉ s) (rest : List Char) :
    partedAt c (s ++ c :: rest) = (s, some rest) := by
  induction s with
  | nil => rw [List.nil_append, partedAt, if_pos rfl]
  | cons d s ih =>
    have hd : d ≠ c := fun heq => h (heq ▸ List.mem_cons_self)
    rw [List.cons_append, partedAt, if_neg hd, ih fun hm => h (List.mem_cons_of_mem _ hm)]

theorem cut_ne_nil (isCut : Char → Bool) (s : List Char) : cut isCut s ≠ [] := by
  fun_cases cut isCut s <;> simp

theorem cut_append_cons {isCut : Char → Bool} {c : Char} (hc : isCut c = true) (s t : List Char) :
    cut isCut (s ++ c :: t) = cut isCut s ++ cut isCut t := by
  induction s with
  | nil => simp [cut, hc]
  | cons d s ih =>
    rw [List.cons_append, cut, cut, ih]
    split
    · rfl
    · obtain ⟨piece, pieces, hcut⟩ := List.exists_cons_of_ne_nil (cut_ne_nil isCut s)
      rw [hcut]
      rfl

section Cut

variable {isCut : Char → Bool} {piece : List Char} (h : ∀ c ∈ piece, isCut c = false)
include h

theorem cut_of_uncut : cut isCut piece = [piece] := by
  induction piece with
  | nil => rfl
  | cons c piece ih =>
    have hc : ¬ isCut c = true := by simp [h c List.mem_cons_self]
    rw [cut, if_neg hc, ih fun d hd => h d (List.mem_cons_of_mem _ hd)]

theorem cut_append {c : Char} (hc : isCut c = true) (rest : List Char) :
    cut isCut (piece ++ c :: rest) = piece :: cut isCut rest := by
  induction piece with
  | nil => rw [List.nil_append, cut, if_pos hc]
  | cons d piece ih =>
    have hd : ¬ isCut d = true := by simp [h d List.mem_cons_self]
    rw [List.cons_append, cut, if_neg hd, ih fun e he => h e (List.mem_cons_of_mem _ he)]

end Cut

/-- Cutting at a separator undoes joining with it. -/
theorem cut_joined {c : Char} {pieces : List String} (hne : pieces ≠ []) (h : ∀ p ∈ pieces, c ∉ p.toList) :
    cut (· == c) (joined (String.singleton c) pieces).toList = pieces.map String.toList := by
  have huncut : ∀ p ∈ pieces, ∀ d ∈ p.toList, (d == c) = false := by
    intro p hp d hd
    rw [beq_eq_false_iff_ne]
    rintro rfl
    exact h p hp hd
  clear h
  induction pieces with
  | nil => exact absurd rfl hne
  | cons p pieces ih =>
    obtain ⟨hp, hrest⟩ := List.forall_mem_cons.1 huncut
    by_cases hlast : pieces = []
    · subst hlast
      exact cut_of_uncut hp
    · rw [joined_cons_of_ne_nil _ _ hlast]
      simp only [String.toList_append, String.toList_singleton, List.append_assoc, List.singleton_append]
      rw [cut_append hp (beq_self_eq_true c), ih hlast hrest, List.map_cons]

/-! ## Two characters in a row -/

theorem holds_iff {piece s : List Char} : holds piece s = true ↔ piece <:+: s := by
  induction s with
  | nil => simp [holds]
  | cons c s ih => rw [holds, Bool.or_eq_true, isSome_after?_iff, ih, List.infix_cons_iff]

theorem contains_eq_false_iff {s piece : String} : contains s piece = false ↔ ¬ piece.toList <:+: s.toList := by
  rw [← holds_iff, Bool.not_eq_true, contains]

/-- Two characters come together where one text ends and another begins. -/
def Meets (x y : Char) (a b : List Char) : Prop := a.getLast? = some x ∧ b.head? = some y

theorem Meets.of_cons {x y c : Char} {a b : List Char} (h : Meets x y a b) : Meets x y (c :: a) b := by
  refine ⟨?_, h.2⟩
  rw [List.getLast?_cons, h.1]
  rfl

/-- Two characters in front of a joined text stand in front of its first part, or they come together
behind a first part of one character. -/
theorem pair_prefix_append {x y c : Char} {a b : List Char} (h : [x, y] <+: c :: (a ++ b)) :
    [x, y] <+: c :: a ∨ a = [] ∧ Meets x y [c] b := by
  obtain ⟨rfl, hy⟩ := List.cons_prefix_cons.1 h
  cases a with
  | nil =>
    refine .inr ⟨rfl, rfl, ?_⟩
    cases b with
    | nil => simp at hy
    | cons d b => rw [(List.cons_prefix_cons.1 hy).1, List.head?_cons]
  | cons d a =>
    obtain ⟨rfl, _⟩ := List.cons_prefix_cons.1 hy
    exact .inl ⟨a, rfl⟩

theorem pair_infix_append {x y : Char} {a b : List Char} (h : [x, y] <:+: a ++ b) :
    [x, y] <:+: a ∨ [x, y] <:+: b ∨ Meets x y a b := by
  induction a with
  | nil => exact .inr (.inl h)
  | cons c a ih =>
    rw [List.cons_append, List.infix_cons_iff] at h
    rcases h with h | h
    · rcases pair_prefix_append h with ha | ⟨rfl, hmeet⟩
      · exact .inl ha.isInfix
      · exact .inr (.inr hmeet)
    · rcases ih h with ha | hb | hmeet
      · exact .inl (List.infix_cons ha)
      · exact .inr (.inl hb)
      · exact .inr (.inr hmeet.of_cons)

/-! ## Parts of a text -/

theorem trimEnd_isInfix (s : List Char) : trimEnd s <:+: s := by
  have hsuffix := List.dropWhile_suffix isBlank (l := s.reverse)
  rw [← List.reverse_prefix, List.reverse_reverse] at hsuffix
  exact hsuffix.isInfix

theorem trim_isInfix (s : List Char) : trim s <:+: s :=
  (trimEnd_isInfix _).trans (List.dropWhile_suffix isBlank).isInfix

theorem isPrefix_of_lines {s line : List Char} {others : List (List Char)} (h : lines s = line :: others) :
    line <+: s := by
  fun_induction lines s generalizing line others with
  | case1 => cases h
  | case2 rest => exact (List.cons.inj h).1 ▸ List.nil_prefix
  | case3 rest => exact (List.cons.inj h).1 ▸ List.nil_prefix
  | case4 c rest _ _ hnil => exact (List.cons.inj h).1 ▸ List.cons_prefix_cons.2 ⟨rfl, List.nil_prefix⟩
  | case5 c rest _ _ first more hfirst ih =>
    exact (List.cons.inj h).1 ▸ List.cons_prefix_cons.2 ⟨rfl, ih hfirst⟩

/-- A line is a part of its text without a line end. -/
theorem lines_spec {s line : List Char} (h : line ∈ lines s) : line <:+: s ∧ '\n' ∉ line := by
  fun_induction lines s generalizing line with
  | case1 => cases h
  | case2 rest ih =>
    rcases List.mem_cons.1 h with rfl | h
    · exact ⟨List.nil_infix, List.not_mem_nil⟩
    · exact ⟨List.infix_cons (ih h).1, (ih h).2⟩
  | case3 rest ih =>
    rcases List.mem_cons.1 h with rfl | h
    · exact ⟨List.nil_infix, List.not_mem_nil⟩
    · exact ⟨List.infix_cons (List.infix_cons (ih h).1), (ih h).2⟩
  | case4 c rest hc _ hnil =>
    obtain rfl := List.mem_singleton.1 h
    exact ⟨(List.cons_prefix_cons.2 ⟨rfl, List.nil_prefix⟩).isInfix, by simpa using Ne.symm hc⟩
  | case5 c rest hc _ first more hfirst ih =>
    rcases List.mem_cons.1 h with rfl | h
    · refine ⟨(List.cons_prefix_cons.2 ⟨rfl, isPrefix_of_lines hfirst⟩).isInfix, ?_⟩
      rw [List.mem_cons, not_or]
      exact ⟨Ne.symm hc, (ih (hfirst.symm ▸ List.mem_cons_self)).2⟩
    · have hrest := ih (hfirst.symm ▸ List.mem_cons_of_mem _ h)
      exact ⟨List.infix_cons hrest.1, hrest.2⟩

end ClientGen.Text
