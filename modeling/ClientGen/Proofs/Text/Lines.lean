import ClientGen.Proofs.Text.Search
import Mathlib.Data.List.DropRight

/-!
# Lines of a text

What blanks are to a text that is trimmed, empty lines are to a list of lines: they are taken off both ends. Lines that
are joined are the lines of the joined text. Two characters in a row that are no blanks stand in one line of their text,
and stay there when blanks are taken off.
-/

namespace ClientGen.Text

/-! ## Both ends -/

section Stripped

variable {α : Type} {p : α → Bool} {l : List α} {a : α}

/-- A list without what a test picks out at its ends. -/
def stripped (p : α → Bool) (l : List α) : List α := (l.dropWhile p).rdropWhile p

theorem mem_of_mem_stripped (h : a ∈ stripped p l) : a ∈ l :=
  (List.dropWhile_suffix p).subset ((List.rdropWhile_prefix p _).subset h)

theorem mem_stripped (h : a ∈ l) (ha : p a = false) : a ∈ stripped p l := by
  have hkept : ∀ {l : List α}, a ∈ l → a ∈ l.dropWhile p := by
    intro l hmem
    rw [← List.takeWhile_append_dropWhile (p := p) (l := l), List.mem_append] at hmem
    refine hmem.resolve_left fun htaken => ?_
    rw [List.all_eq_true.1 List.all_takeWhile a htaken] at ha
    cases ha
  exact List.mem_reverse.2 (hkept (List.mem_reverse.2 (hkept h)))

theorem of_head?_stripped (h : (stripped p l).head? = some a) : p a = false := by
  obtain ⟨rest, hrest⟩ := List.head?_eq_some_iff.1 h
  obtain ⟨tail, htail⟩ : a :: rest <+: l.dropWhile p := hrest ▸ List.rdropWhile_prefix p _
  have hnot := List.head?_dropWhile_not p l
  rw [← htail] at hnot
  exact hnot

theorem of_getLast?_stripped (h : (stripped p l).getLast? = some a) : p a = false := by
  rw [stripped, List.rdropWhile, List.getLast?_reverse] at h
  have hnot := List.head?_dropWhile_not p (l.dropWhile p).reverse
  rw [h] at hnot
  exact hnot

theorem stripped_eq_self (hhead : ∀ a, l.head? = some a → p a = false)
    (hlast : ∀ a, l.getLast? = some a → p a = false) : stripped p l = l := by
  have hfront : l.dropWhile p = l := by
    cases l with
    | nil => rfl
    | cons a l => exact List.dropWhile_cons_of_neg (by simp [hhead a rfl])
  rw [stripped, hfront, List.rdropWhile_eq_self_iff]
  intro hne
  simp [hlast _ (List.getLast?_eq_some_getLast hne)]

theorem stripped_eq_nil_iff : stripped p l = [] ↔ ∀ a ∈ l, p a = true := by
  constructor
  · intro hnil a ha
    by_contra hkept
    have hmem := mem_stripped ha (eq_false_of_ne_true hkept)
    rw [hnil] at hmem
    cases hmem
  · intro hall
    cases hstripped : stripped p l with
    | nil => rfl
    | cons a rest =>
      have ha : p a = false := of_head?_stripped (by rw [hstripped]; rfl)
      have hmem : a ∈ stripped p l := hstripped ▸ List.mem_cons_self
      rw [hall a (mem_of_mem_stripped hmem)] at ha
      cases ha

end Stripped

theorem trim_eq_stripped (s : List Char) : trim s = stripped isBlank s := rfl

theorem trim_trim (s : List Char) : trim (trim s) = trim s :=
  stripped_eq_self (fun _ => of_head?_stripped) fun _ => of_getLast?_stripped

theorem trim_eq_nil_iff {s : List Char} : trim s = [] ↔ s.all isBlank = true := by
  rw [trim_eq_stripped, stripped_eq_nil_iff, List.all_eq_true]

theorem trimEnd_of_trim_eq {s : List Char} (h : trim s = s) : trimEnd s = s := by
  rw [← h]
  exact List.rdropWhile_idempotent isBlank _

/-! ## Cutting into lines -/

/-- A character that ends no line stands in the first line. -/
theorem lines_cons {c : Char} {s : List Char} (hc : c ≠ '\n') (hs : c = '\r' → s.head? ≠ some '\n') :
    lines (c :: s) = (c :: (lines s).headD []) :: (lines s).tail := by
  have hreturn : ∀ rest, c = '\r' → s = '\n' :: rest → False := by
    rintro rest rfl rfl
    exact hs rfl rfl
  cases hlines : lines s with
  | nil => simp only [lines, hlines, List.headD_nil, List.tail_nil]
  | cons line others => simp only [lines, hlines, List.headD_cons, List.tail_cons]

theorem lines_line {line : List Char} (hne : line ≠ []) (h : '\n' ∉ line) : lines line = [line] := by
  induction line with
  | nil => exact absurd rfl hne
  | cons c line ih =>
    obtain ⟨hc, hline⟩ := not_or.1 (mt List.mem_cons.2 h)
    have hhead : line.head? ≠ some '\n' := fun heq => hline (List.mem_of_mem_head? heq)
    rw [lines_cons (Ne.symm hc) fun _ => hhead]
    by_cases hempty : line = []
    · rw [hempty]
      rfl
    · rw [ih hempty hline]
      rfl

/-- A line ends at the first line end behind it. -/
theorem lines_append {line : List Char} (h : '\n' ∉ line) (hlast : line.getLast? ≠ some '\r') (rest : List Char) :
    lines (line ++ '\n' :: rest) = line :: lines rest := by
  induction line with
  | nil => rfl
  | cons c line ih =>
    obtain ⟨hc, hline⟩ := not_or.1 (mt List.mem_cons.2 h)
    cases line with
    | nil =>
      have hreturn : c ≠ '\r' := fun heq => hlast (by rw [heq]; rfl)
      rw [List.singleton_append, lines_cons (Ne.symm hc) fun heq => absurd heq hreturn, lines]
      rfl
    | cons d line =>
      have hd : d ≠ '\n' := fun heq => hline (heq ▸ List.mem_cons_self)
      rw [List.getLast?_cons_cons] at hlast
      rw [List.cons_append, lines_cons (Ne.symm hc) fun _ => by simpa using hd, ih hline hlast]
      rfl

/-- A line that another text can follow. -/
def IsLine (line : List Char) : Prop := '\n' ∉ line ∧ line.getLast? ≠ some '\r'

theorem linesOf_unlines {ls : List String} (h : ∀ l ∈ ls, IsLine l.toList) : linesOf (unlines ls) = ls := by
  induction ls with
  | nil => rfl
  | cons l ls ih =>
    obtain ⟨hl, hrest⟩ := List.forall_mem_cons.1 h
    have htext : (unlines (l :: ls)).toList = l.toList ++ '\n' :: (unlines ls).toList := by simp
    have hothers := ih hrest
    rw [linesOf] at hothers
    rw [linesOf, htext, lines_append hl.1 hl.2, List.map_cons, String.ofList_toList, hothers]

theorem linesOf_joined {ls : List String} (h : ∀ l ∈ ls, IsLine l.toList) (hlast : ls.getLast? ≠ some "") :
    linesOf (joined "\n" ls) = ls := by
  induction ls with
  | nil => rfl
  | cons l ls ih =>
    obtain ⟨hl, hrest⟩ := List.forall_mem_cons.1 h
    cases ls with
    | nil =>
      have hne : l.toList ≠ [] := by simpa using hlast
      rw [joined, linesOf, lines_line hne hl.1, List.map_singleton, String.ofList_toList]
    | cons next ls =>
      rw [List.getLast?_cons_cons] at hlast
      have hnext := ih hrest hlast
      rw [linesOf] at hnext
      have htext : (joined "\n" (l :: next :: ls)).toList = l.toList ++ '\n' :: (joined "\n" (next :: ls)).toList := by
        simp [joined]
      rw [linesOf, htext, lines_append hl.1 hl.2, List.map_cons, String.ofList_toList, hnext]

/-! ## Two characters in a row -/

section Pair

variable {x y : Char} (hx : isBlank x = false) (hy : isBlank y = false) {s : List Char}

include hx in
theorem pair_infix_dropWhile (h : [x, y] <:+: s) : [x, y] <:+: s.dropWhile isBlank := by
  induction s with
  | nil => exact h
  | cons c s ih =>
    cases hc : isBlank c with
    | false => rwa [List.dropWhile_cons_of_neg (by simp [hc])]
    | true =>
      rw [List.dropWhile_cons_of_pos hc]
      rcases List.infix_cons_iff.1 h with hprefix | hinfix
      · obtain ⟨rfl, _⟩ := List.cons_prefix_cons.1 hprefix
        rw [hc] at hx
        cases hx
      · exact ih hinfix

include hy in
theorem pair_infix_trimEnd (h : [x, y] <:+: s) : [x, y] <:+: trimEnd s := by
  have hreverse : [y, x] <:+: s.reverse := List.reverse_infix.2 h
  exact List.reverse_infix.2 (pair_infix_dropWhile hy hreverse)

include hx hy

theorem pair_infix_trim (h : [x, y] <:+: s) : [x, y] <:+: trim s :=
  pair_infix_trimEnd hy (pair_infix_dropWhile hx h)

omit hx in
theorem exists_lines_eq_cons (s : List Char) : ∃ line others, lines (y :: s) = (y :: line) :: others := by
  have hnewline : y ≠ '\n' := by
    rintro rfl
    exact absurd hy (by decide)
  have hreturn : y ≠ '\r' := by
    rintro rfl
    exact absurd hy (by decide)
  exact ⟨_, _, lines_cons hnewline fun heq => absurd heq hreturn⟩

theorem exists_line_of_pair_infix (h : [x, y] <:+: s) : ∃ line ∈ lines s, [x, y] <:+: line := by
  -- A blank, such as any line end, is not the first of the two, so they stand behind it.
  have hblank : ∀ {c : Char} {rest : List Char}, isBlank c = true → [x, y] <:+: c :: rest → [x, y] <:+: rest := by
    intro c rest hc hpair
    refine (List.infix_cons_iff.1 hpair).resolve_left fun hprefix => ?_
    rw [(List.cons_prefix_cons.1 hprefix).1, hc] at hx
    cases hx
  fun_induction lines s with
  | case1 => simp at h
  | case2 rest ih =>
    obtain ⟨line, hline, hpair⟩ := ih (hblank (by decide) h)
    exact ⟨line, List.mem_cons_of_mem _ hline, hpair⟩
  | case3 rest ih =>
    obtain ⟨line, hline, hpair⟩ := ih (hblank (by decide) (hblank (by decide) h))
    exact ⟨line, List.mem_cons_of_mem _ hline, hpair⟩
  | case4 c rest _ _ hnil ih =>
    rcases List.infix_cons_iff.1 h with hprefix | hinfix
    · obtain ⟨_, rest, rfl⟩ := List.cons_prefix_cons.1 hprefix
      obtain ⟨line, others, hlines⟩ := exists_lines_eq_cons hy rest
      exact absurd (hnil.symm.trans hlines) (by simp)
    · obtain ⟨line, hline, _⟩ := ih hinfix
      exact absurd (hnil ▸ hline) List.not_mem_nil
  | case5 c rest _ _ first more hfirst ih =>
    rcases List.infix_cons_iff.1 h with hprefix | hinfix
    · obtain ⟨rfl, rest, rfl⟩ := List.cons_prefix_cons.1 hprefix
      obtain ⟨line, others, hlines⟩ := exists_lines_eq_cons hy rest
      obtain ⟨rfl, _⟩ := List.cons.inj (hfirst.symm.trans hlines)
      exact ⟨_, List.mem_cons_self, List.IsPrefix.isInfix ⟨line, rfl⟩⟩
    · obtain ⟨line, hline, hpair⟩ := ih hinfix
      rcases List.mem_cons.1 (hfirst ▸ hline) with rfl | hmore
      · exact ⟨_, List.mem_cons_self, List.infix_cons hpair⟩
      · exact ⟨line, List.mem_cons_of_mem _ hmore, hpair⟩

end Pair

end ClientGen.Text
