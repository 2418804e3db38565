import ClientGen.Comparison.Differences
import ClientGen.Proofs.Text.Seams

/-!
# Normal forms line by line

The normal form of a text is read off its words. A line whose block comments all end within it gives its own words
whatever stands around it, and a line that is a comment gives none.
-/

namespace ClientGen

namespace Comparison

open Text (Meets pair_prefix_append)

/-! ## Block comments -/

theorem commentLength?_cons {c : Char} {s : List Char} (h : ¬ ['*', '/'] <+: c :: s) :
    commentLength? (c :: s) = (commentLength? s).map (· + 1) := by
  rw [commentLength?]
  rintro s' rfl rfl
  exact h ⟨s', rfl⟩

theorem infix_of_commentLength? {s : List Char} {n : Nat} (h : commentLength? s = some n) : ['*', '/'] <:+: s := by
  induction s generalizing n with
  | nil => cases h
  | cons c s ih =>
    by_cases hend : ['*', '/'] <+: c :: s
    · exact hend.isInfix
    · rw [commentLength?_cons hend, Option.map_eq_some_iff] at h
      obtain ⟨k, hk, _⟩ := h
      exact List.infix_cons (ih hk)

/-- A comment goes on to its first end. -/
theorem commentLength?_body {body : List Char} (h : ¬ ['*', '/'] <:+: body) (rest : List Char) :
    commentLength? (body ++ '*' :: '/' :: rest) = some (body.length + 2) := by
  induction body with
  | nil => rfl
  | cons c body ih =>
    have hbody : ¬ ['*', '/'] <:+: body := fun hmem => h (List.infix_cons hmem)
    have hend : ¬ ['*', '/'] <+: c :: (body ++ '*' :: '/' :: rest) := by
      intro hprefix
      rcases pair_prefix_append hprefix with hpair | ⟨_, _, hhead⟩
      · exact h hpair.isInfix
      · cases hhead
    rw [List.cons_append, commentLength?_cons hend, ih hbody]
    rfl

/-- Where a comment ends, it ends whatever follows. -/
theorem commentLength?_append {s : List Char} {n : Nat} (h : commentLength? s = some n) (t : List Char) :
    commentLength? (s ++ t) = some n ∧ n ≤ s.length := by
  fun_induction commentLength? s generalizing n with
  | case1 rest =>
    obtain rfl := Option.some.inj h
    exact ⟨rfl, by simp⟩
  | case2 c rest hend ih =>
    obtain ⟨k, hk, rfl⟩ := Option.map_eq_some_iff.1 h
    obtain ⟨hlength, hle⟩ := ih hk
    have hend' : ¬ ['*', '/'] <+: c :: (rest ++ t) := by
      intro hprefix
      rcases pair_prefix_append hprefix with ⟨rest', hrest⟩ | ⟨rfl, _⟩
      · obtain ⟨rfl, rfl⟩ := List.cons.inj hrest
        exact hend rest' rfl rfl
      · cases hk
    rw [List.cons_append, commentLength?_cons hend', hlength]
    exact ⟨rfl, Nat.succ_le_succ hle⟩
  | case3 => cases h

/-- Whether every block comment of a text ends in it; the first `skip` characters belong to one. -/
def closes : Nat → List Char → Bool
  | _, [] => true
  | skip + 1, _ :: rest => closes skip rest
  | 0, '/' :: '*' :: rest => match commentLength? rest with
    | some n => closes (n + 1) ('*' :: rest)
    | none => false
  | 0, _ :: rest => closes 0 rest

theorem withoutBlocks_skip (s t : List Char) :
    withoutBlocks s.length (s ++ t) = withoutBlocks 0 t ∧ closes s.length (s ++ t) = closes 0 t := by
  induction s with
  | nil => exact ⟨rfl, rfl⟩
  | cons c s ih => exact ih

theorem withoutBlocks_cons {c : Char} {s : List Char} (h : ¬ ['/', '*'] <+: c :: s) :
    withoutBlocks 0 (c :: s) = c :: withoutBlocks 0 s := by
  rw [withoutBlocks]
  rintro s' rfl rfl
  exact h ⟨s', rfl⟩

theorem closes_cons {c : Char} {s : List Char} (h : ¬ ['/', '*'] <+: c :: s) : closes 0 (c :: s) = closes 0 s := by
  rw [closes]
  rintro s' rfl rfl
  exact h ⟨s', rfl⟩

/-- A comment leaves a space. -/
theorem withoutBlocks_block {body : List Char} (h : ¬ ['*', '/'] <:+: body) (rest : List Char) :
    withoutBlocks 0 ('/' :: '*' :: (body ++ '*' :: '/' :: rest)) = ' ' :: withoutBlocks 0 rest ∧
      closes 0 ('/' :: '*' :: (body ++ '*' :: '/' :: rest)) = closes 0 rest := by
  obtain ⟨hwithout, hcloses⟩ := withoutBlocks_skip ('*' :: (body ++ ['*', '/'])) rest
  have hlength : ('*' :: (body ++ ['*', '/'])).length = body.length + 2 + 1 := by simp
  rw [hlength, List.cons_append, List.append_assoc] at hwithout hcloses
  rw [withoutBlocks, closes, commentLength?_body h]
  exact ⟨congrArg (' ' :: ·) hwithout, hcloses⟩

/-- What follows a text whose comments all end in it is free of their influence, unless the two meet in a comment
that begins. -/
theorem withoutBlocks_append {skip : Nat} {s t : List Char} (hskip : skip ≤ s.length) (hs : closes skip s = true)
    (hmeet : ¬ Meets '/' '*' s t) :
    withoutBlocks skip (s ++ t) = withoutBlocks skip s ++ withoutBlocks 0 t ∧ closes skip (s ++ t) = closes 0 t := by
  fun_induction closes skip s with
  | case1 skip =>
    obtain rfl := Nat.le_zero.1 hskip
    exact ⟨rfl, rfl⟩
  | case2 skip c rest ih =>
    exact ih (Nat.le_of_succ_le_succ hskip) hs fun h => hmeet h.of_cons
  | case3 rest n hn ih =>
    obtain ⟨hlength, hle⟩ := commentLength?_append hn t
    obtain ⟨hwithout, hcloses⟩ := ih (by simpa using hle) hs fun h => hmeet h.of_cons
    simp only [List.cons_append, withoutBlocks, closes, hlength, hn] at hwithout hcloses ⊢
    exact ⟨by rw [hwithout], hcloses⟩
  | case4 rest hn => cases hs
  | case5 c rest hopen ih =>
    have hopen' : ¬ ['/', '*'] <+: c :: rest := by
      rintro ⟨rest', hrest⟩
      obtain ⟨rfl, rfl⟩ := List.cons.inj hrest
      exact hopen rest' rfl rfl
    have hopen'' : ¬ ['/', '*'] <+: c :: (rest ++ t) := by
      intro hprefix
      rcases pair_prefix_append hprefix with hpair | ⟨rfl, hmeets⟩
      · exact hopen' hpair
      · exact hmeet hmeets
    obtain ⟨hwithout, hcloses⟩ := ih (Nat.zero_le _) hs fun h => hmeet h.of_cons
    rw [List.cons_append, withoutBlocks_cons hopen'', closes_cons hopen'', withoutBlocks_cons hopen', hwithout, hcloses]
    exact ⟨rfl, rfl⟩

/-- A text in which no comment begins has nothing to lose and leaves nothing open. -/
theorem withoutBlocks_of_not_opened {s : List Char} (h : ¬ ['/', '*'] <:+: s) :
    withoutBlocks 0 s = s ∧ closes 0 s = true := by
  induction s with
  | nil => exact ⟨rfl, rfl⟩
  | cons c s ih =>
    have hprefix : ¬ ['/', '*'] <+: c :: s := fun hp => h hp.isInfix
    obtain ⟨hwithout, hcloses⟩ := ih fun hs => h (List.infix_cons hs)
    rw [withoutBlocks_cons hprefix, closes_cons hprefix, hwithout, hcloses]
    exact ⟨rfl, rfl⟩

/-- What begins like a comment is none where no comment ends. -/
theorem withoutBlocks_of_not_closed {s : List Char} (h : ¬ ['*', '/'] <:+: s) : withoutBlocks 0 s = s := by
  induction s with
  | nil => rfl
  | cons c s ih =>
    have hs : ¬ ['*', '/'] <:+: s := fun hs => h (List.infix_cons hs)
    by_cases hopen : ['/', '*'] <+: c :: s
    · obtain ⟨rest, hrest⟩ := hopen
      obtain ⟨rfl, rfl⟩ := List.cons.inj hrest
      have hnone : commentLength? rest = none := by
        rw [Option.eq_none_iff_forall_not_mem]
        exact fun n hn => hs (List.infix_cons (infix_of_commentLength? hn))
      have hstep : withoutBlocks 0 ('/' :: '*' :: rest) = '/' :: withoutBlocks 0 ('*' :: rest) := by
        rw [withoutBlocks, hnone]
      exact hstep.trans (congrArg ('/' :: ·) (ih hs))
    · rw [withoutBlocks_cons hopen, ih hs]

theorem closes_of_starless {s : List Char} (h : '*' ∉ s) : closes 0 s = true :=
  (withoutBlocks_of_not_opened fun hpair => h (hpair.subset (by simp))).2

/-- Comments that all end where they began still do in a text that is put together with seams. -/
theorem seamless_closes : Text.Seamless fun s => closes 0 s.toList = true where
  starless := closes_of_starless
  between {a seam b} ha hseam hb := by
    have hseamCloses : closes 0 seam.toList = true := closes_of_starless hseam.2.2
    have hright : closes 0 (seam.toList ++ b.toList) = true := by
      rw [(withoutBlocks_append (Nat.zero_le _) hseamCloses (hseam.not_meets_right (.inl rfl) [] _)).2, hb]
    have hleft : ¬ Meets '/' '*' a.toList (seam.toList ++ b.toList) := by
      rintro ⟨hlast, hhead⟩
      have hne : seam.toList ≠ [] := by simpa using hseam.1
      rw [List.head?_append_of_ne_nil _ hne] at hhead
      exact hseam.not_meets_left (.inr rfl) _ ⟨hlast, hhead⟩
    rw [String.toList_append, String.toList_append, List.append_assoc,
      (withoutBlocks_append (Nat.zero_le _) ha hleft).2, hright]

/-! ## Line comments -/

/-- No line comment goes on beyond its line. -/
theorem withoutLineComments_line (place : LinePlace) (line rest : List Char) :
    withoutLineComments place (line ++ '\n' :: rest) =
      withoutLineComments place line ++ '\n' :: withoutLineComments .code rest := by
  fun_induction withoutLineComments place line with
  | case1 place => cases place <;> simp [withoutLineComments]
  | case2 line ih => rw [List.cons_append, withoutLineComments, if_pos rfl, ih, List.cons_append]
  | case3 c line hc ih => rw [List.cons_append, withoutLineComments, if_neg hc, ih]
  | case4 line ih => rw [List.cons_append, List.cons_append, withoutLineComments, ih]
  | case5 place c line hplace hslashes ih =>
    rw [List.cons_append, withoutLineComments, ih, List.cons_append]
    · exact hplace
    · intro rest' hcode hc hrest
      cases line with
      | nil => cases hrest
      | cons d line =>
        obtain ⟨rfl, _⟩ := List.cons.inj hrest
        exact hslashes line hcode hc rfl

theorem withoutLineComments_comment {line : List Char} (h : '\n' ∉ line) :
    withoutLineComments .comment line = [] := by
  induction line with
  | nil => rfl
  | cons c line ih =>
    have hc : c ≠ '\n' := fun heq => h (heq ▸ List.mem_cons_self)
    rw [withoutLineComments, if_neg hc, ih fun hmem => h (List.mem_cons_of_mem _ hmem)]

/-! ## Words -/

/-- The words of a text that has no block comments. -/
def lineWords (s : List Char) : List (List Char) := pieces (withoutLineComments .code s)

/-- The words of a text outside its comments. -/
def codeWords (source : String) : List (List Char) := lineWords (withoutBlocks 0 source.toList)

theorem normalize_eq (source : String) :
    normalize source = String.ofList (List.intercalate [' '] (codeWords source)) := rfl

theorem lineWords_line (line rest : List Char) :
    lineWords (line ++ '\n' :: rest) = lineWords line ++ lineWords rest := by
  rw [lineWords, withoutLineComments_line, pieces, Text.cut_append_cons (by decide), List.filter_append]
  rfl

/-- A line whose comments end in it gives its own words. -/
theorem codeWords_line {line : String} (h : closes 0 line.toList = true) (rest : String) :
    codeWords (line ++ "\n" ++ rest) = codeWords line ++ codeWords rest := by
  have hmeet : ¬ Meets '/' '*' line.toList ('\n' :: rest.toList) := by
    rintro ⟨_, hhead⟩
    cases hhead
  have hnewline : withoutBlocks 0 ('\n' :: rest.toList) = '\n' :: withoutBlocks 0 rest.toList := rfl
  have hline : (line ++ "\n" ++ rest).toList = line.toList ++ '\n' :: rest.toList := by simp
  rw [codeWords, hline, (withoutBlocks_append (Nat.zero_le _) h hmeet).1, hnewline, lineWords_line]
  rfl

/-! ## Lines without words -/

section Margin

variable {margin : List Char} (hmargin : ∀ c ∈ margin, c = ' ')
include hmargin

theorem withoutLineComments_margin (s : List Char) :
    withoutLineComments .code (margin ++ s) = margin ++ withoutLineComments .code s := by
  induction margin with
  | nil => rfl
  | cons c margin ih =>
    obtain ⟨rfl, hrest⟩ := List.forall_mem_cons.1 hmargin
    rw [List.cons_append, withoutLineComments, if_neg (by decide), ih hrest, List.cons_append]
    · exact LinePlace.noConfusion
    · exact fun _ _ h => absurd h (by decide)

theorem pieces_margin : pieces margin = [] := by
  induction margin with
  | nil => rfl
  | cons c margin ih =>
    obtain ⟨rfl, hrest⟩ := List.forall_mem_cons.1 hmargin
    have hcut : Text.cut Text.isBlank (' ' :: margin) = [] :: Text.cut Text.isBlank margin :=
      Text.cut_append_cons (by decide) [] margin
    rw [pieces, hcut, List.filter_cons_of_neg (by decide), ← pieces, ih hrest]

theorem lineWords_margin : lineWords margin = [] := by
  have h := withoutLineComments_margin hmargin []
  rw [List.append_nil] at h
  rw [lineWords, h]
  exact (congrArg pieces (List.append_nil margin)).trans (pieces_margin hmargin)

/-- A line comment has no words. -/
theorem lineWords_slashes {text : List Char} (h : '\n' ∉ text) : lineWords (margin ++ '/' :: '/' :: text) = [] := by
  rw [lineWords, withoutLineComments_margin hmargin, withoutLineComments, withoutLineComments_comment h,
    List.append_nil, pieces_margin hmargin]

/-- A block comment has no words, and ends. -/
theorem codeWords_block {source : String} {body : List Char} (h : ¬ ['*', '/'] <:+: body)
    (hsource : source.toList = margin ++ '/' :: '*' :: (body ++ ['*', '/'])) :
    codeWords source = [] ∧ closes 0 source.toList = true := by
  have hnot : ¬ ['/', '*'] <:+: margin := fun hpair => absurd (hmargin '/' (hpair.subset (by simp))) (by decide)
  have hmeet : ¬ Meets '/' '*' margin ('/' :: '*' :: (body ++ ['*', '/'])) := by
    rintro ⟨_, hhead⟩
    cases hhead
  obtain ⟨hself, hmarginCloses⟩ := withoutBlocks_of_not_opened hnot
  obtain ⟨hwithout, hcloses⟩ := withoutBlocks_append (Nat.zero_le _) hmarginCloses hmeet
  obtain ⟨hblock, hblockCloses⟩ := withoutBlocks_block h []
  have hspaces : ∀ c ∈ margin ++ [' '], c = ' ' := by
    simpa [or_imp, forall_and] using hmargin
  rw [codeWords, hsource, hwithout, hself, hblock, hcloses, hblockCloses]
  exact ⟨lineWords_margin hspaces, rfl⟩

end Margin

end Comparison

end ClientGen
