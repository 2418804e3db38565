import ClientGen.Proofs.Comparison.Comments

/-!
# Normal forms stay as they are

In a text without comments nothing that is left out brings two delimiters together: what stands in a row afterwards
stood in a row before, or there is a blank between. So the three steps of the normal form create no comment, and taking
the normal form again changes nothing.
-/

namespace ClientGen.Comparison

open Text (isBlank)

variable {s t : List Char} {c d : Char}

/-! ## Texts with something left out -/

/-- A text with characters left out and blanks put in. What stands in a row in it stood in a row before, unless one of
the two is a blank. -/
inductive Thinned : List Char → List Char → Prop
  | nil : Thinned [] []
  | drop (c : Char) {s t : List Char} (h : Thinned s t) : Thinned (c :: s) t
  | keep (c : Char) {s t : List Char} (h : Thinned s t)
      (hhead : ∀ d, t.head? = some d → isBlank d = false → s.head? = some d) : Thinned (c :: s) (c :: t)
  | blank {b : Char} {s t : List Char} (hb : isBlank b = true) (h : Thinned s t) : Thinned s (b :: t)

namespace Thinned

theorem tail (h : Thinned s (c :: t)) : Thinned s t := by
  generalize hu : c :: t = u at h
  induction h with
  | nil => cases hu
  | drop d _ ih => exact (ih hu).drop d
  | keep d h _ _ =>
    obtain ⟨_, rfl⟩ := List.cons.inj hu
    exact h.drop d
  | blank _ h _ =>
    obtain ⟨_, rfl⟩ := List.cons.inj hu
    exact h

theorem of_cons_cons (hc : isBlank c = false) (h : Thinned (c :: s) (c :: t)) : Thinned s t := by
  cases h with
  | drop _ h => exact h.tail
  | keep _ h _ => exact h
  | blank hb _ => exact absurd hb (by simp [hc])

/-- Two characters in a row stood so before, and what follows them is what followed, thinned. -/
theorem pair_suffix (h : Thinned s t) (hc : isBlank c = false) (hd : isBlank d = false) {rest : List Char}
    (hpair : c :: d :: rest <:+ t) : ∃ rest', c :: d :: rest' <:+ s ∧ Thinned rest' rest := by
  induction h with
  | nil => exact absurd hpair (by simp)
  | drop e _ ih =>
    obtain ⟨rest', hsuffix, hrest⟩ := ih hpair
    exact ⟨rest', hsuffix.trans (List.suffix_cons _ _), hrest⟩
  | @keep e s t h hhead ih =>
    rcases List.suffix_cons_iff.1 hpair with heq | hpair
    · obtain ⟨rfl, rfl⟩ := List.cons.inj heq
      obtain ⟨rest', rfl⟩ := List.head?_eq_some_iff.1 (hhead d rfl hd)
      exact ⟨rest', List.suffix_rfl, h.of_cons_cons hd⟩
    · obtain ⟨rest', hsuffix, hrest⟩ := ih hpair
      exact ⟨rest', hsuffix.trans (List.suffix_cons _ _), hrest⟩
  | blank hb _ ih =>
    rcases List.suffix_cons_iff.1 hpair with heq | hpair
    · obtain ⟨rfl, _⟩ := List.cons.inj heq
      exact absurd hb (by simp [hc])
    · exact ih hpair

end Thinned

/-! ## Block comments -/

/-- Behind the beginning of a block comment there is no end of one. -/
def BlockFree (s : List Char) : Prop := ∀ rest, '/' :: '*' :: rest <:+ s → ¬ ['*', '/'] <:+: rest

theorem blockFree_cons_iff :
    BlockFree (c :: s) ↔ (∀ rest, c :: s = '/' :: '*' :: rest → ¬ ['*', '/'] <:+: rest) ∧ BlockFree s := by
  simp only [BlockFree, List.suffix_cons_iff, or_imp, forall_and, eq_comm (b := c :: s)]

theorem BlockFree.thinned (hs : BlockFree s) (h : Thinned s t) : BlockFree t := by
  rintro rest hopen ⟨before, after, hend⟩
  obtain ⟨rest', hopen', hrest⟩ := h.pair_suffix (by decide) (by decide) hopen
  have hsuffix : '*' :: '/' :: after <:+ rest := ⟨before, by rw [← hend]; simp⟩
  obtain ⟨after', hend', _⟩ := hrest.pair_suffix (by decide) (by decide) hsuffix
  obtain ⟨before', hsplit⟩ := hend'
  exact hs rest' hopen' ⟨before', after', by rw [← hsplit]; simp⟩

theorem commentLength?_eq_none_iff : commentLength? s = none ↔ ¬ ['*', '/'] <:+: s := by
  induction s with
  | nil => simp [commentLength?]
  | cons c s ih =>
    by_cases hend : ['*', '/'] <+: c :: s
    · obtain ⟨rest, hrest⟩ := id hend
      refine iff_of_false ?_ (not_not.2 hend.isInfix)
      rw [← hrest]
      exact Option.some_ne_none 2
    · rw [commentLength?_cons hend, Option.map_eq_none_iff, ih, List.infix_cons_iff, not_or]
      exact (and_iff_right hend).symm

theorem withoutBlocks_of_blockFree (h : BlockFree s) : withoutBlocks 0 s = s := by
  induction s with
  | nil => rfl
  | cons c s ih =>
    obtain ⟨hfirst, hs⟩ := blockFree_cons_iff.1 h
    by_cases hopen : ['/', '*'] <+: c :: s
    · obtain ⟨rest, hrest⟩ := hopen
      obtain ⟨rfl, rfl⟩ := List.cons.inj hrest
      have hnone : commentLength? rest = none := commentLength?_eq_none_iff.2 (hfirst rest rfl)
      have hstep : withoutBlocks 0 ('/' :: '*' :: rest) = '/' :: withoutBlocks 0 ('*' :: rest) := by
        rw [withoutBlocks, hnone]
      exact hstep.trans (congrArg ('/' :: ·) (ih hs))
    · rw [withoutBlocks_cons hopen, ih hs]

theorem head?_withoutBlocks (h : (withoutBlocks 0 s).head? = some d) : d = ' ' ∨ s.head? = some d := by
  cases s with
  | nil => cases h
  | cons c s =>
    by_cases hopen : ['/', '*'] <+: c :: s
    · obtain ⟨rest, hrest⟩ := hopen
      obtain ⟨rfl, rfl⟩ := List.cons.inj hrest
      change (withoutBlocks 0 ('/' :: '*' :: rest)).head? = some d at h
      rw [withoutBlocks] at h
      split at h
      · exact .inl (Option.some.inj h).symm
      · exact .inr h
    · rw [withoutBlocks_cons hopen] at h
      exact .inr h

/-- A text without its block comments has none. -/
theorem blockFree_withoutBlocks (skip : Nat) (s : List Char) : BlockFree (withoutBlocks skip s) := by
  fun_induction withoutBlocks skip s with
  | case1 skip => simp [BlockFree]
  | case2 skip c rest ih => exact ih
  | case3 rest n hn ih => exact blockFree_cons_iff.2 ⟨fun _ h => absurd (List.cons.inj h).1 (by decide), ih⟩
  | case4 rest hn ih =>
    have hrest : ¬ ['*', '/'] <:+: rest := commentLength?_eq_none_iff.1 hn
    refine blockFree_cons_iff.2 ⟨fun rest' h => ?_, ih⟩
    rw [withoutBlocks_cons (by simp), withoutBlocks_of_not_closed hrest] at h
    obtain ⟨_, h⟩ := List.cons.inj h
    exact (List.cons.inj h).2 ▸ hrest
  | case5 c rest hopen ih =>
    refine blockFree_cons_iff.2 ⟨fun rest' h => ?_, ih⟩
    obtain ⟨rfl, htail⟩ := List.cons.inj h
    have hhead : (withoutBlocks 0 rest).head? = some '*' := by rw [htail, List.head?_cons]
    rcases head?_withoutBlocks hhead with h | h
    · cases h
    · obtain ⟨rest'', rfl⟩ := List.head?_eq_some_iff.1 h
      exact absurd rfl (hopen rest'' rfl)

/-! ## Line comments -/

def placeAfter (c : Char) : LinePlace := if c = ':' then .afterColon else .code

/-- A line comment begins here. -/
def Opens (place : LinePlace) (s : List Char) : Prop := place = .code ∧ ['/', '/'] <+: s

variable {place : LinePlace}

theorem placeAfter_ne_comment (c : Char) : placeAfter c ≠ .comment := by
  unfold placeAfter
  split <;> exact LinePlace.noConfusion

theorem placeAfter_of_isBlank (h : isBlank c = true) : placeAfter c = .code := by
  refine if_neg ?_
  rintro rfl
  exact absurd h (by decide)

theorem withoutLineComments_cons (hplace : place ≠ .comment) (h : ¬ Opens place (c :: s)) :
    withoutLineComments place (c :: s) = c :: withoutLineComments (placeAfter c) s := by
  rw [withoutLineComments]
  · rfl
  · exact hplace
  · rintro rest rfl rfl rfl
    exact h ⟨rfl, rest, rfl⟩

theorem length_withoutLineComments_le (place : LinePlace) (s : List Char) :
    (withoutLineComments place s).length ≤ s.length := by
  fun_induction withoutLineComments place s <;> simp only [List.length_nil, List.length_cons] <;> omega

theorem withoutLineComments_cons_eq_self_iff (hplace : place ≠ .comment) :
    withoutLineComments place (c :: s) = c :: s ↔
      ¬ Opens place (c :: s) ∧ withoutLineComments (placeAfter c) s = s := by
  by_cases hopen : Opens place (c :: s)
  · obtain ⟨rfl, rest, hrest⟩ := id hopen
    refine iff_of_false (fun h => ?_) fun h => h.1 hopen
    have hlength := length_withoutLineComments_le .comment rest
    rw [← hrest] at h
    have hshort : withoutLineComments .comment rest = '/' :: '/' :: rest := h
    rw [hshort, List.length_cons, List.length_cons] at hlength
    omega
  · rw [withoutLineComments_cons hplace hopen, List.cons.injEq]
    exact ⟨fun h => ⟨hopen, h.2⟩, fun h => ⟨rfl, h.2⟩⟩

/-- A text without comments has none behind a colon either. -/
theorem withoutLineComments_eq_self_of_code (hplace : place ≠ .comment) (h : withoutLineComments .code s = s) :
    withoutLineComments place s = s := by
  cases s with
  | nil => cases place <;> rfl
  | cons c s =>
    obtain ⟨hopen, hs⟩ := (withoutLineComments_cons_eq_self_iff LinePlace.noConfusion).1 h
    exact (withoutLineComments_cons_eq_self_iff hplace).2 ⟨fun ho => hopen ⟨rfl, ho.2⟩, hs⟩

/-- Where nothing is a line comment, two slashes stand behind a colon. -/
theorem getLast?_of_slashes (hplace : place ≠ .comment) (h : withoutLineComments place s = s) {before rest : List Char}
    (hs : s = before ++ '/' :: '/' :: rest) :
    before = [] ∧ place = .afterColon ∨ before.getLast? = some ':' := by
  induction before generalizing s place with
  | nil =>
    subst hs
    have hopen := ((withoutLineComments_cons_eq_self_iff hplace).1 h).1
    cases place with
    | code => exact absurd ⟨rfl, rest, rfl⟩ hopen
    | afterColon => exact .inl ⟨rfl, rfl⟩
    | comment => exact absurd rfl hplace
  | cons c before ih =>
    subst hs
    have htail := ((withoutLineComments_cons_eq_self_iff hplace).1 h).2
    rcases ih (placeAfter_ne_comment c) htail rfl with ⟨rfl, hafter⟩ | hlast
    · refine .inr ?_
      unfold placeAfter at hafter
      split at hafter
      · next hc => rw [hc, List.getLast?_singleton]
      · cases hafter
    · refine .inr ?_
      rw [List.getLast?_cons, hlast]
      rfl

theorem head?_withoutLineComments_comment (h : (withoutLineComments .comment s).head? = some d) : d = '\n' := by
  induction s with
  | nil => cases h
  | cons c s ih =>
    rw [withoutLineComments] at h
    split at h
    · next hc => exact (Option.some.inj h).symm.trans hc
    · exact ih h

theorem head?_withoutLineComments (hplace : place ≠ .comment) (h : (withoutLineComments place s).head? = some d) :
    d = '\n' ∨ s.head? = some d := by
  cases s with
  | nil => cases place <;> cases h
  | cons c s =>
    by_cases hopen : Opens place (c :: s)
    · obtain ⟨rfl, rest, hrest⟩ := hopen
      rw [← hrest] at h
      exact .inl (head?_withoutLineComments_comment h)
    · rw [withoutLineComments_cons hplace hopen] at h
      exact .inr h

/-- Where a text goes on that was read up to here. -/
def LinePlace.resumed : LinePlace → LinePlace
  | .comment => .code
  | place => place

/-- A text without its line comments has none. -/
theorem withoutLineComments_idem (place : LinePlace) (s : List Char) :
    withoutLineComments place.resumed (withoutLineComments place s) = withoutLineComments place s := by
  fun_induction withoutLineComments place s with
  | case1 place => cases place <;> rfl
  | case2 rest ih =>
    refine (withoutLineComments_cons_eq_self_iff LinePlace.noConfusion).2 ⟨?_, ih⟩
    rintro ⟨_, hslashes⟩
    exact absurd (List.cons_prefix_cons.1 hslashes).1 (by decide)
  | case3 c rest hc ih => exact ih
  | case4 rest ih => exact ih
  | case5 place c rest hplace hslashes ih =>
    have hresumed : place.resumed = place := by
      cases place with
      | comment => exact absurd rfl hplace
      | _ => rfl
    have hafter : (placeAfter c).resumed = placeAfter c := by
      unfold placeAfter
      split <;> rfl
    rw [hresumed]
    refine (withoutLineComments_cons_eq_self_iff hplace).2 ⟨?_, hafter ▸ ih⟩
    rintro ⟨rfl, hopen⟩
    obtain ⟨rfl, rest', htail⟩ := List.cons_prefix_cons.1 hopen
    have hhead : (withoutLineComments .code rest).head? = some '/' := by
      change _ = withoutLineComments .code rest at htail
      rw [← htail]
      rfl
    rcases head?_withoutLineComments LinePlace.noConfusion hhead with h | h
    · cases h
    · obtain ⟨rest'', rfl⟩ := List.head?_eq_some_iff.1 h
      exact hslashes rest'' rfl rfl rfl

theorem thinned_withoutLineComments (place : LinePlace) (s : List Char) :
    Thinned s (withoutLineComments place s) := by
  -- a kept character keeps the one behind it, since what a comment leaves begins with a line end
  have hkeep : ∀ {place : LinePlace} {rest : List Char}, place ≠ .comment → ∀ d,
      (withoutLineComments place rest).head? = some d → isBlank d = false → rest.head? = some d := by
    intro place rest hplace d hd hblank
    rcases head?_withoutLineComments hplace hd with rfl | h
    · exact absurd hblank (by decide)
    · exact h
  fun_induction withoutLineComments place s with
  | case1 => exact .nil
  | case2 rest ih => exact ih.keep _ (hkeep LinePlace.noConfusion)
  | case3 c rest hc ih => exact ih.drop c
  | case4 rest ih => exact (ih.drop _).drop _
  | case5 place c rest hplace hslashes ih => exact ih.keep c (hkeep (placeAfter_ne_comment c))

/-! ## Blanks -/

theorem pieces_blank {b : Char} (hb : isBlank b = true) (s : List Char) : pieces (b :: s) = pieces s := by
  rw [pieces, Text.cut, if_pos hb, List.filter_cons_of_neg (by simp)]
  rfl

/-- A character before another one of its word. -/
theorem pieces_inside (hc : isBlank c = false) (hd : isBlank d = false) (s : List Char) :
    pieces (c :: d :: s) = (pieces (d :: s)).modifyHead (c :: ·) := by
  obtain ⟨piece, others, hcut⟩ := List.exists_cons_of_ne_nil (Text.cut_ne_nil isBlank s)
  simp [pieces, Text.cut, hc, hd, hcut]

/-- The last character of a word. -/
theorem pieces_last (hc : isBlank c = false) (hs : ∀ d, s.head? = some d → isBlank d = true) :
    pieces (c :: s) = [c] :: pieces s := by
  cases s with
  | nil => simp [pieces, Text.cut, hc]
  | cons b s => simp [pieces, Text.cut, hc, hs b rfl]

/-- A text and its words with single spaces between them, character by character. -/
inductive Collapses : List Char → List Char → Prop
  | nil : Collapses [] []
  | blank {b : Char} {s t : List Char} (hb : isBlank b = true) (h : Collapses s t) : Collapses (b :: s) t
  | inside {c d : Char} {s t : List Char} (hc : isBlank c = false) (hd : isBlank d = false)
      (h : Collapses (d :: s) (d :: t)) : Collapses (c :: d :: s) (c :: d :: t)
  | last {c : Char} {s : List Char} (hc : isBlank c = false) (h : Collapses s []) : Collapses (c :: s) [c]
  | between {c b d : Char} {s t : List Char} (hc : isBlank c = false) (hb : isBlank b = true)
      (h : Collapses s (d :: t)) : Collapses (c :: b :: s) (c :: ' ' :: d :: t)

theorem Collapses.of_blank {b : Char} (hb : isBlank b = true) (h : Collapses (b :: s) t) : Collapses s t := by
  cases h with
  | blank _ h => exact h
  | inside hc _ _ => exact absurd hb (by simp [hc])
  | last hc _ => exact absurd hb (by simp [hc])
  | between hc _ _ => exact absurd hb (by simp [hc])

theorem intercalate_cons_head (separator : List Char) (c : Char) (word : List Char) (words : List (List Char)) :
    separator.intercalate ((c :: word) :: words) = c :: separator.intercalate (word :: words) := by
  cases words <;> simp

theorem collapse_inside (hc : isBlank c = false) (hd : isBlank d = false) (s : List Char) :
    ∃ t, collapse (d :: s) = d :: t ∧ collapse (c :: d :: s) = c :: d :: t := by
  obtain ⟨piece, others, hcut⟩ := List.exists_cons_of_ne_nil (Text.cut_ne_nil isBlank s)
  have hpieces : ∃ word words, pieces (d :: s) = (d :: word) :: words := by simp [pieces, Text.cut, hd, hcut]
  obtain ⟨word, words, hwords⟩ := hpieces
  rw [collapse, collapse, pieces_inside hc hd, hwords, List.modifyHead_cons]
  exact ⟨_, intercalate_cons_head _ _ _ _, by rw [intercalate_cons_head, intercalate_cons_head]⟩

theorem collapse_last (hc : isBlank c = false) (hs : ∀ d, s.head? = some d → isBlank d = true) :
    collapse s = [] ∧ collapse (c :: s) = [c] ∨ ∃ d t, collapse s = d :: t ∧ collapse (c :: s) = c :: ' ' :: d :: t := by
  have hwords : ∀ word ∈ pieces s, word ≠ [] := by simp [pieces]
  rw [collapse, collapse, pieces_last hc hs]
  cases hpieces : pieces s with
  | nil => exact .inl ⟨rfl, by simp⟩
  | cons word words =>
    obtain ⟨d, word, rfl⟩ := List.exists_cons_of_ne_nil (hwords word (by simp [hpieces]))
    refine .inr ⟨d, List.intercalate [' '] (word :: words), intercalate_cons_head _ _ _ _, ?_⟩
    rw [List.intercalate_cons_cons, intercalate_cons_head]
    rfl

theorem collapses_collapse (s : List Char) : Collapses s (collapse s) := by
  induction s with
  | nil => exact .nil
  | cons c s ih =>
    cases hc : isBlank c with
    | true =>
      rw [collapse, pieces_blank hc]
      exact ih.blank hc
    | false =>
      by_cases hs : ∀ d, s.head? = some d → isBlank d = true
      · rcases collapse_last hc hs with ⟨hnil, hcollapse⟩ | ⟨d, t, hcons, hcollapse⟩
        · rw [hnil] at ih
          rw [hcollapse]
          exact ih.last hc
        · rw [hcons] at ih
          rw [hcollapse]
          cases s with
          | nil => cases ih
          | cons b s => exact .between hc (hs b rfl) (ih.of_blank (hs b rfl))
      · push Not at hs
        obtain ⟨d, hd, hblank⟩ := hs
        obtain ⟨s, rfl⟩ := List.head?_eq_some_iff.1 hd
        have hd' : isBlank d = false := by simpa using hblank
        obtain ⟨t, hcons, hcollapse⟩ := collapse_inside hc hd' s
        rw [hcons] at ih
        rw [hcollapse]
        exact ih.inside hc hd'

theorem Collapses.thinned (h : Collapses s t) : Thinned s t := by
  induction h with
  | nil => exact .nil
  | blank _ _ ih => exact ih.drop _
  | inside _ _ _ ih => exact ih.keep _ fun e he _ => he
  | last _ _ ih => exact ih.keep _ fun e he _ => by cases he
  | @between c b d s t _ _ _ ih =>
    refine ((Thinned.blank (by decide) ih).drop b).keep c fun e he hblank => ?_
    obtain rfl := Option.some.inj he
    exact absurd hblank (by decide)

theorem Collapses.pieces_eq (h : Collapses s t) : pieces t = pieces s := by
  induction h with
  | nil => rfl
  | blank hb _ ih => rw [pieces_blank hb, ih]
  | inside hc hd _ ih => rw [pieces_inside hc hd, pieces_inside hc hd, ih]
  | @last c s hc h ih =>
    have hs : ∀ d, s.head? = some d → isBlank d = true := by
      rintro d hd
      cases h with
      | nil => cases hd
      | blank hb _ =>
        obtain rfl := Option.some.inj hd
        exact hb
    rw [pieces_last hc hs, ← ih, pieces_last hc (by simp)]
  | @between c b d s t hc hb _ ih =>
    have hspace : isBlank ' ' = true := by decide
    rw [pieces_last hc (by simp [hspace]), pieces_last hc (by simp [hb]), pieces_blank hspace, pieces_blank hb, ih]

/-- Single spaces bring no slashes together. -/
theorem Collapses.withoutLineComments_eq (h : Collapses s t) (hplace : place ≠ .comment)
    (hs : withoutLineComments place s = s) : withoutLineComments place t = t := by
  induction h generalizing place with
  | nil => exact hs
  | blank hb _ ih =>
    have hrest := ((withoutLineComments_cons_eq_self_iff hplace).1 hs).2
    rw [placeAfter_of_isBlank hb] at hrest
    exact withoutLineComments_eq_self_of_code hplace (ih LinePlace.noConfusion hrest)
  | inside _ _ _ ih =>
    obtain ⟨hopen, hrest⟩ := (withoutLineComments_cons_eq_self_iff hplace).1 hs
    refine (withoutLineComments_cons_eq_self_iff hplace).2 ⟨?_, ih (placeAfter_ne_comment _) hrest⟩
    simpa [Opens, List.cons_prefix_cons] using hopen
  | last _ _ _ =>
    refine (withoutLineComments_cons_eq_self_iff hplace).2 ⟨by simp [Opens, List.cons_prefix_cons], ?_⟩
    exact withoutLineComments_eq_self_of_code (placeAfter_ne_comment _) rfl
  | between _ hb _ ih =>
    have hbehind := ((withoutLineComments_cons_eq_self_iff hplace).1 hs).2
    have hrest := ((withoutLineComments_cons_eq_self_iff (placeAfter_ne_comment _)).1 hbehind).2
    rw [placeAfter_of_isBlank hb] at hrest
    refine (withoutLineComments_cons_eq_self_iff hplace).2 ⟨by simp [Opens, List.cons_prefix_cons], ?_⟩
    refine (withoutLineComments_cons_eq_self_iff (placeAfter_ne_comment _)).2
      ⟨by simp [Opens, List.cons_prefix_cons], ?_⟩
    exact ih LinePlace.noConfusion hrest

/-! ## Normal forms -/

theorem toList_normalize (source : String) :
    (normalize source).toList = collapse (withoutLineComments .code (withoutBlocks 0 source.toList)) := by
  rw [normalize, String.toList_ofList]

/-- The normal form of a text has no comments: no block comment ends in it, two slashes stand behind a colon only, and
taking the normal form again changes nothing. -/
theorem normalize_idempotent (source : String) :
    (∀ before body rest, (normalize source).toList ≠ before ++ '/' :: '*' :: (body ++ '*' :: '/' :: rest)) ∧
      (∀ before rest, (normalize source).toList = before ++ '/' :: '/' :: rest → before.getLast? = some ':') ∧
      normalize (normalize source) = normalize source := by
  let bare := withoutLineComments .code (withoutBlocks 0 source.toList)
  have hcollapses : Collapses bare (normalize source).toList := toList_normalize source ▸ collapses_collapse bare
  have hblocks : BlockFree (normalize source).toList :=
    ((blockFree_withoutBlocks 0 _).thinned (thinned_withoutLineComments .code _)).thinned hcollapses.thinned
  have hlines : withoutLineComments .code (normalize source).toList = (normalize source).toList :=
    hcollapses.withoutLineComments_eq LinePlace.noConfusion (withoutLineComments_idem .code _)
  refine ⟨fun before body rest h => ?_, fun before rest h => ?_, ?_⟩
  · exact hblocks (body ++ '*' :: '/' :: rest) ⟨before, h.symm⟩ ⟨body, rest, by simp⟩
  · rcases getLast?_of_slashes LinePlace.noConfusion hlines h with ⟨_, hplace⟩ | hlast
    · cases hplace
    · exact hlast
  · have hpieces : pieces (normalize source).toList = pieces bare := hcollapses.pieces_eq
    rw [normalize, withoutBlocks_of_blockFree hblocks, hlines, collapse, hpieces]
    rfl

theorem normalize_idempotent_url :
    let source := "x/* a *//b  ://c /// d\n e */ /*f"
    normalize source = "x /b ://c e */ /*f" ∧ "x /b :".toList.getLast? = some ':' ∧
      normalize "x /b ://c e */ /*f" = "x /b ://c e */ /*f" := by
  intro source
  have hnormal : normalize source = "x /b ://c e */ /*f" := by decide +kernel
  obtain ⟨_, hslashes, hagain⟩ := normalize_idempotent source
  rw [hnormal] at hslashes hagain
  exact ⟨hnormal, hslashes "x /b :".toList "c e */ /*f".toList rfl, hagain⟩

end ClientGen.Comparison
