import ClientGen.Proofs.Text.Search
import ClientGen.Proofs.Text.Words

/-!
# One name in two fashions

A name in Pascal case and in camel case differs only in its first letter. Both cut the name into words anew, and words
that were put together before are not always found again: `plotXY` becomes `PlotXy`. They are found again where every
capital follows a lowercase letter, or a capital if a lowercase letter comes behind it.
-/

namespace ClientGen.Text

/-! ## The first letter -/

/-- The first letter or digit of a name. -/
def initial? (s : String) : Option Char := s.toList.find? isAlphanumeric

/-- The two cases of a letter are single letters that lead back to each other, wherever the letter stands in a word. It
is so for letters without case too; not so for `ß` with two capitals, nor for `ı`, which has the capital of `i`. -/
def TwoCased (c : Char) : Prop :=
  c ≠ 'Σ' ∧ ∃ l u, lower c = [l] ∧ upper c = [u] ∧ lower u = [l] ∧ upper l = [u]

theorem toNat_lt_of_isAlphanum {c : Char} (h : c.isAlphanum) : c.toNat < 128 := by
  delta Char.isAlphanum Char.isAlpha Char.isUpper Char.isLower Char.isDigit at h
  simp only [Bool.or_eq_true, Bool.and_eq_true, decide_eq_true_eq, UInt32.le_iff_toNat_le, ge_iff_le] at h
  rcases h with (⟨_, h⟩ | ⟨_, h⟩) | ⟨_, h⟩
  all_goals exact Nat.lt_of_le_of_lt h (by decide)

/-- What holds of all ASCII letters and digits by inspection. -/
theorem of_isAlphanum {p : Char → Prop} [DecidablePred p]
    (hall : ∀ n : Fin 128, (Char.ofNat n).isAlphanum → p (Char.ofNat n)) {c : Char} (h : c.isAlphanum) : p c := by
  have hc := hall ⟨c.toNat, toNat_lt_of_isAlphanum h⟩
  rw [Char.ofNat_toNat] at hc
  exact hc h

/-- What is used of the cases of an ASCII letter or digit. -/
def AsciiCases (c : Char) : Prop :=
  (c ≠ 'Σ' ∧ lower c.toUpper = [c.toLower] ∧ upper c.toLower = [c.toUpper]) ∧
    (c.toLower = c ↔ isUpper c = false) ∧ (c.toUpper = c ↔ isLower c = false) ∧
    (isUpper c = true → isLower c = false) ∧ (c.isAlpha = true → c.toUpper.isUpper = true)

instance : DecidablePred AsciiCases := fun _ => inferInstanceAs (Decidable (_ ∧ _))

theorem asciiCases_of_isAlphanum {c : Char} (h : c.isAlphanum) : AsciiCases c :=
  of_isAlphanum (by decide +kernel) h

theorem lower_of_isAlphanum {c : Char} (h : c.isAlphanum) : lower c = [c.toLower] := by
  rw [lower, if_pos (toNat_lt_of_isAlphanum h)]

theorem upper_of_isAlphanum {c : Char} (h : c.isAlphanum) : upper c = [c.toUpper] := by
  rw [upper, if_pos (toNat_lt_of_isAlphanum h)]

theorem toLower_eq_self_iff {c : Char} (h : c.isAlphanum) : c.toLower = c ↔ isUpper c = false :=
  (asciiCases_of_isAlphanum h).2.1

theorem toUpper_eq_self_iff {c : Char} (h : c.isAlphanum) : c.toUpper = c ↔ isLower c = false :=
  (asciiCases_of_isAlphanum h).2.2.1

theorem isLower_eq_false_of_isUpper {c : Char} (h : c.isAlphanum) : isUpper c = true → isLower c = false :=
  (asciiCases_of_isAlphanum h).2.2.2.1

theorem twoCased_of_isAlphanum {c : Char} (h : c.isAlphanum) : TwoCased c := by
  obtain ⟨⟨hsigma, hlower, hupper⟩, _⟩ := asciiCases_of_isAlphanum h
  exact ⟨hsigma, _, _, lower_of_isAlphanum h, upper_of_isAlphanum h, hlower, hupper⟩

/-! ## The first word -/

/-- The first word of a run begins where the run does. -/
theorem exists_wordsOfRun_eq_cons {last : LastCase} {word run : List Char} (hrun : run ≠ [])
    (hlast : last = .upper → word ≠ []) :
    ∃ first rest, wordsOfRun last word run = first :: rest ∧ first.head? = (word.reverse ++ run).head? := by
  fun_induction wordsOfRun last word run with
  | case1 => exact absurd rfl hrun
  | case2 last word c => exact ⟨_, _, rfl, by simp⟩
  | case3 last word c d rest _ ih => exact ⟨_, _, rfl, by cases h : word.reverse <;> simp [h]⟩
  | case4 last word c d rest _ hcase ih =>
    have hword : word ≠ [] := hlast (by simp only [Bool.and_eq_true, decide_eq_true_eq] at hcase; exact hcase.1.1)
    obtain ⟨e, others, he⟩ := List.exists_cons_of_ne_nil (List.reverse_ne_nil_iff.2 hword)
    exact ⟨_, _, rfl, by simp [he]⟩
  | case5 last word c d rest _ _ ih =>
    obtain ⟨first, others, hwords, hhead⟩ := ih (List.cons_ne_nil _ _) fun _ => List.cons_ne_nil _ _
    exact ⟨first, others, hwords, by rw [hhead, List.reverse_cons, List.append_assoc, List.singleton_append]⟩

/-- A name has words exactly if it has a letter or digit, and the first word begins with the first of those. -/
theorem head?_words (s : List Char) :
    words s = [] ∧ s.find? isAlphanumeric = none ∨
      ∃ c w rest, words s = (c :: w) :: rest ∧ s.find? isAlphanumeric = some c := by
  induction s with
  | nil => exact .inl ⟨rfl, rfl⟩
  | cons c s ih =>
    cases hc : isAlphanumeric c with
    | false =>
      have hwords : words (c :: s) = words s := by simp [words, cut, hc, wordsOfRun]
      rw [hwords, List.find?_cons_of_neg (by simp [hc])]
      exact ih
    | true =>
      right
      obtain ⟨piece, pieces, hcut⟩ := List.exists_cons_of_ne_nil (cut_ne_nil (fun c => !isAlphanumeric c) s)
      have hruns : cut (fun c => !isAlphanumeric c) (c :: s) = (c :: piece) :: pieces := by simp [cut, hc, hcut]
      obtain ⟨first, rest, hfirst, hhead⟩ :=
        @exists_wordsOfRun_eq_cons .none [] (c :: piece) (List.cons_ne_nil _ _) fun h => by cases h
      obtain ⟨w, rfl⟩ : ∃ w, first = c :: w := by
        cases first with
        | nil => simp at hhead
        | cons d w =>
          obtain rfl : d = c := by simpa using hhead
          exact ⟨w, rfl⟩
      refine ⟨c, w, rest ++ pieces.flatMap (wordsOfRun .none []), ?_, List.find?_cons_of_pos hc⟩
      rw [words, hruns, List.flatMap_cons, hfirst, List.cons_append]

theorem lowerWord_cons {c : Char} {w : List Char} (h : ¬ (c = 'Σ' ∧ w = [])) :
    lowerWord (c :: w) = lower c ++ lowerWord w := by
  rw [lowerWord.eq_def]
  split
  · next heq => cases heq
  · next heq => exact absurd (List.cons.inj heq) h
  · next heq =>
    obtain ⟨rfl, rfl⟩ := List.cons.inj heq
    rfl

/-- The words of a name put together, the first in a fashion of its own. -/
def together (f : List Char → List Char) : List (List Char) → List Char
  | [] => []
  | w :: rest => f w ++ rest.flatMap capitalWord

theorem pascal_eq (s : String) : pascal s = String.ofList (together capitalWord (words s.toList)) := by
  rw [pascal]
  cases words s.toList <;> rfl

theorem camel_eq (s : String) : camel s = String.ofList (together lowerWord (words s.toList)) := by
  unfold camel
  cases words s.toList <;> rfl

/-- The two fashions of a name: neither has a letter, or they differ in the case of the first one. -/
theorem pascal_camel_cases {s : String} (h : ∀ c, initial? s = some c → TwoCased c) :
    pascal s = "" ∧ camel s = "" ∨ ∃ l u rest, lower u = [l] ∧ upper l = [u] ∧
      pascal s = String.ofList (u :: rest) ∧ camel s = String.ofList (l :: rest) := by
  rcases head?_words s.toList with ⟨hwords, _⟩ | ⟨c, w, rest, hwords, hinitial⟩
  · exact .inl ⟨by simp [pascal, hwords], by simp [camel, hwords]⟩
  · obtain ⟨hsigma, l, u, hlower, hupper, hul, hlu⟩ := h c hinitial
    refine .inr ⟨l, u, lowerWord w ++ rest.flatMap capitalWord, hul, hlu, ?_, ?_⟩
    · simp [pascal, hwords, capitalWord, hupper]
    · simp [camel, hwords, lowerWord_cons fun h => hsigma h.1, hlower]

/-- Two names are one in Pascal case exactly if they are one in camel case. -/
theorem pascal_eq_pascal_iff {s t : String} (hs : ∀ c, initial? s = some c → TwoCased c)
    (ht : ∀ c, initial? t = some c → TwoCased c) : pascal s = pascal t ↔ camel s = camel t := by
  rcases pascal_camel_cases hs with ⟨hp, hc⟩ | ⟨l, u, rest, hul, hlu, hp, hc⟩ <;>
    rcases pascal_camel_cases ht with ⟨hp', hc'⟩ | ⟨l', u', rest', hul', hlu', hp', hc'⟩
  · simp [hp, hc, hp', hc']
  · simp [hp, hc, hp', hc', ← String.toList_inj]
  · simp [hp, hc, hp', hc', ← String.toList_inj]
  · have hfirst : u = u' ↔ l = l' := by
      constructor
      · rintro rfl
        exact (List.cons.inj (hul.symm.trans hul')).1
      · rintro rfl
        exact (List.cons.inj (hlu.symm.trans hlu')).1
    simp [hp, hc, hp', hc', ← String.toList_inj, hfirst]

/-! ## The case of the first letter -/

theorem isUpper_eq_false_of_large {c : Char} (hc : 128 ≤ c.toNat) : (!c.isUpper) = true := by
  have hnot : ¬ c.isAlphanum := fun h => absurd (toNat_lt_of_isAlphanum h) (Nat.not_lt.2 hc)
  change ¬ (c.isUpper || c.isLower || c.isDigit) = true at hnot
  simp_all

theorem isLower_eq_false_of_large {c : Char} (hc : 128 ≤ c.toNat) : (!c.isLower) = true := by
  have hnot : ¬ c.isAlphanum := fun h => absurd (toNat_lt_of_isAlphanum h) (Nat.not_lt.2 hc)
  change ¬ (c.isUpper || c.isLower || c.isDigit) = true at hnot
  simp_all

/-- A case map leads each character to something, all of which passes a test, if its tables and its ASCII part do. -/
theorem MapPasses.spec {p : Char → Bool} {table : List (Nat × Nat × Nat × Nat)} {expansions : List (Nat × List Nat)}
    {f : Char → Char} (h : MapPasses p table expansions) (hlarge : ∀ c, 128 ≤ c.toNat → p c = true)
    (hsmall : ∀ n : Fin 128, p (f (Char.ofNat n)) = true) {c : Char} {image : List Char}
    (himage : image = if c.toNat < 128 then [f c] else match expansions.lookup c.toNat with
      | some points => points.map Char.ofNat
      | none => [((Table.shifted? table c.toNat).map Char.ofNat).getD c]) :
    image ≠ [] ∧ ∀ d ∈ image, p d = true := by
  by_cases hc : c.toNat < 128
  · have hletter := hsmall ⟨c.toNat, hc⟩
    rw [Char.ofNat_toNat] at hletter
    rw [himage, if_pos hc]
    exact ⟨List.cons_ne_nil _ _, by simpa using hletter⟩
  · rw [if_neg hc] at himage
    exact h.image hlarge (Nat.le_of_not_lt hc) himage

/-- A letter has a lowercase form, with no ASCII capital in it. -/
theorem lower_spec (c : Char) : lower c ≠ [] ∧ ∀ d ∈ lower c, (!d.isUpper) = true := by
  obtain ⟨htables, hsmall⟩ : MapPasses (fun d => !d.isUpper) lowerTable lowerExpansions ∧
      ∀ n : Fin 128, (!(Char.ofNat n).toLower.isUpper) = true := by
    decide +kernel
  exact htables.spec (fun _ => isUpper_eq_false_of_large) hsmall rfl

/-- A letter has an uppercase form, with no lowercase ASCII letter in it. -/
theorem upper_spec (c : Char) : upper c ≠ [] ∧ ∀ d ∈ upper c, (!d.isLower) = true := by
  obtain ⟨htables, hsmall⟩ : MapPasses (fun d => !d.isLower) upperTable upperExpansions ∧
      ∀ n : Fin 128, (!(Char.ofNat n).toUpper.isLower) = true := by
    decide +kernel
  exact htables.spec (fun _ => isLower_eq_false_of_large) hsmall rfl

theorem head?_append_of_spec {p : Char → Bool} {image rest : List Char} (h : image ≠ [] ∧ ∀ d ∈ image, p d = true)
    {d : Char} (hd : (image ++ rest).head? = some d) : p d = true := by
  obtain ⟨e, others, rfl⟩ := List.exists_cons_of_ne_nil h.1
  obtain rfl : e = d := by simpa using hd
  exact h.2 e List.mem_cons_self

/-- A name in camel case does not begin with an ASCII capital. -/
theorem isUpper_of_head?_camel {s : String} {d : Char} (h : (camel s).toList.head? = some d) : d.isUpper = false := by
  rcases head?_words s.toList with ⟨hwords, _⟩ | ⟨c, w, rest, hwords, _⟩
  · simp [camel, hwords] at h
  · rw [camel_eq, hwords, String.toList_ofList, together] at h
    have hletter : ∃ image tail, lowerWord (c :: w) = image ++ tail ∧
        image ≠ [] ∧ ∀ d ∈ image, (!d.isUpper) = true := by
      by_cases hsigma : c = 'Σ' ∧ w = []
      · obtain ⟨rfl, rfl⟩ := hsigma
        exact ⟨['ς'], [], rfl, List.cons_ne_nil _ _, by simp⟩
      · exact ⟨lower c, lowerWord w, lowerWord_cons hsigma, lower_spec c⟩
    obtain ⟨image, tail, himage, hspec⟩ := hletter
    rw [himage, List.append_assoc] at h
    simpa using head?_append_of_spec hspec h

/-- A name in Pascal case does not begin with a lowercase ASCII letter. -/
theorem isLower_of_head?_pascal {s : String} {d : Char} (h : (pascal s).toList.head? = some d) :
    d.isLower = false := by
  rcases head?_words s.toList with ⟨hwords, _⟩ | ⟨c, w, rest, hwords, _⟩
  · simp [pascal, hwords] at h
  · rw [pascal_eq, hwords, String.toList_ofList, together, capitalWord, List.append_assoc] at h
    simpa using head?_append_of_spec (upper_spec c) h

theorem upper_of_isAlpha {c : Char} (h : c.isAlpha) : upper c = [c.toUpper] ∧ c.toUpper.isUpper = true := by
  have halphanum : c.isAlphanum := by
    change (c.isAlpha || c.isDigit) = true
    simp [h]
  exact ⟨upper_of_isAlphanum halphanum, (asciiCases_of_isAlphanum halphanum).2.2.2.2 h⟩

/-- A name whose first letter is an ASCII letter begins with an ASCII capital in Pascal case. -/
theorem isUpper_of_head?_pascal {s : String} (hs : ∀ c, initial? s = some c → c.isAlpha = true) {d : Char}
    (h : (pascal s).toList.head? = some d) : d.isUpper = true := by
  rcases head?_words s.toList with ⟨hwords, _⟩ | ⟨c, w, rest, hwords, hc⟩
  · simp [pascal, hwords] at h
  · obtain ⟨himage, hupper⟩ := upper_of_isAlpha (hs c hc)
    rw [pascal_eq, hwords, String.toList_ofList, together, capitalWord, himage] at h
    obtain rfl : c.toUpper = d := by simpa using h
    exact hupper

/-! ## Names that are found again -/

/-- Every capital in the rest of a name begins a word: it follows a lowercase letter, or else a capital if a lowercase
letter comes behind it. What counts before it is the last letter that has a case. -/
def humped (last : LastCase) : List Char → Bool
  | [] => true
  | c :: rest =>
    (!isUpper c || last = .lower || last = .upper && rest.head?.any isLower) && humped (last.next c) rest

section Ascii

/-- A text of ASCII letters and digits. -/
def Ascii (s : List Char) : Prop := ∀ c ∈ s, c.isAlphanum

instance : DecidablePred Ascii := fun _ => decidable_of_iff _ List.all_eq_true

theorem isAlphanumeric_of_isAlphanum {c : Char} (h : c.isAlphanum) : isAlphanumeric c = true := by
  rw [isAlphanumeric, if_pos (toNat_lt_of_isAlphanum h), h]

theorem words_of_ascii {s : List Char} (h : Ascii s) : words s = wordsOfRun .none [] s := by
  have huncut : ∀ c ∈ s, (!isAlphanumeric c) = false := fun c hc => by simp [isAlphanumeric_of_isAlphanum (h c hc)]
  simp [words, cut_of_uncut huncut]

theorem lowerWord_of_ascii {w : List Char} (h : Ascii w) : lowerWord w = w.map Char.toLower := by
  induction w with
  | nil => rfl
  | cons c w ih =>
    obtain ⟨hc, hw⟩ := List.forall_mem_cons.1 h
    rw [lowerWord_cons fun h => (twoCased_of_isAlphanum hc).1 h.1, lower_of_isAlphanum hc, ih hw]
    rfl

/-- What comes behind the word that is being read is written in lowercase. -/
def Extends (f : List Char → List Char) (word : List Char) : Prop :=
  ∀ s, Ascii s → f (word.reverse ++ s) = f word.reverse ++ s.map Char.toLower

theorem Extends.cons {f : List Char → List Char} {word : List Char} {c : Char} (h : Extends f word)
    (hc : c.isAlphanum) : Extends f (c :: word) ∧ f (c :: word).reverse = f word.reverse ++ [c.toLower] := by
  have hone : f (c :: word).reverse = f word.reverse ++ [c.toLower] := by
    rw [List.reverse_cons, h [c] (by simpa [Ascii] using hc)]
    rfl
  refine ⟨fun s hs => ?_, hone⟩
  rw [hone, List.reverse_cons, List.append_assoc, List.singleton_append, h (c :: s) (List.forall_mem_cons.2 ⟨hc, hs⟩),
    List.append_assoc]
  rfl

theorem extends_lowerWord : Extends lowerWord [] := fun _ hs => lowerWord_of_ascii hs

theorem extends_capitalWord (c : Char) : Extends capitalWord [c] := by
  intro s hs
  simp [capitalWord, lowerWord_of_ascii hs, lowerWord]

/-- Whatever words are cut off later, the word that is being read is written first. -/
theorem exists_together_eq {f : List Char → List Char} {last : LastCase} {word run : List Char} (hf : Extends f word)
    (hrun : Ascii run) (hne : run ≠ []) : ∃ s, together f (wordsOfRun last word run) = f word.reverse ++ s := by
  fun_induction wordsOfRun last word run with
  | case1 => exact absurd rfl hne
  | case2 last word c =>
    exact ⟨_, by rw [together, (hf.cons (hrun c List.mem_cons_self)).2, List.append_assoc]⟩
  | case3 last word c d rest =>
    exact ⟨_, by rw [together, (hf.cons (hrun c List.mem_cons_self)).2, List.append_assoc]⟩
  | case4 last word c d rest => exact ⟨_, rfl⟩
  | case5 last word c d rest _ _ ih =>
    obtain ⟨hc, hrest⟩ := List.forall_mem_cons.1 hrun
    obtain ⟨s, hs⟩ := ih (hf.cons hc).1 hrest (List.cons_ne_nil _ _)
    exact ⟨_, by rw [hs, (hf.cons hc).2, List.append_assoc]⟩

theorem capitalWord_of_isUpper {c : Char} (hc : c.isAlphanum) (h : isUpper c = true) : capitalWord [c] = [c] := by
  rw [capitalWord, upper_of_isAlphanum hc, (toUpper_eq_self_iff hc).2 (isLower_eq_false_of_isUpper hc h)]
  rfl

theorem next_of_isUpper {c : Char} (hc : c.isAlphanum) (h : isUpper c = true) (last : LastCase) :
    last.next c = .upper := by
  simp [LastCase.next, h, isLower_eq_false_of_isUpper hc h]

theorem wordsOfRun_none_cons {c d : Char} {rest : List Char} (hc : c.isAlphanum) (h : isUpper c = true) :
    wordsOfRun .none [] (c :: d :: rest) = wordsOfRun .upper [c] (d :: rest) := by
  rw [wordsOfRun, next_of_isUpper hc h]
  simp

/-- Two texts that begin alike and go on with a letter each. -/
theorem append_append_cons_inj {p s t : List Char} {c d : Char} : p ++ c :: s = p ++ d :: t ↔ c = d ∧ s = t := by
  simp

theorem humped_cons_of_not_isUpper {c : Char} (h : isUpper c = false) (last : LastCase) (rest : List Char) :
    humped last (c :: rest) = humped (last.next c) rest := by
  simp [humped, h]

theorem humped_lower_cons (c : Char) (rest : List Char) :
    humped .lower (c :: rest) = humped (LastCase.lower.next c) rest := by
  simp [humped]

theorem isUpper_eq_false_of_isLower {c : Char} (hc : c.isAlphanum) (h : isLower c = true) : isUpper c = false := by
  by_contra hupper
  rw [isLower_eq_false_of_isUpper hc (by simpa using hupper)] at h
  cases h

theorem humped_cons_of_isLower {c : Char} (hc : c.isAlphanum) (h : isLower c = true) (last : LastCase)
    (rest : List Char) : humped last (c :: rest) = humped .lower rest := by
  rw [humped_cons_of_not_isUpper (isUpper_eq_false_of_isLower hc h), LastCase.next, if_pos h]

theorem flatMap_capitalWord (ws : List (List Char)) : ws.flatMap capitalWord = together capitalWord ws := by
  cases ws <;> rfl

/-- A capital that no word begins with. -/
theorem humped_eq_false {c d : Char} {rest : List Char} {last : LastCase} (hupper : isUpper c = true)
    (hlast : last ≠ .lower) (hbehind : last = .upper → isLower d = false) : humped last (c :: d :: rest) = false := by
  cases last with
  | lower => exact absurd rfl hlast
  | none => simp [humped, hupper]
  | upper => simp [humped, hupper, hbehind rfl]

theorem together_singleton_iff {f : List Char → List Char} {last : LastCase} {word : List Char} {c : Char}
    (hf : Extends f word) (hc : c.isAlphanum) (hlast : last = .lower → isUpper c = false) :
    together f (wordsOfRun last word [c]) = f word.reverse ++ [c] ↔ humped last [c] = true := by
  rw [wordsOfRun, together, List.flatMap_nil, List.append_nil, (hf.cons hc).2, List.append_cancel_left_eq,
    List.cons.injEq, toLower_eq_self_iff hc]
  cases hupper : isUpper c with
  | false => simp [humped, hupper]
  | true =>
    have hnot : last ≠ .lower := fun h => by simpa [hupper] using hlast h
    simp [humped, hupper, hnot]

/-- A word that begins with a capital, as soon as this holds of what comes behind the capital. -/
theorem together_capital_iff {d : Char} {rest : List Char} (hd : d.isAlphanum) (hupper : isUpper d = true)
    (hrest : rest ≠ [] →
      (together capitalWord (wordsOfRun .upper [d] rest) = [d] ++ rest ↔ humped .upper rest = true)) :
    together capitalWord (wordsOfRun .none [] (d :: rest)) = d :: rest ↔ humped .upper rest = true := by
  cases rest with
  | nil => simp [wordsOfRun, together, capitalWord_of_isUpper hd hupper, humped]
  | cons e rest =>
    rw [wordsOfRun_none_cons hd hupper]
    exact hrest (List.cons_ne_nil _ _)

/-- A run keeps its letters exactly if each capital in it begins a word. -/
theorem together_eq_iff {f : List Char → List Char} {last : LastCase} {word run : List Char} (hf : Extends f word)
    (hrun : Ascii run) (hne : run ≠ []) (hlast : last = .lower → run.head?.any isUpper = false) :
    together f (wordsOfRun last word run) = f word.reverse ++ run ↔ humped last run = true := by
  -- by length, since a capital that begins a word is passed over together with the letter before or behind it
  induction hlen : run.length using Nat.strongRecOn generalizing f last word run with
  | _ n ih =>
  obtain ⟨c, rest, rfl⟩ := List.exists_cons_of_ne_nil hne
  obtain ⟨hc, hrest⟩ := List.forall_mem_cons.1 hrun
  obtain ⟨hword, hstep⟩ := hf.cons hc
  cases rest with
  | nil => exact together_singleton_iff hf hc hlast
  | cons d rest =>
    obtain ⟨hd, hrest'⟩ := List.forall_mem_cons.1 hrest
    by_cases hbefore : (last.next c = .lower && isUpper d) = true
    · -- a word ends behind `c`
      obtain ⟨hnext, hupper⟩ : last.next c = .lower ∧ isUpper d = true := by simpa using hbefore
      have hlower : isUpper c = false := by
        by_contra h
        rw [next_of_isUpper hc (by simpa using h)] at hnext
        cases hnext
      have hrec := together_capital_iff hd hupper fun hne' => by
        have hshort := ih rest.length (by simp only [← hlen, List.length_cons]; omega) (extends_capitalWord d) hrest' hne'
          (fun h : LastCase.upper = .lower => by cases h) rfl
        rwa [List.reverse_singleton, capitalWord_of_isUpper hd hupper] at hshort
      rw [wordsOfRun, if_pos hbefore, together, flatMap_capitalWord, hstep, (toLower_eq_self_iff hc).2 hlower,
        List.append_assoc, List.append_cancel_left_eq, List.singleton_append, List.cons.injEq,
        humped_cons_of_not_isUpper hlower, hnext, humped_lower_cons, next_of_isUpper hd hupper, ← hrec]
      simp
    by_cases hat : (last = .upper && isUpper c && isLower d) = true
    · -- a word begins at `c`
      obtain ⟨⟨rfl, hupper⟩, hlower⟩ : (last = .upper ∧ isUpper c = true) ∧ isLower d = true := by simpa using hat
      have hrec := ih _ (by simp [← hlen]) (extends_capitalWord c) hrest (List.cons_ne_nil _ _)
        (fun h : LastCase.none = .lower => by cases h) rfl
      rw [List.reverse_singleton, capitalWord_of_isUpper hc hupper, List.singleton_append,
        humped_cons_of_isLower hd hlower] at hrec
      have hhumped : humped .upper (c :: d :: rest) = humped .lower rest := by
        rw [humped, next_of_isUpper hc hupper, humped_cons_of_isLower hd hlower]
        simp [hlower]
      rw [wordsOfRun, if_neg hbefore, if_pos hat, together, flatMap_capitalWord, List.append_cancel_left_eq, hrec,
        hhumped]
    · rw [wordsOfRun, if_neg hbefore, if_neg hat]
      have hnext : last.next c = .lower → (d :: rest).head?.any isUpper = false := by
        intro h
        simpa [h] using hbefore
      have hrec := ih _ (by simp [← hlen]) hword hrest (List.cons_ne_nil _ _) hnext rfl
      cases hupper : isUpper c with
      | false =>
        rw [humped_cons_of_not_isUpper hupper, ← hrec, hstep, (toLower_eq_self_iff hc).2 hupper, List.append_assoc]
        rfl
      | true =>
        have hnot : humped last (c :: d :: rest) = false :=
          humped_eq_false hupper (fun h => by simpa [hupper] using hlast h) fun h => by simpa [h, hupper] using hat
        obtain ⟨s, hs⟩ := @exists_together_eq f (last.next c) (c :: word) (d :: rest) hword hrest (List.cons_ne_nil _ _)
        rw [hs, hstep, hnot, List.append_assoc, List.singleton_append, append_append_cons_inj, toLower_eq_self_iff hc,
          hupper]
        simp

/-- A name in camel case stays as it is exactly if each capital in it begins a word. -/
theorem camel_eq_self_iff {s : String} (hs : Ascii s.toList) : camel s = s ↔ humped .none s.toList = true := by
  rw [camel_eq, words_of_ascii hs, ← String.toList_inj, String.toList_ofList]
  by_cases hne : s.toList = []
  · simp [hne, wordsOfRun, together, humped]
  · exact together_eq_iff extends_lowerWord hs hne fun h => by cases h

/-- A name that begins with a capital stays as it is in Pascal case exactly if each further capital begins a word. -/
theorem pascal_eq_self_iff {s : String} {c : Char} {rest : List Char} (hs : Ascii s.toList)
    (hcons : s.toList = c :: rest) (hc : isUpper c = true) : pascal s = s ↔ humped .upper rest = true := by
  rw [hcons] at hs
  obtain ⟨halnum, hrest⟩ := List.forall_mem_cons.1 hs
  rw [pascal_eq, ← String.toList_inj, String.toList_ofList, hcons, words_of_ascii hs]
  cases rest with
  | nil => simp [wordsOfRun, together, capitalWord_of_isUpper halnum hc, humped]
  | cons d rest =>
    rw [wordsOfRun_none_cons halnum hc]
    have hkeeps := @together_eq_iff capitalWord .upper [c] (d :: rest) (extends_capitalWord c) hrest
      (List.cons_ne_nil _ _) fun h => by cases h
    rwa [List.reverse_singleton, capitalWord_of_isUpper halnum hc] at hkeeps

end Ascii

end ClientGen.Text
