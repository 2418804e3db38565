import ClientGen.Text.Words
import Mathlib.Data.List.Basic

/-!
# What names are made of

A name that is put together from words has no marks in it: its characters are ASCII letters and digits, or lie beyond
ASCII, where they are no separators of lines. So no separator of paths and no comment can come out of a title or out of
the name of an operation.
-/

namespace ClientGen.Text

/-- An ASCII letter or digit, or any character beyond ASCII. -/
def isNameChar (c : Char) : Bool := c.isAlphanum || 128 ≤ c.toNat

theorem isNameChar_of_isAlphanumeric {c : Char} (h : isAlphanumeric c) : isNameChar c := by
  unfold isAlphanumeric at h
  unfold isNameChar
  split at h
  · simp [h]
  · next hlarge => simp [Nat.le_of_not_lt hlarge]

/-! ## Case maps -/

/-- Every character in the image of a stride of code points lies beyond ASCII, or else the image is one ASCII character
and passes a test. -/
def imagePasses (p : Char → Bool) : Nat × Nat × Nat × Nat → Bool
  | (first, last, _, image) =>
    (128 ≤ image && image + (last - first) < 0xD800) ||
      (0xE000 ≤ image && image + (last - first) < 0x110000) ||
      (first == last && p (Char.ofNat image))

/-- What the tables of a case map lead to passes a test, and no character is led to nothing. -/
structure MapPasses (p : Char → Bool) (table : List (Nat × Nat × Nat × Nat)) (expansions : List (Nat × List Nat)) :
    Prop where
  table : table.all (imagePasses p) = true
  expansions : (expansions.all fun e => !e.2.isEmpty && e.2.all fun n => p (Char.ofNat n)) = true

instance (p : Char → Bool) (table : List (Nat × Nat × Nat × Nat)) (expansions : List (Nat × List Nat)) :
    Decidable (MapPasses p table expansions) :=
  decidable_of_iff (table.all (imagePasses p) = true ∧
      (expansions.all fun e => !e.2.isEmpty && e.2.all fun n => p (Char.ofNat n)) = true)
    ⟨fun h => ⟨h.1, h.2⟩, fun h => ⟨h.table, h.expansions⟩⟩

theorem toNat_ofNat {n : Nat} (h : n.isValidChar) : (Char.ofNat n).toNat = n := by
  rw [Char.ofNat, dif_pos h]
  rfl

section CaseMap

variable {p : Char → Bool} {table : List (Nat × Nat × Nat × Nat)} {expansions : List (Nat × List Nat)}

theorem passes_shifted (hlarge : ∀ c, 128 ≤ c.toNat → p c = true) (htable : table.all (imagePasses p) = true)
    {point n : Nat} (h : Table.shifted? table point = some n) : p (Char.ofNat n) = true := by
  obtain ⟨⟨first, last, step, image⟩, hfind, rfl⟩ := Option.map_eq_some_iff.1 h
  have hpasses := List.all_eq_true.1 htable _ (List.mem_of_find?_eq_some hfind)
  have hstride := List.find?_some hfind
  simp only [Table.onStride, Bool.and_eq_true, decide_eq_true_eq] at hstride
  simp only [imagePasses, Bool.or_eq_true, Bool.and_eq_true, decide_eq_true_eq, beq_iff_eq] at hpasses
  rcases hpasses with (⟨hlow, hhigh⟩ | ⟨hlow, hhigh⟩) | ⟨hone, hletter⟩
  · have hvalid : (image + (point - first)).isValidChar := Or.inl (by omega)
    refine hlarge _ ?_
    rw [toNat_ofNat hvalid]
    omega
  · have hvalid : (image + (point - first)).isValidChar := Or.inr (by omega)
    refine hlarge _ ?_
    rw [toNat_ofNat hvalid]
    omega
  · have hpoint : image + (point - first) = image := by omega
    change p (Char.ofNat (image + (point - first))) = true
    rw [hpoint, hletter]

/-- A case map that is given by tables leads a character beyond ASCII to something, all of which passes the test of the
tables. -/
theorem MapPasses.image (h : MapPasses p table expansions) (hlarge : ∀ c, 128 ≤ c.toNat → p c = true) {c : Char}
    (hc : 128 ≤ c.toNat) {image : List Char}
    (himage : image = match expansions.lookup c.toNat with
      | some points => points.map Char.ofNat
      | none => [((Table.shifted? table c.toNat).map Char.ofNat).getD c]) :
    image ≠ [] ∧ ∀ d ∈ image, p d = true := by
  split at himage
  · next points hlookup =>
    have hmem : (c.toNat, points) ∈ expansions := by
      obtain ⟨before, after, hsplit, _⟩ := List.lookup_eq_some_iff.1 hlookup
      simp [hsplit]
    have hpoints := List.all_eq_true.1 h.expansions _ hmem
    rw [Bool.and_eq_true, List.all_eq_true] at hpoints
    rw [himage]
    exact ⟨by simpa using hpoints.1, List.forall_mem_map.2 hpoints.2⟩
  · rw [himage]
    refine ⟨List.cons_ne_nil _ _, fun d hd => ?_⟩
    obtain rfl := List.mem_singleton.1 hd
    cases hshift : Table.shifted? table c.toNat with
    | none => exact hlarge c hc
    | some n => exact passes_shifted hlarge h.table hshift

end CaseMap

theorem isNameChar_of_large {c : Char} (hc : 128 ≤ c.toNat) : isNameChar c = true := by
  simp [isNameChar, hc]

theorem mapPasses_upper : MapPasses isNameChar upperTable upperExpansions := by decide +kernel

theorem mapPasses_lower : MapPasses isNameChar lowerTable lowerExpansions := by decide +kernel

/-- ASCII letters and digits stay such in the other case. -/
theorem isAlphanum_toCase {c : Char} (hsmall : c.toNat < 128) (h : c.isAlphanum) :
    c.toUpper.isAlphanum ∧ c.toLower.isAlphanum := by
  have hall : ∀ n : Fin 128, (Char.ofNat n).isAlphanum →
      (Char.ofNat n).toUpper.isAlphanum ∧ (Char.ofNat n).toLower.isAlphanum := by decide +kernel
  rw [← Char.ofNat_toNat c] at h ⊢
  exact hall ⟨c.toNat, hsmall⟩ h

theorem isAlphanum_of_isNameChar {c : Char} (hsmall : c.toNat < 128) (h : isNameChar c) : c.isAlphanum := by
  simpa [isNameChar, Nat.not_le.2 hsmall] using h

theorem isNameChar_upper {c d : Char} (hc : isNameChar c) (hd : d ∈ upper c) : isNameChar d := by
  unfold upper at hd
  split at hd
  · next hsmall =>
    obtain rfl := List.mem_singleton.1 hd
    have hcase := (isAlphanum_toCase hsmall (isAlphanum_of_isNameChar hsmall hc)).1
    rw [isNameChar, hcase, Bool.true_or]
  · next hlarge => exact (mapPasses_upper.image (fun _ => isNameChar_of_large) (Nat.le_of_not_lt hlarge) rfl).2 d hd

theorem isNameChar_lower {c d : Char} (hc : isNameChar c) (hd : d ∈ lower c) : isNameChar d := by
  unfold lower at hd
  split at hd
  · next hsmall =>
    obtain rfl := List.mem_singleton.1 hd
    have hcase := (isAlphanum_toCase hsmall (isAlphanum_of_isNameChar hsmall hc)).2
    rw [isNameChar, hcase, Bool.true_or]
  · next hlarge => exact (mapPasses_lower.image (fun _ => isNameChar_of_large) (Nat.le_of_not_lt hlarge) rfl).2 d hd

/-! ## Words -/

theorem of_mem_cut {isCut : Char → Bool} {s piece : List Char} (hpiece : piece ∈ cut isCut s) {c : Char}
    (hc : c ∈ piece) : isCut c = false := by
  induction s generalizing piece with
  | nil =>
    obtain rfl := List.mem_singleton.1 hpiece
    cases hc
  | cons d s ih =>
    unfold cut at hpiece
    split at hpiece
    · rcases List.mem_cons.1 hpiece with rfl | hpiece
      · cases hc
      · exact ih hpiece hc
    · next hd =>
      split at hpiece
      · obtain rfl := List.mem_singleton.1 hpiece
        obtain rfl := List.mem_singleton.1 hc
        simpa using hd
      · next first others hcut =>
        rcases List.mem_cons.1 hpiece with rfl | hpiece
        · rcases List.mem_cons.1 hc with rfl | hc
          · simpa using hd
          · exact ih (hcut ▸ List.mem_cons_self) hc
        · exact ih (hcut ▸ List.mem_cons_of_mem _ hpiece) hc

theorem mem_of_mem_wordsOfRun {last : LastCase} {word run w : List Char} (hw : w ∈ wordsOfRun last word run) {c : Char}
    (hc : c ∈ w) : c ∈ word ∨ c ∈ run := by
  fun_induction wordsOfRun last word run with
  | case1 => cases hw
  | case2 last word d =>
    obtain rfl := List.mem_singleton.1 hw
    simpa [or_comm] using hc
  | case3 last word d e rest _ ih =>
    rcases List.mem_cons.1 hw with rfl | hw
    · have hmem : c ∈ word ∨ c = d := by simpa using hc
      rcases hmem with hmem | rfl
      · exact Or.inl hmem
      · exact Or.inr List.mem_cons_self
    · rcases ih hw with hmem | hmem
      · cases hmem
      · exact Or.inr (List.mem_cons_of_mem _ hmem)
  | case4 last word d e rest _ _ ih =>
    rcases List.mem_cons.1 hw with rfl | hw
    · exact Or.inl (List.mem_reverse.1 hc)
    · rcases ih hw with hmem | hmem
      · exact Or.inr (List.mem_singleton.1 hmem ▸ List.mem_cons_self)
      · exact Or.inr (List.mem_cons_of_mem _ hmem)
  | case5 last word d e rest _ _ ih =>
    rcases ih hw with hmem | hmem
    · rcases List.mem_cons.1 hmem with rfl | hmem
      · exact Or.inr List.mem_cons_self
      · exact Or.inl hmem
    · exact Or.inr (List.mem_cons_of_mem _ hmem)

/-! ## Names -/

/-- A test that is passed by all letters and numbers, and stays passed in the other case. -/
structure PassesNames (p : Char → Bool) : Prop where
  alphanumeric : ∀ c, isAlphanumeric c → p c
  upper : ∀ c, p c → ∀ d ∈ upper c, p d
  lower : ∀ c, p c → ∀ d ∈ lower c, p d

namespace PassesNames

variable {p : Char → Bool} (h : PassesNames p)
include h

/-- The words of a name pass a test of names. -/
theorem of_mem_words {s w : List Char} (hw : w ∈ words s) {c : Char} (hc : c ∈ w) : p c := by
  obtain ⟨run, hrun, hw⟩ := List.mem_flatMap.1 hw
  rcases mem_of_mem_wordsOfRun hw hc with hmem | hmem
  · cases hmem
  · exact h.alphanumeric c (by simpa using of_mem_cut hrun hmem)

theorem lowerWord {w : List Char} (hw : ∀ c ∈ w, p c) {d : Char} (hd : d ∈ lowerWord w) : p d := by
  fun_induction Text.lowerWord w with
  | case1 => cases hd
  | case2 =>
    obtain rfl := List.mem_singleton.1 hd
    exact h.alphanumeric _ (by decide +kernel)
  | case3 c rest _ ih =>
    rw [List.forall_mem_cons] at hw
    rcases List.mem_append.1 hd with hd | hd
    · exact h.lower c hw.1 d hd
    · exact ih hw.2 hd

theorem capitalWord {w : List Char} (hw : ∀ c ∈ w, p c) {d : Char} (hd : d ∈ capitalWord w) : p d := by
  cases w with
  | nil => cases hd
  | cons c rest =>
    rw [List.forall_mem_cons] at hw
    rcases List.mem_append.1 hd with hd | hd
    · exact h.upper c hw.1 d hd
    · exact h.lowerWord hw.2 hd

theorem of_mem_pascal {s : String} {c : Char} (hc : c ∈ (pascal s).toList) : p c := by
  rw [pascal, String.toList_ofList] at hc
  obtain ⟨w, hw, hc⟩ := List.mem_flatMap.1 hc
  exact h.capitalWord (fun d hd => h.of_mem_words hw hd) hc

theorem of_mem_camel {s : String} {c : Char} (hc : c ∈ (camel s).toList) : p c := by
  have hwords : ∀ w ∈ words s.toList, ∀ d ∈ w, p d := fun w hw d hd => h.of_mem_words hw hd
  unfold camel at hc
  split at hc
  · cases hc
  · next first rest heq =>
    rw [heq, List.forall_mem_cons] at hwords
    rw [String.toList_ofList, List.mem_append] at hc
    rcases hc with hc | hc
    · exact h.lowerWord hwords.1 hc
    · obtain ⟨w, hw, hc⟩ := List.mem_flatMap.1 hc
      exact h.capitalWord (hwords.2 w hw) hc

end PassesNames

theorem passesNames_isNameChar : PassesNames isNameChar where
  alphanumeric _ hc := isNameChar_of_isAlphanumeric hc
  upper _ hc _ hd := isNameChar_upper hc hd
  lower _ hc _ hd := isNameChar_lower hc hd

theorem isNameChar_of_mem_pascal {s : String} {c : Char} (h : c ∈ (pascal s).toList) : isNameChar c :=
  passesNames_isNameChar.of_mem_pascal h

theorem isNameChar_of_mem_camel {s : String} {c : Char} (h : c ∈ (camel s).toList) : isNameChar c :=
  passesNames_isNameChar.of_mem_camel h

/-! ## Separators of lines -/

/-- A separator of lines or paragraphs. -/
def isSeparator (c : Char) : Bool := c.toNat == 0x2028 || c.toNat == 0x2029

theorem isSeparator_eq_false_of_small {c : Char} (h : c.toNat < 128) : isSeparator c = false := by
  simp only [isSeparator, Bool.or_eq_false_iff, beq_eq_false_iff_ne]
  omega

theorem isSeparator_ofNat {n : Nat} (h : n ≠ 0x2028 ∧ n ≠ 0x2029) : isSeparator (Char.ofNat n) = false := by
  by_cases hvalid : n.isValidChar
  · simp [isSeparator, toNat_ofNat hvalid, h]
  · rw [Char.ofNat, dif_neg hvalid]
    rfl

/-- A case map that is given by tables does not lead to a separator. -/
theorem isSeparator_image {table : List (Nat × Nat × Nat × Nat)} {expansions : List (Nat × List Nat)}
    (htable : (table.all fun (first, last, _, image) => image + (last - first) < 0x2028 || 0x2029 < image) = true)
    (hexpansions : (expansions.all fun e => e.2.all fun n => n != 0x2028 && n != 0x2029) = true) {c : Char}
    (hc : isSeparator c = false) {image : List Char}
    (himage : image = match expansions.lookup c.toNat with
      | some points => points.map Char.ofNat
      | none => [((Table.shifted? table c.toNat).map Char.ofNat).getD c]) :
    ∀ d ∈ image, isSeparator d = false := by
  split at himage
  · next points hlookup =>
    have hmem : (c.toNat, points) ∈ expansions := by
      obtain ⟨before, after, hsplit, _⟩ := List.lookup_eq_some_iff.1 hlookup
      simp [hsplit]
    have hpoints := List.all_eq_true.1 (List.all_eq_true.1 hexpansions _ hmem)
    rw [himage, List.forall_mem_map]
    exact fun n hn => isSeparator_ofNat (by simpa using hpoints n hn)
  · rw [himage, List.forall_mem_singleton]
    cases hshift : Table.shifted? table c.toNat with
    | none => exact hc
    | some n =>
      obtain ⟨⟨first, last, step, start⟩, hfind, rfl⟩ := Option.map_eq_some_iff.1 hshift
      have hapart := List.all_eq_true.1 htable _ (List.mem_of_find?_eq_some hfind)
      have hstride := List.find?_some hfind
      simp only [Table.onStride, Bool.and_eq_true, decide_eq_true_eq] at hstride
      simp only [Bool.or_eq_true, decide_eq_true_eq] at hapart
      change isSeparator (Char.ofNat (start + (c.toNat - first))) = false
      exact isSeparator_ofNat ⟨by omega, by omega⟩

theorem toNat_toCase_lt {c : Char} (h : c.toNat < 128) : c.toUpper.toNat < 128 ∧ c.toLower.toNat < 128 := by
  have hall : ∀ n : Fin 128, (Char.ofNat n).toUpper.toNat < 128 ∧ (Char.ofNat n).toLower.toNat < 128 := by
    decide +kernel
  rw [← Char.ofNat_toNat c]
  exact hall ⟨c.toNat, h⟩

theorem passesNames_not_isSeparator : PassesNames fun c => !isSeparator c where
  alphanumeric c hc := by
    unfold isAlphanumeric at hc
    split at hc
    · next hsmall => simp [isSeparator_eq_false_of_small hsmall]
    · have hranges : (alphanumericTable.all fun range => range.2 < 0x2028 || 0x2029 < range.1) = true := by
        decide +kernel
      obtain ⟨⟨first, last⟩, hrange, hin⟩ := List.any_eq_true.1 hc
      have hapart := List.all_eq_true.1 hranges _ hrange
      simp only [Bool.and_eq_true, Bool.or_eq_true, decide_eq_true_eq] at hin hapart
      simp only [isSeparator, Bool.not_eq_true', Bool.or_eq_false_iff, beq_eq_false_iff_ne]
      omega
  upper c hc d hd := by
    rw [Bool.not_eq_true'] at hc ⊢
    unfold upper at hd
    split at hd
    · next hsmall =>
      obtain rfl := List.mem_singleton.1 hd
      exact isSeparator_eq_false_of_small (toNat_toCase_lt hsmall).1
    · exact isSeparator_image (by decide +kernel) (by decide +kernel) hc rfl d hd
  lower c hc d hd := by
    rw [Bool.not_eq_true'] at hc ⊢
    unfold lower at hd
    split at hd
    · next hsmall =>
      obtain rfl := List.mem_singleton.1 hd
      exact isSeparator_eq_false_of_small (toNat_toCase_lt hsmall).2
    · exact isSeparator_image (by decide +kernel) (by decide +kernel) hc rfl d hd

end ClientGen.Text
