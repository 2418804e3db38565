import ClientGen.Json.Printer
import ClientGen.Json.Token
import Mathlib.Data.List.Basic

/-!
# The tokens of a printed value

Cutting the text of a value into tokens gives the tokens of the value: an escaped character is read as the one that
was written, blanks between the tokens do not count, and a word ends where a mark or a blank follows.
-/

namespace ClientGen.Json

/-! ## Texts in quotes -/

/-- How a character of a printed text is read: one that is spelled by its number comes back as a number. -/
def unitOf (c : Char) : Nat ⊕ Char :=
  if c.toNat < 32 ∧ c ∉ ['\x08', '\x0c', '\n', '\r', '\t'] then .inl c.toNat else .inr c

theorem textOfUnits_number_cons {n : Nat} (h : n < 32) (units : List (Nat ⊕ Char)) :
    textOfUnits (.inl n :: units) = (textOfUnits units).map (Char.ofNat n :: ·) := by
  have hhigh : isHighSurrogate n = false := by simp [isHighSurrogate]; omega
  have hlow : isLowSurrogate n = false := by simp [isLowSurrogate]; omega
  match units with
  | [] => simp [textOfUnits, hhigh, hlow]
  | .inl m :: rest => simp [textOfUnits, hhigh, hlow]
  | .inr c :: rest => simp [textOfUnits, hhigh, hlow, Function.comp_def]

theorem textOfUnits_map_unitOf (s : List Char) : textOfUnits (s.map unitOf) = some s := by
  induction s with
  | nil => rfl
  | cons c s ih =>
    rw [List.map_cons, unitOf]
    split
    · next h => rw [textOfUnits_number_cons h.1, ih, Option.map_some, Char.ofNat_toNat]
    · rw [textOfUnits, ih, Option.map_some]

theorem hexValue?_digitChar : ∀ n < 16, hexValue? (Nat.digitChar n) = some n := by decide

/-- A number below 32 takes two digits to the base 16, after two zeros. -/
theorem tokensFrom_number {n : Nat} (h : n < 32) (read : List (Nat ⊕ Char)) (rest : List Char) :
    tokensFrom (.text read)
        ('\\' :: 'u' :: '0' :: '0' :: Nat.digitChar (n / 16) :: Nat.digitChar (n % 16) :: rest) =
      tokensFrom (.text (.inl n :: read)) rest := by
  have hzero : hexValue? '0' = some 0 := by decide
  have hsixteens : hexValue? (Nat.digitChar (n / 16)) = some (n / 16) := hexValue?_digitChar _ (by omega)
  have hones : hexValue? (Nat.digitChar (n % 16)) = some (n % 16) := hexValue?_digitChar _ (by omega)
  have hn : 16 * (n / 16) + n % 16 = n := by omega
  simp [tokensFrom, hzero, hsixteens, hones, hn]

theorem tokensFrom_quotedChar (c : Char) (read : List (Nat ⊕ Char)) (rest : List Char) :
    tokensFrom (.text read) (quotedChar c ++ rest) = tokensFrom (.text (unitOf c :: read)) rest := by
  fun_cases quotedChar c with
  | case8 _ _ _ hb hf hn hr ht hsmall =>
    have hunit : unitOf c = .inl c.toNat := by simpa [unitOf, hsmall] using ⟨hb, hf, hn, hr, ht⟩
    rw [hunit]
    exact tokensFrom_number hsmall read rest
  | case9 _ hquote hslash _ _ _ _ _ hlarge =>
    have hunit : unitOf c = .inr c := by simp [unitOf, hlarge]
    rw [hunit, List.singleton_append, tokensFrom, if_neg hquote, if_neg hslash, if_neg hlarge]
  | _ => rfl

theorem tokensFrom_flatMap_quotedChar (s : List Char) (read : List (Nat ⊕ Char)) (rest : List Char) :
    tokensFrom (.text read) (s.flatMap quotedChar ++ rest) =
      tokensFrom (.text ((s.map unitOf).reverse ++ read)) rest := by
  induction s generalizing read with
  | nil => rfl
  | cons c s ih =>
    rw [List.flatMap_cons, List.append_assoc, tokensFrom_quotedChar, ih]
    simp

theorem tokensFrom_quoted (s : String) (rest : List Char) :
    tokensFrom .between ((quoted s).toList ++ rest) = (tokensFrom .between rest).map (.text (some s) :: ·) := by
  have hopen : (quoted s).toList ++ rest = '"' :: (s.toList.flatMap quotedChar ++ '"' :: rest) := by simp [quoted]
  have hquote : isSpace '"' = false := by decide
  rw [hopen, tokensFrom, hquote, if_neg (by simp), if_pos rfl, tokensFrom_flatMap_quotedChar, tokensFrom, if_pos rfl]
  simp [textOfUnits_map_unitOf]

/-! ## Blanks, marks and words -/

theorem tokensFrom_space {c : Char} (h : isSpace c) (rest : List Char) :
    tokensFrom .between (c :: rest) = tokensFrom .between rest := by
  rw [tokensFrom, if_pos h]

theorem tokensFrom_spaces {spaces : List Char} (h : ∀ c ∈ spaces, isSpace c) (rest : List Char) :
    tokensFrom .between (spaces ++ rest) = tokensFrom .between rest := by
  induction spaces with
  | nil => rfl
  | cons c spaces ih =>
    rw [List.cons_append, tokensFrom_space (h c List.mem_cons_self)]
    exact ih fun d hd => h d (List.mem_cons_of_mem c hd)

theorem tokensFrom_newLine (depth : Nat) (rest : List Char) :
    tokensFrom .between ((newLine depth).toList ++ rest) = tokensFrom .between rest := by
  refine tokensFrom_spaces (fun c hc => ?_) rest
  simp only [newLine, String.toList_ofList, List.mem_cons, List.mem_replicate] at hc
  rcases hc with rfl | ⟨_, rfl⟩ <;> rfl

/-- Marks are neither blanks nor quotes. -/
theorem isSpace_eq_false_of_mark {c : Char} {mark : Token} (h : markOf? c = some mark) :
    isSpace c = false ∧ c ≠ '"' := by
  fun_cases markOf? c with
  | case7 => simp_all [markOf?]
  | _ => decide

theorem tokensFrom_mark {c : Char} {mark : Token} (h : markOf? c = some mark) (rest : List Char) :
    tokensFrom .between (c :: rest) = (tokensFrom .between rest).map (mark :: ·) := by
  obtain ⟨hspace, hquote⟩ := isSpace_eq_false_of_mark h
  rw [tokensFrom, if_neg (by simp [hspace]), if_neg hquote, h]

/-- What may follow a word: nothing, a blank or a mark. -/
def EndsWord : List Char → Prop
  | [] => True
  | c :: _ => isSpace c ∨ (markOf? c).isSome

theorem tokensFrom_word {rest : List Char} (h : EndsWord rest) (read : List Char) :
    tokensFrom (.word read) rest =
      (scalarOf? read.reverse).bind fun j => (tokensFrom .between rest).map (.scalar j :: ·) := by
  cases rest with
  | nil =>
    rw [tokensFrom, tokensFrom, Option.map_eq_bind]
    rfl
  | cons c rest =>
    rcases h with hspace | hmark
    · rw [tokensFrom_space hspace, tokensFrom, if_pos hspace]
    · obtain ⟨mark, hmark⟩ := Option.isSome_iff_exists.1 hmark
      obtain ⟨hspace, hquote⟩ := isSpace_eq_false_of_mark hmark
      rw [tokensFrom_mark hmark, tokensFrom, if_neg (by simp [hspace]), if_neg hquote, hmark]
      simp [Function.comp_def]

/-! ## Values -/

mutual

/-- A value of texts, truth values and nulls: no number is in it, and all of it denotes something. -/
def isNumberless : Json → Bool
  | .int _ => false
  | .double _ => false
  | .unreadable => false
  | .array items => areNumberless items
  | .object members => haveNumberless members
  | _ => true

def areNumberless : List Json → Bool
  | [] => true
  | j :: items => isNumberless j && areNumberless items

def haveNumberless : List (String × Json) → Bool
  | [] => true
  | (_, j) :: members => isNumberless j && haveNumberless members

end

mutual

def tokensOf : Json → List Token
  | .array [] => [.openArray, .closeArray]
  | .array (j :: items) => .openArray :: (tokensOf j ++ (tokensOfItems items ++ [.closeArray]))
  | .object [] => [.openObject, .closeObject]
  | .object ((name, j) :: members) =>
    .openObject :: .text (some name) :: .colon :: (tokensOf j ++ (tokensOfMembers members ++ [.closeObject]))
  | .string s => [.text (some s)]
  | j => [.scalar j]

def tokensOfItems : List Json → List Token
  | [] => []
  | j :: items => .comma :: (tokensOf j ++ tokensOfItems items)

def tokensOfMembers : List (String × Json) → List Token
  | [] => []
  | (name, j) :: members => .comma :: .text (some name) :: .colon :: (tokensOf j ++ tokensOfMembers members)

end

theorem endsWord_newLine (depth : Nat) (rest : List Char) : EndsWord ((newLine depth).toList ++ rest) := by
  simp [newLine, EndsWord, isSpace]

theorem endsWord_prettyItems (depth : Nat) (items : List Json) {rest : List Char} (h : EndsWord rest) :
    EndsWord ((prettyItems depth items).toList ++ rest) := by
  cases items with
  | nil => simpa [prettyItems] using h
  | cons j items => simp [prettyItems, EndsWord, markOf?]

theorem endsWord_prettyMembers (depth : Nat) (members : List (String × Json)) {rest : List Char} (h : EndsWord rest) :
    EndsWord ((prettyMembers depth members).toList ++ rest) := by
  cases members with
  | nil => simpa [prettyMembers] using h
  | cons member members => simp [prettyMembers, EndsWord, markOf?]

mutual

/-- The text of a value is cut into the tokens of the value. The rest must end a word: `true` may be the last item of
an array, and only what follows it ends it. -/
theorem tokensFrom_prettyAt (depth : Nat) (j : Json) (hj : j.isNumberless) {rest : List Char} (h : EndsWord rest) :
    tokensFrom .between ((prettyAt depth j).toList ++ rest) = (tokensFrom .between rest).map (tokensOf j ++ ·) := by
  match j with
  | .null | .bool true | .bool false =>
    simp [prettyAt, scalarText, tokensFrom, isSpace, markOf?, tokensFrom_word h, scalarOf?, tokensOf]
  | .string s => exact tokensFrom_quoted s rest
  | .array [] | .object [] => simp [prettyAt, tokensFrom_mark, markOf?, tokensOf, Function.comp_def]
  | .array (j :: items) =>
    simp only [isNumberless, areNumberless, Bool.and_eq_true] at hj
    have hclose : EndsWord ((newLine depth).toList ++ ']' :: rest) := endsWord_newLine depth _
    simp only [prettyAt, String.toList_append, String.reduceToList, List.append_assoc, List.cons_append,
      List.nil_append]
    rw [tokensFrom_mark rfl, tokensFrom_newLine,
      tokensFrom_prettyAt (depth + 1) j hj.1 (endsWord_prettyItems depth items hclose),
      tokensFrom_prettyItems depth items hj.2 hclose, tokensFrom_newLine, tokensFrom_mark rfl]
    simp [tokensOf, Function.comp_def]
  | .object ((name, j) :: members) =>
    simp only [isNumberless, haveNumberless, Bool.and_eq_true] at hj
    have hclose : EndsWord ((newLine depth).toList ++ '\x7d' :: rest) := endsWord_newLine depth _
    simp only [prettyAt, String.toList_append, String.reduceToList, List.append_assoc, List.cons_append,
      List.nil_append]
    rw [tokensFrom_mark rfl, tokensFrom_newLine, tokensFrom_quoted, tokensFrom_mark rfl, tokensFrom_space rfl,
      tokensFrom_prettyAt (depth + 1) j hj.1 (endsWord_prettyMembers depth members hclose),
      tokensFrom_prettyMembers depth members hj.2 hclose, tokensFrom_newLine, tokensFrom_mark rfl]
    simp [tokensOf, Function.comp_def]

theorem tokensFrom_prettyItems (depth : Nat) (items : List Json) (hitems : areNumberless items) {rest : List Char}
    (h : EndsWord rest) :
    tokensFrom .between ((prettyItems depth items).toList ++ rest) =
      (tokensFrom .between rest).map (tokensOfItems items ++ ·) := by
  match items with
  | [] => simp [prettyItems, tokensOfItems]
  | j :: items =>
    simp only [areNumberless, Bool.and_eq_true] at hitems
    simp only [prettyItems, String.toList_append, String.reduceToList, List.append_assoc, List.cons_append,
      List.nil_append]
    rw [tokensFrom_mark rfl, tokensFrom_newLine,
      tokensFrom_prettyAt (depth + 1) j hitems.1 (endsWord_prettyItems depth items h),
      tokensFrom_prettyItems depth items hitems.2 h]
    simp [tokensOfItems, Function.comp_def]

theorem tokensFrom_prettyMembers (depth : Nat) (members : List (String × Json)) (hmembers : haveNumberless members)
    {rest : List Char} (h : EndsWord rest) :
    tokensFrom .between ((prettyMembers depth members).toList ++ rest) =
      (tokensFrom .between rest).map (tokensOfMembers members ++ ·) := by
  match members with
  | [] => simp [prettyMembers, tokensOfMembers]
  | (name, j) :: members =>
    simp only [haveNumberless, Bool.and_eq_true] at hmembers
    simp only [prettyMembers, String.toList_append, String.reduceToList, List.append_assoc, List.cons_append,
      List.nil_append]
    rw [tokensFrom_mark rfl, tokensFrom_newLine, tokensFrom_quoted, tokensFrom_mark rfl, tokensFrom_space rfl,
      tokensFrom_prettyAt (depth + 1) j hmembers.1 (endsWord_prettyMembers depth members h),
      tokensFrom_prettyMembers depth members hmembers.2 h]
    simp [tokensOfMembers, Function.comp_def]

end

/-- Blanks after a value are none of its tokens. -/
theorem tokens?_pretty_append {j : Json} (hj : j.isNumberless) {blanks : String}
    (h : ∀ c ∈ blanks.toList, isSpace c) : tokens? (j.pretty ++ blanks) = some (tokensOf j) := by
  have hends : EndsWord blanks.toList := by
    cases hb : blanks.toList with
    | nil => trivial
    | cons c rest => exact .inl (h c (hb ▸ List.mem_cons_self))
  have hblanks : tokensFrom .between blanks.toList = some [] := by
    simpa [tokensFrom] using tokensFrom_spaces h []
  rw [tokens?, pretty, String.toList_append, tokensFrom_prettyAt 0 j hj hends, hblanks]
  simp

end ClientGen.Json
