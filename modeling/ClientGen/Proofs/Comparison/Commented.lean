import ClientGen.Proofs.Comparison.Differences
import ClientGen.Proofs.Comparison.NormalForm

/-!
# Commented code in normal form

A source text that is code without slashes, with comments anywhere in it, has the words of its code for a normal form: a
block comment parts them like a space, a line comment like the end of its line. So texts with the same words have no
differences, whatever their comments say.
-/

namespace ClientGen.Comparison

open Text (Meets isBlank)

/-! ## Commented sources -/

/-- What stands in a line behind two slashes. No block comment begins in it, nor with its second slash. -/
structure LineComment where
  text : List Char
  oneLine : '\n' ∉ text
  unopened : ¬ ['/', '*'] <:+: '/' :: '/' :: text

def LineComment.chars (c : LineComment) : List Char := '/' :: '/' :: c.text

/-- A stretch of a source text: code, or a comment with its end. -/
inductive Stretch where
  | code (text : List Char) (slashless : '/' ∉ text)
  | block (body : List Char) (unclosed : ¬ ['*', '/'] <:+: body)
  | line (comment : LineComment)

namespace Stretch

def chars : Stretch → List Char
  | code text _ => text
  | block body _ => '/' :: '*' :: (body ++ ['*', '/'])
  | line comment => comment.chars ++ ['\n']

/-- A stretch as it counts among the words. -/
def plain : Stretch → List Char
  | code text _ => text
  | block _ _ => [' ']
  | line _ => ['\n']

/-- A stretch without block comments. -/
def unblocked : Stretch → List Char
  | code text _ => text
  | block _ _ => [' ']
  | line comment => comment.chars ++ ['\n']

end Stretch

/-- A text in stretches, with a line comment at its end or not. No line comment stands behind a colon. -/
structure CommentedSource where
  stretches : List Stretch
  last : Option LineComment
  apart : ∀ before comment after, stretches = before ++ .line comment :: after →
    (before.flatMap Stretch.chars).getLast? ≠ some ':'
  lastApart : last.isSome → (stretches.flatMap Stretch.chars).getLast? ≠ some ':'

namespace CommentedSource

def lastChars (s : CommentedSource) : List Char := (s.last.map LineComment.chars).getD []

def text (s : CommentedSource) : String := String.ofList (s.stretches.flatMap Stretch.chars ++ s.lastChars)

/-- The words of the code between blanks, comments counted as such. -/
def words (s : CommentedSource) : List (List Char) :=
  ((s.stretches.flatMap Stretch.plain).splitOnP isBlank).filter fun word => !word.isEmpty

end CommentedSource

theorem pieces_eq_splitOnP (s : List Char) : pieces s = (s.splitOnP isBlank).filter fun word => !word.isEmpty := by
  have hcut : ∀ s : List Char, Text.cut isBlank s = s.splitOnP isBlank := by
    intro s
    induction s with
    | nil => rfl
    | cons c s ih =>
      obtain ⟨piece, others, hsplit⟩ := List.exists_cons_of_ne_nil (Text.cut_ne_nil isBlank s)
      rw [List.splitOnP_cons_eq_if_modifyHead, ← ih, Text.cut, hsplit]
      rfl
  rw [pieces, hcut]

/-! ## Block comments -/

theorem withoutBlocks_of_slashless {code : List Char} (h : '/' ∉ code) (rest : List Char) :
    withoutBlocks 0 (code ++ rest) = code ++ withoutBlocks 0 rest := by
  have hopen : ¬ ['/', '*'] <:+: code := fun hpair => h (hpair.subset (by simp))
  obtain ⟨hself, hcloses⟩ := withoutBlocks_of_not_opened hopen
  rw [(withoutBlocks_append (Nat.zero_le _) hcloses fun hmeet => h (List.mem_of_getLast? hmeet.1)).1, hself]

theorem LineComment.withoutBlocks_chars (c : LineComment) (rest : List Char) :
    withoutBlocks 0 (c.chars ++ '\n' :: rest) = c.chars ++ '\n' :: withoutBlocks 0 rest := by
  have hself : withoutBlocks 0 c.chars = c.chars ∧ closes 0 c.chars = true := withoutBlocks_of_not_opened c.unopened
  have hmeet : ¬ Meets '/' '*' c.chars ('\n' :: rest) := by
    rintro ⟨_, hhead⟩
    cases hhead
  rw [(withoutBlocks_append (Nat.zero_le _) hself.2 hmeet).1, hself.1, withoutBlocks_cons (by simp)]

theorem Stretch.withoutBlocks_chars (x : Stretch) (rest : List Char) :
    withoutBlocks 0 (x.chars ++ rest) = x.unblocked ++ withoutBlocks 0 rest := by
  cases x with
  | code text slashless => exact withoutBlocks_of_slashless slashless rest
  | block body unclosed =>
    have hchars : (block body unclosed).chars ++ rest = '/' :: '*' :: (body ++ '*' :: '/' :: rest) := by simp [chars]
    rw [hchars, (withoutBlocks_block unclosed rest).1]
    rfl
  | line comment =>
    rw [unblocked, chars, List.append_assoc, List.singleton_append, comment.withoutBlocks_chars,
      List.append_assoc, List.singleton_append]

theorem CommentedSource.withoutBlocks_text (s : CommentedSource) :
    withoutBlocks 0 s.text.toList = s.stretches.flatMap Stretch.unblocked ++ s.lastChars := by
  have hlast : withoutBlocks 0 s.lastChars = s.lastChars := by
    unfold lastChars
    cases s.last with
    | none => rfl
    | some comment => exact (withoutBlocks_of_not_opened comment.unopened).1
  rw [text, String.toList_ofList]
  induction s.stretches with
  | nil => exact hlast
  | cons x rest ih =>
    rw [List.flatMap_cons, List.append_assoc, x.withoutBlocks_chars, ih, List.flatMap_cons, List.append_assoc]

/-! ## Line comments -/

/-- The place behind a text. -/
def placeBehind (before : List Char) : LinePlace := if before.getLast? = some ':' then .afterColon else .code

theorem placeBehind_ne_comment (before : List Char) : placeBehind before ≠ .comment := by
  unfold placeBehind
  split <;> exact LinePlace.noConfusion

theorem placeBehind_concat (before : List Char) (c : Char) : placeBehind (before ++ [c]) = placeAfter c := by
  simp [placeBehind, placeAfter]

theorem withoutLineComments_of_slashless (before : List Char) {code : List Char} (h : '/' ∉ code) (rest : List Char) :
    withoutLineComments (placeBehind before) (code ++ rest) =
      code ++ withoutLineComments (placeBehind (before ++ code)) rest := by
  induction code generalizing before with
  | nil => rw [List.append_nil, List.nil_append, List.nil_append]
  | cons c code ih =>
    rw [List.mem_cons, not_or] at h
    have hopen : ¬ Opens (placeBehind before) (c :: (code ++ rest)) := fun ho => h.1 (List.cons_prefix_cons.1 ho.2).1
    rw [List.cons_append, withoutLineComments_cons (placeBehind_ne_comment before) hopen, ← placeBehind_concat before,
      ih _ h.2, List.append_assoc, List.singleton_append, List.cons_append]

theorem LineComment.withoutLineComments_chars (c : LineComment) : withoutLineComments .code c.chars = [] :=
  withoutLineComments_comment c.oneLine

/-- A stretch leaves what it counts as, and the text goes on behind it. -/
theorem Stretch.withoutLineComments_unblocked (x : Stretch) (before : List Char)
    (h : ∀ comment, x = .line comment → before.getLast? ≠ some ':') (rest : List Char) :
    withoutLineComments (placeBehind before) (x.unblocked ++ rest) =
      x.plain ++ withoutLineComments (placeBehind (before ++ x.chars)) rest := by
  cases x with
  | code text slashless => exact withoutLineComments_of_slashless before slashless rest
  | block body unclosed =>
    have hbehind : placeBehind (before ++ (block body unclosed).chars) = placeAfter ' ' := by
      have hsplit : before ++ (block body unclosed).chars = before ++ '/' :: '*' :: (body ++ ['*']) ++ ['/'] := by
        simp [chars]
      rw [hsplit, placeBehind_concat]
      rfl
    rw [hbehind]
    exact withoutLineComments_cons (placeBehind_ne_comment before) fun ho =>
      absurd (List.cons_prefix_cons.1 ho.2).1 (by decide)
  | line comment =>
    have hplace : placeBehind before = .code := if_neg (h comment rfl)
    have hbehind : placeBehind (before ++ (line comment).chars) = .code := by
      rw [chars, ← List.append_assoc, placeBehind_concat]
      rfl
    have hunblocked : (line comment).unblocked ++ rest = comment.chars ++ '\n' :: rest := by simp [unblocked]
    rw [hplace, hbehind, hunblocked, withoutLineComments_line, comment.withoutLineComments_chars]
    rfl

theorem withoutLineComments_stretches (before : List Char) {stretches : List Stretch}
    (h : ∀ front comment after, stretches = front ++ .line comment :: after →
      (before ++ front.flatMap Stretch.chars).getLast? ≠ some ':') (rest : List Char) :
    withoutLineComments (placeBehind before) (stretches.flatMap Stretch.unblocked ++ rest) =
      stretches.flatMap Stretch.plain ++
        withoutLineComments (placeBehind (before ++ stretches.flatMap Stretch.chars)) rest := by
  -- what is in front grows with its comments, since a line comment may stand behind the end of a block comment
  induction stretches generalizing before with
  | nil =>
    rw [List.flatMap_nil, List.flatMap_nil, List.flatMap_nil, List.append_nil]
    rfl
  | cons x stretches ih =>
    have hx : ∀ comment, x = .line comment → before.getLast? ≠ some ':' := by
      rintro comment rfl
      simpa using h [] comment stretches rfl
    have hrest : ∀ front comment after, stretches = front ++ .line comment :: after →
        (before ++ x.chars ++ front.flatMap Stretch.chars).getLast? ≠ some ':' := by
      rintro front comment after rfl
      simpa using h (x :: front) comment after rfl
    rw [List.flatMap_cons, List.append_assoc, x.withoutLineComments_unblocked before hx, ih _ hrest,
      List.flatMap_cons, List.flatMap_cons, List.append_assoc, List.append_assoc]

/-! ## Words -/

namespace CommentedSource

theorem withoutLineComments_text (s : CommentedSource) :
    withoutLineComments .code (withoutBlocks 0 s.text.toList) = s.stretches.flatMap Stretch.plain := by
  have hlast : withoutLineComments (placeBehind (s.stretches.flatMap Stretch.chars)) s.lastChars = [] := by
    have hapart := s.lastApart
    unfold lastChars
    cases hlast : s.last with
    | none => exact withoutLineComments_eq_self_of_code (placeBehind_ne_comment _) rfl
    | some comment =>
      have hplace : placeBehind (s.stretches.flatMap Stretch.chars) = .code := if_neg (hapart (by simp [hlast]))
      rw [hplace]
      exact comment.withoutLineComments_chars
  have hstretches := withoutLineComments_stretches [] (by simpa using s.apart) s.lastChars
  rw [withoutBlocks_text]
  exact hstretches.trans (by rw [List.nil_append, hlast, List.append_nil])

/-- The normal form of commented code is its words with single spaces between them. Two sources with the same words, which
may differ in what their comments say, in how many there are at the same places and of which kind, and in their blanks,
have no differences in either direction. -/
theorem normalize_text (s : CommentedSource) :
    normalize s.text = String.ofList (List.intercalate [' '] s.words) ∧
      ∀ s' : CommentedSource, s'.words = s.words →
        differences s.text s'.text = [] ∧ differences s'.text s.text = [] := by
  have hnormal : ∀ s : CommentedSource, normalize s.text = String.ofList (List.intercalate [' '] s.words) := by
    intro s
    rw [normalize, withoutLineComments_text, collapse, pieces_eq_splitOnP]
    rfl
  refine ⟨hnormal s, fun s' hwords => ?_⟩
  have hsame : normalize s'.text = normalize s.text := by rw [hnormal, hnormal, hwords]
  exact ⟨differences_eq_nil_iff.2 (.of_normalize_eq hsame.symm), differences_eq_nil_iff.2 (.of_normalize_eq hsame)⟩

/-- Block comments side by side, one of them over two lines with slashes in it. -/
def starredUser : CommentedSource where
  stretches :=
    [.block "* Reads\n// a user ".toList (by decide +kernel), .block [] (by simp),
      .code "\nexport const user =\n  1;\n".toList (by decide +kernel)]
  last := none
  apart := by
    rintro (_ | ⟨_, _ | ⟨_, _ | ⟨_, before⟩⟩⟩) comment after h <;> simp at h
  lastApart := by simp

/-- A line comment with the end of a block comment in it, and one at the end of the text. -/
def slashedUser : CommentedSource where
  stretches :=
    [.line ⟨" Reads a user */".toList, by decide +kernel, by decide +kernel⟩,
      .code "export   const user".toList (by decide +kernel), .block "/".toList (by decide +kernel),
      .code "= 1;".toList (by decide +kernel)]
  last := some ⟨" https://users".toList, by decide +kernel, by decide +kernel⟩
  apart := by
    rintro (_ | ⟨_, _ | ⟨_, _ | ⟨_, _ | ⟨_, before⟩⟩⟩⟩) comment after h <;> simp at h ⊢
  lastApart _ := by decide

theorem normalize_text_user : slashedUser.words = starredUser.words ∧
    slashedUser.text = "// Reads a user */\nexport   const user/*/*/= 1;// https://users" ∧
    normalize slashedUser.text = "export const user = 1;" ∧
    differences starredUser.text slashedUser.text = [] ∧ differences slashedUser.text starredUser.text = [] := by
  have hwords : slashedUser.words = starredUser.words := by decide +kernel
  obtain ⟨hnormal, _⟩ := slashedUser.normalize_text
  obtain ⟨_, hsame⟩ := starredUser.normalize_text
  refine ⟨hwords, by decide +kernel, ?_, hsame slashedUser hwords⟩
  rw [hnormal]
  decide +kernel

end CommentedSource

end ClientGen.Comparison
