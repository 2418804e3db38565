import ClientGen.Proofs.Comparison.Comments
import ClientGen.Proofs.Emission.Outline

/-!
# Outlines in normal form

A comment has no words in either style, so that both files of an outline have the words of its code. That holds as long
as the comments of the code end where they began, no text of a comment ends it, and nothing in a line comment begins
what some code could end.
-/

namespace ClientGen

open Comparison (closes codeWords lineWords normalize)
open Text (Seamless seamless_pair)

/-! ## Words of whole lines -/

/-- A line gives its own words, whatever follows it. -/
def OwnWords (words : String → List (List Char)) (line : String) : Prop :=
  ∀ rest, words (line ++ "\n" ++ rest) = words line ++ words rest

/-- A text of whole lines that have a property. -/
def LinesHave (P : String → Prop) (text : String) : Prop := ∃ lines, text = Text.unlines lines ∧ ∀ l ∈ lines, P l

theorem LinesHave.imp {P Q : String → Prop} {text : String} (h : LinesHave P text) (hPQ : ∀ l, P l → Q l) :
    LinesHave Q text := by
  obtain ⟨lines, htext, hlines⟩ := h
  exact ⟨lines, htext, fun l hl => hPQ l (hlines l hl)⟩

theorem words_unlines_append {words : String → List (List Char)} {lines : List String}
    (h : ∀ l ∈ lines, OwnWords words l) (rest : String) :
    words (Text.unlines lines ++ rest) = lines.flatMap words ++ words rest := by
  induction lines with
  | nil => rw [Text.unlines_nil, String.empty_append, List.flatMap_nil, List.nil_append]
  | cons l lines ih =>
    obtain ⟨hl, hlines⟩ := List.forall_mem_cons.1 h
    rw [Text.unlines_cons, String.append_assoc, hl, ih hlines, List.flatMap_cons, List.append_assoc]

theorem words_append {words : String → List (List Char)} (hnil : words "" = []) {text : String}
    (h : LinesHave (OwnWords words) text) (rest : String) : words (text ++ rest) = words text ++ words rest := by
  obtain ⟨lines, rfl, hlines⟩ := h
  have hself := words_unlines_append hlines ""
  rw [String.append_empty, hnil, List.append_nil] at hself
  rw [words_unlines_append hlines, hself]

/-- The words of all code of an outline. -/
def Outline.wordsOf (words : String → List (List Char)) (o : Outline) : List (List Char) :=
  o.flatMap fun | .code text => words text | .comment _ => []

/-- Where the comments have no words, a file has the words of its code. -/
theorem Outline.words_write {words : String → List (List Char)} (hnil : words "" = []) {style : Comment → String}
    {o : Outline} (hcode : ∀ text, .code text ∈ o → LinesHave (OwnWords words) text)
    (hcomment : ∀ c, .comment c ∈ o → LinesHave (fun l => OwnWords words l ∧ words l = []) (style c)) :
    words (o.write style) = o.wordsOf words := by
  induction o with
  | nil => exact hnil
  | cons p o ih =>
    have ho := ih (fun text htext => hcode text (List.mem_cons_of_mem _ htext))
      fun c hc => hcomment c (List.mem_cons_of_mem _ hc)
    rw [write_cons, wordsOf, List.flatMap_cons, ← wordsOf]
    cases p with
    | code text => exact (words_append hnil (hcode text List.mem_cons_self) _).trans (congrArg _ ho)
    | comment c =>
      obtain ⟨lines, hlines, hwords⟩ := hcomment c List.mem_cons_self
      have hempty : lines.flatMap words = [] := List.flatMap_eq_nil_iff.2 fun l hl => (hwords l hl).2
      rw [Piece.text, hlines, words_unlines_append fun l hl => (hwords l hl).1, hempty, ho]

theorem ownWords_codeWords {line : String} (h : closes 0 line.toList = true) : OwnWords codeWords line :=
  Comparison.codeWords_line h

/-- The words of a text of which block comments are taken for code. -/
def plainWords (source : String) : List (List Char) := lineWords source.toList

theorem ownWords_plainWords (line : String) : OwnWords plainWords line := by
  intro rest
  have htext : (line ++ "\n" ++ rest).toList = line.toList ++ '\n' :: rest.toList := by simp
  rw [plainWords, htext, Comparison.lineWords_line]
  rfl

theorem codeWords_eq_plainWords {source : String} (h : ¬ ['*', '/'] <:+: source.toList) :
    codeWords source = plainWords source := by
  rw [codeWords, Comparison.withoutBlocks_of_not_closed h, plainWords]

/-! ## Comments -/

theorem seamless_not_ended : Seamless fun s => ¬ ['*', '/'] <:+: s.toList :=
  seamless_pair (.inr rfl) (.inl rfl) (by simp)

theorem seamless_not_begun : Seamless fun s => ¬ ['/', '*'] <:+: s.toList :=
  seamless_pair (.inl rfl) (.inr rfl) (by simp)

namespace Comment

/-- A comment behind a margin of spaces whose text does not end it, and no line of which holds a line end. -/
structure Sound (c : Comment) : Prop where
  margin : ∀ ch ∈ c.margin.toList, ch = ' '
  ended : ¬ ['*', '/'] <:+: c.text.toList
  lines : ∀ line ∈ c.lines, '\n' ∉ line.toList

theorem isInfix_of_mem_docTextLines {text line : String} (h : line ∈ Source.docTextLines text) :
    line.toList <:+: text.toList := by
  obtain ⟨l, hl, rfl⟩ := List.mem_map.1 h
  rw [String.toList_ofList]
  exact (Text.trimEnd_isInfix l).trans ((Text.lines_spec hl).1.trans (Text.trim_isInfix _))

theorem isInfix_of_mem_lines {c : Comment} {line : String} (h : line ∈ c.lines) : line.toList <:+: c.text.toList := by
  cases c with
  | remark margin text => exact List.mem_singleton.1 h ▸ List.infix_rfl
  | description margin text =>
    obtain ⟨l, hl, rfl⟩ := List.mem_map.1 h
    rw [String.toList_ofList]
    exact (Text.lines_spec hl).1

/-- The lines of a starred comment between its first and its last one. -/
def starredLine (margin line : String) : String := if line = "" then margin ++ " *" else margin ++ " *" ++ " " ++ line

theorem concat_docLine (margin : String) (lines : List String) :
    Text.concat (lines.map (Source.docLine margin)) = Text.unlines (lines.map (starredLine margin)) := by
  have hline : ∀ line, Source.docLine margin line = starredLine margin line ++ "\n" := by
    intro line
    unfold Source.docLine starredLine
    split <;> simp [← String.toList_inj]
  induction lines with
  | nil => rfl
  | cons line lines ih => rw [List.map_cons, List.map_cons, Text.concat_cons, Text.unlines_cons, hline, ih]

theorem not_ended_of_notMem {s : String} (h : '/' ∉ s.toList) : ¬ ['*', '/'] <:+: s.toList :=
  fun hpair => h (hpair.subset (by simp))

theorem not_ended_starredLine {margin line : String} (hmargin : '/' ∉ margin.toList)
    (hline : ¬ ['*', '/'] <:+: line.toList) : ¬ ['*', '/'] <:+: (starredLine margin line).toList := by
  have hstar : ¬ ['*', '/'] <:+: (margin ++ " *").toList := not_ended_of_notMem (by simp [hmargin])
  unfold starredLine
  split
  · exact hstar
  · exact seamless_not_ended.between hstar (by decide) hline

theorem isInfix_starredLine (margin line : String) : line.toList <:+: (starredLine margin line).toList := by
  unfold starredLine
  split
  · next hempty => simp [hempty]
  · exact ⟨(margin ++ " * ").toList, [], by simp⟩

theorem not_ended_oneLine {line : String} (hline : ¬ ['*', '/'] <:+: line.toList) :
    ¬ ['*', '/'] <:+: ("/**" ++ " " ++ line ++ " " ++ "*").toList :=
  seamless_not_ended.between (seamless_not_ended.between (by decide) (by decide) hline) (by decide) (by decide)

theorem not_ended_starredLines {margin : String} {lines : List String} (hmargin : '/' ∉ margin.toList)
    (hlines : ∀ line ∈ lines, ¬ ['*', '/'] <:+: line.toList) :
    ¬ ['*', '/'] <:+: ("/**" ++ "\n" ++ (Text.unlines (lines.map (starredLine margin)) ++ (margin ++ " *"))).toList := by
  have hend : ¬ ['*', '/'] <:+: (margin ++ " *").toList := not_ended_of_notMem (by simp [hmargin])
  refine seamless_not_ended.between (by decide) (by decide) (seamless_not_ended.unlines_append ?_ hend)
  rw [List.forall_mem_map]
  exact fun line hline => not_ended_starredLine hmargin (hlines line hline)

/-- A starred comment is nothing, or a line with a block comment that has all lines of the text in it. Its own end is the
first to end it if no line does. -/
theorem exists_block (c : Comment) : Source.docTextLines c.text = [] ∧ c.starred = "" ∨
    ∃ inner : String, c.starred = c.margin ++ ("/**" ++ inner ++ "*/") ++ "\n" ∧
      (∀ line ∈ Source.docTextLines c.text, line.toList <:+: inner.toList) ∧
      ('/' ∉ c.margin.toList → (∀ line ∈ Source.docTextLines c.text, ¬ ['*', '/'] <:+: line.toList) →
        ¬ ['*', '/'] <:+: ("/**" ++ inner ++ "*").toList) := by
  unfold starred Source.docComment
  simp only
  split
  · next heq => exact .inl ⟨heq, rfl⟩
  · next line heq =>
    rw [heq]
    simp only [List.forall_mem_singleton]
    refine .inr ⟨" " ++ line ++ " ", by simp [← String.toList_inj], ⟨[' '], [' '], by simp⟩, fun _ hline => ?_⟩
    have hblock := not_ended_oneLine hline
    simpa only [String.append_assoc] using hblock
  · generalize Source.docTextLines c.text = lines
    have hinner : ∀ line ∈ lines, line.toList <:+: (Text.unlines (lines.map (starredLine c.margin))).toList :=
      fun line hline =>
        (isInfix_starredLine c.margin line).trans (Text.isInfix_unlines (List.mem_map_of_mem hline))
    refine .inr ⟨"\n" ++ (Text.unlines (lines.map (starredLine c.margin)) ++ (c.margin ++ " ")), ?_, ?_, ?_⟩
    · rw [concat_docLine]
      simp [← String.toList_inj]
    · exact fun line hline => (hinner line hline).trans ⟨['\n'], (c.margin ++ " ").toList, by simp⟩
    · intro hmargin hlines
      have hblock := not_ended_starredLines hmargin hlines
      have hspace : c.margin ++ " *" = c.margin ++ (" " ++ "*") := by simp
      rw [hspace] at hblock
      simpa only [String.append_assoc] using hblock

variable {c : Comment} (h : c.Sound)
include h

theorem notMem_margin {ch : Char} (hch : ch ≠ ' ') {s : String} (hs : ch ∉ s.toList) :
    ch ∉ (c.margin ++ s).toList := by
  rw [String.toList_append, List.mem_append, not_or]
  exact ⟨fun hmem => hch (h.margin ch hmem), hs⟩

/-- A starred comment is nothing, or a line with a block comment that its own end is the first to end. -/
theorem starred_eq : c.starred = "" ∨
    ∃ body : String, ¬ ['*', '/'] <:+: body.toList ∧ c.starred = c.margin ++ "/*" ++ body ++ "*/" ++ "\n" := by
  rcases exists_block c with ⟨_, hempty⟩ | ⟨inner, heq, _, hnot⟩
  · exact .inl hempty
  · have hmargin : '/' ∉ c.margin.toList := fun hmem => absurd (h.margin _ hmem) (by decide)
    have hlines : ∀ line ∈ Source.docTextLines c.text, ¬ ['*', '/'] <:+: line.toList := fun line hmem hpair =>
      h.ended (hpair.trans (isInfix_of_mem_docTextLines hmem))
    refine .inr ⟨"*" ++ inner, fun hpair => hnot hmargin hlines (hpair.trans ⟨['/', '*'], ['*'], by simp⟩), ?_⟩
    rw [heq]
    simp [← String.toList_inj]

/-- A block comment has no words, since nothing in it ends it early. -/
theorem linesHave_starred : LinesHave (fun l => OwnWords codeWords l ∧ codeWords l = []) c.starred := by
  rcases starred_eq h with hempty | ⟨body, hbody, heq⟩
  · exact ⟨[], by rw [hempty, Text.unlines_nil], by simp⟩
  · have htext : (c.margin ++ "/*" ++ body ++ "*/").toList =
        c.margin.toList ++ '/' :: '*' :: (body.toList ++ ['*', '/']) := by simp
    obtain ⟨hwords, hcloses⟩ := Comparison.codeWords_block h.margin hbody htext
    refine ⟨[c.margin ++ "/*" ++ body ++ "*/"], by simp [heq], fun l hl => ?_⟩
    obtain rfl := List.mem_singleton.1 hl
    exact ⟨ownWords_codeWords hcloses, hwords⟩

/-- A line of a line comment. -/
def slashedLine (margin line : String) : String := margin ++ if line = "" then "//" else "// " ++ line

omit h in
theorem slashed_eq (c : Comment) : c.slashed = Text.unlines (c.lines.map (slashedLine c.margin)) := rfl

theorem plainWords_slashedLine {line : String} (hline : line ∈ c.lines) :
    plainWords (slashedLine c.margin line) = [] := by
  obtain ⟨text, htext, hnewline⟩ : ∃ text, (slashedLine c.margin line).toList = c.margin.toList ++ '/' :: '/' :: text ∧
      '\n' ∉ text := by
    unfold slashedLine
    split
    · exact ⟨[], by simp, List.not_mem_nil⟩
    · exact ⟨' ' :: line.toList, by simp, by simpa using h.lines line hline⟩
  rw [plainWords, htext, Comparison.lineWords_slashes h.margin hnewline]

/-- A line of a line comment has none of a pair of delimiters that the text of the comment does not have. -/
theorem slashedLine_spec {P : String → Prop} (hP : Seamless P) {line : String} (hline : P line) :
    P (slashedLine c.margin line) := by
  have hslashes : P (c.margin ++ "//") := hP.starless (notMem_margin h (by decide) (by decide))
  unfold slashedLine
  split
  · exact hslashes
  · have heq : c.margin ++ ("// " ++ line) = c.margin ++ "//" ++ " " ++ line := by simp [← String.toList_inj]
    rw [heq]
    exact hP.between hslashes (by decide) hline

/-- A line comment in which no block comment begins has no words. -/
theorem linesHave_slashed (hbegun : ¬ ['/', '*'] <:+: c.text.toList) :
    LinesHave (fun l => OwnWords codeWords l ∧ codeWords l = []) c.slashed := by
  refine ⟨_, slashed_eq c, ?_⟩
  rw [List.forall_mem_map]
  intro line hline
  have hnot : ¬ ['/', '*'] <:+: (slashedLine c.margin line).toList := slashedLine_spec h seamless_not_begun
    fun hpair => hbegun (hpair.trans (isInfix_of_mem_lines hline))
  obtain ⟨hself, hcloses⟩ := Comparison.withoutBlocks_of_not_opened hnot
  refine ⟨ownWords_codeWords hcloses, ?_⟩
  rw [codeWords, hself]
  exact plainWords_slashedLine h hline

theorem linesHave_slashed_not_ended :
    LinesHave (fun l => ¬ ['*', '/'] <:+: l.toList ∧ plainWords l = []) c.slashed := by
  refine ⟨_, slashed_eq c, ?_⟩
  rw [List.forall_mem_map]
  refine fun line hline => ⟨slashedLine_spec h seamless_not_ended fun hpair => ?_, plainWords_slashedLine h hline⟩
  exact h.ended (hpair.trans (isInfix_of_mem_lines hline))

end Comment

/-! ## Files -/

namespace Outline

variable {o : Outline}

theorem linesHave_write {P : String → Prop} {style : Comment → String}
    (h : ∀ p ∈ o, LinesHave P (p.text style)) : LinesHave P (o.write style) := by
  induction o with
  | nil => exact ⟨[], rfl, by simp⟩
  | cons p o ih =>
    obtain ⟨hp, hrest⟩ := List.forall_mem_cons.1 h
    obtain ⟨lines, hlines, hhave⟩ := hp
    obtain ⟨lines', hlines', hhave'⟩ := ih hrest
    refine ⟨lines ++ lines', by rw [write_cons, hlines, hlines', Text.unlines_append], ?_⟩
    exact List.forall_mem_append.2 ⟨hhave, hhave'⟩

/-- All code of an outline comes in whole lines that have a property. -/
def CodeLinesHave (P : String → Prop) (o : Outline) : Prop := ∀ text, .code text ∈ o → LinesHave P text

theorem codeWords_write (hcode : o.CodeLinesHave fun s => closes 0 s.toList = true) {style : Comment → String}
    (hcomment : ∀ c, .comment c ∈ o → LinesHave (fun l => OwnWords codeWords l ∧ codeWords l = []) (style c)) :
    codeWords (o.write style) = o.wordsOf codeWords :=
  words_write rfl (fun text htext => (hcode text htext).imp fun _ => ownWords_codeWords) hcomment

/-- Line comments have no words either where nothing ends a comment, since then none begins. -/
theorem codeWords_write_slashed (hcode : o.CodeLinesHave fun s => ¬ ['*', '/'] <:+: s.toList)
    (hsound : ∀ c, .comment c ∈ o → c.Sound) : codeWords (o.write Comment.slashed) = o.wordsOf codeWords := by
  have hlines : LinesHave (fun s => ¬ ['*', '/'] <:+: s.toList) (o.write Comment.slashed) := by
    refine linesHave_write fun p hp => ?_
    cases p with
    | code text => exact hcode text hp
    | comment c => exact (Comment.linesHave_slashed_not_ended (hsound c hp)).imp fun _ => And.left
  obtain ⟨lines, htext, hlines⟩ := hlines
  have hwhole : ¬ ['*', '/'] <:+: (o.write Comment.slashed).toList := htext ▸ seamless_not_ended.unlines hlines
  have hplain : plainWords (o.write Comment.slashed) = o.wordsOf plainWords :=
    words_write rfl (fun text htext => (hcode text htext).imp fun l _ => ownWords_plainWords l)
      fun c hc => (Comment.linesHave_slashed_not_ended (hsound c hc)).imp fun l hl => ⟨ownWords_plainWords l, hl.2⟩
  rw [codeWords_eq_plainWords hwhole, hplain]
  refine List.flatMap_congr fun p hp => ?_
  cases p with
  | comment c => rfl
  | code text =>
    obtain ⟨lines, rfl, hlines⟩ := hcode text hp
    exact (codeWords_eq_plainWords (seamless_not_ended.unlines hlines)).symm

/-- The two files of an outline have the same normal form if no comment leaves its place: those of the code end in the
code, no text of a comment ends it, and either no line comment begins a block comment or nothing in the code ends
one. -/
theorem normalize_write_eq (hcode : o.CodeLinesHave fun s => closes 0 s.toList = true)
    (hsound : ∀ c, .comment c ∈ o → c.Sound)
    (hapart : (∀ c, .comment c ∈ o → ¬ ['/', '*'] <:+: c.text.toList) ∨
      o.CodeLinesHave fun s => ¬ ['*', '/'] <:+: s.toList) :
    normalize (o.write Comment.starred) = normalize (o.write Comment.slashed) := by
  have hstarred : codeWords (o.write Comment.starred) = o.wordsOf codeWords :=
    codeWords_write hcode fun c hc => Comment.linesHave_starred (hsound c hc)
  have hslashed : codeWords (o.write Comment.slashed) = o.wordsOf codeWords := by
    rcases hapart with hbegun | hended
    · exact codeWords_write hcode fun c hc => Comment.linesHave_slashed (hsound c hc) (hbegun c hc)
    · exact codeWords_write_slashed hended hsound
  rw [Comparison.normalize_eq, Comparison.normalize_eq, hstarred, hslashed]

end Outline

end ClientGen
