import ClientGen.Proofs.Emission.Containment

/-!
# Descriptions in comments

A description that is planned is in a form that planning leaves as it is. Both styles of comments show it in full: its
lines are what stands in the block and what stands behind the slashes.
-/

namespace ClientGen

open Plan (Operation)

/-! ## Descriptions as they are planned -/

namespace Plan

/-- A text that stands in a comment as it is: trimmed lines, the first and the last of them not blank, with a line feed
between any two neighbours and no end of a comment. -/
structure IsCommentText (comment : String) : Prop where
  joined : comment = Text.joined "\n" (Text.linesOf comment)
  not_ended : Text.contains comment "*/" = false
  trimmed : ∀ line ∈ Text.linesOf comment, Text.trimmed line = line
  first : ∃ line, (Text.linesOf comment).head? = some line ∧ Text.isBlankText line = false
  last : ∃ line, (Text.linesOf comment).getLast? = some line ∧ Text.isBlankText line = false

theorem commentText?_eq_none_iff (text : String) :
    commentText? text = none ↔ ∀ line ∈ Text.linesOf text, Text.isBlankText line = true := by
  have hempty : ∀ line, (withoutEnds (Text.trim line)).isEmpty = true ↔ line.all Text.isBlank = true := by
    intro line
    rw [List.isEmpty_iff, ← List.head?_eq_none_iff, (replace_commentEnd _).1, List.head?_eq_none_iff,
      Text.trim_eq_nil_iff]
  have hplanned : plannedLines text = [] ↔ ∀ line ∈ Text.lines text.toList, line.all Text.isBlank = true := by
    rw [plannedLines, withoutEmptyEnds_eq_stripped, Text.stripped_eq_nil_iff, List.forall_mem_map]
    exact forall₂_congr fun line _ => hempty line
  simp only [commentText?_eq, ite_eq_left_iff, reduceCtorEq, imp_false, not_not, hplanned, Text.linesOf,
    List.forall_mem_map, Text.isBlankText, String.toList_ofList]

section Planned

variable {text : String} {line : List Char} (h : line ∈ plannedLines text)
include h

theorem trim_of_mem_plannedLines : Text.trim line = line := by
  obtain ⟨original, _, rfl⟩ := List.mem_map.1 (mem_of_mem_withoutEmptyEnds h)
  refine Text.stripped_eq_self ?_ ?_
  · intro c hc
    rw [(replace_commentEnd _).1] at hc
    exact Text.of_head?_stripped hc
  · intro c hc
    rw [getLast?_withoutEnds] at hc
    exact Text.of_getLast?_stripped hc

theorem not_blank_of_mem_plannedLines (hne : line.isEmpty = false) :
    Text.isBlankText (String.ofList line) = false := by
  rw [Text.isBlankText, String.toList_ofList, ← Bool.not_eq_true, ← Text.trim_eq_nil_iff, trim_of_mem_plannedLines h]
  rintro rfl
  cases hne

end Planned

theorem isCommentText_of_commentText? {text comment : String} (h : commentText? text = some comment) :
    IsCommentText comment := by
  have hlines := linesOf_commentText? h
  have hne : plannedLines text ≠ [] := by
    intro hnil
    rw [commentText?_eq, if_pos hnil] at h
    cases h
  refine ⟨?_, Text.contains_eq_false_iff.2 (not_ended_of_commentText? h), ?_, ?_, ?_⟩
  · rw [hlines]
    exact eq_joined_of_commentText? h
  · rw [hlines, List.forall_mem_map]
    intro line hline
    rw [Text.trimmed, String.toList_ofList, trim_of_mem_plannedLines hline]
  · obtain ⟨line, hline⟩ := Option.ne_none_iff_exists'.1 (mt List.head?_eq_none_iff.1 hne)
    refine ⟨String.ofList line, by rw [hlines, List.head?_map, hline, Option.map_some], ?_⟩
    exact not_blank_of_mem_plannedLines (List.mem_of_mem_head? hline) (Text.of_head?_stripped hline)
  · obtain ⟨line, hline⟩ := Option.ne_none_iff_exists'.1 (mt List.getLast?_eq_none_iff.1 hne)
    refine ⟨String.ofList line, by rw [hlines, List.getLast?_map, hline, Option.map_some], ?_⟩
    exact not_blank_of_mem_plannedLines (List.mem_of_getLast? hline) (Text.of_getLast?_stripped hline)

namespace IsCommentText

variable {comment : String} (h : IsCommentText comment)
include h

theorem trim_toList {line : String} (hline : line ∈ Text.linesOf comment) : Text.trim line.toList = line.toList := by
  have htrimmed := congrArg String.toList (h.trimmed line hline)
  rwa [Text.trimmed, String.toList_ofList] at htrimmed

theorem trim_of_mem_lines {line : List Char} (hline : line ∈ Text.lines comment.toList) : Text.trim line = line := by
  have htrim := h.trim_toList (List.mem_map_of_mem hline)
  rwa [String.toList_ofList] at htrim

omit h in
theorem ne_empty_of_not_blank {line : String} (hblank : Text.isBlankText line = false) : line ≠ "" := by
  rintro rfl
  cases hblank

/-- Planned again, it stays as it is. -/
theorem commentText?_eq : commentText? comment = some comment := by
  obtain ⟨first, hfirst, hfirst'⟩ := h.first
  obtain ⟨last, hlast, hlast'⟩ := h.last
  have hself : (Text.lines comment.toList).map (fun line => withoutEnds (Text.trim line)) =
      Text.lines comment.toList := by
    refine (List.map_congr_left fun line hline => ?_).trans (List.map_id _)
    rw [h.trim_of_mem_lines hline, withoutEnds, Text.replace_eq_self, id]
    exact fun hpair => Text.contains_eq_false_iff.1 h.not_ended (hpair.trans (Text.lines_spec hline).1)
  -- Neither end is empty, since neither is blank.
  have hends : plannedLines comment = Text.lines comment.toList := by
    rw [plannedLines, hself]
    refine Text.stripped_eq_self ?_ ?_
    · intro line hline
      rw [Text.linesOf, List.head?_map, hline] at hfirst
      obtain rfl := Option.some.inj hfirst
      simpa using ne_empty_of_not_blank hfirst'
    · intro line hline
      rw [Text.linesOf, List.getLast?_map, hline] at hlast
      obtain rfl := Option.some.inj hlast
      simpa using ne_empty_of_not_blank hlast'
  have hne : Text.lines comment.toList ≠ [] := by
    intro hnil
    rw [Text.linesOf, hnil] at hfirst
    cases hfirst
  rw [Plan.commentText?_eq, hends, if_neg hne]
  exact congrArg some h.joined.symm

theorem trim_eq : Text.trim comment.toList = comment.toList := by
  obtain ⟨first, hfirst, hfirst'⟩ := h.first
  obtain ⟨last, hlast, hlast'⟩ := h.last
  rw [h.joined]
  refine Text.stripped_eq_self ?_ ?_
  · intro c hc
    rw [Text.head?_joined hfirst (ne_empty_of_not_blank hfirst'), ← h.trim_toList (List.mem_of_mem_head? hfirst)] at hc
    exact Text.of_head?_stripped hc
  · intro c hc
    rw [Text.getLast?_joined hlast (ne_empty_of_not_blank hlast'), ← h.trim_toList (List.mem_of_getLast? hlast)] at hc
    exact Text.of_getLast?_stripped hc

/-- A block comment has no lines of its own making. -/
theorem docTextLines_eq : Source.docTextLines comment = Text.linesOf comment := by
  rw [Source.docTextLines, h.trim_eq]
  exact List.map_congr_left fun line hline =>
    congrArg String.ofList (Text.trimEnd_of_trim_eq (h.trim_of_mem_lines hline))

theorem isLine {line : String} (hline : line ∈ Text.linesOf comment) : Text.IsLine line.toList := by
  constructor
  · obtain ⟨characters, hcharacters, rfl⟩ := List.mem_map.1 hline
    rw [String.toList_ofList]
    exact (Text.lines_spec hcharacters).2
  · rw [← h.trim_toList hline]
    exact fun hlast => absurd (Text.of_getLast?_stripped hlast) (by decide)

end IsCommentText

end Plan

/-! ## Lines read back from comments -/

namespace Comment

def markedLine (mark line : String) : String := if line = "" then mark else mark ++ " " ++ line

/-- What stands behind a mark at the beginning of a line, less the space that parts the two. -/
def unmarked? (mark line : String) : Option String :=
  match Text.after? mark.toList line.toList with
  | some [] => some ""
  | some (' ' :: rest) => some (String.ofList rest)
  | _ => none

theorem unmarked?_append (mark rest : String) : unmarked? mark (mark ++ " " ++ rest) = some rest := by
  simp [unmarked?, List.append_assoc]

theorem unmarked?_markedLine (mark line : String) : unmarked? mark (markedLine mark line) = some line := by
  unfold markedLine
  split
  · next hempty =>
    have hafter := Text.after?_append mark.toList []
    rw [List.append_nil] at hafter
    rw [unmarked?, hafter, hempty]
  · exact unmarked?_append mark line

theorem isLine_append {mark s : String} (hmark : '\n' ∉ mark.toList) (hne : s ≠ "") (hs : Text.IsLine s.toList) :
    Text.IsLine (mark ++ s).toList := by
  have hne' : s.toList ≠ [] := by simpa using hne
  rw [String.toList_append]
  refine ⟨?_, ?_⟩
  · rw [List.mem_append, not_or]
    exact ⟨hmark, hs.1⟩
  · rw [List.getLast?_append_of_ne_nil _ hne']
    exact hs.2

theorem isLine_markedLine {mark line : String} (hmark : Text.IsLine mark.toList) (hline : Text.IsLine line.toList) :
    Text.IsLine (markedLine mark line).toList := by
  unfold markedLine
  split
  · exact hmark
  · next hne =>
    refine isLine_append ?_ hne hline
    rw [String.toList_append, List.mem_append, not_or]
    exact ⟨hmark.1, by decide⟩

/-- The lines that a block comment shows, without its stars. -/
def blockLines? (margin block : String) : Option (List String) :=
  match Text.linesOf block with
  | [] => some []
  | [line] => ((unmarked? (margin ++ "/**") line).bind (Text.before? " */")).map fun line => [line]
  | opening :: rest =>
    if opening = margin ++ "/**" ∧ rest.getLast? = some (margin ++ " */") then
      rest.dropLast.mapM (unmarked? (margin ++ " *"))
    else none

/-- The lines that line comments show, without their slashes. -/
def slashedLines? (margin text : String) : Option (List String) :=
  (Text.linesOf text).mapM (unmarked? (margin ++ "//"))

theorem slashedLine_eq (margin line : String) : slashedLine margin line = markedLine (margin ++ "//") line := by
  unfold slashedLine markedLine
  split
  · rfl
  · simp [← String.toList_inj]

/-- The lines of a block comment with further lines in it. -/
def starredBlock (margin : String) (lines : List String) : List String :=
  (margin ++ "/**") :: (lines.map (starredLine margin) ++ [margin ++ " */"])

theorem unlines_starredBlock (margin : String) (lines : List String) : Text.unlines (starredBlock margin lines) =
    margin ++ "/**\n" ++ Text.unlines (lines.map (starredLine margin)) ++ margin ++ " */\n" := by
  simp [starredBlock, ← String.toList_inj]

section Margin

variable {margin : String} (hmargin : '\n' ∉ margin.toList)
include hmargin

theorem isLine_markedLine_margin {mark line : String} (hne : mark ≠ "") (hmark : Text.IsLine mark.toList)
    (hline : Text.IsLine line.toList) : Text.IsLine (markedLine (margin ++ mark) line).toList :=
  isLine_markedLine (isLine_append hmargin hne hmark) hline

theorem blockLines?_oneLine {line : String} (hline : Text.IsLine line.toList) :
    blockLines? margin (margin ++ "/** " ++ line ++ " */\n") = some [line] := by
  have htext : margin ++ "/** " ++ line ++ " */\n" =
      Text.unlines [margin ++ "/**" ++ " " ++ (line ++ " */")] := by simp [← String.toList_inj]
  have hread : Text.IsLine (margin ++ "/**" ++ " " ++ (line ++ " */")).toList :=
    isLine_append (by simp [hmargin]) (by simp) (isLine_append hline.1 (by simp) ⟨by decide, by decide⟩)
  have hbefore : Text.before? " */" (line ++ " */") = some line := Text.before?_eq_some_iff.2 rfl
  rw [htext, blockLines?, Text.linesOf_unlines (List.forall_mem_singleton.2 hread)]
  simp only [unmarked?_append, Option.bind_some, hbefore, Option.map_some]

theorem isLine_of_mem_starredBlock {lines : List String} (hlines : ∀ line ∈ lines, Text.IsLine line.toList) :
    ∀ line ∈ starredBlock margin lines, Text.IsLine line.toList := by
  rw [starredBlock, List.forall_mem_cons, List.forall_mem_append, List.forall_mem_singleton, List.forall_mem_map]
  exact ⟨isLine_append hmargin (by simp) ⟨by decide, by decide⟩,
    fun line hline => isLine_markedLine_margin hmargin (by simp) ⟨by decide, by decide⟩ (hlines line hline),
    isLine_append hmargin (by simp) ⟨by decide, by decide⟩⟩

theorem blockLines?_starredBlock {lines : List String} (hlines : ∀ line ∈ lines, Text.IsLine line.toList) :
    blockLines? margin (Text.unlines (starredBlock margin lines)) = some lines := by
  rw [blockLines?, Text.linesOf_unlines (isLine_of_mem_starredBlock hmargin hlines), starredBlock]
  split
  · next hnil => cases hnil
  · next hone => simp at hone
  · next hcons =>
    obtain ⟨rfl, rfl⟩ := List.cons.inj hcons
    rw [if_pos ⟨rfl, List.getLast?_concat⟩, List.dropLast_concat]
    exact mapM_map_eq_some (unmarked?_markedLine (margin ++ " *")) lines

/-- A block comment shows the lines of its text. -/
theorem blockLines?_docComment {comment : String} (h : Plan.IsCommentText comment) :
    blockLines? margin (Source.docComment (some comment) margin) = some (Text.linesOf comment) := by
  have hlines : ∀ line ∈ Text.linesOf comment, Text.IsLine line.toList := fun _ hline => h.isLine hline
  unfold Source.docComment
  simp only [h.docTextLines_eq, concat_docLine]
  generalize Text.linesOf comment = lines at hlines
  split
  · rfl
  · exact blockLines?_oneLine hmargin (hlines _ List.mem_cons_self)
  · rw [← unlines_starredBlock]
    exact blockLines?_starredBlock hmargin hlines

/-- A block comment is there, and nothing in its text ends it. -/
theorem exists_block_docComment {comment : String} (h : Plan.IsCommentText comment) (hslash : '/' ∉ margin.toList) :
    ∃ block : String, Source.docComment (some comment) margin = margin ++ block ++ "\n" ∧
      ['/', '*', '*'] <+: block.toList ∧ EndsOnce block.toList := by
  have hcontained : (Comment.description margin comment).Contained :=
    (contained_iff (.description margin comment) hslash).2 (Text.contains_eq_false_iff.1 h.not_ended)
  refine hcontained.resolve_left fun hempty => ?_
  -- A block that is not there shows no lines.
  have hread := blockLines?_docComment hmargin h
  have hnothing : Source.docComment (some comment) margin = "" := hempty
  rw [hnothing] at hread
  obtain ⟨first, hfirst, _⟩ := h.first
  rw [← Option.some.inj hread] at hfirst
  cases hfirst

/-- Line comments show the lines of their text. -/
theorem slashedLines?_docComments {op : Plan.Operation} (hlines : ∀ line ∈ op.docLines, Text.IsLine line.toList) :
    slashedLines? margin (Text.unlines ((Baseline.docComments op).map (margin ++ ·))) = some op.docLines := by
  have hmarked : (Baseline.docComments op).map (margin ++ ·) = op.docLines.map (markedLine (margin ++ "//")) := by
    rw [Baseline.docComments, List.map_map]
    exact List.map_congr_left fun line _ => slashedLine_eq margin line
  rw [hmarked, slashedLines?, Text.linesOf_unlines]
  · exact mapM_map_eq_some (unmarked?_markedLine (margin ++ "//")) op.docLines
  · rw [List.forall_mem_map]
    exact fun line hline =>
      isLine_markedLine_margin hmargin (by simp) ⟨by decide, by decide⟩ (hlines line hline)

end Margin

end Comment

/-- A description of blank lines is none. Any other one is planned in a form that planning leaves as it is, and both
styles of comments show exactly its lines; nothing in it ends a block before its end. -/
theorem description_shown_alike (text : String) :
    (Plan.commentText? text = none ↔ ∀ line ∈ Text.linesOf text, Text.isBlankText line = true) ∧
      (∀ comment, Plan.commentText? text = some comment →
        Plan.IsCommentText comment ∧ Plan.commentText? comment = some comment) ∧
      ∀ (op : Operation) (margin : String), op.description = Plan.commentText? text → '/' ∉ margin.toList →
        '\n' ∉ margin.toList →
        (∀ comment, op.description = some comment → ∃ block : String,
          Source.docComment op.description margin = margin ++ block ++ "\n" ∧ ['/', '*', '*'] <+: block.toList ∧
            EndsOnce block.toList) ∧
        Comment.blockLines? margin (Source.docComment op.description margin) = some op.docLines ∧
        Comment.slashedLines? margin (Text.unlines ((Baseline.docComments op).map (margin ++ ·))) =
          some op.docLines := by
  refine ⟨Plan.commentText?_eq_none_iff text, fun comment h => ?_, fun op margin hop hslash hfeed => ?_⟩
  · have hcomment := Plan.isCommentText_of_commentText? h
    exact ⟨hcomment, hcomment.commentText?_eq⟩
  · rcases hdescription : op.description with _ | comment
    · have hlines : op.docLines = [] := by rw [Operation.docLines, hdescription]
      refine ⟨fun _ hsome => (by cases hsome), ?_, Comment.slashedLines?_docComments hfeed ?_⟩
      · rw [hlines]
        rfl
      · simp [hlines]
    · have hcomment := Plan.isCommentText_of_commentText? (hop.symm.trans hdescription)
      have hlines : op.docLines = Text.linesOf comment := by rw [Operation.docLines, hdescription]
      refine ⟨fun _ _ => Comment.exists_block_docComment hfeed hcomment hslash,
        (Comment.blockLines?_docComment hfeed hcomment).trans (congrArg some hlines.symm),
        Comment.slashedLines?_docComments hfeed ?_⟩
      rw [hlines]
      exact fun _ => hcomment.isLine

/-- Described with ends of comments, one of them behind a star, and with blank lines and line ends of two kinds. -/
def clearNoted : Service.Operation where
  name := "clear"
  method := .delete
  description := some " \r\n a */ b\r\n\r\n **// c\u2028\n\n"
  response := ⟨"void", []⟩
  parameters := []
  longRunning := none
  paging := none

theorem description_shown_alike_noted :
    let op := Plan.plannedOperation "clear" "/things" none clearNoted []
    let lines := ["a *\\/ b", "", "**\\// c"]
    op.description = some (Text.joined "\n" lines) ∧ Plan.IsCommentText (Text.joined "\n" lines) ∧
      Plan.commentText? (Text.joined "\n" lines) = some (Text.joined "\n" lines) ∧
      Comment.blockLines? "  " (Source.docComment op.description "  ") = some lines ∧
      Comment.slashedLines? "  " (Text.unlines ((Baseline.docComments op).map ("  " ++ ·))) = some lines ∧
      Source.docComment op.description "  " =
        "  /**\n   * a *\\/ b\n   *\n   * **\\// c\n   */\n" := by
  intro op lines
  have hplanned : Plan.commentText? " \r\n a */ b\r\n\r\n **// c\u2028\n\n" = some (Text.joined "\n" lines) := by
    decide +kernel
  have hlines : op.docLines = lines := by decide +kernel
  obtain ⟨_, hsome, hshown⟩ := description_shown_alike " \r\n a */ b\r\n\r\n **// c\u2028\n\n"
  obtain ⟨hcomment, hself⟩ := hsome _ hplanned
  obtain ⟨_, hblock, hslashed⟩ := hshown op "  " rfl (by decide) (by decide)
  rw [hlines] at hblock hslashed
  exact ⟨hplanned, hcomment, hself, hblock, hslashed, by decide +kernel⟩

end ClientGen
