import ClientGen.Proofs.Comparison.Legible
import ClientGen.Proofs.Emission.Agreement

/-!
# Comments that keep to their place

No description of an operation and no name of the client leaves the comment that it stands in. The paths of routes are
not looked at, and a description is cut at line feeds only: a path can end a block comment, and paths and descriptions
can break a line comment.
-/

namespace ClientGen

open Plan (Operation Part PlannedAs)

/-! ## Comments that nothing breaks -/

/-- What ends a block comment ends a text and stands nowhere before. -/
def EndsOnce (s : List Char) : Prop := ['*', '/'] <:+ s ∧ ¬ ['*', '/'] <:+: s.dropLast

/-- The characters that end a line of the emitted language. -/
def lineTerminators : List Char := ['\n', '\r', '\u2028', '\u2029']

/-- There is no end of a line in a text. -/
def Unbroken (s : List Char) : Prop := ∀ t ∈ lineTerminators, t ∉ s

instance : DecidablePred Unbroken := fun s => List.decidableBAll (· ∉ s) lineTerminators

theorem unbroken_append {s s' : List Char} : Unbroken (s ++ s') ↔ Unbroken s ∧ Unbroken s' := by
  simp only [Unbroken, List.mem_append, not_or, forall_and]

theorem endsOnce_append (s : List Char) : EndsOnce (s ++ ['*', '/']) ↔ ¬ ['*', '/'] <:+: s ++ ['*'] := by
  have hlast : (s ++ ['*', '/']).dropLast = s ++ ['*'] := by simp
  rw [EndsOnce, hlast]
  exact and_iff_right (List.suffix_append _ _)

namespace Comment

/-- A starred comment is nothing, or a block that its last characters end, and none before. -/
def Contained (c : Comment) : Prop :=
  c.starred = "" ∨ ∃ block : String, c.starred = c.margin ++ block ++ "\n" ∧ ['/', '*', '*'] <+: block.toList ∧
    EndsOnce block.toList

/-- Every line of a line comment is one line. -/
def OneLined (c : Comment) : Prop := ∀ line ∈ c.lines, Unbroken (slashedLine c.margin line).toList

theorem exists_line_of_ended {text : String} (h : ['*', '/'] <:+: text.toList) :
    ∃ line ∈ Source.docTextLines text, ['*', '/'] <:+: line.toList := by
  have hstar : Text.isBlank '*' = false := by decide
  have hslash : Text.isBlank '/' = false := by decide
  obtain ⟨line, hline, hpair⟩ := Text.exists_line_of_pair_infix hstar hslash (Text.pair_infix_trim hstar hslash h)
  refine ⟨_, List.mem_map_of_mem hline, ?_⟩
  rw [String.toList_ofList]
  exact Text.pair_infix_trimEnd hslash hpair

/-- Only its text can end a block comment early. -/
theorem contained_iff (c : Comment) (hmargin : '/' ∉ c.margin.toList) :
    c.Contained ↔ ¬ ['*', '/'] <:+: c.text.toList := by
  rcases exists_block c with ⟨hnil, hempty⟩ | ⟨inner, heq, hinner, hnot⟩
  · refine iff_of_true (.inl hempty) fun hpair => ?_
    obtain ⟨line, hline, _⟩ := exists_line_of_ended hpair
    rw [hnil] at hline
    cases hline
  · have hends : EndsOnce ("/**" ++ inner ++ "*/").toList ↔ ¬ ['*', '/'] <:+: ("/**" ++ inner ++ "*").toList := by
      have hblock : ("/**" ++ inner ++ "*/").toList = ("/**" ++ inner).toList ++ ['*', '/'] := by simp
      have hbefore : ("/**" ++ inner ++ "*").toList = ("/**" ++ inner).toList ++ ['*'] := by simp
      rw [hblock, hbefore, endsOnce_append]
    constructor
    · rintro (hempty | ⟨block, hblock, _, honce⟩) hpair
      · have hlist := congrArg String.toList (hempty.symm.trans heq)
        rw [String.toList_append] at hlist
        exact absurd hlist (by simp)
      · obtain rfl : block = "/**" ++ inner ++ "*/" := by
          simpa only [String.append_left_inj, String.append_right_inj] using hblock.symm.trans heq
        obtain ⟨line, hline, hline'⟩ := exists_line_of_ended hpair
        refine hends.1 honce (hline'.trans ((hinner line hline).trans ?_))
        exact ⟨"/**".toList, ['*'], by simp⟩
    · intro htext
      refine .inr ⟨_, heq, by simp, hends.2 (hnot hmargin fun line hline hpair => htext ?_)⟩
      exact hpair.trans (isInfix_of_mem_docTextLines hline)

theorem unbroken_slashedLine {margin line : String} (hmargin : Unbroken margin.toList) :
    Unbroken (slashedLine margin line).toList ↔ Unbroken line.toList := by
  have hslashes : Unbroken "// ".toList := by decide
  unfold slashedLine
  rw [String.toList_append, unbroken_append, and_iff_right hmargin]
  split
  · next hempty =>
    rw [hempty]
    decide
  · rw [String.toList_append, unbroken_append, and_iff_right hslashes]

theorem oneLined_iff (c : Comment) (hmargin : Unbroken c.margin.toList) :
    c.OneLined ↔ ∀ line ∈ c.lines, Unbroken line.toList :=
  forall₂_congr fun _ _ => unbroken_slashedLine hmargin

end Comment

/-! ## What the comments of a part say -/

namespace Plan

namespace Part

/-- The routes that a part documents. -/
def routes : Part → List Route
  | .clientDefinitions d => d.routes
  | _ => []

/-- The operations whose descriptions stand in a part. -/
def operations : Part → List Operation
  | .packageJson _ => []
  | .clientDefinitions d => d.groups.flatMap Group.operations
  | .clientClass c => c.operations
  | .operationFile f => [f.operation]

/-- The margin of the descriptions in a part. -/
def margin : Part → String
  | .operationFile _ => ""
  | _ => "  "

theorem margin_eq (part : Part) : part.margin = "" ∨ part.margin = "  " := by cases part <;> simp [margin]

end Part

theorem mem_of_mem_part_operations {m : Service.Model} {ops : List Operation} {part : Part}
    (hpart : part ∈ sourceParts m ops) {op : Operation} (hop : op ∈ part.operations) : op ∈ ops := by
  rcases mem_sourceParts_iff.1 hpart with rfl | rfl | ⟨op', hop', rfl⟩
  · obtain ⟨g, hg, hmem⟩ := List.mem_flatMap.1 hop
    exact (ofPlan_of_mem_groups hg).operations op hmem
  · exact hop
  · exact List.mem_singleton.1 hop ▸ hop'

end Plan

namespace Outline

/-- The comments of a part are descriptions of operations, remarks about routes and the remark about the class. -/
theorem comment_mem_ofPartWith {bodyLine : Operation → List String} {part : Part} {c : Comment} :
    .comment c ∈ ofPartWith bodyLine part ↔
      (∃ op ∈ part.operations, ∃ text, op.description = some text ∧ c = .description part.margin text) ∨
        (∃ r ∈ part.routes, c = .remark "  " (Baseline.routeRemark r)) ∨
          ∃ k, part = .clientClass k ∧ c = .remark "" (Baseline.classRemark k) := by
  cases part with
  | packageJson k => simp [ofPartWith, Plan.Part.operations, Plan.Part.routes]
  | clientDefinitions d =>
    simp only [ofPartWith, ofClientDefinitions, ofRoute, ofGroup, ofGroupMember, List.mem_append, List.mem_flatMap,
      List.mem_singleton, Piece.comment.injEq, comment_mem_lines, comment_mem_described, false_or, or_false,
      Plan.Part.operations, Plan.Part.routes, Plan.Part.margin, reduceCtorEq, false_and, exists_false]
    rw [or_comm]
    refine or_congr ⟨?_, ?_⟩ Iff.rfl
    · rintro ⟨g, hg, op, hop, text, htext, rfl⟩
      exact ⟨op, ⟨g, hg, hop⟩, text, htext, rfl⟩
    · rintro ⟨op, ⟨g, hg, hop⟩, text, htext, rfl⟩
      exact ⟨g, hg, op, hop, text, htext, rfl⟩
  | clientClass k =>
    simp only [ofPartWith, ofClientClass, ofMethod, List.mem_append, List.mem_flatMap, List.mem_singleton,
      Piece.comment.injEq, comment_mem_lines, comment_mem_described, false_or, or_false, Plan.Part.operations,
      Plan.Part.routes, Plan.Part.margin, List.not_mem_nil, false_and, exists_false, Part.clientClass.injEq,
      exists_eq_left']
    rw [or_comm]
  | operationFile f =>
    simp [ofPartWith, ofOperationFileWith, Plan.Part.operations, Plan.Part.routes, Plan.Part.margin]

end Outline

/-! ## Texts of the model -/

theorem unbroken_base (client : String) : Unbroken (Plan.ClientNames.ofName client).base.toList := by
  intro t ht hmem
  have hpascal := Plan.mem_pascal_of_mem_base hmem
  have hname := Text.isNameChar_of_mem_pascal hpascal
  have hnot := Text.passesNames_not_isSeparator.of_mem_pascal hpascal
  have hterminators : (lineTerminators.all fun t => !Text.isNameChar t || Text.isSeparator t) = true := by decide
  have hseparator : Text.isSeparator t = true := by simpa [hname] using List.all_eq_true.1 hterminators t ht
  simp [hseparator] at hnot

theorem unbroken_verbs (r : Plan.Route) : Unbroken r.verbs.toList := by
  intro t ht hmem
  rcases r.mem_verbs hmem with hcomma | ⟨method, hverb⟩
  · have hnot : Unbroken ", ".toList := by decide
    exact hnot t ht hcomma
  · have hnot : Unbroken method.verb.toList := by cases method <;> decide
    exact hnot t ht hverb

theorem ended_routeRemark_iff (r : Plan.Route) :
    ['*', '/'] <:+: (Baseline.routeRemark r).toList ↔ ['*', '/'] <:+: r.path.toList := by
  constructor
  · contrapose
    intro hpath
    have hverbs : ¬ ['*', '/'] <:+: r.verbs.toList := seamless_not_ended.starless (r.notMem_verbs (.inl rfl))
    exact seamless_not_ended.between (seamless_not_ended.behind (by decide) hpath) (by decide) hverbs
  · intro hpair
    refine hpair.trans ⟨"Resource for '".toList, "' has methods for the following verbs: ".toList ++ r.verbs.toList, ?_⟩
    simp [Baseline.routeRemark]

theorem unbroken_routeRemark_iff (r : Plan.Route) :
    Unbroken (Baseline.routeRemark r).toList ↔ Unbroken r.path.toList := by
  have hbefore : Unbroken "Resource for '".toList := by decide
  have hbehind : Unbroken "' has methods for the following verbs: ".toList := by decide
  simp only [Baseline.routeRemark, String.toList_append, unbroken_append]
  exact ⟨fun h => h.1.1.2, fun h => ⟨⟨⟨hbefore, h⟩, hbehind⟩, unbroken_verbs r⟩⟩

/-- The lines of a planned description are unbroken if those of the description are, blanks at their ends aside. -/
theorem unbroken_commentText?_iff (text : String) :
    (∀ comment, Plan.commentText? text = some comment → ∀ line ∈ Text.linesOf comment, Unbroken line.toList) ↔
      ∀ line ∈ Text.lines text.toList, Unbroken (Text.trim line) := by
  have hmem : ∀ line, Unbroken (Plan.withoutEnds line) ↔ Unbroken line := fun line =>
    forall₂_congr fun t ht => not_congr (Plan.mem_withoutEnds_iff (by rintro rfl; exact absurd ht (by decide)) line)
  have hplanned : (∀ line ∈ Plan.plannedLines text, Unbroken line) ↔
      ∀ line ∈ Text.lines text.toList, Unbroken (Text.trim line) := by
    constructor
    · intro h line hline
      by_cases hempty : Plan.withoutEnds (Text.trim line) = []
      · rw [← hmem, hempty]
        exact fun _ _ => List.not_mem_nil
      · exact (hmem _).1 (h _ (Plan.mem_withoutEmptyEnds (List.mem_map_of_mem hline) hempty))
    · intro h line hline
      obtain ⟨original, horiginal, rfl⟩ := List.mem_map.1 (Plan.mem_of_mem_withoutEmptyEnds hline)
      exact (hmem _).2 (h original horiginal)
  rw [← hplanned]
  constructor
  · intro h line hline
    have hne : Plan.plannedLines text ≠ [] := List.ne_nil_of_mem hline
    have hcomment := Plan.commentText?_eq text
    rw [if_neg hne] at hcomment
    have hlines := h _ hcomment
    rw [Plan.linesOf_commentText? hcomment, List.forall_mem_map] at hlines
    simpa using hlines line hline
  · intro h comment hcomment
    rw [Plan.linesOf_commentText? hcomment, List.forall_mem_map]
    intro line hline
    rw [String.toList_ofList]
    exact h line hline

theorem description_of_plannedAs {e : String × Service.PathEntry × Service.Operation} {o : Operation}
    (h : PlannedAs e o) : o.description = e.2.2.description.bind Plan.commentText? := by
  obtain ⟨_, shaped, _, rfl⟩ := Plan.shapeOperation_eq_ok_iff.1 h
  rfl

/-! ## Files -/

section Files

variable {m : Service.Model} {ops : List Operation} (h : Plan.operations m = .ok ops) {part : Part}
  (hpart : part ∈ Plan.sourceParts m ops)
include h hpart

omit h in
theorem names_of_clientClass {k : Plan.ClientClass} (hk : part = .clientClass k) :
    k.names = Plan.ClientNames.ofName m.clientName := by
  subst hk
  rcases Plan.mem_sourceParts_iff.1 hpart with heq | heq | ⟨_, _, heq⟩
  · cases heq
  · obtain rfl := Part.clientClass.inj heq
    rfl
  · cases heq

/-- The block comments of a part are as they should be exactly if no path of a route ends one. -/
theorem forall_contained_iff (bodyLine : Operation → List String) :
    (∀ c, .comment c ∈ Outline.ofPartWith bodyLine part → c.Contained) ↔
      ∀ r ∈ part.routes, ¬ ['*', '/'] <:+: r.path.toList := by
  have hremark : ∀ r : Plan.Route, (Comment.remark "  " (Baseline.routeRemark r)).Contained ↔
      ¬ ['*', '/'] <:+: r.path.toList := fun r =>
    (Comment.contained_iff (.remark "  " _) (show '/' ∉ "  ".toList by decide)).trans
      (not_congr (ended_routeRemark_iff r))
  constructor
  · intro hall r hr
    exact (hremark r).1 (hall _ (Outline.comment_mem_ofPartWith.2 (.inr (.inl ⟨r, hr, rfl⟩))))
  · intro hpaths c hc
    rcases Outline.comment_mem_ofPartWith.1 hc with ⟨op, hop, text, htext, rfl⟩ | ⟨r, hr, rfl⟩ | ⟨k, hk, rfl⟩
    · have hmargin : '/' ∉ part.margin.toList := by rcases part.margin_eq with heq | heq <;> simp [heq]
      refine (Comment.contained_iff (.description part.margin text) hmargin).2 ?_
      exact Plan.not_ended_description h (Plan.mem_of_mem_part_operations hpart hop) htext
    · exact (hremark r).2 (hpaths r hr)
    · have hbase : '*' ∉ k.names.base.toList := names_of_clientClass hpart hk ▸ fun hmem =>
        absurd (Plan.isNameChar_of_mem_base hmem) (by decide)
      refine (Comment.contained_iff (.remark "" _) (show '/' ∉ "".toList by decide)).2 (seamless_not_ended.starless ?_)
      simp [Comment.text, Baseline.classRemark, hbase]

/-- The line comments of a part are as they should be exactly if no path of a route ends a line, and no description does
within one of its lines. -/
theorem forall_oneLined_iff (bodyLine : Operation → List String) :
    (∀ c, .comment c ∈ Outline.ofPartWith bodyLine part → c.OneLined) ↔
      (∀ r ∈ part.routes, Unbroken r.path.toList) ∧
        ∀ e ∈ m.operations, ∀ op ∈ part.operations, PlannedAs e op →
          ∀ description, e.2.2.description = some description →
            ∀ line ∈ Text.lines description.toList, Unbroken (Text.trim line) := by
  have hspaces : Unbroken "  ".toList := by decide
  have hempty : Unbroken "".toList := fun _ _ => List.not_mem_nil
  have hmargin : Unbroken part.margin.toList := by
    rcases part.margin_eq with heq | heq
    · exact heq ▸ hempty
    · exact heq ▸ hspaces
  have hremark : ∀ r : Plan.Route,
      (Comment.remark "  " (Baseline.routeRemark r)).OneLined ↔ Unbroken r.path.toList := by
    intro r
    rw [Comment.oneLined_iff (.remark "  " _) hspaces, Comment.lines, List.forall_mem_singleton,
      unbroken_routeRemark_iff]
  have hdescription : ∀ text, (Comment.description part.margin text).OneLined ↔
      ∀ line ∈ Text.linesOf text, Unbroken line.toList := fun text =>
    Comment.oneLined_iff (.description part.margin text) hmargin
  constructor
  · intro hall
    refine ⟨fun r hr => ?_, fun e he op hop hplanned description hdeclared => ?_⟩
    · exact (hremark r).1 (hall _ (Outline.comment_mem_ofPartWith.2 (.inr (.inl ⟨r, hr, rfl⟩))))
    · refine (unbroken_commentText?_iff description).1 fun text htext => (hdescription text).1 ?_
      refine hall _ (Outline.comment_mem_ofPartWith.2 (.inl ⟨op, hop, text, ?_, rfl⟩))
      rw [description_of_plannedAs hplanned, hdeclared, Option.bind_some, htext]
  · rintro ⟨hpaths, hdescriptions⟩ c hc
    rcases Outline.comment_mem_ofPartWith.1 hc with ⟨op, hop, text, htext, rfl⟩ | ⟨r, hr, rfl⟩ | ⟨k, hk, rfl⟩
    · obtain ⟨e, he, hplanned⟩ := exists_mem_of_forall₂ (Plan.operations_eq_ok_iff.1 h).1
        (Plan.mem_of_mem_part_operations hpart hop)
      rw [description_of_plannedAs hplanned] at htext
      obtain ⟨description, hdeclared, hcomment⟩ := Option.bind_eq_some_iff.1 htext
      have hlines := hdescriptions e he op hop hplanned description hdeclared
      exact (hdescription text).2 ((unbroken_commentText?_iff description).2 hlines text hcomment)
    · exact (hremark r).2 (hpaths r hr)
    · have hbase : Unbroken k.names.base.toList := names_of_clientClass hpart hk ▸ unbroken_base m.clientName
      have hbefore : Unbroken "Client for the ".toList := by decide
      have hbehind : Unbroken " service.".toList := by decide
      refine (Comment.oneLined_iff (.remark "" _) hempty).2 ?_
      rw [Comment.lines, List.forall_mem_singleton, Baseline.classRemark, String.toList_append, String.toList_append,
        unbroken_append, unbroken_append]
      exact ⟨⟨hbefore, hbase⟩, hbehind⟩

/-- The files of a plan are outlines in the one or the other style. In the one style all comments keep to their place
exactly if no path of a documented route ends a block comment; in the other, exactly if no such path ends a line, and no
description does within one of its lines. -/
theorem containment_spec :
    (∀ file, Declarative.emit part = .ok file →
      file.content = (Outline.ofPartWith Declarative.bodyTexts part).write Comment.starred) ∧
      Baseline.emit part = .ok ⟨part.path, (Outline.ofPartWith Baseline.bodyLine part).write Comment.slashed⟩ ∧
      ((∀ c, .comment c ∈ Outline.ofPartWith Declarative.bodyTexts part → c.Contained) ↔
        ∀ r ∈ part.routes, ¬ ['*', '/'] <:+: r.path.toList) ∧
      ((∀ c, .comment c ∈ Outline.ofPartWith Baseline.bodyLine part → c.OneLined) ↔
        (∀ r ∈ part.routes, Unbroken r.path.toList) ∧
          ∀ e ∈ m.operations, ∀ op ∈ part.operations, PlannedAs e op →
            ∀ description, e.2.2.description = some description →
              ∀ line ∈ Text.lines description.toList, Unbroken (Text.trim line)) := by
  refine ⟨fun file hfile => (content_eq_of_emit_declarative h hpart hfile).2, ?_,
    forall_contained_iff h hpart Declarative.bodyTexts, forall_oneLined_iff h hpart Baseline.bodyLine⟩
  rw [Outline.emit_baseline_eq, Outline.ofPart_eq]

end Files

theorem containment_spec_things : Plan.operations things = .ok plannedThings ∧
    ∀ part ∈ Plan.sourceParts things plannedThings,
      (∃ file, Declarative.emit part = .ok file ∧
        file.content = (Outline.ofPartWith Declarative.bodyTexts part).write Comment.starred) ∧
      (∀ c, .comment c ∈ Outline.ofPartWith Declarative.bodyTexts part → c.Contained) ∧
      ∀ c, .comment c ∈ Outline.ofPartWith Baseline.bodyLine part → c.OneLined := by
  refine ⟨operations_things, fun part hpart => ?_⟩
  obtain ⟨hcontent, _, hcontained, honeLined⟩ := containment_spec operations_things hpart
  obtain ⟨file, hfile⟩ := Declarative.exists_emit_of_all (by decide +kernel) part hpart
  have hpaths : ∀ part ∈ Plan.sourceParts things plannedThings, ∀ r ∈ part.routes,
      Text.contains r.path "*/" = false ∧ Unbroken r.path.toList := by decide +kernel
  refine ⟨⟨file, hfile, hcontent file hfile⟩, hcontained.2 fun r hr => ?_, honeLined.2 ⟨fun r hr => ?_, ?_⟩⟩
  · exact Text.contains_eq_false_iff.1 (hpaths part hpart r hr).1
  · exact (hpaths part hpart r hr).2
  · intro e he op _ _ description hdescription
    obtain rfl : e = ("/things/\x7bid\x7d", ⟨"thing", none, [], [readThing]⟩, readThing) := List.mem_singleton.1 he
    obtain rfl := Option.some.inj hdescription
    decide

/-- Under a path with the end of a comment in it, described with a separator of lines. -/
def clearNested : Service.Operation where
  name := "clear"
  method := .delete
  description := some "Clears\u2028all files."
  response := ⟨"void", []⟩
  parameters := []
  longRunning := none
  paging := none

def nested : Service.Model where
  options := { Service.Options.default with title := some "Files" }
  sourcePath := "src"
  paths := ⟨[("/files/*/b", ⟨"Files", none, [], [clearNested]⟩)], by simp⟩

def plannedNested : List Operation := [Plan.plannedOperation "clear" "/files/*/b" none clearNested []]

/-- The block comment of the route ends in the path, and the line comment of the operation at the separator. -/
theorem containment_nested :
    let part := Part.clientDefinitions (Plan.clientDefinitions nested plannedNested)
    let route := Comment.remark "  " "Resource for '/files/*/b' has methods for the following verbs: delete"
    let operation := Comment.description "  " "Clears\u2028all files."
    Plan.operations nested = .ok plannedNested ∧ part ∈ Plan.sourceParts nested plannedNested ∧
      (∃ file, Declarative.emit part = .ok file ∧
        file.content = (Outline.ofPartWith Declarative.bodyTexts part).write Comment.starred) ∧
      (.comment route ∈ Outline.ofPartWith Declarative.bodyTexts part ∧ ¬ route.Contained) ∧
      .comment operation ∈ Outline.ofPartWith Baseline.bodyLine part ∧ ¬ operation.OneLined := by
  intro part route operation
  have hplan : Plan.operations nested = .ok plannedNested := by decide +kernel
  have hpart : part ∈ Plan.sourceParts nested plannedNested := List.mem_cons_self
  obtain ⟨file, hfile⟩ := Declarative.exists_emit_of_all
    (by decide +kernel : ((Plan.sourceParts nested plannedNested).all fun part =>
      (Declarative.emit part).toOption.isSome) = true) part hpart
  refine ⟨hplan, hpart, ⟨file, hfile, (content_eq_of_emit_declarative hplan hpart hfile).2⟩, ⟨?_, ?_⟩, ?_, ?_⟩
  · refine Outline.comment_mem_ofPartWith.2 (.inr (.inl ⟨⟨"/files/*/b", "Files", [], [.delete], ["void"]⟩, ?_, rfl⟩))
    have hroutes : Plan.routes nested plannedNested = [⟨"/files/*/b", "Files", [], [.delete], ["void"]⟩] := by
      decide +kernel
    change _ ∈ Plan.routes nested plannedNested
    rw [hroutes]
    exact List.mem_cons_self
  · rw [Comment.contained_iff route (show '/' ∉ "  ".toList by decide), not_not]
    exact ⟨"Resource for '/files/".toList, "b' has methods for the following verbs: delete".toList, by decide⟩
  · refine Outline.comment_mem_ofPartWith.2
      (.inl ⟨Plan.plannedOperation "clear" "/files/*/b" none clearNested [], ?_, _, by decide +kernel, rfl⟩)
    have hgroups : Plan.groups plannedNested = [⟨"ClientOperations", none, plannedNested⟩] := by decide +kernel
    exact List.mem_flatMap.2 ⟨_, hgroups ▸ List.mem_cons_self, List.mem_cons_self⟩
  · rw [Comment.oneLined_iff operation (show Unbroken "  ".toList by decide)]
    decide

end ClientGen
