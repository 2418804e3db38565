import ClientGen.Proofs.Comparison.CodeLines

/-!
# Legible models

A model is legible if none of its texts is taken for a comment, or for the end of one, where a plan writes it. Then all
files of its plan together have the same normal form in both styles.
-/

namespace ClientGen

open Plan (Operation Part)
open Text (Seamless)

/-! ## Comments of a plan -/

/-- What the comments in the files of a plan say: descriptions of operations, and remarks about the client and its
routes. -/
inductive Plan.Says (m : Service.Model) (ops : List Operation) : Comment → Prop
  | operation {margin text : String} {op : Operation} (hmargin : margin = "" ∨ margin = "  ") (hop : op ∈ ops)
      (htext : op.description = some text) : Says m ops (.description margin text)
  | client : Says m ops (.remark "" (Baseline.classRemark (Plan.clientClass m ops)))
  | route {r : Plan.Route} (hr : r ∈ Plan.routes m ops) : Says m ops (.remark "  " (Baseline.routeRemark r))

namespace Outline

@[simp] theorem comment_mem_lines (c : Comment) (texts : List String) : ¬ Piece.comment c ∈ lines texts := by
  simp [lines]

@[simp] theorem comment_mem_described {c : Comment} {margin : String} {description : Option String} :
    Piece.comment c ∈ described margin description ↔
      ∃ text, description = some text ∧ c = .description margin text := by
  cases description <;> simp [described]

/-- A plan has no other comments. -/
theorem says_of_comment_mem {m : Service.Model} {ops : List Operation} {part : Part}
    (hpart : part ∈ Plan.sourceParts m ops) {c : Comment} (hc : .comment c ∈ ofPart part) : Plan.Says m ops c := by
  rcases Plan.mem_sourceParts_iff.1 hpart with rfl | rfl | ⟨op, hop, rfl⟩
  · simp only [ofPart, ofClientDefinitions, ofRoute, ofGroup, ofGroupMember, List.mem_append, List.mem_flatMap,
      List.mem_singleton, Piece.comment.injEq, comment_mem_lines, comment_mem_described, false_or, or_false] at hc
    rcases hc with ⟨r, hr, rfl⟩ | ⟨g, hg, op, hop, text, htext, rfl⟩
    · exact .route hr
    · exact .operation (.inr rfl) ((Plan.ofPlan_of_mem_groups hg).operations op hop) htext
  · simp only [ofPart, ofClientClass, ofMethod, List.mem_append, List.mem_flatMap, List.mem_singleton,
      Piece.comment.injEq, comment_mem_lines, comment_mem_described, false_or, or_false] at hc
    rcases hc with rfl | ⟨op, hop, text, htext, rfl⟩
    · exact .client
    · exact .operation (.inr rfl) hop htext
  · simp only [ofPart, ofOperationFile, List.mem_append, comment_mem_lines, comment_mem_described, false_or,
      or_false] at hc
    obtain ⟨text, htext, rfl⟩ := hc
    exact .operation (.inl rfl) hop htext

end Outline

namespace Plan

/-- The verbs of a route are words between commas. -/
theorem Route.mem_verbs {r : Route} {c : Char} (h : c ∈ r.verbs.toList) :
    c ∈ ", ".toList ∨ ∃ method : HttpMethod, c ∈ method.verb.toList := by
  refine (Text.mem_toList_joined h).imp_right ?_
  rintro ⟨verb, hverb, hmem⟩
  obtain ⟨method, _, rfl⟩ := List.mem_map.1 hverb
  exact ⟨method, hmem⟩

theorem Route.notMem_verbs (r : Route) {c : Char} (hc : c = '*' ∨ c = '\n') : c ∉ r.verbs.toList := by
  intro hmem
  rcases r.mem_verbs hmem with hcomma | ⟨method, hverb⟩
  · rcases hc with rfl | rfl <;> exact absurd hcomma (by decide)
  · rcases hc with rfl | rfl <;> cases method <;> exact absurd hverb (by decide)

/-- Nothing in the texts of a model is taken for a comment, or for the end of one, where it stands in its plan. -/
structure Legible (m : Service.Model) (ops : List Operation) : Prop where
  /-- What looks like a comment in a text of the code ends in that text. -/
  closed : ∀ text ∈ codeTexts m ops, Comparison.closes 0 text.toList = true
  /-- A path of a route stays within its comment. -/
  routePaths : ∀ r ∈ routes m ops, Text.contains r.path "*/" = false ∧ '\n' ∉ r.path.toList
  /-- What looks like a comment does not go from the text of a comment to a text of the code. -/
  apart : (∀ text ∈ commentTexts m ops, Text.contains text "/*" = false) ∨
    ∀ text ∈ codeTexts m ops, Text.contains text "*/" = false

/-- A model is legible if there are no stars but in its descriptions, and no line ends in its routes. -/
theorem Legible.of_starless {m : Service.Model} {ops : List Operation}
    (hcode : ∀ text ∈ codeTexts m ops, '*' ∉ text.toList)
    (hroutes : ∀ r ∈ routes m ops, '*' ∉ r.path.toList ∧ '\n' ∉ r.path.toList) : Legible m ops := by
  have hends : ∀ {text : String}, '*' ∉ text.toList → Text.contains text "*/" = false := fun hstar =>
    Text.contains_eq_false_iff.2 fun hpair => hstar (hpair.subset (by simp))
  refine ⟨fun text htext => Comparison.closes_of_starless (hcode text htext), fun r hr => ?_, .inr fun text htext => ?_⟩
  · exact ⟨hends (hroutes r hr).1, (hroutes r hr).2⟩
  · exact hends (hcode text htext)

namespace Says

variable {m : Service.Model} {ops : List Operation} {c : Comment} (h : Says m ops c)
include h

/-- A comment says nothing but texts of the model, apart from words. -/
theorem holds {P : String → Prop} (hP : Seamless P) (htexts : ∀ text ∈ commentTexts m ops, P text) : P c.text := by
  cases h with
  | @operation margin text op hmargin hop htext =>
    refine htexts text (List.mem_append_left _ (List.mem_flatMap.2 ⟨op, hop, ?_⟩))
    rw [htext]
    exact List.mem_singleton_self text
  | client =>
    have hbase : '*' ∉ (clientClass m ops).names.base.toList := (starless_ofName m.clientName).base
    exact hP.starless (by simp [Comment.text, Baseline.classRemark, hbase])
  | @route r hr =>
    have hpath : P r.path := htexts _ (List.mem_append_right _ (List.mem_map_of_mem hr))
    have hverbs : P r.verbs := hP.starless (r.notMem_verbs (.inl rfl))
    exact hP.between (hP.behind (by decide) hpath) (by decide) hverbs

theorem notMem_newline_lines (hpaths : ∀ r ∈ routes m ops, '\n' ∉ r.path.toList) :
    ∀ line ∈ c.lines, '\n' ∉ line.toList := by
  cases h with
  | operation hmargin hop htext =>
    rw [Comment.lines, Text.linesOf, List.forall_mem_map]
    intro line hline
    rw [String.toList_ofList]
    exact (Text.lines_spec hline).2
  | client =>
    have hbase : '\n' ∉ (clientClass m ops).names.base.toList := fun hmem =>
      absurd (isNameChar_of_mem_base hmem) (by decide)
    simp [Comment.lines, Baseline.classRemark, hbase]
  | @route r hr =>
    have hverbs : '\n' ∉ r.verbs.toList := r.notMem_verbs (.inr rfl)
    simp [Comment.lines, Baseline.routeRemark, hpaths r hr, hverbs]

/-- Comments of a legible model keep to their places. -/
theorem sound (hops : operations m = .ok ops) (hlegible : Legible m ops) : c.Sound where
  margin := by
    cases h with
    | operation hmargin => rcases hmargin with rfl | rfl <;> simp [Comment.margin]
    | client => simp [Comment.margin]
    | route => simp [Comment.margin]
  ended := by
    refine h.holds seamless_not_ended ?_
    rw [commentTexts, List.forall_mem_append, List.forall_mem_map]
    refine ⟨fun text htext => ?_, fun r hr => Text.contains_eq_false_iff.1 (hlegible.routePaths r hr).1⟩
    obtain ⟨op, hop, hdescription⟩ := List.mem_flatMap.1 htext
    exact not_ended_description hops hop (Option.mem_toList.1 hdescription)
  lines := h.notMem_newline_lines fun r hr => (hlegible.routePaths r hr).2

end Says

end Plan

/-! ## All files together -/

namespace Outline

/-- Outlines one behind the other, with a blank line between any two of them. -/
def stacked : List Outline → Outline
  | [] => []
  | [o] => o
  | o :: next :: rest => o ++ lines [""] ++ stacked (next :: rest)

theorem write_stacked (style : Comment → String) (os : List Outline) :
    write style (stacked os) = Text.joined "\n" (os.map (write style)) := by
  fun_induction stacked os with
  | case1 => rfl
  | case2 o => rfl
  | case3 o next rest ih => simp [ih, Text.joined, String.append_assoc]

theorem mem_stacked {os : List Outline} {p : Piece} (h : p ∈ stacked os) :
    p = .code (Text.unlines [""]) ∨ ∃ o ∈ os, p ∈ o := by
  fun_induction stacked os with
  | case1 => cases h
  | case2 o => exact .inr ⟨o, List.mem_cons_self, h⟩
  | case3 o next rest ih =>
    rw [List.mem_append, List.mem_append] at h
    rcases h with (ho | hblank) | hrest
    · exact .inr ⟨o, List.mem_cons_self, ho⟩
    · exact .inl (List.mem_singleton.1 hblank)
    · exact (ih hrest).imp_right fun ⟨o, ho, hp⟩ => ⟨o, List.mem_cons_of_mem _ ho, hp⟩

/-- All files of source code of a plan, in order. -/
def ofSources (m : Service.Model) (ops : List Operation) : Outline :=
  stacked ((Plan.sourceParts m ops).map ofPart)

section Sources

variable {m : Service.Model} {ops : List Operation}

theorem mem_ofSources {p : Piece} (h : p ∈ ofSources m ops) :
    p = .code (Text.unlines [""]) ∨ ∃ part ∈ Plan.sourceParts m ops, p ∈ ofPart part := by
  refine (mem_stacked h).imp_right ?_
  rintro ⟨o, ho, hp⟩
  obtain ⟨part, hpart, rfl⟩ := List.mem_map.1 ho
  exact ⟨part, hpart, hp⟩

theorem says_of_comment_mem_ofSources {c : Comment} (h : .comment c ∈ ofSources m ops) : Plan.Says m ops c := by
  rcases mem_ofSources h with hcode | ⟨part, hpart, hc⟩
  · cases hcode
  · exact says_of_comment_mem hpart hc

variable (hops : Plan.operations m = .ok ops)
include hops

theorem codeLinesHave_ofSources {P : String → Prop} (hP : Seamless P) (htexts : ∀ text ∈ Plan.codeTexts m ops, P text) :
    (ofSources m ops).CodeLinesHave P := by
  intro text htext
  rcases mem_ofSources htext with hblank | ⟨part, hpart, hcode⟩
  · obtain rfl := Piece.code.inj hblank
    exact ⟨[""], rfl, List.forall_mem_singleton.2 (hP.starless (by simp))⟩
  · exact codeLinesHave_ofPart hP hops htexts hpart text hcode

/-- The files of a legible model have the same normal form in both styles. -/
theorem normalize_write_ofSources (h : Plan.Legible m ops) :
    Comparison.normalize ((ofSources m ops).write Comment.starred) =
      Comparison.normalize ((ofSources m ops).write Comment.slashed) := by
  refine normalize_write_eq (codeLinesHave_ofSources hops Comparison.seamless_closes h.closed)
    (fun c hc => (says_of_comment_mem_ofSources hc).sound hops h) (h.apart.imp ?_ ?_)
  · exact fun hbegun c hc => (says_of_comment_mem_ofSources hc).holds seamless_not_begun fun text htext =>
      Text.contains_eq_false_iff.1 (hbegun text htext)
  · exact fun hended => codeLinesHave_ofSources hops seamless_not_ended fun text htext =>
      Text.contains_eq_false_iff.1 (hended text htext)

end Sources

end Outline

end ClientGen
