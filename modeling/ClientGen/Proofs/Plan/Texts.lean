import ClientGen.Json.Printer
import ClientGen.Proofs.Plan.Names
import ClientGen.Proofs.Text.Lines
import ClientGen.Proofs.Text.Seams

/-!
# Texts of a model in a plan

The texts of a model that a plan writes into code, each as it stands there, and those that it writes into comments. A
description that is planned does not end a comment.
-/

namespace ClientGen.Plan

/-! ## In code -/

def Parameter.texts (p : Parameter) : List String :=
  [p.name, Json.quoted p.name, p.type] ++ p.wireName?.toList.map Json.quoted

def LongRunning.texts (l : LongRunning) : List String := l.resultType :: l.resultPath

def Paging.texts (p : Paging) : List String :=
  [Json.quoted p.itemField, p.itemType] ++ p.nextLinkField.toList.map Json.quoted

def Operation.texts (op : Operation) : List String :=
  [Json.quoted op.path, op.responseType] ++ op.expectedStatuses.map Json.quoted ++
    (op.parameters ++ op.clientParameters).flatMap Parameter.texts ++ op.longRunning.toList.flatMap LongRunning.texts ++
    op.paging.toList.flatMap Paging.texts

def Route.texts (r : Route) : List String :=
  Json.quoted r.path :: r.responseTypes ++ r.parameters.flatMap fun p => [p.name, p.type]

/-- The texts of a model in the code that is planned for it. -/
def codeTexts (m : Service.Model) (ops : List Operation) : List String :=
  ops.flatMap Operation.texts ++ (routes m ops).flatMap Route.texts

/-- The texts of a model in the comments that are planned for it. -/
def commentTexts (m : Service.Model) (ops : List Operation) : List String :=
  (ops.flatMap fun op => op.description.toList) ++ (routes m ops).map Route.path

/-! ## In comments -/

/-- A text in which whatever ends a comment is broken up. -/
abbrev withoutEnds (s : List Char) : List Char := Text.replace ['*', '/'] ['*', '\\', '/'] s

/-- What ends a comment is gone after it is broken up, and no other character comes to the front. -/
theorem replace_commentEnd (s : List Char) :
    (withoutEnds s).head? = s.head? ∧ ¬ ['*', '/'] <:+: withoutEnds s := by
  induction s using Text.replace_induction (show ['*', '/'] ≠ [] by simp) with
  | hnil => exact ⟨rfl, by simp [Text.replace, Text.replaceAfter]⟩
  | hpiece s ih =>
    rw [withoutEnds, Text.replace_piece (by simp)]
    refine ⟨rfl, ?_⟩
    simp [List.infix_cons_iff, List.cons_prefix_cons, ih.2]
  | hcons c s hend ih =>
    obtain ⟨hhead, hnot⟩ := ih
    rw [withoutEnds, Text.replace_cons hend]
    refine ⟨rfl, fun hpair => ?_⟩
    rcases List.infix_cons_iff.1 hpair with hprefix | hinfix
    · obtain ⟨rfl, rest, hrest⟩ := List.cons_prefix_cons.1 hprefix
      rw [withoutEnds, ← hrest] at hhead
      obtain ⟨rest', rfl⟩ := List.head?_eq_some_iff.1 hhead.symm
      exact hend ⟨rest', rfl⟩
    · exact hnot hinfix

theorem getLast?_withoutEnds (s : List Char) : (withoutEnds s).getLast? = s.getLast? := by
  induction s using Text.replace_induction (show ['*', '/'] ≠ [] by simp) with
  | hnil => rfl
  | hpiece s ih =>
    rw [withoutEnds, Text.replace_piece (by simp), List.getLast?_append, List.getLast?_append, ih]
    rfl
  | hcons c s hend ih => rw [withoutEnds, Text.replace_cons hend, List.getLast?_cons, List.getLast?_cons, ih]

/-- Breaking up brings in backslashes and takes nothing away. -/
theorem mem_withoutEnds_iff {c : Char} (hc : c ≠ '\\') (s : List Char) : c ∈ withoutEnds s ↔ c ∈ s := by
  induction s using Text.replace_induction (show ['*', '/'] ≠ [] by simp) with
  | hnil => rfl
  | hpiece s ih =>
    rw [withoutEnds, Text.replace_piece (by simp), List.mem_append, List.mem_append, ih]
    simp [hc]
  | hcons d s hend ih => rw [withoutEnds, Text.replace_cons hend, List.mem_cons, List.mem_cons, ih]

theorem withoutEmptyEnds_eq_stripped (lines : List (List Char)) :
    withoutEmptyEnds lines = Text.stripped List.isEmpty lines := rfl

theorem mem_of_mem_withoutEmptyEnds {lines : List (List Char)} {line : List Char} (h : line ∈ withoutEmptyEnds lines) :
    line ∈ lines :=
  Text.mem_of_mem_stripped h

theorem mem_withoutEmptyEnds {lines : List (List Char)} {line : List Char} (h : line ∈ lines) (hne : line ≠ []) :
    line ∈ withoutEmptyEnds lines :=
  Text.mem_stripped h (by simpa using hne)

/-- The lines of a description as they are planned. -/
def plannedLines (text : String) : List (List Char) :=
  withoutEmptyEnds ((Text.lines text.toList).map fun line => withoutEnds (Text.trim line))

theorem commentText?_eq (text : String) : commentText? text =
    if plannedLines text = [] then none else some (Text.joined "\n" ((plannedLines text).map String.ofList)) := by
  unfold commentText?
  dsimp only
  split
  · next hnil => exact (if_pos hnil).symm
  · next hne => exact (if_neg hne).symm

theorem eq_joined_of_commentText? {text comment : String} (h : commentText? text = some comment) :
    comment = Text.joined "\n" ((plannedLines text).map String.ofList) := by
  rw [commentText?_eq] at h
  split at h
  · cases h
  · exact (Option.some.inj h).symm

theorem isLine_of_mem_plannedLines {text : String} {line : List Char} (h : line ∈ plannedLines text) :
    Text.IsLine line := by
  obtain ⟨original, horiginal, rfl⟩ := List.mem_map.1 (mem_of_mem_withoutEmptyEnds h)
  constructor
  · rw [mem_withoutEnds_iff (by decide)]
    exact fun hmem => (Text.lines_spec horiginal).2 ((Text.trim_isInfix original).subset hmem)
  · rw [getLast?_withoutEnds, Text.trim_eq_stripped]
    intro hlast
    exact absurd (Text.of_getLast?_stripped hlast) (by decide)

/-- The lines of a planned description are those that were planned for it. -/
theorem linesOf_commentText? {text comment : String} (h : commentText? text = some comment) :
    Text.linesOf comment = (plannedLines text).map String.ofList := by
  rw [eq_joined_of_commentText? h]
  refine Text.linesOf_joined ?_ ?_
  · rw [List.forall_mem_map]
    intro line hline
    rw [String.toList_ofList]
    exact isLine_of_mem_plannedLines hline
  · rw [List.getLast?_map]
    intro hlast
    obtain ⟨line, hline, hempty⟩ := Option.map_eq_some_iff.1 hlast
    obtain rfl : line = [] := by simpa using congrArg String.toList hempty
    exact absurd (Text.of_getLast?_stripped hline) (by decide)

theorem not_ended_of_commentText? {text comment : String} (h : commentText? text = some comment) :
    ¬ ['*', '/'] <:+: comment.toList := by
  rw [eq_joined_of_commentText? h]
  refine (Text.seamless_pair (.inr rfl) (.inl rfl) (by simp)).joined (by decide) ?_
  rw [List.forall_mem_map]
  intro line hline
  obtain ⟨original, _, rfl⟩ := List.mem_map.1 (mem_of_mem_withoutEmptyEnds hline)
  rw [String.toList_ofList]
  exact (replace_commentEnd _).2

theorem not_ended_description {m : Service.Model} {ops : List Operation} (h : operations m = .ok ops) {op : Operation}
    (hop : op ∈ ops) {text : String} (htext : op.description = some text) : ¬ ['*', '/'] <:+: text.toList := by
  obtain ⟨e, _, shaped, _, rfl⟩ := exists_of_mem_operations h hop
  obtain ⟨description, _, hcomment⟩ := Option.bind_eq_some_iff.1 htext
  exact not_ended_of_commentText? hcomment

end ClientGen.Plan
