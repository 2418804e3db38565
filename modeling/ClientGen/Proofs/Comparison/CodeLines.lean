import ClientGen.Proofs.Comparison.Outlines
import ClientGen.Proofs.Imports.Statements
import ClientGen.Proofs.Plan.Texts

/-!
# Lines of code of a planned model

Every line of a template is put together from texts of the model with something solid between any two of them. So
whatever all these texts have that seams keep, the lines of code have as well.
-/

namespace ClientGen

open Plan (Operation Parameter)
open Text (Seamless Solid)

variable {P : String → Prop} (hP : Seamless P)

/-- An operation with a starless name, and with texts that have a property. -/
structure Plan.Operation.TextsHave (P : String → Prop) (op : Operation) : Prop where
  name : '*' ∉ op.name.toList
  texts : ∀ text ∈ op.texts, P text

namespace Plan.Operation.TextsHave

variable {op : Operation} (h : op.TextsHave P)
include h

theorem path : P (Json.quoted op.path) := h.texts _ (by simp [Operation.texts])

theorem responseType : P op.responseType := h.texts _ (by simp [Operation.texts])

theorem expectedStatuses {status : String} (hstatus : status ∈ op.expectedStatuses) : P (Json.quoted status) := by
  refine h.texts _ ?_
  simp only [Operation.texts, List.mem_append]
  exact .inl (.inl (.inl (.inr (List.mem_map_of_mem hstatus))))

theorem parameter {p : Parameter} (hp : p ∈ op.parameters ∨ p ∈ op.clientParameters) : ∀ text ∈ p.texts, P text := by
  intro text htext
  refine h.texts _ ?_
  simp only [Operation.texts, List.mem_append, List.mem_flatMap]
  exact .inl (.inl (.inr ⟨p, hp, htext⟩))

theorem longRunning {l : LongRunning} (hl : op.longRunning = some l) : ∀ text ∈ l.texts, P text := by
  intro text htext
  refine h.texts _ ?_
  simp only [Operation.texts, List.mem_append, List.mem_flatMap]
  exact .inl (.inr ⟨l, by simp [hl], htext⟩)

theorem paging {p : Paging} (hp : op.paging = some p) : ∀ text ∈ p.texts, P text := by
  intro text htext
  refine h.texts _ ?_
  simp only [Operation.texts, List.mem_append, List.mem_flatMap]
  exact .inr ⟨p, by simp [hp], htext⟩

end Plan.Operation.TextsHave

namespace Plan

/-! ## Signatures and types -/

section Parameter

variable {p : Parameter} (h : ∀ text ∈ p.texts, P text)
include h

theorem Parameter.holds_name : P p.name := h _ (by simp [texts])

theorem Parameter.holds_type : P p.type := h _ (by simp [texts])

theorem Parameter.holds_quoted : P (Json.quoted p.name) := h _ (by simp [texts])

include hP

theorem Parameter.holds_signature : P p.signature := by
  unfold signature
  split
  · exact hP.between (hP.before (holds_name h) (by decide)) (by decide) (holds_type h)
  · rw [String.append_empty]
    exact hP.between (holds_name h) (by decide) (holds_type h)

theorem Parameter.holds_declaration : P p.declaration := by
  unfold declaration default?
  split
  · next value hvalue =>
    split at hvalue
    · obtain rfl := Option.some.inj hvalue
      have hdefault : P optionsDefault := hP.starless (by decide)
      exact hP.between (hP.between (holds_name h) (by decide) (holds_type h)) (by decide) hdefault
    · cases hvalue
  · exact holds_signature hP h

end Parameter

section Operation

variable {op : Operation} (h : op.TextsHave P)
include h

theorem holds_resultType : P op.resultType := by
  unfold Operation.resultType
  split
  · next l hl => exact h.longRunning hl _ (by simp [LongRunning.texts])
  · exact h.responseType

theorem holds_itemType : P op.itemType := by
  unfold Operation.itemType
  split
  · next p hp => exact h.paging hp _ (by simp [Paging.texts])
  · exact h.responseType

include hP

theorem holds_parameters (f : Parameter → String) (hf : ∀ p, (∀ text ∈ p.texts, P text) → P (f p)) :
    P (Text.joined ", " (op.parameters.map f)) := by
  refine hP.joined (by decide) ?_
  rw [List.forall_mem_map]
  exact fun p hp => hf p (h.parameter (.inl hp))

theorem holds_returnType : P op.returnType := by
  have hresult := holds_resultType h
  unfold Operation.returnType
  split
  · exact hP.before (hP.between (hP.behind (by decide) hresult) (by decide) hresult) (by decide)
  · exact hP.before (hP.behind (by decide) (holds_itemType h)) (by decide)
  · exact hP.before (hP.behind (by decide) h.responseType) (by decide)

theorem holds_deserializeType : P op.deserializeType :=
  hP.before (hP.behind (by decide) (holds_resultType h)) (by decide)

end Operation

end Plan

/-! ## The file of an operation -/

namespace Baseline

open Plan (holds_parameters holds_returnType holds_deserializeType)

variable {op : Operation} (h : op.TextsHave P)
include hP h

theorem holds_declaredParameters {contextType : String} (hcontext : '*' ∉ contextType.toList) :
    P (declaredParameters op contextType) := by
  have hfirst : P ("context: " ++ contextType) := hP.starless (by simp [hcontext])
  exact hP.between hfirst (by decide) (holds_parameters hP h _ fun p hp => Parameter.holds_declaration hP hp)

theorem holds_pathArguments : P (pathArguments op) :=
  hP.chain h.path (by decide) fun _ hp => Parameter.holds_name (h.parameter (.inl (List.mem_of_mem_filter hp)))

theorem holds_arguments : P (arguments op) := by
  refine hP.joined (by decide) (List.forall_mem_cons.2 ⟨hP.starless (by decide), ?_⟩)
  rw [Operation.argumentNames, List.forall_mem_map]
  exact fun p hp => Parameter.holds_name (h.parameter (.inl hp))

theorem holds_quotedStatuses : P (Json.quotedList op.expectedStatuses) := by
  have hitems : P (Text.joined ", " (op.expectedStatuses.map Json.quoted)) := by
    refine hP.joined (by decide) ?_
    rw [List.forall_mem_map]
    exact fun _ => h.expectedStatuses
  exact hP.before (hP.behind (by decide) hitems) (by decide)

omit h in
theorem holds_membersLine {label : String} (hlabel : '*' ∉ label.toList) {members : List (String × Parameter)}
    (hmembers : ∀ e ∈ members, P (Json.quoted e.1) ∧ P e.2.name) : ∀ l ∈ membersLine label members, P l := by
  unfold membersLine
  split
  · simp
  · rw [List.forall_mem_singleton]
    have harguments : P (namedArguments members) := by
      refine hP.joined (by decide) ?_
      rw [List.forall_mem_map]
      exact fun e he => hP.between (hmembers e he).1 (by decide) (hmembers e he).2
    have hlabel : P ("    " ++ label) := hP.starless (by simp [hlabel])
    exact hP.before (hP.between hlabel (by decide) harguments) (by decide)

omit hP in
theorem holds_queryMembers : ∀ e ∈ queryMembers op, P (Json.quoted e.1) ∧ P e.2.name := by
  rw [queryMembers, List.forall_mem_map]
  intro p hp
  have htexts := h.parameter (.inl (List.mem_of_mem_filter hp))
  exact ⟨Parameter.holds_quoted htexts, Parameter.holds_name htexts⟩

omit hP in
theorem holds_headerMembers : ∀ e ∈ headerMembers op, P (Json.quoted e.1) ∧ P e.2.name := by
  intro e he
  obtain ⟨p, hp, hwire⟩ := List.mem_filterMap.1 he
  obtain ⟨name, hname, rfl⟩ := Option.map_eq_some_iff.1 hwire
  have htexts := h.parameter (.inl hp)
  exact ⟨htexts _ (by simp [Parameter.texts, hname]), Parameter.holds_name htexts⟩

theorem holds_bodyLine : ∀ l ∈ bodyLine op, P l := by
  unfold bodyLine
  split
  · next p hp =>
    have hmem : p ∈ op.parametersAt .body := List.mem_of_mem_head? hp
    have hname : P p.name := Parameter.holds_name (h.parameter (.inl (List.mem_of_mem_filter hmem)))
    split
    · simp
    · rw [List.forall_mem_singleton]
      exact hP.before (hP.behind (by decide) hname) (by decide)
  · simp

theorem holds_sendBody : ∀ l ∈ sendBody op, P l := by
  have hpolicy : ∀ l ∈ (if op.removesApiVersionPolicy then
      ["  context.pipeline.removePolicy(\x7b name: \"ClientApiVersionPolicy\" \x7d);"] else []), P l := by
    split
    · exact List.forall_mem_singleton.2 (hP.starless (by decide))
    · simp
  have hverb : P op.method.verb := hP.starless (by cases op.method <;> decide)
  have hcall : P ("  return context.path(" ++ pathArguments op ++ ")." ++ op.method.verb ++ "(\x7b") :=
    hP.before (hP.between (hP.behind (by decide) (holds_pathArguments hP h)) (by decide) hverb) (by decide)
  have hoptions : P "    ...operationOptionsToRequestParameters(options)," := hP.starless (by decide)
  have hend : P "  \x7d);" := hP.starless (by decide)
  simp only [sendBody, List.forall_mem_append]
  exact ⟨⟨⟨⟨⟨hpolicy, by simp [hcall, hoptions]⟩, holds_membersLine hP (by decide) (holds_queryMembers h)⟩,
    holds_membersLine hP (by decide) (holds_headerMembers h)⟩, holds_bodyLine hP h⟩, by simpa using hend⟩

theorem holds_sendLines {contextType : String} (hcontext : '*' ∉ contextType.toList) :
    ∀ l ∈ sendLines op contextType, P l := by
  have hname : P ("export function " ++ op.sendName) := hP.starless (by simp [Operation.sendName, h.name])
  have hhead := hP.before (hP.between hname (by decide : Solid "(") (holds_declaredParameters hP h hcontext))
    (by decide : Solid "): StreamableMethod \x7b")
  have hend : P "\x7d" := hP.starless (by decide)
  simp only [sendLines, List.forall_mem_append, List.forall_mem_singleton]
  exact ⟨⟨hhead, holds_sendBody hP h⟩, hend⟩

/-- The access to a result comes behind the body that it is taken from. -/
theorem holds_resultLine : P ("  return result.body" ++ resultAccessor op ++ ";") := by
  have hbody : P "  return result.body" := hP.starless (by decide)
  refine hP.before ?_ (by decide)
  unfold resultAccessor
  split
  · next l hl => exact hP.chain hbody (by decide) fun _ hsegment => h.longRunning hl _ (List.mem_cons_of_mem _ hsegment)
  · rwa [String.append_empty]

theorem holds_deserializeLines : ∀ l ∈ deserializeLines op, P l := by
  have hname : P ("export async function " ++ op.deserializeName) :=
    hP.starless (by simp [Operation.deserializeName, h.name])
  have hhead := hP.before (hP.between hname (by decide : Solid "(result: PathUncheckedResponse): ")
    (holds_deserializeType hP h)) (by decide : Solid " \x7b")
  have hstatuses : P ("  const expectedStatuses = " ++ Json.quotedList op.expectedStatuses ++ ";") :=
    hP.before (hP.behind (by decide) (holds_quotedStatuses hP h)) (by decide)
  have hresult := holds_resultLine hP h
  have hfixed : ∀ l ∈ ["  if (!expectedStatuses.includes(result.status)) \x7b", "    throw createRestError(result);",
      "  \x7d", "", "\x7d"], P l := fun l hl => hP.starless (by revert l; decide)
  simp only [deserializeLines, deserializeBody, List.forall_mem_append, List.forall_mem_cons] at hfixed ⊢
  tauto

theorem holds_pagingSettings : P ((op.paging.map pagingSettings).getD "") := by
  cases hp : op.paging with
  | none => exact hP.starless (by simp)
  | some p =>
    have hitem : P (Json.quoted p.itemField) := h.paging hp _ (by simp [Plan.Paging.texts])
    simp only [Option.map_some, Option.getD_some, pagingSettings]
    split
    · next field hfield =>
      have hlink : P (Json.quoted field) := h.paging hp _ (by simp [Plan.Paging.texts, hfield])
      exact hP.before (hP.between (hP.behind (by decide) hitem) (by decide) hlink) (by decide)
    · exact hP.before (hP.behind (by decide) hitem) (by decide)

theorem holds_callBody : ∀ l ∈ callBody op, P l := by
  have hstatuses := holds_quotedStatuses hP h
  have hsend : ∀ {opening closing : String}, '*' ∉ opening.toList → Solid closing →
      P (opening ++ op.sendName ++ "(" ++ arguments op ++ closing) := by
    intro opening closing hopening hclosing
    have hname : P (opening ++ op.sendName) := hP.starless (by simp [Operation.sendName, h.name, hopening])
    exact hP.before (hP.between hname (by decide) (holds_arguments hP h)) hclosing
  have hdeserialize : ∀ {opening closing : String}, '*' ∉ opening.toList → '*' ∉ closing.toList →
      P (opening ++ op.deserializeName ++ closing) := fun hopening hclosing =>
    hP.starless (by simp [Operation.deserializeName, h.name, hopening, hclosing])
  unfold callBody
  cases op.kind with
  | plain =>
    simp only [List.forall_mem_cons]
    exact ⟨hsend (by decide) (by decide), hdeserialize (by decide) (by decide), by simp⟩
  | longRunning =>
    have hpoller : P ("  return getLongRunningPoller(context, " ++ op.deserializeName ++ ", " ++
        Json.quotedList op.expectedStatuses ++ ", \x7b") := by
      have hname : P ("  return getLongRunningPoller(context, " ++ op.deserializeName) :=
        hP.starless (by simp [Operation.deserializeName, h.name])
      exact hP.before (hP.between hname (by decide) hstatuses) (by decide)
    have htype : P ("  \x7d) as " ++ op.returnType ++ ";") :=
      hP.before (hP.behind (by decide) (holds_returnType hP h)) (by decide)
    simp only [List.forall_mem_cons]
    exact ⟨hpoller, hP.starless (by decide), hP.starless (by decide), hsend (by decide) (by decide), htype, by simp⟩
  | paging =>
    have hlist : P ("    " ++ Json.quotedList op.expectedStatuses ++ ",") :=
      hP.before (hP.behind (by decide) hstatuses) (by decide)
    have hsettings : P ("    " ++ (op.paging.map pagingSettings).getD "" ++ ",") :=
      hP.before (hP.behind (by decide) (holds_pagingSettings hP h)) (by decide)
    simp only [List.forall_mem_cons]
    exact ⟨hP.starless (by decide), hP.starless (by decide), hsend (by decide) (by decide),
      hdeserialize (by decide) (by decide), hlist, hsettings, hP.starless (by decide), by simp⟩

theorem holds_callLines {contextType : String} (hcontext : '*' ∉ contextType.toList) :
    ∀ l ∈ callLines op contextType, P l := by
  have hopening : P (callOpening op ++ op.name) := by
    refine hP.starless ?_
    unfold callOpening
    split <;> simp [h.name]
  have hhead := hP.before (hP.between (hP.between hopening (by decide : Solid "(")
    (holds_declaredParameters hP h hcontext)) (by decide : Solid "): ") (holds_returnType hP h))
    (by decide : Solid " \x7b")
  have hend : P "\x7d" := hP.starless (by decide)
  simp only [callLines, List.forall_mem_append, List.forall_mem_singleton]
  exact ⟨⟨hhead, holds_callBody hP h⟩, hend⟩

/-! ## The client class -/

omit h in
theorem holds_classHead {c : Plan.ClientClass} (hnames : c.names.Starless)
    (hparameters : ∀ p ∈ c.clientParameters, ∀ text ∈ p.texts, P text) : ∀ l ∈ classHead c, P l := by
  have hoptions : P ("options: " ++ c.names.optionalParamsType ++ " = \x7b\x7d") :=
    hP.starless (by simp [hnames.optionalParamsType])
  have hdeclared : P (constructorParameters c) := by
    refine hP.joined (by decide) ?_
    simp only [List.forall_mem_append, List.forall_mem_cons, List.forall_mem_map]
    exact ⟨⟨hP.starless (by decide), fun p hp => Parameter.holds_signature hP (hparameters p hp)⟩, hoptions, by simp⟩
  have hpassed : P (constructorArguments c) := by
    refine hP.joined (by decide) ?_
    simp only [List.forall_mem_append, List.forall_mem_cons, List.forall_mem_map]
    exact ⟨⟨hP.starless (by decide), fun p hp => Parameter.holds_name (hparameters p hp)⟩, hP.starless (by decide),
      by simp⟩
  have hclass : P ("export class " ++ c.names.className ++ " \x7b") := hP.starless (by simp [hnames.className])
  have hcontext : P ("  private _client: " ++ c.names.contextType ++ ";") := hP.starless (by simp [hnames.contextType])
  have hconstructor : P ("  constructor(" ++ constructorParameters c ++ ") \x7b") :=
    hP.before (hP.behind (by decide) hdeclared) (by decide)
  have hfactory : P ("    this._client = " ++ c.names.factoryName ++ "(" ++ constructorArguments c ++ ");") := by
    have hname : P ("    this._client = " ++ c.names.factoryName) := hP.starless (by simp [hnames.factoryName])
    exact hP.before (hP.between hname (by decide) hpassed) (by decide)
  simp only [classHead, List.forall_mem_cons]
  exact ⟨hclass, hcontext, hP.starless (by decide), hP.starless (by decide), hconstructor, hfactory,
    hP.starless (by decide), hP.starless (by decide), by simp⟩

theorem holds_methodCode : ∀ l ∈ methodCode op, P l := by
  have hname : P ("  " ++ op.name) := hP.starless (by simp [h.name])
  have hparameters := holds_parameters hP h Parameter.declaration fun p hp => Parameter.holds_declaration hP hp
  have hhead := hP.before (hP.between (hP.between hname (by decide : Solid "(") hparameters)
    (by decide : Solid "): ") (holds_returnType hP h)) (by decide : Solid " \x7b")
  have hcall : P ("    return " ++ op.name ++ "(this._client" ++
      Text.concat (op.argumentNames.map (", " ++ ·)) ++ ");") := by
    have hopening : P ("    return " ++ op.name ++ "(this._client") := hP.starless (by simp [h.name])
    have harguments : ∀ name ∈ op.argumentNames, P name := by
      rw [Operation.argumentNames, List.forall_mem_map]
      exact fun p hp => Parameter.holds_name (h.parameter (.inl hp))
    exact hP.before (hP.chain hopening (by decide) harguments) (by decide)
  simp only [methodCode, List.forall_mem_cons]
  exact ⟨hhead, hcall, hP.starless (by decide), by simp⟩

/-! ## Client definitions -/

omit h in
theorem holds_routeCode {r : Plan.Route} (hr : ∀ text ∈ r.texts, P text) : P (routeCode r) := by
  have hpath : P ("path: " ++ Json.quoted r.path) := hP.behind (by decide) (hr _ (by simp [Plan.Route.texts]))
  have hparameters : P (routeParameters r) := by
    refine hP.joined (by decide) (List.forall_mem_cons.2 ⟨hpath, ?_⟩)
    rw [List.forall_mem_map]
    intro p hp
    have htexts : ∀ text ∈ [p.name, p.type], P text := fun text htext => hr text
      (List.mem_cons_of_mem _ (List.mem_append_right _ (List.mem_flatMap.2 ⟨p, hp, htext⟩)))
    exact hP.between (htexts _ (by simp)) (by decide) (htexts _ (by simp))
  have htype : P r.returnType := by
    refine hP.before (hP.behind (by decide) ?_) (by decide)
    split
    · exact hP.starless (by decide)
    · exact hP.joined (by decide) fun t ht => hr t (List.mem_cons_of_mem _ (List.mem_append_left _ ht))
  exact hP.before (hP.between (hP.behind (by decide) hparameters) (by decide) htype) (by decide)

theorem holds_groupMemberCode : P (groupMemberCode op) := by
  have hname : P ("  " ++ op.name) := hP.starless (by simp [h.name])
  have hparameters := holds_parameters hP h Parameter.signature fun p hp => Parameter.holds_signature hP hp
  have hsignature := hP.between hname (by decide : Solid "(") hparameters
  exact hP.before (hP.between hsignature (by decide) (holds_returnType hP h)) (by decide)

omit h in
theorem holds_clientType {d : Plan.ClientDefinitions}
    (hgroups : ∀ g ∈ d.groups, '*' ∉ g.interfaceName.toList ∧ ∀ name, g.property = some name → '*' ∉ name.toList) :
    P (clientType d) := by
  have hshortcut : ∀ g ∈ d.groups, P g.shortcut := by
    intro g hg
    obtain ⟨hinterface, hproperty⟩ := hgroups g hg
    refine hP.starless ?_
    unfold Plan.Group.shortcut
    split
    · next name hname => simp [hinterface, hproperty name hname]
    · exact hinterface
  refine hP.joined (by decide) (List.forall_mem_cons.2 ⟨hP.starless (by decide), ?_⟩)
  unfold Plan.ClientDefinitions.shortcuts
  split
  · exact List.forall_mem_map.2 hshortcut
  · simp

end Baseline

/-! ## Parts -/

namespace Outline

variable {o o' : Outline}

theorem CodeLinesHave.append (h : o.CodeLinesHave P) (h' : o'.CodeLinesHave P) : (o ++ o').CodeLinesHave P := by
  intro text htext
  rcases List.mem_append.1 htext with htext | htext
  · exact h text htext
  · exact h' text htext

theorem codeLinesHave_flatMap {α : Type} {l : List α} {f : α → Outline} (h : ∀ a ∈ l, (f a).CodeLinesHave P) :
    CodeLinesHave P (l.flatMap f) := by
  intro text htext
  obtain ⟨a, ha, hfa⟩ := List.mem_flatMap.1 htext
  exact h a ha text hfa

theorem codeLinesHave_lines {texts : List String} (h : ∀ l ∈ texts, P l) : (lines texts).CodeLinesHave P := by
  intro text htext
  obtain rfl := Piece.code.inj (List.mem_singleton.1 htext)
  exact ⟨texts, rfl, h⟩

theorem codeLinesHave_line {l : String} (h : P l) : (lines [l]).CodeLinesHave P :=
  codeLinesHave_lines (List.forall_mem_singleton.2 h)

theorem codeLinesHave_comment (c : Comment) : CodeLinesHave P [.comment c] := by
  intro text htext
  cases List.mem_singleton.1 htext

theorem codeLinesHave_described (margin : String) (description : Option String) :
    (described margin description).CodeLinesHave P := by
  intro text htext
  obtain ⟨description, _, heq⟩ := List.mem_map.1 htext
  cases heq

end Outline

section Parts

open Outline (codeLinesHave_lines codeLinesHave_line codeLinesHave_comment codeLinesHave_described
  codeLinesHave_flatMap)

include hP

theorem codeLinesHave_ofOperationFile {f : Plan.OperationFile} (himports : ∀ l ∈ f.imports.statements, P l)
    (hcontext : '*' ∉ f.contextType.toList) (h : f.operation.TextsHave P) :
    (Outline.ofOperationFile f).CodeLinesHave P := by
  have hblank : P "" := hP.starless (by decide)
  refine ((codeLinesHave_lines ?_).append (codeLinesHave_described _ _)).append
    (codeLinesHave_lines (Baseline.holds_callLines hP h hcontext))
  simp only [List.forall_mem_append, List.forall_mem_singleton]
  exact ⟨⟨⟨⟨⟨himports, hblank⟩, Baseline.holds_sendLines hP h hcontext⟩, hblank⟩,
    Baseline.holds_deserializeLines hP h⟩, hblank⟩

theorem codeLinesHave_ofClientClass {c : Plan.ClientClass} (himports : ∀ l ∈ c.imports.statements, P l)
    (hnames : c.names.Starless) (hparameters : ∀ p ∈ c.clientParameters, ∀ text ∈ p.texts, P text)
    (hops : ∀ op ∈ c.operations, op.TextsHave P) : (Outline.ofClientClass c).CodeLinesHave P := by
  have hblank : P "" := hP.starless (by decide)
  have hend : P "\x7d" := hP.starless (by decide)
  have hopening : ∀ l ∈ c.imports.statements ++ [""], P l :=
    List.forall_mem_append.2 ⟨himports, List.forall_mem_singleton.2 hblank⟩
  have hmethod : ∀ op ∈ c.operations, (Outline.ofMethod op).CodeLinesHave P := fun op hop =>
    ((codeLinesHave_line hblank).append (codeLinesHave_described _ _)).append
      (codeLinesHave_lines (Baseline.holds_methodCode hP (hops op hop)))
  exact ((((codeLinesHave_lines hopening).append (codeLinesHave_comment _)).append
    (codeLinesHave_lines (Baseline.holds_classHead hP hnames hparameters))).append
      (codeLinesHave_flatMap hmethod)).append (codeLinesHave_line hend)

theorem codeLinesHave_ofClientDefinitions {d : Plan.ClientDefinitions} (himports : ∀ l ∈ d.imports.statements, P l)
    (hcontext : '*' ∉ d.names.contextType.toList) (hroutes : ∀ r ∈ d.routes, ∀ text ∈ r.texts, P text)
    (hgroups : ∀ g ∈ d.groups, '*' ∉ g.interfaceName.toList ∧ ∀ name, g.property = some name → '*' ∉ name.toList)
    (hops : ∀ g ∈ d.groups, ∀ op ∈ g.operations, op.TextsHave P) :
    (Outline.ofClientDefinitions d).CodeLinesHave P := by
  have hblank : P "" := hP.starless (by decide)
  have hend : P "\x7d" := hP.starless (by decide)
  have hopening : ∀ l ∈ d.imports.statements ++ [""] ++ ["export interface Routes \x7b"], P l := by
    simp only [List.forall_mem_append, List.forall_mem_singleton]
    exact ⟨⟨himports, hblank⟩, hP.starless (by decide)⟩
  have hroute : ∀ r ∈ d.routes, (Outline.ofRoute r).CodeLinesHave P := fun r hr =>
    (codeLinesHave_comment _).append (codeLinesHave_line (Baseline.holds_routeCode hP (hroutes r hr)))
  have hgroup : ∀ g ∈ d.groups, (Outline.ofGroup g).CodeLinesHave P := by
    intro g hg
    have hhead : P ("export interface " ++ g.interfaceName ++ " \x7b") := hP.starless (by simp [(hgroups g hg).1])
    have hmember : ∀ op ∈ g.operations, (Outline.ofGroupMember op).CodeLinesHave P := fun op hop =>
      (codeLinesHave_described _ _).append
        (codeLinesHave_line (Baseline.holds_groupMemberCode hP (hops g hg op hop)))
    refine ((codeLinesHave_lines ?_).append (codeLinesHave_flatMap hmember)).append (codeLinesHave_line hend)
    exact List.forall_mem_cons.2 ⟨hblank, List.forall_mem_singleton.2 hhead⟩
  have htype : P ("export type " ++ d.names.contextType ++ " = " ++ Baseline.clientType d ++ ";") := by
    have hname : P ("export type " ++ d.names.contextType) := hP.starless (by simp [hcontext])
    exact hP.before (hP.between hname (by decide) (Baseline.holds_clientType hP hgroups)) (by decide)
  refine ((((codeLinesHave_lines hopening).append (codeLinesHave_flatMap hroute)).append
    (codeLinesHave_line hend)).append (codeLinesHave_flatMap hgroup)).append (codeLinesHave_lines ?_)
  exact List.forall_mem_cons.2 ⟨hblank, List.forall_mem_singleton.2 htype⟩

variable {m : Service.Model} {ops : List Operation} (hops : Plan.operations m = .ok ops)
  (htexts : ∀ text ∈ Plan.codeTexts m ops, P text)
include hops htexts

omit hP in
theorem textsHave_of_mem {op : Operation} (hop : op ∈ ops) : op.TextsHave P where
  name := Plan.starless_name hops hop
  texts text htext := htexts text (List.mem_append_left _ (List.mem_flatMap.2 ⟨op, hop, htext⟩))

/-- The code of every part is in lines that have what all texts in the code have, if seams keep it. -/
theorem codeLinesHave_ofPart {part : Plan.Part} (hpart : part ∈ Plan.sourceParts m ops) :
    (Outline.ofPart part).CodeLinesHave P := by
  have hregular : ∀ op ∈ ops, op.Regular := fun op hop => Plan.regular_of_mem_operations hops hop
  have hnames : ∀ op ∈ ops, '*' ∉ op.name.toList := fun op hop => Plan.starless_name hops hop
  have himported : ∀ {steps : List Imports.Step}, (∀ s ∈ steps, s.Starless) →
      ∀ l ∈ (Imports.empty.takeAll steps).statements, P l := fun hsteps l hl =>
    hP.starless (Imports.starless_statements hsteps l hl)
  rcases Plan.mem_sourceParts_iff.1 hpart with rfl | rfl | ⟨op, hop, rfl⟩
  · refine codeLinesHave_ofClientDefinitions hP ?_ (Plan.starless_ofName m.clientName).contextType ?_ ?_ ?_
    · change ∀ l ∈ (Plan.definitionsImports (Plan.routes m ops) ops).statements, P l
      rw [Plan.definitionsImports_eq]
      exact himported (Plan.starless_definitionsSteps _ hregular)
    · exact fun r hr text htext => htexts text (List.mem_append_right _ (List.mem_flatMap.2 ⟨r, hr, htext⟩))
    · intro g hg
      obtain ⟨hinterface, hproperty, _⟩ := Plan.ofPlan_of_mem_groups hg
      exact ⟨Plan.starless_of_nameChars hinterface, fun name hname => Plan.starless_of_nameChars (hproperty name hname)⟩
    · exact fun g hg op hop => textsHave_of_mem hops htexts ((Plan.ofPlan_of_mem_groups hg).operations op hop)
  · refine codeLinesHave_ofClientClass hP ?_ (Plan.starless_ofName m.clientName) ?_ ?_
    · change ∀ l ∈ (Plan.classImports _ ops _).statements, P l
      rw [Plan.classImports_eq]
      exact himported (Plan.starless_classSteps _ _ hregular hnames)
    · intro p hp
      obtain ⟨op, hop, hbound⟩ := List.mem_flatMap.1 (Plan.mem_of_mem_distinctParameters hp)
      exact (textsHave_of_mem hops htexts hop).parameter (.inr hbound)
    · exact fun op hop => textsHave_of_mem hops htexts hop
  · refine codeLinesHave_ofOperationFile hP ?_ (by decide : '*' ∉ Plan.operationContext.toList)
      (textsHave_of_mem hops htexts hop)
    change ∀ l ∈ (Plan.operationImports op).statements, P l
    rw [Plan.operationImports_eq]
    exact himported (Plan.starless_operationSteps (hregular op hop))

end Parts

end ClientGen
