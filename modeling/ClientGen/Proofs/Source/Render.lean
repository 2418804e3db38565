import ClientGen.Proofs.Result
import ClientGen.Proofs.Source.Symbols
import ClientGen.Proofs.Text.Joined
import ClientGen.Source.Render

/-!
# Rendering piece by piece

Once the names of references are known, code renders to the texts of its fragments one after the other, a body to its
lines, and a signature to its parameters. Inside a function the key of a parameter stands for that parameter, and every
other key stands for what it stands for in the file.
-/

namespace ClientGen.Source

variable {scope : Scope}

/-! ## Names -/

theorem File.scope_eq_some {f : File} (h : DistinctSymbols f.symbols) {name : String} {key : Reference}
    (hm : (name, some key) ∈ f.symbols) : f.scope key = some name :=
  nameOf?_eq_some_of_mem h.keys hm

/-- Each parameter has the key that belongs to its name in the scope called `s`. -/
def KeyedIn (s : String) (params : List Param) : Prop := ∀ p ∈ params, p.key = some (.parameter s p.name)

theorem withParams_parameter {s name : String} {params : List Param} (h : KeyedIn s params)
    (hm : name ∈ params.map Param.name) : withParams params scope (.parameter s name) = some name := by
  obtain ⟨p, hp, rfl⟩ := List.mem_map.1 hm
  have hfound : (params.reverse.find? fun q => q.key == some (.parameter s p.name)).isSome := by
    rw [List.find?_isSome]
    exact ⟨p, List.mem_reverse.2 hp, by simp [h p hp]⟩
  obtain ⟨q, hq⟩ := Option.isSome_iff_exists.1 hfound
  have hkey : q.key = some (.parameter s p.name) := by simpa using List.find?_some hq
  have hqs : q.key = some (.parameter s q.name) := h q (List.mem_reverse.1 (List.mem_of_find?_eq_some hq))
  have hname : p.name = q.name := by
    rw [hkey] at hqs
    simpa [Reference.parameter] using hqs
  simp [withParams, paramName?, hq, ← hname]

/-- A key that no parameter has stands for what it stands for outside. -/
theorem withParams_of_forall_ne {params : List Param} {key : Reference} (h : ∀ p ∈ params, p.key ≠ some key) :
    withParams params scope key = scope key := by
  have hnone : params.reverse.find? (fun q => q.key == some key) = none := by
    rw [List.find?_eq_none]
    intro q hq hkey
    exact h q (List.mem_reverse.1 hq) (eq_of_beq hkey)
  simp [withParams, paramName?, hnone]

theorem withParams_of_kind_ne {s : String} {params : List Param} (h : KeyedIn s params) {key : Reference}
    (hk : key.kind ≠ .parameter) : withParams params scope key = scope key := by
  refine withParams_of_forall_ne fun p hp hkey => ?_
  rw [h p hp, Option.some.injEq] at hkey
  exact hk (hkey ▸ rfl)

/-! ## Code -/

@[simp] theorem renderCode_nil : renderCode scope [] = .ok "" := rfl

@[simp] theorem renderCode_text (s : String) : renderCode scope (Code.text s) = .ok s := by
  rw [Code.text, renderCode, renderCode_nil, ok_bind, String.append_empty]

theorem renderCode_ref {key : Reference} {name : String} (h : scope key = some name) :
    renderCode scope (Code.ref key) = .ok name := by
  simp only [Code.ref, renderCode, h, ok_bind, String.append_empty]

/-- Code in two parts renders to the texts of both. -/
theorem renderCode_append (a b : Code) :
    renderCode scope (a ++ b) = (do .ok ((← renderCode scope a) ++ (← renderCode scope b))) := by
  induction a with
  | nil => cases hb : renderCode scope b <;> simp [hb]
  | cons x a ih =>
    cases x with
    | text u =>
      simp only [List.cons_append, renderCode, ih]
      cases renderCode scope a <;> cases renderCode scope b <;> simp [String.append_assoc]
    | ref key =>
      simp only [List.cons_append, renderCode, ih]
      cases scope key with
      | none => rfl
      | some name => cases renderCode scope a <;> cases renderCode scope b <;> simp [String.append_assoc]

/-- Pieces of code with their texts. -/
abbrev Renders (scope : Scope) (pieces : List Code) (texts : List String) : Prop :=
  List.Forall₂ (fun piece text => renderCode scope piece = .ok text) pieces texts

theorem renders_map {α : Type} {l : List α} {f : α → Code} {g : α → String}
    (h : ∀ a ∈ l, renderCode scope (f a) = .ok (g a)) : Renders scope (l.map f) (l.map g) := by
  rw [Renders, List.forall₂_map_left_iff, List.forall₂_map_right_iff, List.forall₂_same]
  exact h

theorem renderCode_joined {separator : String} {pieces : List Code} {texts : List String}
    (h : Renders scope pieces texts) :
    renderCode scope (Code.joined separator pieces) = .ok (Text.joined separator texts) := by
  induction h with
  | nil => rfl
  | cons hp hrest ih =>
    cases hrest with
    | nil => exact hp
    | cons hp' hrest' =>
      change renderCode scope (_ ++ (Code.text separator ++ _)) = _
      rw [renderCode_append, renderCode_append, hp, renderCode_text, ih]
      exact congrArg Except.ok String.append_assoc.symm

theorem renderCode_flatMap {α : Type} {l : List α} {f : α → Code} {g : α → String}
    (h : ∀ a ∈ l, renderCode scope (f a) = .ok (g a)) :
    renderCode scope (l.flatMap f) = .ok (Text.concat (l.map g)) := by
  induction l with
  | nil => rfl
  | cons a l ih =>
    have hrest := ih fun b hb => h b (List.mem_cons_of_mem _ hb)
    rw [List.flatMap_cons, renderCode_append, h a List.mem_cons_self, hrest]
    rfl

/-! ## Bodies -/

/-- Lines of code with the lines of text that they render to at a depth. -/
abbrev RendersLines (scope : Scope) (depth : Nat) (lines : List Code) (texts : List String) : Prop :=
  List.Forall₂ (fun line text => renderLine scope depth line = .ok (text ++ "\n")) lines texts

/-- A line, compared character by character, so that it does not matter of which pieces a text is made. -/
theorem renderLine_eq_ok_iff {depth : Nat} {line : Code} {t : String} :
    renderLine scope depth line = .ok t ↔ ∃ s, renderCode scope line = .ok s ∧
      (if s = "" then ['\n'] else List.replicate (2 * depth) ' ' ++ s.toList ++ ['\n']) = t.toList := by
  have hindent : (Text.concat (List.replicate depth indent)).toList = List.replicate (2 * depth) ' ' := by
    induction depth with
    | zero => rfl
    | succ depth ih =>
      rw [List.replicate_succ, Text.concat_cons, String.toList_append, ih]
      rfl
  rw [renderLine, bind_eq_ok_iff]
  refine exists_congr fun s => and_congr_right fun _ => ?_
  rw [Except.ok.injEq, ← String.toList_inj]
  split <;> simp [hindent]

theorem renderBody_eq {depth : Nat} {lines : List Code} {texts : List String}
    (h : RendersLines scope depth lines texts) : renderBody scope depth lines = .ok (Text.unlines texts) := by
  have hl : lines.mapM (renderLine scope depth) = .ok (texts.map (· ++ "\n")) := by
    rw [mapM_eq_ok_iff, List.forall₂_map_right_iff]
    exact h
  simp [renderBody, hl, Text.unlines]

/-! ## Functions, members and files -/

/-- The text of a function: its head, the lines of its body, and the closing brace. -/
theorem renderFunction_eq {opening name result : String} {f : Function} {ps lines : List String}
    (hp : f.params.mapM (renderParam (withParams f.params scope)) = .ok ps)
    (hr : renderCode (withParams f.params scope) f.returnType = .ok result)
    (hb : RendersLines (withParams f.params scope) 1 f.body lines) :
    renderFunction scope opening name f = .ok (Text.unlines
      ([opening ++ (if f.isAsync then "async " else "") ++ "function " ++ name ++ "(" ++ Text.joined ", " ps ++ "): " ++
        result ++ " \x7b"] ++ lines ++ ["\x7d"])) := by
  simp [renderFunction, renderParams, hp, hr, renderBody_eq hb, String.append_assoc]

/-- The text of a method that neither waits for anything nor has a name of its own to show. -/
theorem renderMethod_eq {name result : String} {returnType : Option Code} {m : Method} {ps lines : List String}
    (ha : m.isAsync = false) (hp : m.params.mapM (renderParam (withParams m.params scope)) = .ok ps)
    (hr : renderReturn (withParams m.params scope) returnType = .ok result)
    (hb : RendersLines (withParams m.params scope) 2 m.body lines) :
    renderMethod scope name returnType m = .ok (docComment m.doc indent ++ Text.unlines
      ([indent ++ name ++ "(" ++ Text.joined ", " ps ++ ")" ++ result ++ " \x7b"] ++ lines ++ [indent ++ "\x7d"])) := by
  simp [renderMethod, renderParams, ha, hp, hr, renderBody_eq hb, String.append_assoc]

theorem renderInterfaceMember_eq {m : InterfaceMember} {ps : List String} {result : String}
    (hp : m.params.mapM (renderParam scope) = .ok ps) (hr : renderCode scope m.returnType = .ok result) :
    renderInterfaceMember scope m = .ok (docComment m.doc indent ++ Text.unlines
      [indent ++ m.name.getD "" ++ "(" ++ Text.joined ", " ps ++ "): " ++ result ++ ";"]) := by
  simp [renderInterfaceMember, renderParams, hp, hr, String.append_assoc]

/-- The text of a file that imports and declares something. -/
theorem render_eq {f : File} {texts : List String} (hs : DistinctSymbols f.symbols) (hi : f.imports ≠ [])
    (hd : f.declarations ≠ []) (ht : f.declarations.mapM (renderDeclaration f.scope) = .ok texts) :
    render f = .ok (Text.concat (f.imports.map renderImport) ++ "\n" ++ Text.joined "\n" texts) := by
  have hcheck : checkSymbols [] f.symbols = .ok () := checkSymbols_nil_eq_ok_iff.2 hs
  simp [render, hcheck, ht, hi, hd]

theorem distinctSymbols_of_render {f : File} {text : String} (h : render f = .ok text) :
    DistinctSymbols f.symbols := by
  rw [← checkSymbols_nil_eq_ok_iff]
  rw [render, bind_eq_ok_iff] at h
  obtain ⟨⟨⟩, hcheck, _⟩ := h
  exact hcheck

end ClientGen.Source
