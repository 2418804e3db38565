import ClientGen.Declarative.OperationFile
import ClientGen.Proofs.Imports.Keys
import ClientGen.Proofs.Source.Render

/-!
# Type expressions and signatures in a tree

A type expression renders back to itself, and a list of parameters to its signature, wherever the names of the import
set mean what the set says.
-/

namespace ClientGen

/-! ## Tokens -/

theorem flatten_tokensOf (s : List Char) : (tokensOf s).flatten = s := by
  induction s with
  | nil => rfl
  | cons c rest ih =>
    cases htokens : tokensOf rest with
    | nil =>
      rw [htokens] at ih
      simp [tokensOf, ← ih]
    | cons token tokens =>
      rw [htokens] at ih
      simp only [tokensOf, htokens]
      split <;> simp [← ih]

theorem concat_typeTokens (type : String) : Text.concat (typeTokens type) = type := by
  have hconcat (tokens : List (List Char)) :
      Text.concat (tokens.map String.ofList) = String.ofList tokens.flatten := by
    induction tokens with
    | nil => rfl
    | cons token tokens ih => simp [ih]
  rw [typeTokens, hconcat, flatten_tokensOf, String.ofList_toList]

namespace Declarative

open Source (Code Scope KeyedIn renderCode renderParams withParams)

variable {i : Imports} {scope : Scope} {s : String}

/-- In a scope every keyed name of an import set is what its key stands for. -/
def Resolves (i : Imports) (scope : Scope) : Prop :=
  ∀ name key, (name, some key) ∈ i.symbols → scope key = some name

theorem mem_symbols_of_importedKey? {name : String} {key : Reference} (h : importedKey? i name = some key) :
    (name, some key) ∈ i.symbols := by
  obtain ⟨⟨other, key'⟩, hmem, hkey⟩ := List.exists_of_findSome?_eq_some h
  change (if other == name then key' else none) = some key at hkey
  by_cases hname : other = name
  · subst hname
    rw [if_pos (beq_self_eq_true other)] at hkey
    exact hkey ▸ List.mem_reverse.1 hmem
  · simp [hname] at hkey

theorem renderCode_plainCode_append (text : String) (code : Code) :
    renderCode scope (plainCode text ++ code) = (do .ok (text ++ (← renderCode scope code))) := by
  unfold plainCode
  split
  · next hempty =>
    rw [List.nil_append, hempty]
    cases renderCode scope code <;> simp
  · rw [Source.renderCode_append, Source.renderCode_text, ok_bind]

theorem renderCode_tokensCode (h : Resolves i scope) (pending : String) (tokens : List String) :
    renderCode scope (tokensCode i pending tokens) = .ok (pending ++ Text.concat tokens) := by
  induction tokens generalizing pending with
  | nil =>
    rw [tokensCode, ← List.append_nil (plainCode pending), renderCode_plainCode_append]
    rfl
  | cons token tokens ih =>
    rw [tokensCode]
    cases hkey : importedKey? i token with
    | none => rw [ih, Text.concat_cons, String.append_assoc]
    | some key =>
      simp [renderCode_plainCode_append, renderCode, ih, h token key (mem_symbols_of_importedKey? hkey)]

theorem renderCode_typeCode (h : Resolves i scope) (type : String) :
    renderCode scope (typeCode i type) = .ok type := by
  rw [typeCode, renderCode_tokensCode h, concat_typeTokens, String.empty_append]

/-! ## Imports -/

theorem flatMap_names_importsOf (i : Imports) : (importsOf i).flatMap Source.Import.names = i.symbols := by
  rw [importsOf, List.flatMap_map]
  rfl

theorem concat_renderImport_importsOf (i : Imports) :
    Text.concat ((importsOf i).map Source.renderImport) = Text.unlines i.statements := by
  simp [importsOf, Imports.statements, Text.unlines, Function.comp_def, Source.renderImport, Imports.statement,
    String.append_assoc]

/-- In a file without repeated symbols every imported name is what its key stands for. -/
theorem resolves_scope {f : Source.File} (hf : f.imports = importsOf i) (h : Source.DistinctSymbols f.symbols) :
    Resolves i f.scope := by
  intro name key hm
  refine Source.File.scope_eq_some h ?_
  rw [Source.File.symbols, hf, flatMap_names_importsOf]
  exact List.mem_append_left _ hm

/-- The text of a file that imports something and has a first declaration. -/
theorem render_eq {declarations : List Source.Declaration} {text : String} {texts : List String}
    (hs : Source.DistinctSymbols (Source.File.mk (importsOf i) declarations).symbols) (hi : i.entries ≠ [])
    (ht : declarations.mapM (Source.renderDeclaration (Source.File.mk (importsOf i) declarations).scope) =
      .ok (text :: texts)) :
    Source.render ⟨importsOf i, declarations⟩ =
      .ok (Text.unlines (i.statements ++ [""]) ++ text ++ Text.concat (texts.map ("\n" ++ ·))) := by
  have himports : importsOf i ≠ [] := by simpa [importsOf] using hi
  have hdeclarations : declarations ≠ [] := by
    rintro rfl
    cases ht
  rw [Source.render_eq hs himports hdeclarations ht, concat_renderImport_importsOf, Text.joined_cons]
  simp [String.append_assoc]

/-! ## Parameters -/

theorem Resolves.withParams {ps : List Source.Param} (h : Resolves i scope) (hi : i.ParameterFree)
    (hk : KeyedIn s ps) : Resolves i (withParams ps scope) := fun name key hm => by
  rw [Source.withParams_of_kind_ne hk (hi name key hm), h name key hm]

theorem keyedIn_params (declared : Bool) (ps : List Plan.Parameter) : KeyedIn s (params i s declared ps) := by
  intro p hp
  obtain ⟨q, _, rfl⟩ := List.mem_map.1 hp
  rfl

theorem keyedIn_plainParam (name : String) (type : Code) : KeyedIn s [plainParam s name type] := by
  intro p hp
  obtain rfl := List.mem_singleton.1 hp
  rfl

theorem map_name_params (declared : Bool) (ps : List Plan.Parameter) :
    (params i s declared ps).map Source.Param.name = ps.map Plan.Parameter.name := by
  simp [params, Function.comp_def]

/-- The parameters of a declaration, with the initial value of the bag of options. -/
theorem renderParam_declaration (h : Resolves i scope) (ps : List Plan.Parameter) :
    (params i s true ps).mapM (Source.renderParam scope) = .ok (ps.map Plan.Parameter.declaration) := by
  rw [params, List.mapM_map]
  refine mapM_eq_ok_map fun p _ => ?_
  cases hdefault : p.default? with
  | none =>
    simp [Source.renderParam, renderCode_typeCode h, hdefault, Plan.Parameter.declaration, Plan.Parameter.signature]
  | some value => simp [Source.renderParam, renderCode_typeCode h, hdefault, Plan.Parameter.declaration]

/-- The parameters of a signature, without any initial value. -/
theorem renderParam_signature (h : Resolves i scope) (ps : List Plan.Parameter) :
    (params i s false ps).mapM (Source.renderParam scope) = .ok (ps.map Plan.Parameter.signature) := by
  rw [params, List.mapM_map]
  refine mapM_eq_ok_map fun p _ => ?_
  simp [Source.renderParam, renderCode_typeCode h, Plan.Parameter.signature]

end Declarative

end ClientGen
