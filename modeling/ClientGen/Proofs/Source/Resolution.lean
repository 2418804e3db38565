import ClientGen.Proofs.Source.Clash
import ClientGen.Proofs.Source.Passages

/-!
# Resolution of references

A file renders exactly if its symbols are distinct and each reference in its passages is bound, by a parameter of the
function around it or by a symbol of the file, wherever that one stands. A parameter hides a symbol with the same key.
-/

namespace ClientGen.Source

variable {params : List Param} {symbols : List Symbol} {key : Reference} {name : String}

/-! ## Bound references -/

/-- A parameter or a symbol has the key. -/
def Bound (params : List Param) (symbols : List Symbol) (key : Reference) : Prop :=
  some key ∈ params.map Param.key ∨ key ∈ keysOf symbols

instance : Decidable (Bound params symbols key) := inferInstanceAs (Decidable (_ ∨ _))

/-- The name that a key has: that of the last parameter with it, or, if there is none, that of the symbol with it. -/
inductive Names (params : List Param) (symbols : List Symbol) (key : Reference) : String → Prop
  | param {before after : List Param} {p : Param} (hparams : params = before ++ p :: after) (hkey : p.key = some key)
      (hlast : ∀ q ∈ after, q.key ≠ some key) : Names params symbols key p.name
  | symbol {name : String} (hnone : ∀ p ∈ params, p.key ≠ some key) (hm : (name, some key) ∈ symbols) :
      Names params symbols key name

theorem paramName?_eq_none_iff : paramName? params key = none ↔ ∀ p ∈ params, p.key ≠ some key := by
  simp [paramName?]

theorem paramName?_eq_some_iff : paramName? params key = some name ↔
    ∃ before p after, params = before ++ p :: after ∧ p.key = some key ∧ (∀ q ∈ after, q.key ≠ some key) ∧
      p.name = name := by
  have hfind : paramName? params key = some name ↔
      ∃ p, params.reverse.find? (fun q => q.key == some key) = some p ∧ p.name = name := by
    simp [paramName?]
  rw [hfind]
  -- the first parameter with the key in the reversed list is the last one with it
  constructor
  · rintro ⟨p, hp, rfl⟩
    obtain ⟨hkey, after, before, hreverse, hlast⟩ := List.find?_eq_some_iff_append.1 hp
    refine ⟨before.reverse, p, after.reverse, ?_, by simpa using hkey, by simpa using hlast, rfl⟩
    rw [← List.reverse_reverse params, hreverse]
    simp
  · rintro ⟨before, p, after, rfl, hkey, hlast, rfl⟩
    refine ⟨p, List.find?_eq_some_iff_append.2 ⟨by simpa using hkey, after.reverse, before.reverse, ?_, ?_⟩, rfl⟩
    · simp
    · simpa using hlast

theorem nameOf?_eq_some_iff (h : (keysOf symbols).Nodup) :
    nameOf? symbols key = some name ↔ (name, some key) ∈ symbols := by
  refine ⟨fun hname => ?_, nameOf?_eq_some_of_mem h⟩
  obtain ⟨⟨name', key'⟩, hfound, rfl⟩ := Option.map_eq_some_iff.1 hname
  have hkey : key' = some key := by simpa using List.find?_some hfound
  exact hkey ▸ List.mem_of_find?_eq_some hfound

section WithParams

variable {scope : Scope}

theorem withParams_of_eq_none (h : paramName? params key = none) : withParams params scope key = scope key := by
  simp [withParams, h]

theorem withParams_of_eq_some (h : paramName? params key = some name) : withParams params scope key = some name := by
  simp [withParams, h]

end WithParams

/-- A parameter comes before the symbols of the file. -/
theorem withParams_eq_some_iff (h : (keysOf symbols).Nodup) :
    withParams params (nameOf? symbols) key = some name ↔ Names params symbols key name := by
  cases hparam : paramName? params key with
  | none =>
    have hnone := paramName?_eq_none_iff.1 hparam
    rw [withParams_of_eq_none hparam, nameOf?_eq_some_iff h]
    refine ⟨.symbol hnone, fun hnames => ?_⟩
    cases hnames with
    | param hparams hkey _ => exact absurd hkey (hnone _ (by simp [hparams]))
    | symbol _ hm => exact hm
  | some found =>
    obtain ⟨before, p, after, hparams, hkey, hlast, rfl⟩ := paramName?_eq_some_iff.1 hparam
    rw [withParams_of_eq_some hparam, Option.some.injEq]
    constructor
    · rintro rfl
      exact .param hparams hkey hlast
    · intro hnames
      cases hnames with
      | param hparams' hkey' hlast' =>
        have hparam' := paramName?_eq_some_iff.2 ⟨_, _, _, hparams', hkey', hlast', rfl⟩
        exact Option.some.inj (hparam.symm.trans hparam')
      | symbol hnone _ => exact absurd hkey (hnone p (by simp [hparams]))

theorem withParams_isSome_iff : (withParams params (nameOf? symbols) key).isSome ↔ Bound params symbols key := by
  have hparam : (paramName? params key).isSome ↔ some key ∈ params.map Param.key := by
    simp [paramName?]
  rw [Bound, ← hparam, ← nameOf?_isSome_iff]
  cases hp : paramName? params key <;> simp [withParams, hp]

/-! ## Rendering -/

/-- The error of the first symbol, those of the imports first, that has the name or the key of an earlier one. -/
def FirstClash (symbols : List Symbol) (e : RenderError) : Prop :=
  ∃ before name key after, symbols = before ++ (name, key) :: after ∧ DistinctSymbols before ∧
    Clash before name key e

section Files

variable {f : File}

theorem exists_firstClash (h : ¬ DistinctSymbols f.symbols) : ∃ e, FirstClash f.symbols e ∧ render f = .error e := by
  have hnil : DistinctSymbols [] := ⟨List.nodup_nil, List.nodup_nil⟩
  cases hcheck : checkSymbols [] f.symbols with
  | ok u => exact absurd (checkSymbols_nil_eq_ok_iff.1 hcheck) h
  | error e => exact ⟨e, (checkSymbols_eq_error_iff hnil).1 hcheck, render_of_checkSymbols hcheck⟩

/-- What comes of a file with distinct symbols. -/
theorem render_of_distinctSymbols (h : DistinctSymbols f.symbols) :
    (∃ text, render f = .ok text ∧ Shows f.scope f.passages text ∧
      ∀ x ∈ f.passages, ∀ key ∈ x.code.references, Bound x.params f.symbols key) ∨
    ∃ x ∈ f.passages, ∃ key ∈ x.code.references, ¬ Bound x.params f.symbols key ∧
      render f = .error (.unresolvedReference key.composite) := by
  have hprints := prints_render (checkSymbols_nil_eq_ok_iff.2 h)
  generalize render f = r at hprints ⊢
  cases hprints with
  | ok hall hshows =>
    exact .inl ⟨_, rfl, hshows, fun x hx key hkey => withParams_isSome_iff.1 (hall x hx key hkey)⟩
  | error hx hkey hnone =>
    refine .inr ⟨_, hx, _, hkey, fun hbound => ?_, rfl⟩
    have hsome := withParams_isSome_iff.2 hbound
    rw [← File.scope, hnone] at hsome
    cases hsome

theorem Shows.spells (hkeys : (keysOf f.symbols).Nodup) {passages : List Passage} {text : String}
    (h : Shows f.scope passages text) : ∃ texts,
      List.Forall₂ (fun x t => Spells (Names x.params f.symbols) x.code t) passages texts ∧ InOrder texts text := by
  obtain ⟨texts, hspells, horder⟩ := h
  exact ⟨texts, hspells.imp fun x t ht => ht.imp fun _ _ => (withParams_eq_some_iff hkeys).1, horder⟩

end Files

/-- When a file renders, with which error it fails, and which names its references get. -/
theorem render_resolution (f : File) :
    ((∃ text, render f = .ok text) ↔ DistinctSymbols f.symbols ∧
      ∀ x ∈ f.passages, ∀ key ∈ x.code.references, Bound x.params f.symbols key) ∧
    (¬ DistinctSymbols f.symbols → ∃ e, FirstClash f.symbols e ∧ render f = .error e) ∧
    (DistinctSymbols f.symbols → ∀ e, render f = .error e → ∃ x ∈ f.passages, ∃ key ∈ x.code.references,
      ¬ Bound x.params f.symbols key ∧ e = .unresolvedReference key.composite) ∧
    ∀ text, render f = .ok text → ∃ texts,
      List.Forall₂ (fun x t => Spells (Names x.params f.symbols) x.code t) f.passages texts ∧ InOrder texts text := by
  refine ⟨⟨?_, ?_⟩, exists_firstClash, ?_, ?_⟩
  · rintro ⟨text, htext⟩
    have hd := distinctSymbols_of_render htext
    rcases render_of_distinctSymbols hd with ⟨_, _, _, hall⟩ | ⟨_, _, _, _, _, herror⟩
    · exact ⟨hd, hall⟩
    · cases htext.symm.trans herror
  · rintro ⟨hd, hall⟩
    rcases render_of_distinctSymbols hd with ⟨text, htext, _, _⟩ | ⟨x, hx, key, hkey, hnot, _⟩
    · exact ⟨text, htext⟩
    · exact absurd (hall x hx key hkey) hnot
  · intro hd e he
    rcases render_of_distinctSymbols hd with ⟨_, htext, _, _⟩ | ⟨x, hx, key, hkey, hnot, herror⟩
    · cases htext.symm.trans he
    · exact ⟨x, hx, key, hkey, hnot, Except.error.inj (he.symm.trans herror)⟩
  · intro text htext
    have hd := distinctSymbols_of_render htext
    rcases render_of_distinctSymbols hd with ⟨_, htext', hshows, _⟩ | ⟨_, _, _, _, _, herror⟩
    · cases htext.symm.trans htext'
      exact hshows.spells hd.keys
    · cases htext.symm.trans herror

/-- In `show` the parameter hides the import, which the class refers to; the constructor's return type is not shown. -/
def userFile : File :=
  { imports := [⟨"./models.js", [("User", some (.model "User"))]⟩]
    declarations :=
      [⟨"show", none, false, none, .function
          ⟨false, [⟨"user", Code.text "any", false, none, some (.model "User")⟩], Code.text "void",
            [.ref (.sendFunction "show") :: .text "(" :: .ref (.model "User") :: Code.text ");"]⟩⟩,
        ⟨"Client", none, true, none, .classDecl
          [.field ⟨"last", Code.ref (.model "User"), true, false, none⟩,
            .constructor ⟨"", none, false, none, [], some (Code.ref (.client "missing")), []⟩]⟩,
        ⟨"_showSend", some (.sendFunction "show"), false, none, .function ⟨false, [], Code.text "void", []⟩⟩] }

/-- A parameter of a call signature is not bound in it. -/
def signatureFile : File :=
  { imports := []
    declarations :=
      [⟨"Show", none, true, none, .interfaceDecl
        [⟨none, none, [⟨"user", Code.text "any", false, none, some (.parameter "show" "user")⟩],
          Code.ref (.parameter "show" "user")⟩]⟩] }

/-- The key stands for two names among the imports, before the name is declared again. -/
def twoNamesFile : File :=
  { imports := [⟨"./models.js", [("User", some (.model "User")), ("Person", some (.model "User"))]⟩]
    declarations := [⟨"User", none, false, none, .typeAlias (Code.text "any")⟩] }

theorem render_resolution_users :
    (∃ text texts, render userFile = .ok text ∧ List.Forall₂
      (fun x t => Spells (Names x.params userFile.symbols) x.code t) userFile.passages texts ∧ InOrder texts text) ∧
    FirstClash twoNamesFile.symbols (.conflictingSymbol "model:User" "User" "Person") ∧
    ∃ x ∈ signatureFile.passages, ∃ key ∈ x.code.references, ¬ Bound x.params signatureFile.symbols key ∧
      RenderError.unresolvedReference "parameter:show:user" = .unresolvedReference key.composite := by
  obtain ⟨hrenders, _, _, hspells⟩ := render_resolution userFile
  obtain ⟨text, htext⟩ := hrenders.2 ⟨⟨by decide, by decide⟩, by decide⟩
  obtain ⟨texts, htexts, horder⟩ := hspells text htext
  refine ⟨⟨text, texts, htext, htexts, horder⟩, ?_, ?_⟩
  · have htwice : ¬ DistinctSymbols twoNamesFile.symbols := fun h => absurd h.keys (by decide)
    obtain ⟨e, hclash, herror⟩ := (render_resolution twoNamesFile).2.1 htwice
    have hrender : render twoNamesFile = .error (.conflictingSymbol "model:User" "User" "Person") := rfl
    exact Except.error.inj (herror.symm.trans hrender) ▸ hclash
  · exact (render_resolution signatureFile).2.2.1 ⟨by decide, by decide⟩ _ rfl

end ClientGen.Source
