import ClientGen.Proofs.Source.Resolution

/-!
# Captured names

A reference is rendered to the bare name of its declaration. Where a parameter of the function around it has that name
too, the name means the parameter. In a file without such names every reference in a body reaches its declaration.
-/

namespace ClientGen.Source

/-! ## Bodies -/

def ClassMember.bodies : ClassMember → List Passage
  | .field _ => []
  | .constructor m => m.body.map (Passage.mk m.params)
  | .method m => m.body.map (Passage.mk m.params)

def Content.bodies : Content → List Passage
  | .classDecl members => members.flatMap ClassMember.bodies
  | .interfaceDecl _ => []
  | .typeAlias _ => []
  | .function f => f.body.map (Passage.mk f.params)

/-- The lines of the bodies of a file, each with the parameters of the function around it. -/
def File.bodies (f : File) : List Passage := f.declarations.flatMap fun d => d.content.bodies

theorem mem_passages_of_mem_bodies {f : File} {x : Passage} (h : x ∈ f.bodies) : x ∈ f.passages := by
  have hmember : ∀ {m : ClassMember}, x ∈ m.bodies → x ∈ m.passages := by
    intro m hx
    cases m with
    | field f => cases hx
    | constructor m => exact List.mem_append_right _ hx
    | method m => exact List.mem_append_right _ hx
  obtain ⟨d, hd, hx⟩ := List.mem_flatMap.1 h
  refine List.mem_flatMap.2 ⟨d, hd, ?_⟩
  rw [Declaration.passages]
  generalize d.content = content at hx ⊢
  cases content with
  | classDecl members =>
    obtain ⟨m, hm, hx⟩ := List.mem_flatMap.1 hx
    exact List.mem_flatMap.2 ⟨m, hm, hmember hx⟩
  | interfaceDecl members => cases hx
  | typeAlias type => cases hx
  | function f => exact List.mem_append_right _ hx

/-! ## Capture -/

/-- A passage refers to a symbol of the file, and the name of the symbol is that of a parameter around the passage. -/
def Passage.Captures (scope : Scope) (x : Passage) (name : String) : Prop :=
  name ∈ x.params.map Param.name ∧ ∃ key ∈ x.code.references, paramName? x.params key = none ∧ scope key = some name

/-- One of some passages captures a name. -/
def CapturedIn (scope : Scope) (passages : List Passage) (name : String) : Prop :=
  ∃ x ∈ passages, x.Captures scope name

theorem capturedIn_append {scope : Scope} {xs ys : List Passage} {name : String} :
    CapturedIn scope (xs ++ ys) name ↔ CapturedIn scope xs name ∨ CapturedIn scope ys name := by
  simp [CapturedIn, or_and_right, exists_or]

theorem capturedIn_flatMap {α : Type} {scope : Scope} {f : α → List Passage} {l : List α} {name : String} :
    CapturedIn scope (l.flatMap f) name ↔ ∃ a ∈ l, CapturedIn scope (f a) name := by
  simp only [CapturedIn, List.mem_flatMap]
  constructor
  · rintro ⟨x, ⟨a, ha, hx⟩, hcaptures⟩
    exact ⟨a, ha, x, hx, hcaptures⟩
  · rintro ⟨a, ha, x, hx, hcaptures⟩
    exact ⟨x, ⟨a, ha, hx⟩, hcaptures⟩

/-- In the body of a function a symbol is referred to by a name that means a parameter there. -/
def File.Captured (f : File) (name : String) : Prop := CapturedIn f.scope f.bodies name

instance (f : File) (name : String) : Decidable (f.Captured name) :=
  inferInstanceAs (Decidable (∃ x ∈ f.bodies, _ ∧ ∃ key ∈ x.code.references, _))

/-- No body of a file uses the name of a parameter around it for a symbol. -/
def File.CaptureFree (f : File) : Prop := ∀ name, ¬ f.Captured name

/-- Inside a function a name stands for a symbol of the file: no parameter has the name, and no other symbol has it. -/
def StandsFor (params : List Param) (symbols : List Symbol) (name : String) (s : Symbol) : Prop :=
  name ∉ params.map Param.name ∧ symbols.filter (fun s => s.1 == name) = [s]

theorem filter_eq_singleton {symbols : List Symbol} (h : (symbols.map Prod.fst).Nodup) {s : Symbol} (hs : s ∈ symbols) :
    symbols.filter (fun s' => s'.1 == s.1) = [s] := by
  obtain ⟨before, after, rfl⟩ := List.append_of_mem hs
  rw [List.map_append, List.map_cons, List.nodup_middle, List.nodup_cons, ← List.map_append] at h
  have hothers : ∀ s' ∈ before ++ after, ¬ (s'.1 == s.1) = true := by
    intro s' hs' heq
    exact h.1 (eq_of_beq heq ▸ List.mem_map_of_mem hs')
  rw [List.filter_append, List.filter_cons_of_pos (by simp),
    List.filter_eq_nil_iff.2 fun s' hs' => hothers s' (List.mem_append_left _ hs'),
    List.filter_eq_nil_iff.2 fun s' hs' => hothers s' (List.mem_append_right _ hs')]
  rfl

/-- Where nothing is captured, every reference in a body that is not to a parameter is rendered to a name that stands
for the symbol with its key. -/
theorem File.CaptureFree.standsFor {f : File} (h : f.CaptureFree) {text : String} (htext : render f = .ok text)
    {x : Passage} (hx : x ∈ f.bodies) {key : Reference} (hkey : key ∈ x.code.references)
    (hparam : paramName? x.params key = none) :
    ∃ name, withParams x.params f.scope key = some name ∧ StandsFor x.params f.symbols name (name, some key) := by
  have hd := distinctSymbols_of_render htext
  rcases render_of_distinctSymbols hd with ⟨_, _, _, hall⟩ | ⟨_, _, _, _, _, herror⟩
  · have hbound := withParams_isSome_iff.2 (hall x (mem_passages_of_mem_bodies hx) key hkey)
    obtain ⟨name, hname⟩ := Option.isSome_iff_exists.1 hbound
    have hscope : f.scope key = some name := by rwa [withParams_of_eq_none hparam] at hname
    refine ⟨name, hname, fun hm => h name ⟨x, hx, hm, key, hkey, hparam, hscope⟩, ?_⟩
    exact filter_eq_singleton hd.names ((nameOf?_eq_some_iff hd.keys).1 hscope)
  · cases htext.symm.trans herror

/-! ## References of a body -/

namespace Code

@[simp] theorem references_nil : references [] = [] := rfl

@[simp] theorem references_text (s : String) : (Code.text s).references = [] := rfl

@[simp] theorem references_ref (key : Reference) : (Code.ref key).references = [key] := rfl

@[simp] theorem references_append (a b : Code) : references (a ++ b) = a.references ++ b.references :=
  List.filterMap_append

theorem references_flatMap {α : Type} (f : α → Code) (l : List α) :
    references (l.flatMap f) = l.flatMap fun a => (f a).references := List.filterMap_flatMap

@[simp] theorem references_joined (separator : String) (pieces : List Code) :
    (joined separator pieces).references = pieces.flatMap references := by
  induction pieces with
  | nil => rfl
  | cons piece rest ih =>
    cases rest with
    | nil => simp [joined]
    | cons next rest =>
      rw [List.flatMap_cons, ← ih]
      exact references_append piece (.text separator :: joined separator (next :: rest))

end Code

/-- A body refers to all of some keys, none of them that of a parameter, and otherwise to parameters of its scope. -/
structure RefersTo (body : List Code) (s : String) (names : List String) (keys : List Reference) : Prop where
  sound : ∀ line ∈ body, ∀ key ∈ line.references, key ∈ keys ∨ ∃ name ∈ names, key = .parameter s name
  complete : ∀ key ∈ keys, ∃ line ∈ body, key ∈ line.references
  apart : ∀ key ∈ keys, key.kind ≠ .parameter

/-- The names that the lines of a body capture are those of the parameters that a symbol in it has. -/
theorem RefersTo.capturedIn_iff {body : List Code} {s : String} {ps : List Param} {keys : List Reference}
    (h : RefersTo body s (ps.map Param.name) keys) (hk : KeyedIn s ps) {scope : Scope} {name : String} :
    CapturedIn scope (body.map (Passage.mk ps)) name ↔
      name ∈ ps.map Param.name ∧ ∃ key ∈ keys, scope key = some name := by
  constructor
  · rintro ⟨x, hx, hname, key, hkey, hnone, hscope⟩
    obtain ⟨line, hline, rfl⟩ := List.mem_map.1 hx
    refine ⟨hname, key, ?_, hscope⟩
    rcases h.sound line hline key hkey with hkeys | ⟨param, hparam, rfl⟩
    · exact hkeys
    · obtain ⟨p, hp, rfl⟩ := List.mem_map.1 hparam
      exact absurd (hk p hp) (paramName?_eq_none_iff.1 hnone p hp)
  · rintro ⟨hname, key, hkey, hscope⟩
    obtain ⟨line, hline, hmem⟩ := h.complete key hkey
    refine ⟨⟨ps, line⟩, List.mem_map_of_mem hline, hname, key, hmem, paramName?_eq_none_iff.2 fun p hp heq => ?_,
      hscope⟩
    rw [hk p hp, Option.some.injEq] at heq
    exact h.apart key hkey (heq ▸ rfl)

end ClientGen.Source
