import ClientGen.Proofs.Source.Render

/-!
# Passages of a file

The pieces of code of a file that are rendered, each with the parameters of the function around it. Rendering goes
through exactly these: it succeeds if every reference in them has a name, and then their texts stand in the result one
after the other; otherwise it fails with a reference that has none.
-/

namespace ClientGen.Source

/-! ## What is rendered -/

/-- A piece of code with the parameters of the function around it, if there is one. -/
structure Passage where
  params : List Param
  code : Code
  deriving DecidableEq, Repr

def Param.passages (around : List Param) (p : Param) : List Passage :=
  ⟨around, p.type⟩ :: p.default.toList.map (Passage.mk around)

/-- A method with the return type that is shown. -/
def Method.passages (returnType : Option Code) (m : Method) : List Passage :=
  m.params.flatMap (Param.passages m.params) ++ returnType.toList.map (Passage.mk m.params) ++
    m.body.map (Passage.mk m.params)

/-- A constructor shows no return type. -/
def ClassMember.passages : ClassMember → List Passage
  | .field f => [⟨[], f.type⟩]
  | .constructor m => m.passages none
  | .method m => m.passages m.returnType

/-- The parameters of a signature without a body stand around nothing. -/
def InterfaceMember.passages (m : InterfaceMember) : List Passage :=
  m.params.flatMap (Param.passages []) ++ [⟨[], m.returnType⟩]

def Function.passages (f : Function) : List Passage :=
  f.params.flatMap (Param.passages f.params) ++ [⟨f.params, f.returnType⟩] ++ f.body.map (Passage.mk f.params)

def Content.passages : Content → List Passage
  | .classDecl members => members.flatMap ClassMember.passages
  | .interfaceDecl members => members.flatMap InterfaceMember.passages
  | .typeAlias type => [⟨[], type⟩]
  | .function f => f.passages

def Declaration.passages (d : Declaration) : List Passage := d.content.passages

/-- All that is rendered of a file, in the order of the text. -/
def File.passages (f : File) : List Passage := f.declarations.flatMap Declaration.passages

/-! ## Texts of passages -/

/-- A text of code, with a name in the place of each reference. -/
inductive Spells (names : Reference → String → Prop) : Code → String → Prop
  | nil : Spells names [] ""
  | text (s : String) {rest : Code} {t : String} (h : Spells names rest t) : Spells names (.text s :: rest) (s ++ t)
  | ref {key : Reference} {name : String} {rest : Code} {t : String} (hname : names key name)
      (h : Spells names rest t) : Spells names (.ref key :: rest) (name ++ t)

theorem Spells.imp {names names' : Reference → String → Prop} {c : Code} {t : String} (h : Spells names c t)
    (hnames : ∀ key name, names key name → names' key name) : Spells names' c t := by
  induction h with
  | nil => exact .nil
  | text s _ ih => exact .text s ih
  | ref hname _ ih => exact .ref (hnames _ _ hname) ih

/-- Texts that stand in a longer one, one behind the other. -/
def InOrder : List String → String → Prop
  | [], _ => True
  | piece :: pieces, text => ∃ before rest, text = before ++ piece ++ rest ∧ InOrder pieces rest

theorem InOrder.before {pieces : List String} {t : String} (h : InOrder pieces t) (s : String) :
    InOrder pieces (s ++ t) := by
  cases pieces with
  | nil => trivial
  | cons piece pieces =>
    obtain ⟨before, rest, rfl, hrest⟩ := h
    exact ⟨s ++ before, rest, by simp [String.append_assoc], hrest⟩

theorem InOrder.append {pieces pieces' : List String} {s t : String} (h : InOrder pieces s) (h' : InOrder pieces' t) :
    InOrder (pieces ++ pieces') (s ++ t) := by
  induction pieces generalizing s with
  | nil => exact h'.before s
  | cons piece pieces ih =>
    obtain ⟨before, rest, rfl, hrest⟩ := h
    exact ⟨before, rest ++ t, by simp [String.append_assoc], ih hrest⟩

section Scope

variable (scope : Scope)

/-- The texts of some passages stand in a text, with the names of a scope and of the parameters around them. -/
def Shows (passages : List Passage) (text : String) : Prop :=
  ∃ texts, List.Forall₂ (fun x t => Spells (fun key name => withParams x.params scope key = some name) x.code t)
    passages texts ∧ InOrder texts text

variable {scope}

theorem shows_nil (text : String) : Shows scope [] text := ⟨[], .nil, trivial⟩

theorem Shows.append {xs ys : List Passage} {s t : String} (hs : Shows scope xs s) (ht : Shows scope ys t) :
    Shows scope (xs ++ ys) (s ++ t) := by
  obtain ⟨texts, hxs, horder⟩ := hs
  obtain ⟨texts', hys, horder'⟩ := ht
  exact ⟨texts ++ texts', List.rel_append hxs hys, horder.append horder'⟩

theorem Shows.before {xs : List Passage} {t : String} (h : Shows scope xs t) (s : String) : Shows scope xs (s ++ t) :=
  (shows_nil s).append h

theorem Shows.behind {xs : List Passage} {s : String} (h : Shows scope xs s) (t : String) :
    Shows scope xs (s ++ t) := by
  have happend := h.append (shows_nil t)
  rwa [List.append_nil] at happend

theorem shows_concat {α : Type} {xs : α → List Passage} {l : List α} {texts : List String}
    (h : List.Forall₂ (fun a t => Shows scope (xs a) t) l texts) : Shows scope (l.flatMap xs) (Text.concat texts) := by
  induction h with
  | nil => exact shows_nil _
  | cons ha _ ih => exact ha.append ih

theorem shows_joined {α : Type} {xs : α → List Passage} {l : List α} {texts : List String} (separator : String)
    (h : List.Forall₂ (fun a t => Shows scope (xs a) t) l texts) :
    Shows scope (l.flatMap xs) (Text.joined separator texts) := by
  cases h with
  | nil => exact shows_nil _
  | cons ha hl =>
    rw [Text.joined_cons, List.flatMap_cons]
    refine ha.append (shows_concat ?_)
    rw [List.forall₂_map_right_iff]
    exact hl.imp fun _ _ ht => ht.before separator

/-! ## Computations that go through passages -/

/-- A computation that goes through some passages: it gives something with a property if every reference in them has a
name, and otherwise it fails with one that has none. -/
inductive Yields {α : Type} (scope : Scope) (passages : List Passage) (P : α → Prop) : Except RenderError α → Prop
  | ok {a : α} (hall : ∀ x ∈ passages, ∀ key ∈ x.code.references, (withParams x.params scope key).isSome)
      (ha : P a) : Yields scope passages P (.ok a)
  | error {x : Passage} {key : Reference} (hx : x ∈ passages) (hkey : key ∈ x.code.references)
      (hnone : withParams x.params scope key = none) :
      Yields scope passages P (.error (.unresolvedReference key.composite))

abbrev Prints (scope : Scope) (passages : List Passage) : Except RenderError String → Prop :=
  Yields scope passages (Shows scope passages)

section Yields

variable {α β : Type} {xs ys : List Passage} {P : α → Prop} {Q : β → Prop} {c : Except RenderError α}

theorem yields_ok {a : α} (h : P a) : Yields scope [] P (.ok a) := .ok (fun _ hx => absurd hx List.not_mem_nil) h

theorem Yields.bind {f : α → Except RenderError β} (hc : Yields scope xs P c)
    (hf : ∀ a, P a → Yields scope ys Q (f a)) : Yields scope (xs ++ ys) Q (c >>= f) := by
  cases hc with
  | error hx hkey hnone => exact .error (List.mem_append_left _ hx) hkey hnone
  | @ok a hall ha =>
    rw [ok_bind]
    have hfa := hf a ha
    -- `cases` wants a variable for what the second computation gives
    generalize f a = d at hfa ⊢
    cases hfa with
    | ok hall' hb => exact .ok (List.forall_mem_append.2 ⟨hall, hall'⟩) hb
    | error hx hkey hnone => exact .error (List.mem_append_right _ hx) hkey hnone

theorem Yields.map {g : α → β} (hc : Yields scope xs P c) (hg : ∀ a, P a → Q (g a)) :
    Yields scope xs Q (c >>= fun a => .ok (g a)) := by
  have hbind := hc.bind fun a ha => yields_ok (hg a ha)
  rwa [List.append_nil] at hbind

/-- It does not matter in which order a computation goes through its passages. -/
theorem Yields.of_mem_iff (hc : Yields scope xs P c) (h : ∀ x, x ∈ xs ↔ x ∈ ys) : Yields scope ys P c := by
  cases hc with
  | ok hall ha => exact .ok (fun x hx => hall x ((h x).2 hx)) ha
  | error hx hkey hnone => exact .error ((h _).1 hx) hkey hnone

theorem yields_mapM {f : α → Except RenderError β} {passages : α → List Passage} {R : α → β → Prop} (l : List α)
    (h : ∀ a, Yields scope (passages a) (R a) (f a)) :
    Yields scope (l.flatMap passages) (fun bs => List.Forall₂ R l bs) (l.mapM f) := by
  induction l with
  | nil => exact yields_ok .nil
  | cons a l ih =>
    rw [List.mapM_cons, List.flatMap_cons]
    exact (h a).bind fun b hb => ih.map fun bs hbs => .cons hb hbs

end Yields

/-! ## Code and parameters -/

theorem withParams_nil : withParams [] scope = scope := by
  funext key
  simp [withParams, paramName?]

theorem yields_renderCode (scope : Scope) (c : Code) :
    (∃ t, renderCode scope c = .ok t ∧ (∀ key ∈ c.references, (scope key).isSome) ∧
      Spells (fun key name => scope key = some name) c t) ∨
    ∃ key ∈ c.references, scope key = none ∧ renderCode scope c = .error (.unresolvedReference key.composite) := by
  induction c with
  | nil => exact .inl ⟨"", rfl, by simp [Code.references], .nil⟩
  | cons fragment c ih =>
    cases fragment with
    | text s =>
      rcases ih with ⟨t, ht, hall, hspells⟩ | ⟨key, hkey, hnone, herror⟩
      · exact .inl ⟨s ++ t, by rw [renderCode, ht, ok_bind], hall, .text s hspells⟩
      · exact .inr ⟨key, hkey, hnone, by rw [renderCode, herror, error_bind]⟩
    | ref key =>
      cases hname : scope key with
      | none => exact .inr ⟨key, List.mem_cons_self, hname, by simp only [renderCode, hname]⟩
      | some name =>
        rcases ih with ⟨t, ht, hall, hspells⟩ | ⟨key', hkey', hnone, herror⟩
        · refine .inl ⟨name ++ t, by simp only [renderCode, hname, ht, ok_bind], ?_, .ref hname hspells⟩
          exact List.forall_mem_cons.2 ⟨by simp [hname], hall⟩
        · exact .inr ⟨key', List.mem_cons_of_mem _ hkey', hnone, by simp only [renderCode, hname, herror, error_bind]⟩

theorem prints_renderCode (params : List Param) (c : Code) :
    Prints scope [⟨params, c⟩] (renderCode (withParams params scope) c) := by
  rcases yields_renderCode (withParams params scope) c with ⟨t, ht, hall, hspells⟩ | ⟨key, hkey, hnone, herror⟩
  · rw [ht]
    refine .ok (by simpa using hall) ⟨[t], .cons hspells .nil, "", "", ?_, trivial⟩
    rw [String.empty_append, String.append_empty]
  · rw [herror]
    exact .error List.mem_cons_self hkey hnone

/-- Code outside of any function. -/
theorem prints_renderCode_nil (c : Code) : Prints scope [⟨[], c⟩] (renderCode scope c) := by
  have h : Prints scope [⟨[], c⟩] (renderCode (withParams [] scope) c) := prints_renderCode [] c
  rwa [withParams_nil] at h

theorem prints_renderParam (around : List Param) (p : Param) :
    Prints scope (p.passages around) (renderParam (withParams around scope) p) := by
  obtain ⟨name, type, optional, default, key⟩ := p
  cases default with
  | none => exact (prints_renderCode around type).map fun t ht => ht.before _
  | some value =>
    exact (prints_renderCode around type).bind fun t ht => (prints_renderCode around value).map fun v hv =>
      ((ht.before _).behind _).append hv

theorem prints_renderParams (around ps : List Param) :
    Prints scope (ps.flatMap (Param.passages around)) (renderParams (withParams around scope) ps) :=
  (yields_mapM ps fun p => prints_renderParam around p).map fun _ htexts => shows_joined _ htexts

/-! ## Functions and methods -/

theorem prints_renderLine (params : List Param) (depth : Nat) (line : Code) :
    Prints scope [⟨params, line⟩] (renderLine (withParams params scope) depth line) := by
  refine (prints_renderCode params line).map fun t ht => ?_
  split
  · next hempty =>
    subst hempty
    exact ht.behind "\n"
  · exact (ht.before _).behind _

theorem prints_renderBody (params : List Param) (depth : Nat) (lines : List Code) :
    Prints scope (lines.map (Passage.mk params)) (renderBody (withParams params scope) depth lines) := by
  rw [List.map_eq_flatMap]
  exact (yields_mapM lines fun line => prints_renderLine params depth line).map fun _ htexts => shows_concat htexts

theorem prints_renderReturn (params : List Param) (returnType : Option Code) :
    Prints scope (returnType.toList.map (Passage.mk params)) (renderReturn (withParams params scope) returnType) := by
  cases returnType with
  | none => exact yields_ok (shows_nil _)
  | some type => exact (prints_renderCode params type).map fun t ht => ht.before _

/-- The return type is gone through first, but stands behind the parameters. -/
theorem prints_renderMethod (name : String) (returnType : Option Code) (m : Method) :
    Prints scope (m.passages returnType) (renderMethod scope name returnType m) := by
  have hmem : ∀ x, x ∈ returnType.toList.map (Passage.mk m.params) ++
      (m.params.flatMap (Param.passages m.params) ++ m.body.map (Passage.mk m.params)) ↔
      x ∈ m.passages returnType := by
    simp only [Method.passages, List.mem_append]
    tauto
  refine Yields.of_mem_iff ?_ hmem
  refine (prints_renderReturn m.params returnType).bind fun result hresult => ?_
  refine (prints_renderParams m.params m.params).bind fun ps hps => ?_
  refine (prints_renderBody m.params 2 m.body).map fun body hbody => ?_
  refine ((((Shows.append ?_ hresult).behind _).append hbody).behind _).behind _
  exact (hps.before _).behind _

theorem prints_renderFunction (opening name : String) (f : Function) :
    Prints scope f.passages (renderFunction scope opening name f) := by
  rw [Function.passages, List.append_assoc]
  refine (prints_renderParams f.params f.params).bind fun ps hps => ?_
  refine (prints_renderCode f.params f.returnType).bind fun result hresult => ?_
  refine (prints_renderBody f.params 1 f.body).map fun body hbody => ?_
  rw [← List.append_assoc]
  refine (((Shows.append ?_ hresult).behind _).append hbody).behind _
  exact (hps.before _).behind _

/-! ## Members -/

theorem prints_renderField (f : Field) : Prints scope [⟨[], f.type⟩] (renderField scope f) :=
  (prints_renderCode_nil f.type).map fun _ ht => (ht.before _).behind _

theorem prints_renderClassMember (m : ClassMember) : Prints scope m.passages (renderClassMember scope m) := by
  cases m with
  | field f => exact prints_renderField f
  | constructor m => exact prints_renderMethod "constructor" none m
  | method m => exact prints_renderMethod m.name m.returnType m

theorem prints_renderMembersAfter (previous : ClassMember) (members : List ClassMember) :
    Prints scope (members.flatMap ClassMember.passages) (renderMembersAfter scope previous members) := by
  induction members generalizing previous with
  | nil => exact yields_ok (shows_nil _)
  | cons m members ih =>
    exact (prints_renderClassMember m).bind fun t ht => (ih m).map fun others hothers => (ht.before _).append hothers

theorem prints_renderMembers (members : List ClassMember) :
    Prints scope (members.flatMap ClassMember.passages) (renderMembers scope members) := by
  cases members with
  | nil => exact yields_ok (shows_nil _)
  | cons m members =>
    exact (prints_renderClassMember m).bind fun t ht =>
      (prints_renderMembersAfter m members).map fun others hothers => ht.append hothers

theorem prints_renderInterfaceMember (m : InterfaceMember) :
    Prints scope m.passages (renderInterfaceMember scope m) := by
  have hparams : Prints scope (m.params.flatMap (Param.passages [])) (renderParams (withParams [] scope) m.params) :=
    prints_renderParams [] m.params
  rw [withParams_nil] at hparams
  refine hparams.bind fun ps hps => (prints_renderCode_nil m.returnType).map fun result hresult => ?_
  exact (((hps.before _).behind "): ").append hresult).behind _

/-! ## Declarations -/

theorem prints_renderDeclaration (d : Declaration) : Prints scope d.passages (renderDeclaration scope d) := by
  obtain ⟨name, key, exported, doc, content⟩ := d
  cases content with
  | classDecl members => exact (prints_renderMembers members).map fun t ht => (ht.before _).behind _
  | interfaceDecl members =>
    exact (yields_mapM members prints_renderInterfaceMember).map fun _ htexts =>
      ((shows_concat htexts).before _).behind _
  | typeAlias type => exact (prints_renderCode_nil type).map fun t ht => (ht.before _).behind _
  | function f => exact prints_renderFunction _ name f

end Scope

/-- A file with distinct symbols goes through all of its passages, with the names of the file. -/
theorem prints_render {f : File} (h : checkSymbols [] f.symbols = .ok ()) : Prints f.scope f.passages (render f) := by
  rw [render, h, ok_bind]
  exact (yields_mapM f.declarations prints_renderDeclaration).map fun _ htexts =>
    (shows_joined _ htexts).before _

end ClientGen.Source
