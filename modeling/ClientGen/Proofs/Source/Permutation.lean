import ClientGen.Proofs.Source.Resolution

/-!
# Files in another order

The order of imports and declarations says where their texts stand and nothing else. A key has the same name wherever
its symbol stands, so that each declaration reads the same, and a file can be rendered in every order or in none.
-/

namespace ClientGen.Source

/-! ## Symbols -/

section Symbols

variable {symbols symbols' : List Symbol}

theorem DistinctSymbols.perm (h : DistinctSymbols symbols) (hp : symbols.Perm symbols') : DistinctSymbols symbols' :=
  ⟨(hp.map _).nodup_iff.1 h.names, (hp.filterMap _).nodup_iff.1 h.keys⟩

theorem nameOf?_perm (h : (keysOf symbols).Nodup) (hp : symbols.Perm symbols') :
    nameOf? symbols = nameOf? symbols' := by
  have h' : (keysOf symbols').Nodup := (hp.filterMap _).nodup_iff.1 h
  funext key
  refine Option.ext fun name => ?_
  rw [nameOf?_eq_some_iff h, nameOf?_eq_some_iff h', hp.mem_iff]

end Symbols

/-! ## Files -/

variable {f g : File}

/-- Two files list the same imports and declarations, each in an order of its own. -/
structure File.Perm (f g : File) : Prop where
  imports : f.imports.Perm g.imports
  declarations : f.declarations.Perm g.declarations

/-- The text of a file, given those of its imports and of its declarations: a blank line between any two declarations,
and one below the imports. -/
def laidOut (imports declarations : List String) : String :=
  Text.concat imports ++ (if imports.isEmpty || declarations.isEmpty then "" else "\n") ++
    Text.joined "\n" declarations

/-- A file renders exactly if its symbols are distinct and each of its declarations renders. -/
theorem render_eq_ok_iff {text : String} :
    render f = .ok text ↔ DistinctSymbols f.symbols ∧ ∃ texts,
      List.Forall₂ (fun d t => renderDeclaration f.scope d = .ok t) f.declarations texts ∧
        text = laidOut (f.imports.map renderImport) texts := by
  have hempty : ∀ {texts : List String},
      List.Forall₂ (fun d t => renderDeclaration f.scope d = .ok t) f.declarations texts →
        texts.isEmpty = f.declarations.isEmpty := by
    intro texts htexts
    rw [Bool.eq_iff_iff, List.isEmpty_iff_length_eq_zero, List.isEmpty_iff_length_eq_zero, htexts.length_eq]
  simp only [render, bind_eq_ok_iff, ← checkSymbols_nil_eq_ok_iff, mapM_eq_ok_iff, Except.ok.injEq]
  constructor
  · rintro ⟨⟨⟩, hcheck, texts, htexts, rfl⟩
    refine ⟨hcheck, texts, htexts, ?_⟩
    rw [laidOut, List.isEmpty_map, hempty htexts]
  · rintro ⟨hcheck, texts, htexts, rfl⟩
    refine ⟨(), hcheck, texts, htexts, ?_⟩
    rw [laidOut, List.isEmpty_map, hempty htexts]

/-- A file whose declarations have texts renders to these, in the order of the declarations. -/
theorem render_eq_laidOut {textOf : Declaration → String} (h : DistinctSymbols f.symbols)
    (htexts : ∀ d ∈ f.declarations, renderDeclaration f.scope d = .ok (textOf d)) :
    render f = .ok (laidOut (f.imports.map renderImport) (f.declarations.map textOf)) := by
  rw [render_eq_ok_iff]
  refine ⟨h, _, ?_, rfl⟩
  rw [List.forall₂_map_right_iff, List.forall₂_same]
  exact htexts

/-- Each declaration of a file that renders has a text. -/
theorem exists_textOf_of_render {text : String} (h : render f = .ok text) :
    ∃ textOf : Declaration → String, ∀ d ∈ f.declarations, renderDeclaration f.scope d = .ok (textOf d) := by
  obtain ⟨_, texts, htexts, _⟩ := render_eq_ok_iff.1 h
  refine ⟨fun d => (renderDeclaration f.scope d).toOption.getD "", fun d hd => ?_⟩
  obtain ⟨t, _, ht⟩ := exists_mem_of_forall₂ htexts.flip hd
  simp [ht, Except.toOption]

namespace File.Perm

theorem symm (h : f.Perm g) : g.Perm f := ⟨h.imports.symm, h.declarations.symm⟩

theorem symbols (h : f.Perm g) : f.symbols.Perm g.symbols :=
  (h.imports.flatMap_right _).append (h.declarations.map _)

theorem scope_eq (h : f.Perm g) (hs : DistinctSymbols f.symbols) : f.scope = g.scope :=
  nameOf?_perm hs.keys h.symbols

/-- What the declarations of a file read, they read in any other order of it as well. -/
theorem render_eq {text : String} {textOf : Declaration → String} (h : f.Perm g) (hf : render f = .ok text)
    (htexts : ∀ d ∈ f.declarations, renderDeclaration f.scope d = .ok (textOf d)) :
    (∀ d ∈ f.declarations, renderDeclaration g.scope d = .ok (textOf d)) ∧
      render g = .ok (laidOut (g.imports.map renderImport) (g.declarations.map textOf)) := by
  have hs : DistinctSymbols f.symbols := distinctSymbols_of_render hf
  have hg : ∀ d ∈ f.declarations, renderDeclaration g.scope d = .ok (textOf d) := h.scope_eq hs ▸ htexts
  exact ⟨hg, render_eq_laidOut (hs.perm h.symbols) fun d hd => hg d (h.declarations.mem_iff.2 hd)⟩

end File.Perm

/-- A file renders exactly if it does in another order, and then both texts are laid out from the same lines for the
imports and the same texts of the declarations, in the order of each. -/
theorem render_perm (h : f.Perm g) :
    ((∃ text, render f = .ok text) ↔ ∃ text, render g = .ok text) ∧
    ∀ text, render f = .ok text → ∃ textOf : Declaration → String,
      (∀ d ∈ f.declarations,
        renderDeclaration f.scope d = .ok (textOf d) ∧ renderDeclaration g.scope d = .ok (textOf d)) ∧
      text = laidOut (f.imports.map renderImport) (f.declarations.map textOf) ∧
      render g = .ok (laidOut (g.imports.map renderImport) (g.declarations.map textOf)) := by
  have hrenders : ∀ {f g : File}, f.Perm g → (∃ text, render f = .ok text) → ∃ text, render g = .ok text := by
    rintro f g hfg ⟨text, htext⟩
    obtain ⟨textOf, htexts⟩ := exists_textOf_of_render htext
    exact ⟨_, (hfg.render_eq htext htexts).2⟩
  refine ⟨⟨hrenders h, hrenders h.symm⟩, fun text htext => ?_⟩
  obtain ⟨textOf, htexts⟩ := exists_textOf_of_render htext
  obtain ⟨hg, hrender⟩ := h.render_eq htext htexts
  have hf := render_eq_laidOut (distinctSymbols_of_render htext) htexts
  exact ⟨textOf, fun d hd => ⟨htexts d hd, hg d hd⟩, Except.ok.inj (htext.symm.trans hf), hrender⟩

/-- The class refers to a function that comes after it, and the function to a type that is imported. -/
def forwardFile : File :=
  { imports :=
      [⟨"./models.js", [("User", some (.model "User"))]⟩, ⟨"./runtime.js", [("Client", none)]⟩]
    declarations :=
      [⟨"Users", none, true, none, .classDecl
          [.method ⟨"show", none, false, none, [], some (Code.text "void"),
            [Code.text "return " ++ Code.ref (.sendFunction "show") ++ Code.text "();"]⟩]⟩,
        ⟨"_showSend", some (.sendFunction "show"), false, none,
          .function ⟨false, [], Code.ref (.model "User"), []⟩⟩] }

def backwardFile : File := ⟨forwardFile.imports.reverse, forwardFile.declarations.reverse⟩

theorem render_perm_forward : forwardFile.Perm backwardFile ∧ (∃ text, render backwardFile = .ok text) ∧
    ∃ textOf : Declaration → String,
      (∀ d ∈ forwardFile.declarations, renderDeclaration backwardFile.scope d = .ok (textOf d)) ∧
      render backwardFile =
        .ok (laidOut (backwardFile.imports.map renderImport) (backwardFile.declarations.map textOf)) := by
  have hperm : forwardFile.Perm backwardFile := ⟨(List.reverse_perm _).symm, (List.reverse_perm _).symm⟩
  obtain ⟨hiff, htexts⟩ := render_perm hperm
  obtain ⟨textOf, hboth, _, hbackward⟩ := htexts _ rfl
  exact ⟨hperm, hiff.1 ⟨_, rfl⟩, textOf, fun d hd => (hboth d hd).2, hbackward⟩

end ClientGen.Source
