import ClientGen.Proofs.Declarative.TypeCode

/-!
# Tokens and references of a type expression

A type expression is cut into tokens in one way: into its longest runs of identifier characters, and all other
characters one by one. Its code refers to just the tokens that an import set binds to a key, and renders back to the
expression in every file that has these imports.
-/

namespace ClientGen

/-! ## Tokens -/

/-- A token between the text before and the text after it: a character that belongs to no identifier, or identifier
characters that neither text goes on with. -/
inductive IsToken (before after : List Char) : List Char → Prop
  | mark {c : Char} (hc : isTypeChar c = false) : IsToken before after [c]
  | run {token : List Char} (hne : token ≠ []) (hrun : ∀ c ∈ token, isTypeChar c = true)
      (hbefore : ∀ c ∈ before.getLast?, isTypeChar c = false) (hafter : ∀ c ∈ after.head?, isTypeChar c = false) :
      IsToken before after token

/-- Each of some texts is a token of all of them together. -/
def Tokenized (tokens : List (List Char)) : Prop :=
  ∀ before token after, tokens = before ++ token :: after → IsToken before.flatten after.flatten token

/-- Texts that are tokens as they are read from the left, where it only counts what comes after each of them. -/
inductive ReadTokens : List (List Char) → Prop
  | nil : ReadTokens []
  | mark {c : Char} {rest : List (List Char)} (hc : isTypeChar c = false) (hrest : ReadTokens rest) :
      ReadTokens ([c] :: rest)
  | run {token : List Char} {rest : List (List Char)} (hne : token ≠ []) (hrun : ∀ c ∈ token, isTypeChar c = true)
      (hafter : ∀ c ∈ rest.flatten.head?, isTypeChar c = false) (hrest : ReadTokens rest) : ReadTokens (token :: rest)

namespace ReadTokens

variable {before after tokens : List (List Char)} {token : List Char}

theorem of_append (h : ReadTokens (before ++ after)) : ReadTokens after := by
  induction before with
  | nil => exact h
  | cons t before ih =>
    cases h with
    | mark _ hrest => exact ih hrest
    | run _ _ _ hrest => exact ih hrest

/-- What comes before an identifier character does not end in one, or both would be in one run. -/
theorem getLast?_of_append (h : ReadTokens (before ++ after)) {d : Char} (hd : d ∈ after.flatten.head?)
    (hrun : isTypeChar d = true) : ∀ c ∈ before.flatten.getLast?, isTypeChar c = false := by
  induction before with
  | nil => exact fun c hc => nomatch hc
  | cons t before ih =>
    intro c hc
    have hrest : ReadTokens (before ++ after) := of_append (show ReadTokens ([t] ++ (before ++ after)) from h)
    rw [List.flatten_cons, List.getLast?_append, Option.mem_def, Option.or_eq_some_iff] at hc
    rcases hc with hc | ⟨hnone, hc⟩
    · exact ih hrest c hc
    · have hflatten : before.flatten = [] := List.getLast?_eq_none_iff.1 hnone
      cases h with
      | mark hmark => exact Option.some.inj hc ▸ hmark
      | run _ _ hafter =>
        have hbehind : d ∈ (before ++ after).flatten.head? := by rwa [List.flatten_append, hflatten, List.nil_append]
        exact absurd (hafter d hbehind) (by simp [hrun])

theorem tokenized (h : ReadTokens tokens) : Tokenized tokens := by
  rintro before token after rfl
  have htoken : ReadTokens (token :: after) := h.of_append
  cases htoken with
  | mark hc => exact .mark hc
  | run hne hrun hafter =>
    obtain ⟨d, rest, rfl⟩ := List.exists_cons_of_ne_nil hne
    exact .run hne hrun (h.getLast?_of_append rfl (hrun d List.mem_cons_self)) hafter

theorem of_tokenized (h : Tokenized tokens) : ReadTokens tokens := by
  induction tokens with
  | nil => exact .nil
  | cons t rest ih =>
    have hrest : ReadTokens rest := by
      refine ih fun before token after heq => ?_
      cases h (t :: before) token after (by rw [heq, List.cons_append]) with
      | mark hc => exact .mark hc
      | run hne hrun hbefore hafter =>
        refine .run hne hrun (fun c hc => hbefore c ?_) hafter
        rw [List.flatten_cons, List.getLast?_append, Option.mem_def.1 hc]
        rfl
    cases h [] t rest rfl with
    | mark hc => exact .mark hc hrest
    | run hne hrun _ hafter => exact .run hne hrun hafter hrest

end ReadTokens

theorem tokenized_iff {tokens : List (List Char)} : Tokenized tokens ↔ ReadTokens tokens :=
  ⟨.of_tokenized, ReadTokens.tokenized⟩

theorem readTokens_tokensOf (s : List Char) : ReadTokens (tokensOf s) := by
  induction s with
  | nil => exact .nil
  | cons c rest ih =>
    cases htokens : tokensOf rest with
    | nil =>
      cases hc : isTypeChar c with
      | false => simpa only [tokensOf, htokens] using ReadTokens.mark hc .nil
      | true => simpa only [tokensOf, htokens] using ReadTokens.run (by simp) (by simp [hc]) (by simp) .nil
    | cons token tokens =>
      rw [htokens] at ih
      obtain ⟨d, token, rfl⟩ : ∃ d t, token = d :: t := by
        cases ih with
        | mark => exact ⟨_, _, rfl⟩
        | run hne => exact List.exists_cons_of_ne_nil hne
      simp only [tokensOf, htokens, List.head?_cons, Option.any_some, Bool.and_eq_true]
      split
      · next hboth =>
        cases ih with
        | mark hd => exact absurd hboth.2 (by simp [hd])
        | run hne hrun hafter hrest => exact .run (by simp) (List.forall_mem_cons.2 ⟨hboth.1, hrun⟩) hafter hrest
      · next hnot =>
        cases hc : isTypeChar c with
        | false => exact .mark hc ih
        | true =>
          have hd : isTypeChar d = false := by simpa [hc] using hnot
          exact .run (by simp) (by simp [hc]) (by simp [hd]) ih

theorem head?_of_tokensOf {s : List Char} {token : List Char} {tokens : List (List Char)}
    (h : tokensOf s = token :: tokens) : token.head? = s.head? := by
  have hflatten := flatten_tokensOf s
  have hread := readTokens_tokensOf s
  rw [h] at hflatten hread
  have hne : token ≠ [] := by
    cases hread with
    | mark => exact List.cons_ne_nil _ _
    | run hne => exact hne
  rw [← hflatten, List.flatten_cons, List.head?_append_of_ne_nil _ hne]

/-- A run with nothing behind it that would go on with it is one token. -/
theorem tokensOf_run_append {run s : List Char} (hne : run ≠ []) (hrun : ∀ c ∈ run, isTypeChar c = true)
    (hafter : ∀ c ∈ s.head?, isTypeChar c = false) : tokensOf (run ++ s) = run :: tokensOf s := by
  induction run with
  | nil => exact absurd rfl hne
  | cons c run ih =>
    obtain ⟨hc, hrest⟩ := List.forall_mem_cons.1 hrun
    cases run with
    | nil =>
      rw [List.singleton_append, tokensOf]
      cases htokens : tokensOf s with
      | nil => rfl
      | cons token tokens =>
        have hhead : token.head?.any isTypeChar = false := by
          rw [head?_of_tokensOf htokens, Option.any_eq_false]
          exact fun d hd => by simp [hafter d hd]
        simp [hhead]
    | cons d run =>
      have hd := hrest d List.mem_cons_self
      rw [List.cons_append, tokensOf, ih (by simp) hrest]
      simp [hc, hd]

theorem tokensOf_flatten {tokens : List (List Char)} (h : ReadTokens tokens) : tokensOf tokens.flatten = tokens := by
  induction h with
  | nil => rfl
  | @mark c rest hc _ ih =>
    rw [List.flatten_cons, List.singleton_append, tokensOf, ih]
    cases rest with
    | nil => rfl
    | cons token tokens => simp [hc]
  | run hne hrun hafter _ ih => rw [List.flatten_cons, tokensOf_run_append hne hrun hafter, ih]

/-- A text has one cut into tokens. -/
theorem eq_tokensOf_iff {s : List Char} {tokens : List (List Char)} :
    tokens = tokensOf s ↔ tokens.flatten = s ∧ Tokenized tokens := by
  rw [tokenized_iff]
  constructor
  · rintro rfl
    exact ⟨flatten_tokensOf s, readTokens_tokensOf s⟩
  · rintro ⟨rfl, h⟩
    exact (tokensOf_flatten h).symm

theorem toList_concat (texts : List String) : (Text.concat texts).toList = (texts.map String.toList).flatten := by
  induction texts with
  | nil => rfl
  | cons text texts ih => rw [Text.concat_cons, String.toList_append, ih, List.map_cons, List.flatten_cons]

theorem eq_typeTokens_iff {type : String} {tokens : List String} :
    tokens = typeTokens type ↔ Text.concat tokens = type ∧ Tokenized (tokens.map String.toList) := by
  have hlists : tokens = typeTokens type ↔ tokens.map String.toList = tokensOf type.toList := by
    rw [typeTokens]
    constructor
    · rintro rfl
      simp [Function.comp_def]
    · intro h
      simp [← h, Function.comp_def]
  rw [hlists, eq_tokensOf_iff, ← toList_concat, String.toList_inj]

/-! ## References -/

namespace Declarative

open Source (Code Scope renderCode withParams)

variable {i : Imports} {scope : Scope}

/-- No name of an import set that has a key is among some tokens. -/
def Keyless (i : Imports) (tokens : List String) : Prop := ∀ token ∈ tokens, ∀ key, (token, some key) ∉ i.symbols

theorem keyless_nil : Keyless i [] := fun _ h => nomatch h

/-- Code that stands for tokens: a reference for each token that an import set binds to a key, and between references
all other tokens as one text. -/
inductive CodeOf (i : Imports) : List String → Code → Prop
  | plain {tokens : List String} (hplain : Keyless i tokens) : CodeOf i tokens (plainCode (Text.concat tokens))
  | ref {plain tokens : List String} {token : String} {key : Reference} {code : Code} (hplain : Keyless i plain)
      (hkey : (token, some key) ∈ i.symbols) (hrest : CodeOf i tokens code) :
      CodeOf i (plain ++ token :: tokens) (plainCode (Text.concat plain) ++ .ref key :: code)

theorem importedKey?_eq_none_iff {name : String} :
    importedKey? i name = none ↔ ∀ key, (name, some key) ∉ i.symbols := by
  simp only [importedKey?, List.findSome?_eq_none_iff, List.mem_reverse, Prod.forall]
  constructor
  · intro h key hmem
    simpa using h name (some key) hmem
  · intro h other key hmem
    split
    · next hname =>
      cases key with
      | none => rfl
      | some key => exact absurd (eq_of_beq hname ▸ hmem) (h key)
    · rfl

theorem codeOf_tokensCode {plain : List String} (hplain : Keyless i plain) (tokens : List String) :
    CodeOf i (plain ++ tokens) (tokensCode i (Text.concat plain) tokens) := by
  induction tokens generalizing plain with
  | nil =>
    rw [List.append_nil]
    exact .plain hplain
  | cons token tokens ih =>
    rw [tokensCode]
    cases hkey : importedKey? i token with
    | some key => exact .ref hplain (mem_symbols_of_importedKey? hkey) (ih keyless_nil)
    | none =>
      have hmore : Keyless i (plain ++ [token]) :=
        List.forall_mem_append.2 ⟨hplain, List.forall_mem_singleton.2 (importedKey?_eq_none_iff.1 hkey)⟩
      have hrest := ih hmore
      rwa [List.append_assoc, List.singleton_append, Text.concat_append, Text.concat_cons, Text.concat_nil,
        String.append_empty] at hrest

/-- Parameters that bind no imported key leave the imported names as they are. -/
theorem Resolves.withUnbound {params : List Source.Param} (h : Resolves i scope)
    (hparams : ∀ p ∈ params, ∀ name key, (name, some key) ∈ i.symbols → p.key ≠ some key) :
    Resolves i (Source.withParams params scope) := fun name key hm => by
  rw [Source.withParams_of_forall_ne fun p hp => hparams p hp name key hm, h name key hm]

/-- The tokens of a type expression are its only cut into longest runs of identifier characters and single other
characters. Its code has a reference for just those tokens that an import set binds to a key, and wherever the symbols
of a file with these imports are distinct, it renders to the expression itself, within any function whose parameters
bind none of the imported keys. -/
theorem typeCode_spells (i : Imports) (type : String) :
    (∀ tokens, tokens = typeTokens type ↔ Text.concat tokens = type ∧ Tokenized (tokens.map String.toList)) ∧
    CodeOf i (typeTokens type) (typeCode i type) ∧
    ∀ f : Source.File, f.imports = importsOf i → Source.checkSymbols [] f.symbols = .ok () →
      ∀ params : List Source.Param, (∀ p ∈ params, ∀ name key, (name, some key) ∈ i.symbols → p.key ≠ some key) →
        renderCode (withParams params f.scope) (typeCode i type) = .ok type := by
  refine ⟨fun tokens => eq_typeTokens_iff, codeOf_tokensCode keyless_nil (typeTokens type), ?_⟩
  intro f himports hsymbols params hparams
  have hresolves := resolves_scope himports (Source.checkSymbols_nil_eq_ok_iff.1 hsymbols)
  exact renderCode_typeCode (hresolves.withUnbound hparams) type

theorem typeCode_spells_users :
    let i := Imports.empty.addModels "./models.js" "User"
    let f : Source.File := ⟨importsOf i, []⟩
    let params := [plainParam "keep" "User" (Code.text "string")]
    let tokens := ["Promise", "<", "User", "[", "]", ">"]
    tokens = typeTokens "Promise<User[]>" ∧ Tokenized (tokens.map String.toList) ∧
      typeCode i "Promise<User[]>" = [.text "Promise<", .ref (.model "User"), .text "[]>"] ∧
      renderCode (withParams params f.scope) (typeCode i "Promise<User[]>") = .ok "Promise<User[]>" := by
  intro i f params tokens
  obtain ⟨htokens, _, hrender⟩ := typeCode_spells i "Promise<User[]>"
  have hcut : tokens = typeTokens "Promise<User[]>" := by decide
  have hkeys : ∀ name key, (name, some key) ∈ i.symbols → key = .model "User" := by
    have hsymbols : i.symbols = [("User", some (.model "User"))] := by decide
    intro name key hmem
    rw [hsymbols, List.mem_singleton] at hmem
    exact Option.some.inj (congrArg Prod.snd hmem)
  refine ⟨hcut, ((htokens tokens).1 hcut).2, by decide, hrender f rfl (by decide) params ?_⟩
  intro p hp name key hmem
  obtain rfl := List.mem_singleton.1 hp
  rw [hkeys name key hmem]
  decide

end Declarative

end ClientGen
