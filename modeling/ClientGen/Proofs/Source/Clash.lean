import ClientGen.Proofs.Source.Render
import Mathlib.Data.List.Induction

/-!
# Why a file has no symbols

The check of symbols stops at the first symbol that clashes with an earlier one: it has the name of one, or else a key
that stands for another name. Where every key stands for one name only, what is left is the first name that comes
twice.
-/

namespace ClientGen.Source

variable {before rest symbols : List Symbol} {name : String} {key : Option Reference} {e : RenderError}

/-! ## The first clash -/

/-- A symbol clashes with the ones before it. A name counts before a key. -/
inductive Clash (before : List Symbol) (name : String) (key : Option Reference) : RenderError → Prop
  | name (h : name ∈ before.map Prod.fst) : Clash before name key (.duplicateDeclaration name)
  | key {k : Reference} {existing : String} (hname : name ∉ before.map Prod.fst) (hk : key = some k)
      (h : (existing, some k) ∈ before) : Clash before name key (.conflictingSymbol k.composite existing name)

theorem checkSymbols_of_clash (hb : DistinctSymbols before) (h : Clash before name key e) :
    checkSymbols before ((name, key) :: rest) = .error e := by
  rw [checkSymbols.eq_def]
  cases h with
  | name hm =>
    have hany : before.any (·.1 == name) = true := by simpa using hm
    simp only [if_pos hany]
  | key hname hk hm =>
    have hany : ¬ before.any (·.1 == name) = true := by simpa using hname
    simp only [if_neg hany, hk, nameOf?_eq_some_of_mem hb.keys hm]

theorem checkSymbols_of_fresh (hname : name ∉ before.map Prod.fst) (hkey : ∀ k, key = some k → k ∉ keysOf before) :
    checkSymbols before ((name, key) :: rest) = checkSymbols (before ++ [(name, key)]) rest := by
  have hany : ¬ before.any (·.1 == name) = true := by simpa using hname
  rw [checkSymbols.eq_def]
  simp only [if_neg hany]
  cases key with
  | none => rfl
  | some k =>
    have hnone : nameOf? before k = none := by
      rw [← Option.not_isSome_iff_eq_none]
      exact mt nameOf?_isSome_iff.1 (hkey k rfl)
    simp only [hnone]

theorem clash_or_fresh (before : List Symbol) (name : String) (key : Option Reference) :
    (∃ e, Clash before name key e) ∨ name ∉ before.map Prod.fst ∧ ∀ k, key = some k → k ∉ keysOf before := by
  by_cases hname : name ∈ before.map Prod.fst
  · exact .inl ⟨_, .name hname⟩
  · by_cases hkey : ∃ k, key = some k ∧ k ∈ keysOf before
    · obtain ⟨k, hk, hm⟩ := hkey
      obtain ⟨existing, hexisting⟩ := mem_keysOf.1 hm
      exact .inl ⟨_, .key hname hk hexisting⟩
    · exact .inr ⟨hname, fun k hk hm => hkey ⟨k, hk, hm⟩⟩

/-- The check fails at the first symbol that clashes with the ones before it. -/
theorem checkSymbols_eq_error_iff (hb : DistinctSymbols before) :
    checkSymbols before rest = .error e ↔ ∃ mid name key after, rest = mid ++ (name, key) :: after ∧
      DistinctSymbols (before ++ mid) ∧ Clash (before ++ mid) name key e := by
  constructor
  · intro h
    induction rest generalizing before with
    | nil => cases h
    | cons s rest ih =>
      obtain ⟨name, key⟩ := s
      rcases clash_or_fresh before name key with ⟨e', hclash⟩ | ⟨hname, hkey⟩
      · cases (checkSymbols_of_clash hb hclash).symm.trans h
        exact ⟨[], name, key, rest, rfl, by simpa using hb, by simpa using hclash⟩
      · rw [checkSymbols_of_fresh hname hkey] at h
        obtain ⟨mid, name', key', after, rfl, hmid, hclash⟩ :=
          ih (DistinctSymbols.concat_iff.2 ⟨hb, hname, hkey⟩) h
        rw [List.append_assoc, List.singleton_append] at hmid hclash
        exact ⟨(name, key) :: mid, name', key', after, rfl, hmid, hclash⟩
  · rintro ⟨mid, name, key, after, rfl, hmid, hclash⟩
    induction mid generalizing before with
    | nil => exact checkSymbols_of_clash hb (by simpa using hclash)
    | cons s mid ih =>
      obtain ⟨name', key'⟩ := s
      rw [List.append_cons] at hmid hclash
      obtain ⟨_, hname, hkey⟩ := DistinctSymbols.concat_iff.1 (hmid.sublist (List.sublist_append_left _ _))
      rw [List.cons_append, checkSymbols_of_fresh hname hkey]
      exact ih (DistinctSymbols.concat_iff.2 ⟨hb, hname, hkey⟩) hmid hclash

/-! ## Names that come twice -/

/-- A name is the first in a list that stands there before. -/
def Repeats (name : String) (names : List String) : Prop :=
  ∃ before after, names = before ++ name :: after ∧ before.Nodup ∧ name ∈ before

theorem exists_repeats_iff {names : List String} : (∃ name, Repeats name names) ↔ ¬ names.Nodup := by
  constructor
  · rintro ⟨name, before, after, rfl, _, hm⟩ hnodup
    exact (List.nodup_append.1 hnodup).2.2 name hm name List.mem_cons_self rfl
  · intro hnot
    induction names using List.reverseRecOn with
    | nil => exact absurd List.nodup_nil hnot
    | append_singleton names last ih =>
      by_cases hnodup : names.Nodup
      · have hm : last ∈ names := by
          by_contra hfresh
          exact hnot (List.concat_eq_append ▸ hnodup.concat hfresh)
        exact ⟨last, names, [], rfl, hnodup, hm⟩
      · obtain ⟨name, before, after, rfl, hbefore, hm⟩ := ih hnodup
        exact ⟨name, before, after ++ [last], by simp, hbefore, hm⟩

/-- Each key among symbols stands for the one name that a function gives it. -/
def NamedBy (nameOf : Reference → String) (symbols : List Symbol) : Prop :=
  ∀ name key, (name, some key) ∈ symbols → name = nameOf key

section NamedBy

variable {nameOf : Reference → String} (h : NamedBy nameOf symbols)
include h

theorem NamedBy.distinctSymbols (hnames : (symbols.map Prod.fst).Nodup) : DistinctSymbols symbols := by
  refine ⟨hnames, ?_⟩
  have hmap : (keysOf symbols).map nameOf = (symbols.filter fun s => s.2.isSome).map Prod.fst := by
    clear hnames
    induction symbols with
    | nil => rfl
    | cons s symbols ih =>
      obtain ⟨name, key⟩ := s
      have hrest := ih fun n k hm => h n k (List.mem_cons_of_mem _ hm)
      cases key with
      | none => simpa [keysOf] using hrest
      | some k =>
        have hname : name = nameOf k := h name k List.mem_cons_self
        simpa [keysOf, ← hname] using hrest
  have hsublist : ((keysOf symbols).map nameOf).Sublist (symbols.map Prod.fst) := by
    rw [hmap]
    exact List.filter_sublist.map _
  exact (hnames.sublist hsublist).of_map

/-- Where no key is shared the check fails with the first name that comes twice. -/
theorem NamedBy.checkSymbols_eq_error_iff :
    checkSymbols [] symbols = .error e ↔
      ∃ name, Repeats name (symbols.map Prod.fst) ∧ e = .duplicateDeclaration name := by
  have hnil : DistinctSymbols [] := ⟨List.nodup_nil, List.nodup_nil⟩
  rw [Source.checkSymbols_eq_error_iff hnil]
  constructor
  · rintro ⟨mid, name, key, after, rfl, hmid, hclash⟩
    rw [List.nil_append] at hmid hclash
    cases hclash with
    | name hm => exact ⟨name, ⟨mid.map Prod.fst, after.map Prod.fst, by simp, hmid.names, hm⟩, rfl⟩
    | key hname hk hm =>
      subst hk
      have hexisting := h _ _ (List.mem_append_left _ hm)
      have hself := h name _ (List.mem_append_right _ List.mem_cons_self)
      exact absurd (hself ▸ hexisting ▸ List.mem_map_of_mem hm) hname
  · rintro ⟨name, ⟨before, after, heq, hbefore, hm⟩, rfl⟩
    obtain ⟨mid, tail, rfl, rfl, htail⟩ := List.map_eq_append_iff.1 heq
    obtain ⟨⟨name', key⟩, tail, rfl, rfl, _⟩ := List.map_eq_cons_iff.1 htail
    have hmid : NamedBy nameOf mid := fun n k hn => h n k (List.mem_append_left _ hn)
    exact ⟨mid, name', key, tail, rfl, hmid.distinctSymbols hbefore, .name hm⟩

end NamedBy

/-! ## Files -/

/-- The names in a file: those that it imports, then those that it declares. -/
def File.names (f : File) : List String :=
  f.imports.flatMap (fun i => i.names.map Prod.fst) ++ f.declarations.map Declaration.name

theorem File.map_fst_symbols (f : File) : f.symbols.map Prod.fst = f.names := by
  simp [File.symbols, File.names, List.map_flatMap, Function.comp_def]

theorem render_of_checkSymbols {f : File} (h : checkSymbols [] f.symbols = .error e) : render f = .error e := by
  rw [render, h, error_bind]

/-- A file whose keys each stand for one name, and that renders if no name comes twice, fails only with the first name
that does. -/
theorem render_eq_error_iff {f : File} {nameOf : Reference → String} (h : NamedBy nameOf f.symbols)
    (hrender : DistinctSymbols f.symbols → ∃ text, render f = .ok text) :
    render f = .error e ↔ ∃ name, Repeats name f.names ∧ e = .duplicateDeclaration name := by
  rw [← File.map_fst_symbols, ← h.checkSymbols_eq_error_iff]
  constructor
  · intro hfail
    cases hcheck : checkSymbols [] f.symbols with
    | error e' =>
      cases (render_of_checkSymbols hcheck).symm.trans hfail
      rfl
    | ok u =>
      obtain ⟨text, htext⟩ := hrender (checkSymbols_nil_eq_ok_iff.1 hcheck)
      cases htext.symm.trans hfail
  · exact render_of_checkSymbols

end ClientGen.Source
