import ClientGen.Source.Render
import Mathlib.Data.List.Nodup

/-!
# What the check of symbols guarantees

The check accepts a list of symbols exactly if no name and no key stands in it twice. A key that some symbol has then
resolves to the name of that symbol.
-/

namespace ClientGen.Source

/-- The keys of symbols, in order. -/
def keysOf (symbols : List Symbol) : List Reference := symbols.filterMap Prod.snd

/-- No name and no key stands twice. -/
structure DistinctSymbols (symbols : List Symbol) : Prop where
  names : (symbols.map Prod.fst).Nodup
  keys : (keysOf symbols).Nodup

theorem mem_keysOf {symbols : List Symbol} {key : Reference} :
    key ∈ keysOf symbols ↔ ∃ name, (name, some key) ∈ symbols := by
  simp [keysOf]

theorem nameOf?_isSome_iff {symbols : List Symbol} {key : Reference} :
    (nameOf? symbols key).isSome ↔ key ∈ keysOf symbols := by
  simp [nameOf?, mem_keysOf]

/-- A key that stands once resolves to the name beside it. -/
theorem nameOf?_eq_some_of_mem {symbols : List Symbol} (h : (keysOf symbols).Nodup) {name : String} {key : Reference}
    (hm : (name, some key) ∈ symbols) : nameOf? symbols key = some name := by
  induction symbols with
  | nil => cases hm
  | cons s rest ih =>
    obtain ⟨name', key'⟩ := s
    rcases List.mem_cons.1 hm with heq | hmem
    · cases heq
      simp [nameOf?]
    · have hrest : (keysOf rest).Nodup := h.sublist ((List.sublist_cons_self _ _).filterMap _)
      have hne : key' ≠ some key := by
        rintro rfl
        have hnot : key ∉ keysOf rest := (List.nodup_cons.1 h).1
        exact hnot (mem_keysOf.2 ⟨name, hmem⟩)
      have hne' : ((key' == some key) = true) ↔ False := by simp [hne]
      simpa [nameOf?, hne'] using ih hrest hmem

namespace DistinctSymbols

theorem sublist {symbols symbols' : List Symbol} (h : DistinctSymbols symbols') (hs : symbols.Sublist symbols') :
    DistinctSymbols symbols :=
  ⟨h.names.sublist (hs.map _), h.keys.sublist (hs.filterMap _)⟩

theorem concat_iff {before : List Symbol} {name : String} {key : Option Reference} :
    DistinctSymbols (before ++ [(name, key)]) ↔ DistinctSymbols before ∧ name ∉ before.map Prod.fst ∧
      ∀ k, key = some k → k ∉ keysOf before := by
  constructor
  · intro h
    refine ⟨h.sublist (List.sublist_append_left _ _), ?_, ?_⟩
    · have hn := h.names
      rw [List.map_append, List.nodup_append] at hn
      intro hm
      exact hn.2.2 name hm name (by simp) rfl
    · rintro k rfl hm
      have hk := h.keys
      simp only [keysOf, List.filterMap_append, List.nodup_append] at hk
      exact hk.2.2 k hm k (by simp) rfl
  · rintro ⟨h, hname, hkey⟩
    refine ⟨?_, ?_⟩
    · rw [List.map_append, List.nodup_append]
      refine ⟨h.names, by simp, ?_⟩
      rintro a ha b hb rfl
      have hb' : a = name := by simpa using hb
      exact hname (hb' ▸ ha)
    · cases key with
      | none => simpa [keysOf] using h.keys
      | some k =>
        simp only [keysOf, List.filterMap_append, List.nodup_append]
        refine ⟨h.keys, by simp, ?_⟩
        rintro a ha b hb rfl
        have hb' : a = k := by simpa using hb
        exact hkey k rfl (hb' ▸ ha)

end DistinctSymbols

theorem checkSymbols_cons_eq_ok_iff {before rest : List Symbol} {name : String} {key : Option Reference} :
    checkSymbols before ((name, key) :: rest) = .ok () ↔ (name ∉ before.map Prod.fst ∧
      ∀ k, key = some k → k ∉ keysOf before) ∧ checkSymbols (before ++ [(name, key)]) rest = .ok () := by
  have hany : before.any (·.1 == name) = true ↔ name ∈ before.map Prod.fst := by simp
  simp only [checkSymbols.eq_def before, hany]
  by_cases hname : name ∈ before.map Prod.fst
  · simp [hname]
  · rw [if_neg hname]
    cases key with
    | none => simp [hname]
    | some k =>
      cases hk : nameOf? before k with
      | some existing =>
        have hmem : k ∈ keysOf before := nameOf?_isSome_iff.1 (by simp [hk])
        simp [hk, hmem]
      | none =>
        have hnot : k ∉ keysOf before := mt nameOf?_isSome_iff.2 (by simp [hk])
        simp [hk, hname, hnot]

/-- The check passes exactly if nothing stands twice. -/
theorem checkSymbols_eq_ok_iff {before rest : List Symbol} (h : DistinctSymbols before) :
    checkSymbols before rest = .ok () ↔ DistinctSymbols (before ++ rest) := by
  induction rest generalizing before with
  | nil => simpa [checkSymbols] using h
  | cons s rest ih =>
    obtain ⟨name, key⟩ := s
    have hsplit : before ++ (name, key) :: rest = before ++ [(name, key)] ++ rest := List.append_cons ..
    rw [checkSymbols_cons_eq_ok_iff, hsplit]
    constructor
    · rintro ⟨hnew, hrest⟩
      exact (ih (DistinctSymbols.concat_iff.2 ⟨h, hnew⟩)).1 hrest
    · intro hall
      have hnew : DistinctSymbols (before ++ [(name, key)]) := hall.sublist (List.sublist_append_left _ _)
      exact ⟨(DistinctSymbols.concat_iff.1 hnew).2, (ih hnew).2 hall⟩

theorem checkSymbols_nil_eq_ok_iff {symbols : List Symbol} :
    checkSymbols [] symbols = .ok () ↔ DistinctSymbols symbols :=
  checkSymbols_eq_ok_iff ⟨List.nodup_nil, List.nodup_nil⟩

end ClientGen.Source
