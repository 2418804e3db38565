import ClientGen.Dict
import Mathlib.Algebra.GroupWithZero.Nat
import Mathlib.Data.List.Induction
import Mathlib.Data.List.Nodup

/-!
# Dictionaries after a write

What stands in a dictionary after one of its keys is written, and what is found there.
-/

namespace ClientGen

namespace Dict

variable {κ α : Type} [DecidableEq κ]

theorem mem_write {k k' : κ} {v : α} {f : Option α → α} {entries : List (κ × α)}
    (h : (k', v) ∈ write k f entries) :
    (k', v) ∈ entries ∨ (k', v) = (k, f none) ∨ ∃ w, (k, w) ∈ entries ∧ (k', v) = (k, f (some w)) := by
  induction entries with
  | nil => exact Or.inr (Or.inl (by simpa [write] using h))
  | cons e rest ih =>
    obtain ⟨k₁, w⟩ := e
    by_cases hk : k₁ = k
    · subst hk
      rw [write, if_pos rfl, List.mem_cons] at h
      rcases h with h | h
      · exact Or.inr (Or.inr ⟨w, List.mem_cons_self, h⟩)
      · exact Or.inl (List.mem_cons_of_mem _ h)
    · rw [write, if_neg hk, List.mem_cons] at h
      rcases h with h | h
      · exact Or.inl (h ▸ List.mem_cons_self)
      · rcases ih h with h | h | ⟨w', hw, h⟩
        · exact Or.inl (List.mem_cons_of_mem _ h)
        · exact Or.inr (Or.inl h)
        · exact Or.inr (Or.inr ⟨w', List.mem_cons_of_mem _ hw, h⟩)

theorem mem_write_of_ne {k k' : κ} {v : α} {f : Option α → α} {entries : List (κ × α)} (hk : k' ≠ k)
    (h : (k', v) ∈ entries) : (k', v) ∈ write k f entries := by
  induction entries with
  | nil => cases h
  | cons e rest ih =>
    obtain ⟨k₁, w⟩ := e
    by_cases hk₁ : k₁ = k
    · rw [write, if_pos hk₁]
      rcases List.mem_cons.1 h with h | h
      · cases h
        exact absurd hk₁ hk
      · exact List.mem_cons_of_mem _ h
    · rw [write, if_neg hk₁]
      rcases List.mem_cons.1 h with h | h
      · exact h ▸ List.mem_cons_self
      · exact List.mem_cons_of_mem _ (ih h)

/-- What stood at the key is handed over to what stands there afterwards. -/
theorem mem_write_self (k : κ) (f : Option α → α) (entries : List (κ × α)) :
    (k, f (find? k entries)) ∈ write k f entries := by
  induction entries with
  | nil => simp [write, find?]
  | cons e rest ih =>
    obtain ⟨k₁, w⟩ := e
    by_cases hk : k₁ = k
    · subst hk
      simp [write, find?]
    · simp only [write, find?, if_neg hk]
      exact List.mem_cons_of_mem _ ih

theorem find?_eq_some_of_mem {k : κ} {v : α} {entries : List (κ × α)} (hn : (entries.map Prod.fst).Nodup)
    (h : (k, v) ∈ entries) : find? k entries = some v := by
  induction entries with
  | nil => cases h
  | cons e rest ih =>
    obtain ⟨k₁, w⟩ := e
    rw [List.map_cons, List.nodup_cons] at hn
    rcases List.mem_cons.1 h with h | h
    · cases h
      simp [find?]
    · have hk : k₁ ≠ k := by
        rintro rfl
        exact hn.1 (List.mem_map.2 ⟨(k₁, v), h, rfl⟩)
      rw [find?, if_neg hk, ih hn.2 h]

theorem mem_of_find?_eq_some {k : κ} {v : α} {entries : List (κ × α)} (h : find? k entries = some v) :
    (k, v) ∈ entries := by
  induction entries with
  | nil => cases h
  | cons e rest ih =>
    obtain ⟨k', v'⟩ := e
    by_cases hk : k' = k
    · obtain rfl : v' = v := by simpa [find?, hk] using h
      exact hk ▸ List.mem_cons_self
    · exact List.mem_cons_of_mem _ (ih (by simpa [find?, hk] using h))

theorem find?_write (k k' : κ) (f : Option α → α) (entries : List (κ × α)) :
    find? k' (write k f entries) = if k' = k then some (f (find? k entries)) else find? k' entries := by
  induction entries with
  | nil =>
    by_cases h : k = k'
    · simp [write, find?, h]
    · simp [write, find?, h, Ne.symm h]
  | cons e rest ih =>
    obtain ⟨k₁, v⟩ := e
    by_cases h₁ : k₁ = k
    · subst h₁
      by_cases h : k₁ = k'
      · simp [write, find?, h]
      · simp [write, find?, h, Ne.symm h]
    · by_cases h : k₁ = k'
      · subst h
        simp [write, find?, h₁]
      · simp [write, find?, h₁, h, ih]

theorem get?_update (d : Dict κ α) (k k' : κ) (f : Option α → α) :
    (d.update k f).get? k' = if k' = k then some (f (d.get? k)) else d.get? k' :=
  find?_write k k' f d.entries

theorem get?_insert (d : Dict κ α) (k k' : κ) (v : α) :
    (d.insert k v).get? k' = if k' = k then some v else d.get? k' :=
  get?_update d k k' fun _ => v

theorem ofList_concat (entries : List (κ × α)) (e : κ × α) :
    ofList (entries ++ [e]) = (ofList entries).insert e.1 e.2 :=
  List.foldl_append

/-- In a dictionary made from a list the last value for a key wins. -/
theorem get?_ofList (entries : List (κ × α)) (k : κ) :
    (ofList entries).get? k = (entries.filterMap fun e => if e.1 = k then some e.2 else none).getLast? := by
  induction entries using List.reverseRecOn with
  | nil => rfl
  | append_singleton entries e ih =>
    rw [ofList_concat, get?_insert, ih, List.filterMap_append, List.getLast?_append]
    by_cases hk : e.1 = k
    · simp [hk]
    · simp [hk, Ne.symm hk]

theorem find?_eq_none_of_notMem {k : κ} {entries : List (κ × α)} (h : k ∉ entries.map Prod.fst) :
    find? k entries = none := by
  induction entries with
  | nil => rfl
  | cons e rest ih =>
    obtain ⟨k₁, v⟩ := e
    rw [List.map_cons, List.mem_cons, not_or] at h
    rw [find?, if_neg (Ne.symm h.1), ih h.2]

theorem write_of_notMem {k : κ} {entries : List (κ × α)} (h : k ∉ entries.map Prod.fst) (f : Option α → α) :
    write k f entries = entries ++ [(k, f none)] := by
  induction entries with
  | nil => rfl
  | cons e rest ih =>
    obtain ⟨k₁, v⟩ := e
    rw [List.map_cons, List.mem_cons, not_or] at h
    rw [write, if_neg (Ne.symm h.1), ih h.2, List.cons_append]

/-- A list of keys with a value for each: writing to one of them rewrites its value and no other. -/
theorem write_map_of_mem {k : κ} {keys : List κ} (h : k ∈ keys) (hn : keys.Nodup) (v : κ → α) (f : Option α → α) :
    write k f (keys.map fun k' => (k', v k')) = keys.map fun k' => (k', if k' = k then f (some (v k)) else v k') := by
  induction keys with
  | nil => cases h
  | cons k₁ keys ih =>
    rw [List.nodup_cons] at hn
    by_cases hk : k₁ = k
    · subst hk
      have hrest : ∀ k' ∈ keys, (k', v k') = (k', if k' = k₁ then f (some (v k₁)) else v k') := by
        intro k' hk'
        rw [if_neg (ne_of_mem_of_not_mem hk' hn.1)]
      rw [List.map_cons, write, if_pos rfl, List.map_cons, if_pos rfl, List.map_congr_left hrest]
    · have hmem : k ∈ keys := (List.mem_cons.1 h).resolve_left (Ne.symm hk)
      rw [List.map_cons, write, if_neg hk, ih hmem hn.2, List.map_cons, if_neg hk]

theorem entries_insertAll (d : Dict κ α) {entries : List (κ × α)} (h : (d.keys ++ entries.map Prod.fst).Nodup) :
    (d.insertAll entries).entries = d.entries ++ entries := by
  induction entries generalizing d with
  | nil => simp [insertAll]
  | cons e rest ih =>
    have hnew : e.1 ∉ d.entries.map Prod.fst := fun hmem =>
      (List.nodup_append.1 h).2.2 _ hmem _ (List.mem_map_of_mem List.mem_cons_self) rfl
    have hentries : (d.insert e.1 e.2).entries = d.entries ++ [e] := write_of_notMem hnew fun _ => e.2
    have hkeys : ((d.insert e.1 e.2).keys ++ rest.map Prod.fst).Nodup := by
      rw [keys, hentries, List.map_append, List.append_assoc]
      exact h
    exact (ih (d.insert e.1 e.2) hkeys).trans (by rw [hentries, List.append_assoc, List.singleton_append])

/-- A list in which no key comes twice is the dictionary that is made from it. -/
theorem entries_ofList {entries : List (κ × α)} (h : (entries.map Prod.fst).Nodup) :
    (ofList entries).entries = entries :=
  entries_insertAll empty h

omit [DecidableEq κ] in
theorem ext_entries {d d' : Dict κ α} (h : d.entries = d'.entries) : d = d' := by
  cases d
  cases d'
  cases h
  rfl

theorem ofList_entries (d : Dict κ α) : ofList d.entries = d :=
  ext_entries (entries_ofList d.nodup)

end Dict

end ClientGen
