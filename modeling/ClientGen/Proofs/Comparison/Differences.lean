import ClientGen.Comparison.Differences
import Mathlib.Data.List.Sort
import Mathlib.Data.String.Basic

/-!
# When texts differ

Two source texts have no differences exactly if they export the same names, equally many in sum, and import the same
things. The shortcut over normal forms decides nothing else, so that to have no differences is an equivalence.
-/

namespace ClientGen.Comparison

/-! ## Ordered texts -/

theorem mem_insertOrdered {s t : String} {l : List String} : t ∈ insertOrdered s l ↔ t = s ∨ t ∈ l := by
  induction l with
  | nil => simp [insertOrdered]
  | cons u l ih =>
    unfold insertOrdered
    split
    · next h => simp [h]
    · split
      · simp
      · simp [ih, or_left_comm]

theorem pairwise_insertOrdered {s : String} {l : List String} (h : l.Pairwise (· < ·)) :
    (insertOrdered s l).Pairwise (· < ·) := by
  induction l with
  | nil => simp [insertOrdered]
  | cons u l ih =>
    obtain ⟨hu, hl⟩ := List.pairwise_cons.1 h
    unfold insertOrdered
    split
    · exact h
    · next hne =>
      split
      · next hlt =>
        refine List.pairwise_cons.2 ⟨fun t ht => ?_, h⟩
        rcases List.mem_cons.1 ht with rfl | ht
        · exact hlt
        · exact hlt.trans (hu t ht)
      · next hnlt =>
        refine List.pairwise_cons.2 ⟨fun t ht => ?_, ih hl⟩
        rcases mem_insertOrdered.1 ht with rfl | ht
        · exact lt_of_le_of_ne (not_lt.1 hnlt) (Ne.symm hne)
        · exact hu t ht

theorem mem_foldl_insertOrdered {t : String} {l sorted : List String} :
    t ∈ l.foldl (fun sorted s => insertOrdered s sorted) sorted ↔ t ∈ l ∨ t ∈ sorted := by
  induction l generalizing sorted with
  | nil => simp
  | cons s l ih => simp [ih, mem_insertOrdered, or_left_comm, or_assoc]

theorem mem_ordered {t : String} {l : List String} : t ∈ ordered l ↔ t ∈ l := by
  simp [ordered, mem_foldl_insertOrdered]

theorem pairwise_ordered (l : List String) : (ordered l).Pairwise (· < ·) := by
  have hfold : ∀ sorted : List String, sorted.Pairwise (· < ·) →
      (l.foldl (fun sorted s => insertOrdered s sorted) sorted).Pairwise (· < ·) := by
    induction l with
    | nil => exact fun sorted h => h
    | cons s l ih => exact fun sorted h => ih _ (pairwise_insertOrdered h)
  exact hfold [] List.Pairwise.nil

/-- In order, texts are given by what occurs among them. -/
theorem ordered_eq_ordered_iff {l l' : List String} : ordered l = ordered l' ↔ ∀ t, t ∈ l ↔ t ∈ l' := by
  constructor
  · intro h t
    rw [← mem_ordered, h, mem_ordered]
  · intro h
    refine (pairwise_ordered l).eq_of_mem_iff (pairwise_ordered l') fun t => ?_
    rw [mem_ordered, mem_ordered, h]

/-! ## Differences -/

/-- Two source texts export the same names, equally many in sum, and import the same things. -/
structure SameInterface (a b : String) : Prop where
  exports : ∀ name, name ∈ exportedNames a ↔ name ∈ exportedNames b
  count : (exportedNames a).length = (exportedNames b).length
  imports : ∀ statement, statement ∈ importStatements a ↔ statement ∈ importStatements b

theorem equivalence_sameInterface : Equivalence SameInterface where
  refl _ := ⟨fun _ => Iff.rfl, rfl, fun _ => Iff.rfl⟩
  symm h := ⟨fun name => (h.exports name).symm, h.count.symm, fun statement => (h.imports statement).symm⟩
  trans h h' := ⟨fun name => (h.exports name).trans (h'.exports name), h.count.trans h'.count,
    fun statement => (h.imports statement).trans (h'.imports statement)⟩

/-- Exports and imports are read off the normal form. -/
theorem SameInterface.of_normalize_eq {a b : String} (h : normalize a = normalize b) : SameInterface a b := by
  have hexports : exportedNames a = exportedNames b := by rw [exportedNames, exportedNames, h]
  have himports : importStatements a = importStatements b := by rw [importStatements, importStatements, h]
  exact ⟨fun name => by rw [hexports], by rw [hexports], fun statement => by rw [himports]⟩

theorem without_eq_nil_iff {texts others : List String} : without texts others = [] ↔ ∀ t ∈ texts, t ∈ others := by
  simp [without, List.filter_eq_nil_iff]

theorem missingExports_eq_nil_iff {side : String} {names : List String} :
    missingExports side names = [] ↔ names = [] := by
  unfold missingExports
  cases names <;> simp

theorem forall_mem_ordered_iff {l l' : List String} : (∀ t ∈ ordered l, t ∈ ordered l') ↔ ∀ t ∈ l, t ∈ l' := by
  simp only [mem_ordered]

theorem exportDifferences_eq_nil_iff {primary baseline : List String} :
    exportDifferences primary baseline = [] ↔
      (∀ name, name ∈ primary ↔ name ∈ baseline) ∧ primary.length = baseline.length := by
  have hcounts : exportCounts primary baseline = [] ↔
      ((∀ name, name ∈ primary ↔ name ∈ baseline) → primary.length = baseline.length) := by
    rw [← ordered_eq_ordered_iff, exportCounts]
    split
    · next h => simp [h.1, h.2]
    · next h => simpa using h
  rw [exportDifferences, List.append_eq_nil_iff, List.append_eq_nil_iff, missingExports_eq_nil_iff,
    missingExports_eq_nil_iff, without_eq_nil_iff, without_eq_nil_iff, forall_mem_ordered_iff, forall_mem_ordered_iff,
    hcounts]
  constructor
  · rintro ⟨⟨hforth, hback⟩, hlength⟩
    have hsame : ∀ name, name ∈ primary ↔ name ∈ baseline := fun name => ⟨hforth name, hback name⟩
    exact ⟨hsame, hlength hsame⟩
  · rintro ⟨hsame, hlength⟩
    exact ⟨⟨fun name => (hsame name).1, fun name => (hsame name).2⟩, fun _ => hlength⟩

theorem importDifferences_eq_nil_iff {primary baseline : List String} :
    importDifferences primary baseline = [] ↔ ∀ statement, statement ∈ primary ↔ statement ∈ baseline := by
  simp only [importDifferences, List.append_eq_nil_iff, List.map_eq_nil_iff, without_eq_nil_iff]
  exact ⟨fun h t => ⟨h.1 t, h.2 t⟩, fun h => ⟨fun t => (h t).1, fun t => (h t).2⟩⟩

theorem differences_eq_nil_iff {a b : String} : differences a b = [] ↔ SameInterface a b := by
  unfold differences
  split
  · next h => exact iff_of_true rfl (.of_normalize_eq h)
  · rw [List.append_eq_nil_iff, exportDifferences_eq_nil_iff, importDifferences_eq_nil_iff]
    exact ⟨fun h => ⟨h.1.1, h.1.2, h.2⟩, fun h => ⟨⟨h.exports, h.count⟩, h.imports⟩⟩

/-- The names that one text exports and the other does not stand together in a line. -/
def Reported (side : String) (names others lines : List String) : Prop :=
  ∀ name ∈ names, name ∉ others → ∃ missing, name ∈ missing ∧ (∀ n ∈ missing, n ∈ names ∧ n ∉ others) ∧
    "Missing exports in " ++ side ++ " output: " ++ Text.joined ", " missing ∈ lines

theorem reported_missingExports (side : String) (names others : List String) :
    Reported side names others (missingExports side (without (ordered names) (ordered others))) := by
  intro name hname hother
  have hmissing : ∀ n, n ∈ without (ordered names) (ordered others) ↔ n ∈ names ∧ n ∉ others := by
    simp [without, mem_ordered]
  refine ⟨_, (hmissing name).2 ⟨hname, hother⟩, fun n hn => (hmissing n).1 hn, ?_⟩
  rw [missingExports, if_neg]
  · exact List.mem_singleton_self _
  · intro hempty
    rw [List.isEmpty_iff] at hempty
    exact absurd ((hmissing name).2 ⟨hname, hother⟩) (hempty ▸ List.not_mem_nil)

theorem Reported.mono {side : String} {names others lines lines' : List String} (h : Reported side names others lines)
    (hlines : lines ⊆ lines') : Reported side names others lines' := by
  intro name hname hother
  obtain ⟨missing, hmem, hmissing, hline⟩ := h name hname hother
  exact ⟨missing, hmem, hmissing, hlines hline⟩

/-- Whatever one text exports and the other does not is reported. -/
theorem reported_differences (a b : String) :
    Reported "baseline" (exportedNames a) (exportedNames b) (differences a b) ∧
      Reported "declarative" (exportedNames b) (exportedNames a) (differences a b) := by
  unfold differences
  split
  · next h =>
    have hsame := SameInterface.of_normalize_eq h
    exact ⟨fun name hname hother => absurd ((hsame.exports name).1 hname) hother,
      fun name hname hother => absurd ((hsame.exports name).2 hname) hother⟩
  · refine ⟨(reported_missingExports _ _ _).mono ?_, (reported_missingExports _ _ _).mono ?_⟩
    · exact fun line hline =>
        List.mem_append_left _ (List.mem_append_left _ (List.mem_append_left _ hline))
    · exact fun line hline =>
        List.mem_append_left _ (List.mem_append_left _ (List.mem_append_right _ hline))

end ClientGen.Comparison
