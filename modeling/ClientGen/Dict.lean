/-!
# Dictionaries in order of insertion

A `Dict` lists its entries in the order in which their keys came in; each key stands once. Writing to a key that is
there keeps its place.
-/

namespace ClientGen

structure Dict (κ α : Type) where
  entries : List (κ × α)
  nodup : (entries.map Prod.fst).Nodup
  deriving DecidableEq

namespace Dict

variable {κ α : Type}

def empty : Dict κ α := ⟨[], by simp⟩

instance : Inhabited (Dict κ α) := ⟨empty⟩

def keys (d : Dict κ α) : List κ := d.entries.map Prod.fst

def values (d : Dict κ α) : List α := d.entries.map Prod.snd

def size (d : Dict κ α) : Nat := d.entries.length

def isEmpty (d : Dict κ α) : Bool := d.entries.isEmpty

variable [DecidableEq κ]

def find? (k : κ) : List (κ × α) → Option α
  | [] => none
  | (k', v) :: rest => if k' = k then some v else find? k rest

/-- The entries with the value of a key rewritten in place, or with a new entry at the end. -/
def write (k : κ) (f : Option α → α) : List (κ × α) → List (κ × α)
  | [] => [(k, f none)]
  | (k', v) :: rest => if k' = k then (k', f (some v)) :: rest else (k', v) :: write k f rest

theorem keys_write (k : κ) (f : Option α → α) (entries : List (κ × α)) :
    (write k f entries).map Prod.fst =
      if k ∈ entries.map Prod.fst then entries.map Prod.fst else entries.map Prod.fst ++ [k] := by
  induction entries with
  | nil => simp [write]
  | cons e rest ih =>
    obtain ⟨k', v⟩ := e
    by_cases h : k' = k
    · simp [write, h]
    · have h' : ¬k = k' := fun e => h e.symm
      by_cases hm : k ∈ rest.map Prod.fst
      · simp only [write, if_neg h, List.map_cons, ih, if_pos hm, List.mem_cons, h', false_or]
      · simp only [write, if_neg h, List.map_cons, ih, if_neg hm, List.mem_cons, h', false_or, List.cons_append]

theorem nodup_write (k : κ) (f : Option α → α) {entries : List (κ × α)} (h : (entries.map Prod.fst).Nodup) :
    ((write k f entries).map Prod.fst).Nodup := by
  rw [keys_write]
  split
  · exact h
  · next hk =>
    refine List.nodup_append.2 ⟨h, by simp, ?_⟩
    intro a ha b hb
    simp only [List.mem_singleton] at hb
    rintro rfl
    exact hk (hb ▸ ha)

def get? (d : Dict κ α) (k : κ) : Option α := find? k d.entries

def contains (d : Dict κ α) (k : κ) : Bool := (d.get? k).isSome

/-- Rewrites the value of a key, given the value it has, if any. -/
def update (d : Dict κ α) (k : κ) (f : Option α → α) : Dict κ α :=
  ⟨write k f d.entries, nodup_write k f d.nodup⟩

def insert (d : Dict κ α) (k : κ) (v : α) : Dict κ α := d.update k fun _ => v

def insertAll (d : Dict κ α) (entries : List (κ × α)) : Dict κ α :=
  entries.foldl (fun d (k, v) => d.insert k v) d

def ofList (entries : List (κ × α)) : Dict κ α := empty.insertAll entries

end Dict

end ClientGen
