import ClientGen.Proofs.Emission.Wording
import ClientGen.Proofs.Imports.Contains
import ClientGen.Proofs.Plan.Operation

/-!
# What a wording needs

A file needs an import for each type of the model that it prints, for each name that the plan makes of something in
another module, and for each library name that the generator writes. The needs of a wording are those of its stretches,
so that they are settled piece by piece; an operation needs the same wherever its signature stands.
-/

namespace ClientGen

open Imports (modelSteps)
open Plan (Operation Parameter parameterSteps)

/-- The names of libraries that the generator itself writes into some files. -/
def libraryNames : List String :=
  ["OperationState", "PollerLike", "PagedAsyncIterableIterator", "StreamableMethod", "getLongRunningPoller",
   "buildPagedAsyncIterator"]

/-- Where a file has its names from. -/
structure Supply where
  imports : Imports
  /-- The module of models, as the folder of the file names it. -/
  models : String
  /-- The names that the file declares. -/
  declares : List String

/-- What a file needs for a stretch of it. -/
def Stretch.Closed (f : Supply) : Stretch → Prop
  | .own text => ∀ name ∈ libraryNames, IsRun name text → ∃ module, f.imports.contains module name = true
  | .type text => ∀ run, IsRun run text → run.toList.head?.any Char.isUpper = true →
      run ∈ builtinTypes ∨ f.imports.contains f.models run = true
  | .made module name => f.imports.contains module name = true
  | .declared name => name ∈ f.declares
  | .given _ => True
  | .comment _ => True

/-- The library names among the runs of a text are all among some names. No library name has fewer than ten characters,
so that only longer runs are compared. -/
def NamesOnly (names : List String) (text : String) : Prop :=
  ∀ run ∈ Text.cut (fun c => !isTypeChar c) text.toList, 10 ≤ run.length →
    ∀ name ∈ libraryNames, name.toList = run → name ∈ names

instance (names : List String) (text : String) : Decidable (NamesOnly names text) :=
  inferInstanceAs (Decidable (∀ run ∈ _, _ → ∀ name ∈ libraryNames, _ → _))

theorem NamesOnly.mem {names : List String} {text name : String} (h : NamesOnly names text)
    (hname : name ∈ libraryNames) (hrun : IsRun name text) : name ∈ names := by
  have hlength : ∀ name ∈ libraryNames, 10 ≤ name.toList.length := by decide
  exact h _ hrun.mem_cut (hlength name hname) name hname rfl

namespace Wording

/-- A file has all that it needs for some stretches. -/
def Closed (f : Supply) (w : Wording) : Prop := ∀ s ∈ w, s.Closed f

section Closed

variable {f : Supply}

@[simp] theorem closed_nil : Closed f [] ↔ True := by simp [Closed]

@[simp] theorem closed_cons {s : Stretch} {w : Wording} : Closed f (s :: w) ↔ s.Closed f ∧ Closed f w :=
  List.forall_mem_cons

@[simp] theorem closed_append {w w' : Wording} : Closed f (w ++ w') ↔ Closed f w ∧ Closed f w' :=
  List.forall_mem_append

theorem closed_flatMap {α : Type} {g : α → Wording} {l : List α} :
    Closed f (l.flatMap g) ↔ ∀ a ∈ l, Closed f (g a) := by
  simp only [Closed, List.mem_flatMap]
  exact ⟨fun h a ha s hs => h s ⟨a, ha, hs⟩, fun h s ⟨a, ha, hs⟩ => h a ha s hs⟩

theorem closed_own {text : String} {names : List String} (h : NamesOnly names text)
    (hnames : ∀ name ∈ names, ∃ module, f.imports.contains module name = true) : (Stretch.own text).Closed f :=
  fun name hname hrun => hnames name (h.mem hname hrun)

/-- Words without a library name need nothing. -/
@[simp] theorem closed_own_iff {text : String} (h : NamesOnly [] text) : (Stretch.own text).Closed f ↔ True :=
  iff_true_intro (closed_own h (by simp))

@[simp] theorem closed_given_iff (text : String) : (Stretch.given text).Closed f ↔ True := Iff.rfl

@[simp] theorem closed_declared_iff (name : String) : (Stretch.declared name).Closed f ↔ name ∈ f.declares := Iff.rfl

@[simp] theorem closed_made_iff (module name : String) :
    (Stretch.made module name).Closed f ↔ f.imports.contains module name = true := Iff.rfl

@[simp] theorem closed_comment_iff (c : Comment) : (Stretch.comment c).Closed f ↔ True := Iff.rfl

theorem closed_unlines {lines : List Wording} (h : ∀ l ∈ lines, Closed f l) : Closed f (unlines lines) := by
  rw [unlines, closed_flatMap]
  intro l hl
  simpa (disch := decide) using h l hl

theorem closed_joined {separator : String} {ws : List Wording} (hseparator : NamesOnly [] separator)
    (h : ∀ w ∈ ws, Closed f w) : Closed f (joined separator ws) := by
  cases ws with
  | nil => exact closed_nil.2 trivial
  | cons first rest =>
    obtain ⟨hfirst, hrest⟩ := List.forall_mem_cons.1 h
    refine closed_append.2 ⟨hfirst, closed_flatMap.2 fun w hw => closed_cons.2 ⟨?_, hrest w hw⟩⟩
    exact (closed_own_iff hseparator).2 trivial

@[simp] theorem closed_described (margin : String) (description : Option String) :
    Closed f (described margin description) := by
  cases description with
  | none => exact closed_nil.2 trivial
  | some text => exact closed_cons.2 ⟨trivial, closed_nil.2 trivial⟩

theorem closed_signature {module : String} {p : Parameter} (h : (typeOf module p).Closed f) :
    Closed f (signature module p) := by
  unfold signature
  cases p.optional <;> simp (disch := decide) [h]

theorem closed_declaration {module : String} {p : Parameter} (h : (typeOf module p).Closed f) :
    Closed f (declaration module p) := by
  unfold declaration Parameter.default?
  cases p.isOptions with
  | true => simp (disch := decide) [h]
  | false => exact closed_signature h

@[simp] theorem closed_furtherArguments (names : List String) : Closed f (furtherArguments names) := by
  simp (disch := decide) [furtherArguments, closed_flatMap]

/-! ## Types of the model -/

/-- The types are imported of a text that stands, set off by other characters, in one whose types are. -/
theorem closed_type_inside {before type after : String}
    (h : f.imports.Holds (modelSteps f.models (before ++ type ++ after)))
    (hbefore : ∀ c ∈ before.toList.getLast?, isTypeChar c = false)
    (hafter : ∀ c ∈ after.toList.head?, isTypeChar c = false) : (Stretch.type type).Closed f := by
  intro run hrun hupper
  rcases (hrun.inside hbefore hafter).mem_referencedTypes hupper with hbuiltin | hmem
  · exact .inl hbuiltin
  · exact .inr (Imports.holds_map.1 h run hmem)

theorem closed_type {type : String} (h : f.imports.Holds (modelSteps f.models type)) : (Stretch.type type).Closed f :=
  @closed_type_inside f "" type "" (by simpa using h) (by simp) (by simp)

end Closed

/-! ## Operations -/

/-- The library types in the result of a call. -/
def resultLibraryTypes (op : Operation) : List String :=
  match op.kind with
  | .longRunning => ["OperationState", "PollerLike"]
  | .paging => ["PagedAsyncIterableIterator"]
  | .plain => []

/-- A file imports what the signature of an operation says, its options from a module of options. -/
structure Covers (f : Supply) (options : String) (op : Operation) : Prop where
  parameters : f.imports.Holds (parameterSteps f.models op.parameters)
  result : f.imports.Holds (modelSteps f.models op.returnType)
  options : f.imports.contains options op.optionsType = true
  library : ∀ name ∈ resultLibraryTypes op, ∃ module, f.imports.contains module name = true

theorem type_of_isOptions {op : Operation} (ho : op.Regular) {p : Parameter} (hp : p ∈ op.parameters)
    (hoptions : p.isOptions = true) : p.type = op.optionsType := by
  obtain ⟨perCall, hparameters, hnot⟩ := ho.parameters
  rw [hparameters, List.mem_append] at hp
  rcases hp with hp | hp
  · rw [hnot p hp] at hoptions
    cases hoptions
  · rw [List.mem_singleton.1 hp]
    rfl

section Operation

variable {f : Supply} {options : String} {op : Operation} (h : Covers f options op) (ho : op.Regular)
include h ho

theorem closed_typeOf {p : Parameter} (hp : p ∈ op.parameters) : (typeOf options p).Closed f := by
  unfold typeOf
  split
  · next hoptions =>
    rw [type_of_isOptions ho hp hoptions]
    exact h.options
  · next hnot =>
    exact closed_type (Imports.holds_flatMap.1 h.parameters p (List.mem_filter.2 ⟨hp, by simpa using hnot⟩))

theorem closed_signatures : Closed f (signatures options op.parameters) :=
  closed_joined (by decide) (List.forall_mem_map.2 fun _ hp => closed_signature (closed_typeOf h ho hp))

theorem closed_declarations : Closed f (declarations options op.parameters) :=
  closed_joined (by decide) (List.forall_mem_map.2 fun _ hp => closed_declaration (closed_typeOf h ho hp))

omit ho in
theorem closed_returnType : Closed f (returnType op) := by
  have hresult := h.result
  have hlibrary := h.library
  unfold returnType
  unfold Operation.returnType at hresult
  unfold resultLibraryTypes at hlibrary
  -- A type stands between angle brackets, so that its runs are runs of the whole result.
  cases hkind : op.kind with
  | longRunning =>
    rw [hkind] at hresult hlibrary
    have htype : (Stretch.type op.resultType).Closed f := by
      refine @closed_type_inside _ "PollerLike<OperationState<" _ (">, " ++ op.resultType ++ ">") ?_ ?_ ?_
      · simpa only [String.append_assoc] using hresult
      · simp [isTypeChar]
      · simp [isTypeChar]
    have hopening : (Stretch.own "PollerLike<OperationState<").Closed f := closed_own (by decide) hlibrary
    simp (disch := decide) [htype, hopening]
  | paging =>
    rw [hkind] at hresult hlibrary
    have htype : (Stretch.type op.itemType).Closed f :=
      closed_type_inside hresult (by simp [isTypeChar]) (by simp [isTypeChar])
    have hopening : (Stretch.own "PagedAsyncIterableIterator<").Closed f := closed_own (by decide) hlibrary
    simp (disch := decide) [htype, hopening]
  | plain =>
    rw [hkind] at hresult
    have htype : (Stretch.type op.responseType).Closed f :=
      closed_type_inside hresult (by simp [isTypeChar]) (by simp [isTypeChar])
    simp (disch := decide) [htype]

end Operation

end Wording

end ClientGen
