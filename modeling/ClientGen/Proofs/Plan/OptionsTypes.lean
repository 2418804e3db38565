import ClientGen.Proofs.Plan.Operation
import ClientGen.Proofs.Text.Casing

/-!
# The options types of a plan

The type of the options of an operation is made of the operation's name, which has been put in camel case before. Two
operations get one type if a second turn to camel case makes their names one.
-/

namespace ClientGen.Plan

theorem optionsTypeOf_eq_iff {name name' : String} :
    optionsTypeOf name = optionsTypeOf name' ↔ Text.pascal name = Text.pascal name' := by
  simp [optionsTypeOf, ← String.toList_inj]

theorem nodup_names_of_operations {m : Service.Model} {ops : List Operation} (h : operations m = .ok ops) :
    (ops.map Operation.name).Nodup :=
  (operations_eq_ok_iff.1 h).2

/-- A map that tells items apart as another one does has as few images twice. -/
theorem nodup_map_iff_of_eq_iff {α β γ : Type} {f : α → β} {g : α → γ} {l : List α}
    (h : ∀ a ∈ l, ∀ b ∈ l, f a = f b ↔ g a = g b) : (l.map f).Nodup ↔ (l.map g).Nodup := by
  induction l with
  | nil => simp
  | cons a l ih =>
    have htail := ih fun b hb c hc => h b (List.mem_cons_of_mem _ hb) c (List.mem_cons_of_mem _ hc)
    have hhead : f a ∈ l.map f ↔ g a ∈ l.map g := by
      simp only [List.mem_map]
      exact exists_congr fun b => and_congr_right fun hb =>
        h b (List.mem_cons_of_mem _ hb) a List.mem_cons_self
    rw [List.map_cons, List.map_cons, List.nodup_cons, List.nodup_cons, hhead, htail]

section OptionsTypes

variable {m : Service.Model} {ops : List Operation}

/-- Two operations share their options type exactly if their names become one when they are put in camel case again. -/
theorem optionsType_eq_iff (h : operations m = .ok ops)
    (hcase : ∀ op ∈ ops, ∀ c, Text.initial? op.name = some c → Text.TwoCased c) :
    ∀ op ∈ ops, ∀ op' ∈ ops, op.optionsType = op'.optionsType ↔ Text.camel op.name = Text.camel op'.name := by
  intro op hop op' hop'
  rw [(regular_of_mem_operations h hop).optionsType, (regular_of_mem_operations h hop').optionsType,
    optionsTypeOf_eq_iff]
  exact Text.pascal_eq_pascal_iff (hcase op hop) (hcase op' hop')

theorem twoCased_of_initial? {s : String} (hs : Text.Ascii s.toList) {c : Char} (hc : Text.initial? s = some c) :
    Text.TwoCased c :=
  Text.twoCased_of_isAlphanum (hs c (List.mem_of_find?_eq_some hc))

/-- The operations of a plan have names apart. Their options types are apart exactly if the names are still apart when
they are put in camel case again; so they are where every capital in a name begins a word. -/
theorem optionsTypes_spec (h : operations m = .ok ops) :
    (ops.map Operation.name).Nodup ∧
      ((∀ op ∈ ops, ∀ c, Text.initial? op.name = some c → Text.TwoCased c) →
        (∀ op ∈ ops, ∀ op' ∈ ops, op.optionsType = op'.optionsType ↔ Text.camel op.name = Text.camel op'.name) ∧
        ((ops.map Operation.optionsType).Nodup ↔ (ops.map fun op => Text.camel op.name).Nodup)) ∧
      ((∀ op ∈ ops, Text.Ascii op.name.toList ∧ Text.humped .none op.name.toList = true) →
        (ops.map Operation.optionsType).Nodup) := by
  have hnames := nodup_names_of_operations h
  refine ⟨hnames, fun hcase => ⟨optionsType_eq_iff h hcase, nodup_map_iff_of_eq_iff (optionsType_eq_iff h hcase)⟩,
    fun hhumped => ?_⟩
  have hcase : ∀ op ∈ ops, ∀ c, Text.initial? op.name = some c → Text.TwoCased c :=
    fun op hop c hc => twoCased_of_initial? (hhumped op hop).1 hc
  have hkept : ops.map (fun op => Text.camel op.name) = ops.map Operation.name :=
    List.map_congr_left fun op hop => (Text.camel_eq_self_iff (hhumped op hop).1).2 (hhumped op hop).2
  rw [nodup_map_iff_of_eq_iff (optionsType_eq_iff h hcase), hkept]
  exact hnames

end OptionsTypes

/-- Operations with the given names, each under a path of its own. -/
def readings (names : List String) : Service.Model where
  options := things.options
  sourcePath := "src"
  paths := .ofList (names.map fun name =>
    ("/" ++ name, ⟨name, none, [], [⟨name, .get, none, ⟨"Thing", []⟩, [], none, none⟩]⟩))

/-- What is planned of operations with the given names. -/
def plannedReadings (names : List String) : List Operation :=
  match operations (readings names) with
  | .ok ops => ops
  | .error _ => []

theorem operations_users :
    operations (readings ["get-a-user", "get-auser", "getUser2D"]) =
      .ok (plannedReadings ["get-a-user", "get-auser", "getUser2D"]) := rfl

/-- A word of one letter is found again before a longer word. -/
theorem optionsTypes_spec_users :
    let ops := plannedReadings ["get-a-user", "get-auser", "getUser2D"]
    ops.map Operation.name = ["getAUser", "getAuser", "getUser2D"] ∧
      (∀ op ∈ ops, Text.Ascii op.name.toList ∧ Text.humped .none op.name.toList = true) ∧
      (ops.map Operation.optionsType).Nodup :=
  have hhumped : ∀ op ∈ plannedReadings ["get-a-user", "get-auser", "getUser2D"],
      Text.Ascii op.name.toList ∧ Text.humped .none op.name.toList = true := by
    decide +kernel
  ⟨by decide +kernel, hhumped, (optionsTypes_spec operations_users).2.2 hhumped⟩

/-- Two words of one letter each become one word. -/
theorem optionsTypes_shared :
    let ops := plannedReadings ["plot-x-y", "plot-xy"]
    operations (readings ["plot-x-y", "plot-xy"]) = .ok ops ∧ ops.map Operation.name = ["plotXY", "plotXy"] ∧
      ops.map Operation.optionsType = ["PlotXyOptions", "PlotXyOptions"] ∧
      ¬ (ops.map Operation.optionsType).Nodup :=
  ⟨rfl, by decide +kernel, by decide +kernel, by decide +kernel⟩

end ClientGen.Plan
