import ClientGen.Proofs.Call.Url
import ClientGen.Proofs.Declarative.OperationFile

/-!
# Arguments for the path

A request fills the template of a path by name. The function that is emitted to send it passes arguments in declared
order, to be filled in from left to right, and only those that are given at each call. The two build the same path for
every call exactly if all path parameters are given at each call, declared in the order in which the template names
them.
-/

namespace ClientGen.Call

open Plan (Location shapeOperation shapeParameter operationName)

/-- The names of the path parameters of an operation, in declared order. -/
def pathNames (decl : Service.Operation) : List String :=
  (decl.parameters.filter fun p => Location.parse? p.location == some .path).map Service.Parameter.name

/-- The names of the path parameters that are given at each call, in declared order. -/
def passedNames (decl : Service.Operation) : List String :=
  ((decl.parameters.filter fun p => !p.onClient).filter fun p => Location.parse? p.location == some .path).map
    Service.Parameter.name

/-- The text that a call puts in the place of a path parameter. -/
def imageOf (args : Arguments) (name : String) : String := ((args.get? name).map encodedText).getD ""

theorem mem_pathNames_iff {decl : Service.Operation} {name : String} :
    name ∈ pathNames decl ↔ ∃ p ∈ decl.parameters, Location.parse? p.location = some .path ∧ p.name = name := by
  simp [pathNames, and_assoc]

theorem passedNames_sublist (decl : Service.Operation) : (passedNames decl).Sublist (pathNames decl) :=
  (List.filter_sublist.filter _).map _

/-! ## Telling names apart -/

/-- A character for each name that is the same for all names but one. -/
def markOf (marked name : String) : Char := if name = marked then 'a' else 'b'

theorem isUnreserved_markOf (marked name : String) : Text.Percent.isUnreserved (markOf marked name) := by
  unfold markOf
  split <;> decide

theorem eq_of_markOf_eq {name name' : String} (h : markOf name name = markOf name name') : name = name' := by
  by_contra hne
  rw [markOf, markOf, if_pos rfl, if_neg (Ne.symm hne)] at h
  exact absurd h (by decide)

/-- Lists of names are the same if they are marked alike, whichever name is picked out. -/
theorem eq_of_forall_map_markOf {names names' : List String}
    (h : ∀ marked, names.map (markOf marked) = names'.map (markOf marked)) : names = names' := by
  induction names generalizing names' with
  | nil => exact (List.map_eq_nil_iff.1 (h "").symm).symm
  | cons name names ih =>
    cases names' with
    | nil => exact absurd (h "") (by simp)
    | cons name' names' =>
      have hhead := (List.cons.inj (h name)).1
      have htail := fun marked => (List.cons.inj (h marked)).2
      rw [eq_of_markOf_eq hhead, ih htail]

section Emitted

variable {path : String} {group : Option String} {decl : Service.Operation} {o : Plan.Operation}
  (h : shapeOperation path group decl = .ok o)
include h

/-! ## What is emitted -/

/-- The arguments that the emitted function passes for the path. -/
theorem map_name_pathParameters :
    (o.parameters.filter fun p => p.slot == .path).map Plan.Parameter.name = passedNames decl := by
  obtain ⟨perCall, hparameters, hshaped⟩ := Plan.shaped_parameters h
  have hpath : List.Forall₂ (fun p q => shapeParameter (operationName decl) p = .ok q)
      ((decl.parameters.filter fun p => !p.onClient).filter fun p => Location.parse? p.location == some .path)
      (perCall.filter fun q => q.slot == .path) := by
    refine List.rel_filter (fun p q hpq => ?_) hshaped
    simpa using (slot_of_shapeParameter hpq).1.symm
  have hoptions : ([.options o.optionsType] : List Plan.Parameter).filter (fun q => q.slot == .path) = [] := rfl
  rw [hparameters, List.filter_append, hoptions, List.append_nil, passedNames,
    ← List.forall₂_eq_eq_eq, List.forall₂_map_left_iff, List.forall₂_map_right_iff]
  exact hpath.flip.imp fun q p hpq => Plan.name_of_shapeParameter hpq

theorem pathArguments_eq : Baseline.pathArguments o =
    Json.quoted path ++ Text.concat ((passedNames decl).map fun name => ", " ++ name) := by
  rw [Baseline.pathArguments, Plan.path_of_shapeOperation h, ← map_name_pathParameters h, List.map_map]
  rfl

theorem renderCode_pathCall_eq (i : Imports) (contextType : String) (scope : Source.Scope) :
    Source.renderCode (Declarative.innerScope i o.sendName contextType o scope) (Declarative.pathCall o o.sendName) =
      .ok ("context.path(" ++
        (Json.quoted path ++ Text.concat ((passedNames decl).map fun name => ", " ++ name))) := by
  rw [← pathArguments_eq h]
  exact Declarative.renderCode_pathCall
    (Declarative.spells_innerScope i o.sendName o contextType scope (Plan.regular_of_shapeOperation h))

/-! ## What is requested -/

variable {t : Template} (hpath : path = t.text) (hplaces : t.places.Perm (pathNames decl))

include hpath hplaces

/-- A request fills the places of its path from left to right with the values of their own names. -/
theorem url_eq_filledInOrder {args : Arguments} {r : Request} (hr : request o args = .ok r) :
    r.url = urlOf (t.filledInOrder (t.places.map (imageOf args))) (queryPairs decl args) := by
  obtain ⟨values, hv, rfl⟩ := request_eq_ok_iff.1 hr
  have hnames : ∀ p ∈ decl.parameters, Location.parse? p.location = some .path → BraceFree p.name := by
    intro p hp hlocation
    have hname : p.name ∈ t.places := hplaces.mem_iff.2 (mem_pathNames_iff.2 ⟨p, hp, hlocation, rfl⟩)
    exact Template.braceFree_of_mem_places hname
  have himages : ∀ name ∈ t.places, pathImage? decl args name = some (imageOf args name) := by
    intro name hname
    obtain ⟨p, hp, hlocation, rfl⟩ := mem_pathNames_iff.1 (hplaces.mem_iff.1 hname)
    obtain ⟨value, hvalue⟩ := exists_pathArgument h hv hp hlocation
    rw [pathImage?_eq_some_iff]
    exact ⟨p, hp, hlocation, rfl, value, hvalue, by rw [imageOf, hvalue]; rfl⟩
  simp only [Plan.path_of_shapeOperation h]
  rw [pathOf_supplied h hv hpath hnames (List.Perm.refl _), queryOf_supplied h hv, Template.filled_congr himages,
    Template.filled_eq_filledInOrder]

/-- Arguments passed in the order of the places fill the path of every request; in another order they do not. -/
theorem forall_request_iff_passed_in_order :
    (∀ args r, request o args = .ok r →
      r.url = urlOf (t.filledInOrder ((passedNames decl).map (imageOf args))) (queryPairs decl args)) ↔
      passedNames decl = t.places := by
  constructor
  · intro hagree
    refine eq_of_forall_map_markOf fun marked => ?_
    -- a call in which the value of one parameter differs from those of all others
    obtain ⟨args, r, hr, hargs⟩ := Plan.exists_request h fun name => String.singleton (markOf marked name)
    have himages : ∀ names : List String, names ⊆ pathNames decl →
        names.map (imageOf args) = (names.map (markOf marked)).map String.singleton := by
      intro names hnames
      rw [List.map_map]
      refine List.map_congr_left fun name hname => ?_
      obtain ⟨p, hp, _, rfl⟩ := mem_pathNames_iff.1 (hnames hname)
      rw [imageOf, hargs p hp, Option.map_some, Option.getD_some]
      exact Text.Percent.encode_singleton (isUnreserved_markOf marked p.name)
    have hplain : '\x7b' ∉ t.places.map (markOf marked) := by
      intro hm
      obtain ⟨name, _, hname⟩ := List.mem_map.1 hm
      have hunreserved := isUnreserved_markOf marked name
      rw [hname] at hunreserved
      exact absurd hunreserved (by decide)
    have hlength : (passedNames decl).length ≤ t.places.length :=
      hplaces.length_eq ▸ (passedNames_sublist decl).length_le
    have hurls := (url_eq_filledInOrder h hpath hplaces hr).symm.trans (hagree args r hr)
    rw [himages _ hplaces.subset, himages _ (passedNames_sublist decl).subset] at hurls
    exact (Template.filledInOrder_injective hplain (by simp) (by simpa using hlength) (urlOf_injective hurls)).symm
  · intro hpassed args r hr
    rw [hpassed]
    exact url_eq_filledInOrder h hpath hplaces hr

/-- Both ways of emitting pass the path parameters that are given at each call, in declared order. Filled in from left
to right they build the path of every request exactly if they are all path parameters, in the order of the template. -/
theorem path_arguments_spec :
    Baseline.pathArguments o =
        Json.quoted path ++ Text.concat ((passedNames decl).map fun name => ", " ++ name) ∧
      (∀ i contextType scope,
        Source.renderCode (Declarative.innerScope i o.sendName contextType o scope)
            (Declarative.pathCall o o.sendName) =
          .ok ("context.path(" ++
            (Json.quoted path ++ Text.concat ((passedNames decl).map fun name => ", " ++ name)))) ∧
      ((∀ args r, request o args = .ok r →
        r.url = urlOf (t.filledInOrder ((passedNames decl).map (imageOf args))) (queryPairs decl args)) ↔
        passedNames decl = t.places) :=
  ⟨pathArguments_eq h, renderCode_pathCall_eq h, forall_request_iff_passed_in_order h hpath hplaces⟩

end Emitted

/-- Declared in the order of the template. -/
def readOwned : Service.Operation :=
  { findToy with
    name := "readOwned"
    parameters :=
      [⟨"owner", "string", "path", false, false, none, false⟩, ⟨"toy", "string", "path", false, false, none, false⟩] }

def plannedReadOwned : Plan.Operation :=
  Plan.plannedOperation "readOwned" toyTemplate.text none readOwned
    [(false, ⟨"owner", "string", false, .path⟩), (false, ⟨"toy", "string", false, .path⟩)]

theorem path_arguments_spec_owned : shapeOperation toyTemplate.text none readOwned = .ok plannedReadOwned ∧
    toyTemplate.places.Perm (pathNames readOwned) ∧
    ∀ args r, request plannedReadOwned args = .ok r →
      r.url =
        urlOf (toyTemplate.filledInOrder [imageOf args "owner", imageOf args "toy"]) (queryPairs readOwned args) := by
  have hplan : shapeOperation toyTemplate.text none readOwned = .ok plannedReadOwned := rfl
  have hplaces : toyTemplate.places.Perm (pathNames readOwned) := by decide
  refine ⟨hplan, hplaces, ?_⟩
  obtain ⟨_, _, hagree⟩ := path_arguments_spec hplan rfl hplaces
  exact hagree.2 (by decide)

/-- Declared the other way round. -/
def readToy : Service.Operation :=
  { findToy with
    name := "readToy"
    parameters :=
      [⟨"toy", "string", "path", false, false, none, false⟩, ⟨"owner", "string", "path", false, false, none, false⟩] }

def plannedReadToy : Plan.Operation :=
  Plan.plannedOperation "readToy" toyTemplate.text none readToy
    [(false, ⟨"toy", "string", false, .path⟩), (false, ⟨"owner", "string", false, .path⟩)]

/-- The emitted function swaps the owner and the toy. -/
theorem path_arguments_swapped : shapeOperation toyTemplate.text none readToy = .ok plannedReadToy ∧
    toyTemplate.places.Perm (pathNames readToy) ∧
    Baseline.pathArguments plannedReadToy = Json.quoted toyTemplate.text ++ ", toy, owner" ∧
    ∃ args r, request plannedReadToy args = .ok r ∧ (urlParts r.url).1 = "/owners/o/toys/t".toList ∧
      (toyTemplate.filledInOrder ((passedNames readToy).map (imageOf args))).toList = "/owners/t/toys/o".toList := by
  refine ⟨rfl, by decide, rfl, .ofList [("toy", .string "t"), ("owner", .string "o")], _, rfl, ?_, ?_⟩
  · decide
  · decide

end ClientGen.Call
