import ClientGen.Proofs.Dict
import ClientGen.Proofs.Result
import ClientGen.Service.Decode
import ClientGen.Service.Encode

/-!
# Models read back

A model that is written as a value is read from the value unchanged. The members of a written record are those that its
reader looks for, in the same order, so that each reader is left with reading its members one by one.
-/

namespace ClientGen

open Readable (list?)

namespace Record

/-! ## Records with just the members that are looked for -/

/-- No name of one field is the name of another. -/
def Apart (fields : List Field) : Prop := fields.Pairwise fun f g => f.accepts g.1 = false ∧ g.accepts f.1 = false

instance (fields : List Field) : Decidable (Apart fields) := inferInstanceAs (Decidable (List.Pairwise _ _))

/-- No field looks for any of the names. -/
def Ignores (fields : List Field) (names : List String) : Prop :=
  ∀ f ∈ fields, ∀ name ∈ names, f.accepts name = false

instance (fields : List Field) (names : List String) : Decidable (Ignores fields names) :=
  inferInstanceAs (Decidable (∀ f ∈ fields, ∀ name ∈ names, f.accepts name = false))

variable {α : Type} {fields : List Field} {own others : Record α}

theorem filter_accepts_of_forall {f : Field} {members : Record α} (h : ∀ e ∈ members, f.accepts e.1 = false) :
    (members.filter fun (name, _) => f.accepts name) = [] := by
  rw [List.filter_eq_nil_iff]
  intro e he
  simp [h e he]

/-- Among its own members a record has one for each field. -/
theorem only?_eq_some {f : Field} {before after : Record α} {v : α} (hbefore : ∀ e ∈ before, f.accepts e.1 = false)
    (hafter : ∀ e ∈ after, f.accepts e.1 = false) : only? f (before ++ (f.1, v) :: after) = some (some v) := by
  have hself : f.accepts f.1 = true := by simp [Field.accepts]
  have hfilter : ((before ++ (f.1, v) :: after).filter fun (name, _) => f.accepts name) = [(f.1, v)] := by
    rw [List.filter_append, filter_accepts_of_forall hbefore, List.nil_append, List.filter_cons, if_pos hself,
      filter_accepts_of_forall hafter]
  rw [only?, hfilter]

theorem ofMembers?_append (hnames : own.map Prod.fst = fields.map Prod.fst) (hapart : Apart fields)
    (hothers : Ignores fields (others.map Prod.fst)) : ofMembers? (own ++ others) fields = some own := by
  -- The members that belong to fields further to the left stay in front of those that are still to be found.
  suffices h : ∀ before : Record α, Ignores fields (before.map Prod.fst) →
      ofMembers? (before ++ own ++ others) fields = some own from h [] (by simp [Ignores])
  induction fields generalizing own with
  | nil =>
    obtain rfl : own = [] := by simpa using hnames
    exact fun _ _ => rfl
  | cons f fields ih =>
    obtain ⟨⟨name, v⟩, own, rfl⟩ : ∃ e own', own = e :: own' := List.exists_cons_of_ne_nil (by rintro rfl; cases hnames)
    obtain ⟨rfl, hrest⟩ : name = f.1 ∧ own.map Prod.fst = fields.map Prod.fst := by simpa using hnames
    obtain ⟨hf, hfields⟩ := List.pairwise_cons.1 hapart
    intro before hbefore
    rw [Ignores, List.forall_mem_cons] at hothers hbefore
    have hown : ∀ e ∈ own, f.accepts e.1 = false := by
      intro e he
      have hmem : e.1 ∈ fields.map Prod.fst := hrest ▸ List.mem_map_of_mem he
      obtain ⟨g, hg, heq⟩ := List.mem_map.1 hmem
      exact heq ▸ (hf g hg).1
    have honly : only? f (before ++ (f.1, v) :: (own ++ others)) = some (some v) := by
      refine only?_eq_some (fun e he => hbefore.1 _ (List.mem_map_of_mem he)) fun e he => ?_
      rcases List.mem_append.1 he with he | he
      · exact hown e he
      · exact hothers.1 _ (List.mem_map_of_mem he)
    have hnext := ih hrest hfields hothers.2 (before ++ [(f.1, v)]) (by
      intro g hg name hname
      rw [List.map_append, List.mem_append] at hname
      rcases hname with hname | hname
      · exact hbefore.2 g hg name hname
      · obtain rfl : name = f.1 := by simpa using hname
        exact (hf g hg).2)
    have hsplit : before ++ (f.1, v) :: own ++ others = before ++ (f.1, v) :: (own ++ others) := by simp
    have hsplit' : before ++ [(f.1, v)] ++ own ++ others = before ++ (f.1, v) :: (own ++ others) := by simp
    rw [hsplit'] at hnext
    rw [hsplit, ofMembers?, honly, hnext]
    rfl

/-- A record that is written with the members of its fields is read as these. -/
theorem read?_object {members : Record Json} (hnames : members.map Prod.fst = fields.map Prod.fst)
    (hapart : Apart fields) : read? fields (Json.object members) = some members := by
  have hmembers : ofMembers? (members ++ []) fields = some members :=
    ofMembers?_append hnames hapart (by simp [Ignores])
  rwa [List.append_nil] at hmembers

/-! ## Members -/

section Members

variable {β : Type} {r : Record Json} {name : String}

theorem required_eq {f : Json → Option β} {v : Json} {b : β} (hv : r.lookup name = some v) (hf : f v = some b) :
    required r name f = some b := by
  rw [required, hv, Option.bind_some, hf]

theorem withDefault_eq {f : Json → Option β} {v : Json} {b : β} (hv : r.lookup name = some v) (hf : f v = some b)
    (default : β) : withDefault r name f default = some b := by
  rw [withDefault, hv]
  exact hf

/-- An absent value is written as `null`, which nothing else is written as. -/
theorem nullable_eq {f : Json → Option β} {write : β → Json} {o : Option β}
    (hv : r.lookup name = some (Json.ofOption write o)) (hf : ∀ b, f (write b) = some b)
    (hnull : ∀ b, write b ≠ .null) : nullable r name f = some o := by
  rw [nullable, hv]
  cases o with
  | none => rfl
  | some b =>
    have hpresent : Readable.absent? (write b) = some false := by
      cases hw : write b with
      | null => exact absurd hw (hnull b)
      | _ => rfl
    simp only [Json.ofOption, hpresent, Option.bind_some, hf]
    rfl

end Members

end Record

/-- A list is read back if its items are. -/
theorem list?_array {β : Type} {f : Json → Option β} {w : β → Json} (h : ∀ b, f (w b) = some b) (l : List β) :
    list? f (Json.array (l.map w)) = some l := mapM_map_eq_some h l

theorem text?_string (s : String) : Readable.text? (Json.string s) = some s := rfl

theorem flag?_bool (b : Bool) : Readable.flag? (Json.bool b) = some b := rfl

theorem ofOption_text {r : Record Json} {name : String} {o : Option String}
    (hv : r.lookup name = some (Json.ofOption .string o)) : r.nullable name Readable.text? = some o :=
  Record.nullable_eq hv text?_string fun _ => Json.noConfusion

theorem ofOption_flag {r : Record Json} {name : String} {o : Option Bool}
    (hv : r.lookup name = some (Json.ofOption .bool o)) : r.nullable name Readable.flag? = some o :=
  Record.nullable_eq hv flag?_bool fun _ => Json.noConfusion

/-! ## Each part of a model -/

theorem Switches.ofRecord?_members (s : Switches) : Switches.ofRecord? s.members = some s := by
  rw [ofRecord?, ofOption_flag rfl, ofOption_flag rfl, ofOption_flag rfl, ofOption_flag rfl, ofOption_flag rfl]
  rfl

namespace Service

theorem method?_name (method : HttpMethod) : method? (Json.string method.name) = some method := by
  cases method <;> rfl

theorem moduleKind?_name (kind : ModuleKind) : moduleKind? (Json.string kind.name) = some kind := by
  cases kind <;> rfl

/-- A written record is read member by member. -/
theorem read_object {α : Type} {fields : List Record.Field} {members : Record Json} (f : Record Json → Option α)
    (hnames : members.map Prod.fst = fields.map Prod.fst) (hapart : Record.Apart fields) :
    (Record.read? fields (Json.object members) >>= f) = f members := by
  rw [Record.read?_object hnames hapart]
  rfl

theorem PathParameter.read?_toJson (p : PathParameter) : PathParameter.read? p.toJson = some p := by
  rw [read?, toJson, read_object _ rfl (by decide)]
  rfl

theorem Response.read?_toJson (r : Response) : Response.read? r.toJson = some r := by
  have hstatuses : list? Readable.status? (Json.ofStrings r.expectedStatuses) = some r.expectedStatuses :=
    list?_array (w := Json.string) (fun _ => rfl) _
  rw [read?, toJson, read_object _ rfl (by decide), Record.required_eq rfl (text?_string _),
    Record.withDefault_eq rfl hstatuses]
  rfl

theorem Parameter.read?_toJson (p : Parameter) : Parameter.read? p.toJson = some p := by
  rw [read?, toJson, read_object _ rfl (by decide), ofOption_text rfl]
  rfl

theorem LongRunning.read?_toJson (l : LongRunning) : LongRunning.read? l.toJson = some l := by
  rw [read?, toJson, read_object _ rfl (by decide), ofOption_text rfl, ofOption_text rfl]
  rfl

theorem Paging.read?_toJson (p : Paging) : Paging.read? p.toJson = some p := by
  rw [read?, toJson, read_object _ rfl (by decide), ofOption_text rfl, ofOption_text rfl]
  rfl

theorem Operation.read?_toJson (o : Operation) : Operation.read? o.toJson = some o := by
  have hparameters := list?_array Parameter.read?_toJson o.parameters
  rw [read?, toJson, read_object _ rfl (by decide), ofOption_text rfl]
  rw [Record.required_eq rfl (method?_name o.method), Record.required_eq rfl (Response.read?_toJson o.response),
    Record.withDefault_eq rfl hparameters, Record.nullable_eq rfl LongRunning.read?_toJson fun _ => Json.noConfusion,
    Record.nullable_eq rfl Paging.read?_toJson fun _ => Json.noConfusion]
  rfl

theorem PathEntry.read?_toJson (e : PathEntry) : PathEntry.read? e.toJson = some e := by
  have hparameters := list?_array PathParameter.read?_toJson e.parameters
  have hoperations := list?_array Operation.read?_toJson e.operations
  rw [read?, toJson, read_object _ rfl (by decide), ofOption_text rfl, Record.withDefault_eq rfl hparameters,
    Record.withDefault_eq rfl hoperations]
  rfl

theorem PackageDetails.read?_toJson (d : PackageDetails) : PackageDetails.read? d.toJson = some d := by
  rw [read?, toJson, read_object _ rfl (by decide), ofOption_text rfl, ofOption_text rfl, ofOption_text rfl]
  rfl

theorem members_object {α : Type} (members : Record Json) (f : Record Json → Option α) :
    (Readable.members? (Json.object members) >>= f) = f members := rfl

/-- The options but the switches, as they are written. -/
def Options.ownMembers (o : Options) : Record Json :=
  [("title", .ofOption .string o.title), ("includeShortcuts", .bool o.includeShortcuts),
   ("isMultiEndpoint", .bool o.isMultiEndpoint), ("packageDetails", .ofOption PackageDetails.toJson o.package),
   ("generateTest", .bool o.generateTest), ("moduleKind", .string o.moduleKind.name)]

theorem Options.toJson_eq (o : Options) : o.toJson = .object (o.ownMembers ++ o.switches.members) := rfl

/-- Of all members the fields of the options take out just those that are the options' own. -/
theorem Options.filter_members (o : Options) :
    (o.ownMembers ++ o.switches.members).filter (fun (name, _) => !Options.fields.any (·.accepts name)) =
      o.switches.members := rfl

theorem content?_members (s : Switches) :
    s.members.mapM (fun (name, v) => (Readable.content? v).map (name, ·)) = some s.members := by
  have hflag : ∀ o : Option Bool, Readable.content? (Json.ofOption .bool o) = some (Json.ofOption .bool o) := by
    intro o
    cases o <;> rfl
  simp only [Switches.members, List.mapM_cons, List.mapM_nil, hflag]
  rfl

theorem Switches.read_members (s : Switches) :
    (Record.ofMembers? s.members Switches.fields).bind Switches.ofRecord? = some s := by
  have hmembers : Record.ofMembers? (s.members ++ []) Switches.fields = some s.members :=
    Record.ofMembers?_append rfl (by decide) (by simp [Record.Ignores])
  rw [List.append_nil] at hmembers
  rw [hmembers, Option.bind_some, Switches.ofRecord?_members]

/-- The options read their own members, and the switches read what these leave. -/
theorem Options.read?_toJson (o : Options) : Options.read? o.toJson = some o := by
  have hignores : Record.Ignores Options.fields (o.switches.members.map Prod.fst) := by
    change Record.Ignores Options.fields (Switches.fields.map Prod.fst)
    decide
  have hown : Record.ofMembers? (o.ownMembers ++ o.switches.members) Options.fields = some o.ownMembers :=
    Record.ofMembers?_append rfl (by decide) hignores
  rw [read?, toJson_eq, members_object, hown, filter_members, content?_members]
  simp only [Option.bind_eq_bind, Option.bind_some]
  rw [ofOption_text rfl, Record.nullable_eq rfl PackageDetails.read?_toJson fun _ => Json.noConfusion,
    Record.withDefault_eq rfl (moduleKind?_name o.moduleKind), Switches.read_members]
  rfl

theorem paths?_object (d : Dict String PathEntry) :
    paths? (Json.object (d.entries.map fun (template, entry) => (template, entry.toJson))) = some d := by
  have hentries : (d.entries.map fun (template, entry) => (template, entry.toJson)).mapM
      (fun (member : String × Json) => (PathEntry.read? member.2).map (member.1, ·)) = some d.entries := by
    induction d.entries with
    | nil => rfl
    | cons e entries ih =>
      rw [List.map_cons, List.mapM_cons, PathEntry.read?_toJson, ih]
      rfl
  rw [paths?, members_object, hentries]
  exact congrArg some (Dict.ofList_entries d)

/-- A model is read back from its written form with every value, and with its paths, operations and parameters in
their order. -/
theorem Model.round_trip (m : Model) : Model.read? m.toJson = some m := by
  rw [read?, toJson, read_object _ rfl (by decide), Record.withDefault_eq rfl (Options.read?_toJson m.options),
    Record.withDefault_eq rfl (paths?_object m.paths)]
  rfl

end Service

end ClientGen
