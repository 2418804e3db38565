import ClientGen.Proofs.Call.Arguments
import ClientGen.Proofs.Call.Template
import ClientGen.Proofs.Text.Percent

/-!
# The URL of a call

The URL of a request is the template of the operation with the encoded values of its path parameters in their places,
and then a query from which the values of the query parameters can be read back.
-/

namespace ClientGen.Call

open Plan (Location callOrder shapeOperation shapeParameter operationName)

variable {args : Arguments}

/-! ## The path -/

def encodedText (value : Json) : String := Text.Percent.encode (scalarText value)

theorem braceFree_encodedText (value : Json) : BraceFree (encodedText value) :=
  ⟨Text.Percent.notMem_encode (by decide) _, Text.Percent.notMem_encode (by decide) _⟩

/-- The image of a place among values: that of the first path parameter with its name. -/
def imageIn? (values : List (Plan.Parameter × Json)) (name : String) : Option String :=
  (values.find? fun (p, _) => p.slot == .path && p.name == name).map fun (_, value) => encodedText value

theorem imageIn?_cons_path {p : Plan.Parameter} {value : Json} {values : List (Plan.Parameter × Json)}
    (h : p.slot = .path) (name : String) : imageIn? ((p, value) :: values) name =
      if name = p.name then some (encodedText value) else imageIn? values name := by
  by_cases hname : name = p.name
  · rw [imageIn?, List.find?_cons_of_pos (by simp [h, hname]), if_pos hname, Option.map_some]
  · rw [imageIn?, List.find?_cons_of_neg (by simp [Ne.symm hname]), if_neg hname, imageIn?]

theorem imageIn?_cons_other {p : Plan.Parameter} {value : Json} {values : List (Plan.Parameter × Json)}
    (h : p.slot ≠ .path) (name : String) : imageIn? ((p, value) :: values) name = imageIn? values name := by
  rw [imageIn?, List.find?_cons_of_neg (by simp [h]), imageIn?]

/-- Filling the path with one value after the other fills every place at once. -/
theorem pathOf_text {values : List (Plan.Parameter × Json)}
    (h : ∀ e ∈ values, e.1.slot = .path → BraceFree e.1.name) (t : Template) :
    pathOf t.text values = t.filled (imageIn? values) := by
  induction values generalizing t with
  | nil => exact (Template.filled_none t).symm
  | cons e values ih =>
    obtain ⟨p, value⟩ := e
    obtain ⟨hp, hrest⟩ := List.forall_mem_cons.1 h
    by_cases hslot : p.slot = .path
    · have hput : fillPath t.text p value =
          Template.text (t.map (Segment.put p.name (encodedText value) (braceFree_encodedText value))) :=
        replaced_text (hp hslot) (braceFree_encodedText value) t
      have hstep : pathOf t.text ((p, value) :: values) = pathOf (fillPath t.text p value) values := by
        simp [pathOf, hslot]
      rw [hstep, hput, ih hrest, Template.filled_put]
      exact Template.filled_congr fun name _ => (imageIn?_cons_path hslot name).symm
    · have hstep : pathOf t.text ((p, value) :: values) = pathOf t.text values := by
        simp [pathOf, hslot]
      rw [hstep, ih hrest]
      exact Template.filled_congr fun name _ => (imageIn?_cons_other hslot name).symm

theorem imageIn?_eq_some_iff {values : List (Plan.Parameter × Json)}
    (h : (values.map fun e => e.1.name).Nodup) {name image : String} :
    imageIn? values name = some image ↔
      ∃ p value, (p, value) ∈ values ∧ p.slot = .path ∧ p.name = name ∧ encodedText value = image := by
  unfold imageIn?
  constructor
  · intro hsome
    obtain ⟨⟨p, value⟩, hfound, himage⟩ := Option.map_eq_some_iff.1 hsome
    have hp := List.find?_some hfound
    simp only [Bool.and_eq_true, beq_iff_eq] at hp
    exact ⟨p, value, List.mem_of_find?_eq_some hfound, hp.1, hp.2, himage⟩
  · rintro ⟨p, value, hm, hslot, rfl, rfl⟩
    cases hfound : values.find? fun (q, _) => q.slot == .path && q.name == p.name with
    | none =>
      have hnot := List.find?_eq_none.1 hfound (p, value) hm
      simp [hslot] at hnot
    | some e =>
      have hname := List.find?_some hfound
      simp only [Bool.and_eq_true, beq_iff_eq] at hname
      have heq : e = (p, value) :=
        List.inj_on_of_nodup_map h (List.mem_of_find?_eq_some hfound) hm hname.2
      rw [heq, Option.map_some]

/-! ## The query -/

/-- A name and a value, each decoded, on either side of the first `=`. -/
def readPair (piece : List Char) : Option (String × String) :=
  let (name, value) := Text.partedAt '=' piece
  do
    let name ← Text.Percent.decode? name
    let value ← Text.Percent.decode? (← value)
    some (name, value)

/-- The names and values in a query. -/
def readQuery (query : List Char) : Option (List (String × String)) :=
  (Text.cut (· == '&') query).mapM readPair

theorem readPair_queryPair (pair : String × String) : readPair (queryPair pair).toList = some pair := by
  have hname : '=' ∉ (Text.Percent.encode pair.1).toList := Text.Percent.notMem_encode (by decide) _
  have hparted : Text.partedAt '=' (queryPair pair).toList =
      ((Text.Percent.encode pair.1).toList, some (Text.Percent.encode pair.2).toList) := by
    simp only [queryPair, String.toList_append]
    rw [List.append_assoc]
    exact Text.partedAt_append hname _
  simp [readPair, hparted, Text.Percent.decode?_encode]

theorem notMem_queryPair {c : Char} (hc : (Text.Percent.isUnreserved c || c == '%') = false) (hne : c ≠ '=')
    (pair : String × String) : c ∉ (queryPair pair).toList := by
  simp [queryPair, Text.Percent.notMem_encode hc, hne]

theorem readQuery_joined {pairs : List (String × String)} (h : pairs ≠ []) :
    readQuery (Text.joined "&" (pairs.map queryPair)).toList = some pairs := by
  have hcut : Text.cut (· == '&') (Text.joined "&" (pairs.map queryPair)).toList =
      (pairs.map queryPair).map String.toList := by
    refine Text.cut_joined (by simpa using h) ?_
    intro piece hpiece
    obtain ⟨pair, _, rfl⟩ := List.mem_map.1 hpiece
    exact notMem_queryPair (by decide) (by decide) pair
  rw [readQuery, hcut, List.map_map]
  clear h hcut
  induction pairs with
  | nil => rfl
  | cons pair pairs ih => simp [readPair_queryPair, ih]

/-! ## The whole URL -/

/-- The image of a place for a call: the encoded value of the path parameter with its name. -/
def pathImage? (decl : Service.Operation) (args : Arguments) (name : String) : Option String :=
  if decl.parameters.any fun p => Location.parse? p.location == some .path && p.name == name then
    (args.get? name).map encodedText
  else none

theorem pathImage?_eq_some_iff {decl : Service.Operation} {name image : String} :
    pathImage? decl args name = some image ↔
      ∃ p ∈ decl.parameters, Location.parse? p.location = some .path ∧ p.name = name ∧
        ∃ value, args.get? name = some value ∧ encodedText value = image := by
  have hany : (decl.parameters.any fun p => Location.parse? p.location == some .path && p.name == name) = true ↔
      ∃ p ∈ decl.parameters, Location.parse? p.location = some .path ∧ p.name = name := by
    simp
  unfold pathImage?
  split
  · next h =>
    obtain ⟨p, hp, hlocation, hname⟩ := hany.1 h
    rw [Option.map_eq_some_iff]
    constructor
    · exact fun hvalue => ⟨p, hp, hlocation, hname, hvalue⟩
    · rintro ⟨_, _, _, _, hvalue⟩
      exact hvalue
  · next h =>
    refine iff_of_false (by simp) ?_
    rintro ⟨p, hp, hlocation, hname, _⟩
    exact h (hany.2 ⟨p, hp, hlocation, hname⟩)

/-- The name of a query parameter that has a value, with the text of the value. -/
def queryPair? (args : Arguments) (p : Service.Parameter) : Option (String × String) :=
  if Location.parse? p.location = some .query then
    (valueFor? args p.name p.optional).map fun value => (p.name, scalarText value)
  else none

def queryPairs (decl : Service.Operation) (args : Arguments) : List (String × String) :=
  (callOrder decl.parameters).filterMap (queryPair? args)

theorem slot_of_shapeParameter {operation : String} {p : Service.Parameter} {q : Plan.Parameter}
    (h : shapeParameter operation p = .ok q) :
    (q.slot = .path ↔ Location.parse? p.location = some .path) ∧
      (q.slot.isQuery = true ↔ Location.parse? p.location = some .query) ∧
      (Location.parse? p.location = some .path → q.optional = false) ∧
      (Location.parse? p.location = some .query → q.optional = p.optional) := by
  obtain ⟨l, hl, rfl⟩ := Plan.shapeParameter_eq_ok_iff.1 h
  rw [hl]
  cases l <;> simp [Plan.slotAt, Plan.Slot.isQuery]

theorem queryOf_shaped {operation : String} {ps : List Service.Parameter} {qs : List Plan.Parameter}
    (h : List.Forall₂ (fun p q => shapeParameter operation p = .ok q) ps qs) :
    queryOf (qs.filterMap fun q => (valueFor? args q.name q.optional).map (q, ·)) =
      ps.filterMap (queryPair? args) := by
  induction h with
  | nil => rfl
  | @cons p q ps qs hpq _ ih =>
    obtain ⟨_, hquery, _, hoptional⟩ := slot_of_shapeParameter hpq
    have hname := Plan.name_of_shapeParameter hpq
    rw [List.filterMap_cons, List.filterMap_cons]
    by_cases hlocation : Location.parse? p.location = some .query
    · rw [queryPair?, if_pos hlocation, hoptional hlocation, hname]
      cases valueFor? args p.name p.optional with
      | none => exact ih
      | some value =>
        simp only [Option.map_some]
        rw [← ih, ← hname]
        simp [queryOf, hquery.2 hlocation]
    · have hslot : q.slot.isQuery = false := by simpa using mt hquery.1 hlocation
      rw [queryPair?, if_neg hlocation]
      cases valueFor? args q.name q.optional with
      | none => exact ih
      | some value => simpa [queryOf, hslot] using ih

section Supplied

variable {path : String} {group : Option String} {decl : Service.Operation} {o : Plan.Operation}
  {values : List (Plan.Parameter × Json)}
  (h : shapeOperation path group decl = .ok o) (hv : supplied args (argumentParameters o) = .ok values)
include h hv

theorem imageIn?_supplied (name : String) : imageIn? values name = pathImage? decl args name := by
  have hshaped := Plan.shaped_argumentParameters h
  have hnodup : (values.map fun e => e.1.name).Nodup :=
    (Plan.nodup_names_argumentParameters h).sublist (names_supplied_sublist hv)
  have hdeclared : ∀ p, p ∈ callOrder decl.parameters ↔ p ∈ decl.parameters := fun p =>
    (Plan.callOrder_perm decl.parameters).mem_iff
  apply Option.ext
  intro image
  rw [imageIn?_eq_some_iff hnodup, pathImage?_eq_some_iff]
  constructor
  · rintro ⟨q, value, hm, hslot, rfl, rfl⟩
    obtain ⟨hq, hvalue⟩ := (mem_supplied_iff hv).1 hm
    obtain ⟨p, hp, hpq⟩ := exists_mem_of_forall₂ hshaped hq
    obtain ⟨hpath, _, hoptional, _⟩ := slot_of_shapeParameter hpq
    rw [hoptional (hpath.1 hslot), valueFor?_required] at hvalue
    exact ⟨p, (hdeclared p).1 hp, hpath.1 hslot, (Plan.name_of_shapeParameter hpq).symm, value, hvalue, rfl⟩
  · rintro ⟨p, hp, hlocation, rfl, value, hvalue, rfl⟩
    obtain ⟨q, hq, hpq⟩ := exists_mem_of_forall₂ hshaped.flip ((hdeclared p).2 hp)
    obtain ⟨hpath, _, hoptional, _⟩ := slot_of_shapeParameter hpq
    have hname := Plan.name_of_shapeParameter hpq
    refine ⟨q, value, (mem_supplied_iff hv).2 ⟨hq, ?_⟩, hpath.2 hlocation, hname, rfl⟩
    rw [hoptional hlocation, valueFor?_required, hname, hvalue]

theorem queryOf_supplied : queryOf values = queryPairs decl args := by
  rw [(supplied_eq_ok_iff.1 hv).2]
  exact queryOf_shaped (Plan.shaped_argumentParameters h)

/-- Whatever the order in which the values are put in, the path is the template with all its places filled. -/
theorem pathOf_supplied {t : Template} (hpath : path = t.text)
    (hnames : ∀ p ∈ decl.parameters, Location.parse? p.location = some .path → BraceFree p.name)
    {values' : List (Plan.Parameter × Json)} (hperm : values'.Perm values) :
    pathOf path values' = t.filled (pathImage? decl args) := by
  have hplain : ∀ e ∈ values', e.1.slot = .path → BraceFree e.1.name := by
    rintro ⟨q, value⟩ he hslot
    obtain ⟨hq, _⟩ := (mem_supplied_iff hv).1 (hperm.subset he)
    obtain ⟨p, hp, hpq⟩ := exists_mem_of_forall₂ (Plan.shaped_argumentParameters h) hq
    have hname := Plan.name_of_shapeParameter hpq
    rw [hname]
    exact hnames p ((Plan.callOrder_perm _).subset hp) ((slot_of_shapeParameter hpq).1.1 hslot)
  have hnodup : (values.map fun e => e.1.name).Nodup :=
    (Plan.nodup_names_argumentParameters h).sublist (names_supplied_sublist hv)
  rw [hpath, pathOf_text hplain]
  refine Template.filled_congr fun name _ => ?_
  rw [← imageIn?_supplied h hv]
  apply Option.ext
  intro image
  rw [imageIn?_eq_some_iff hnodup, imageIn?_eq_some_iff ((hperm.map _).nodup_iff.2 hnodup)]
  simp only [hperm.mem_iff]

/-- A call has an argument for each of its path parameters. -/
theorem exists_pathArgument {p : Service.Parameter} (hp : p ∈ decl.parameters)
    (hlocation : Location.parse? p.location = some .path) : ∃ value, args.get? p.name = some value := by
  obtain ⟨q, hq, hpq⟩ := exists_mem_of_forall₂ (Plan.shaped_argumentParameters h).flip
    ((Plan.callOrder_perm decl.parameters).mem_iff.2 hp)
  have hrequired : q.optional = false := (slot_of_shapeParameter hpq).2.2.1 hlocation
  have hgiven := (supplied_eq_ok_iff.1 hv).1 q hq
  rw [hrequired, valueFor?_required, Plan.name_of_shapeParameter hpq] at hgiven
  cases hvalue : args.get? p.name with
  | none => exact absurd (hgiven hvalue) (by simp)
  | some value => exact ⟨value, rfl⟩

end Supplied

theorem urlOf_injective {path path' : String} {pairs : List (String × String)}
    (h : urlOf path pairs = urlOf path' pairs) : path = path' := by
  unfold urlOf at h
  split at h
  · exact h
  · simpa only [String.append_left_inj] using h

/-- A URL before its first question mark, and after it if there is one. -/
def urlParts (url : String) : List Char × Option (List Char) := Text.partedAt '?' url.toList

theorem urlParts_urlOf {path : String} (h : '?' ∉ path.toList) (pairs : List (String × String)) :
    (urlParts (urlOf path pairs)).1 = path.toList ∧ ((urlParts (urlOf path pairs)).2 = none ↔ pairs = []) ∧
      ∀ query, (urlParts (urlOf path pairs)).2 = some query → readQuery query = some pairs := by
  by_cases hpairs : pairs = []
  · subst hpairs
    have hparts : urlParts (urlOf path []) = (path.toList, none) := Text.partedAt_of_notMem h
    simp [hparts]
  · have hurl : (urlOf path pairs).toList = path.toList ++ '?' :: (Text.joined "&" (pairs.map queryPair)).toList := by
      rw [urlOf, if_neg (by simpa using hpairs)]
      simp
    have hparts : urlParts (urlOf path pairs) =
        (path.toList, some (Text.joined "&" (pairs.map queryPair)).toList) := by
      rw [urlParts, hurl]
      exact Text.partedAt_append h _
    refine ⟨by rw [hparts], by simp [hparts, hpairs], ?_⟩
    intro query hquery
    rw [hparts] at hquery
    cases hquery
    exact readQuery_joined hpairs

/-- The URL of a call: its path is the template with the encoded values of the path parameters in their places,
whatever the order in which they are put in, and its query, if it has one, gives back every query parameter that has a
value, those of the client first. -/
theorem url_spec {path : String} {group : Option String} {decl : Service.Operation} {o : Plan.Operation}
    {r : Request} {t : Template} (h : shapeOperation path group decl = .ok o) (hpath : path = t.text)
    (hquestion : '?' ∉ path.toList)
    (hnames : ∀ p ∈ decl.parameters, Location.parse? p.location = some .path → BraceFree p.name)
    (hr : request o args = .ok r) :
    (urlParts r.url).1 = (t.filled (pathImage? decl args)).toList ∧
      (∀ values values', supplied args (argumentParameters o) = .ok values → values'.Perm values →
        (pathOf path values').toList = (urlParts r.url).1) ∧
      (∀ p ∈ decl.parameters, Location.parse? p.location = some .path → ∃ value, args.get? p.name = some value ∧
        pathImage? decl args p.name = some (encodedText value) ∧ Text.Percent.Encoded (encodedText value).toList ∧
        ∀ c ∈ ['/', '?', '&', '#', '\x7b'], c ∉ (encodedText value).toList) ∧
      ((urlParts r.url).2 = none ↔ queryPairs decl args = []) ∧
      ∀ query, (urlParts r.url).2 = some query → readQuery query = some (queryPairs decl args) := by
  obtain ⟨values, hv, rfl⟩ := request_eq_ok_iff.1 hr
  have hvalue : ∀ name image, pathImage? decl args name = some image → '?' ∉ image.toList := by
    intro name image himage
    obtain ⟨_, _, _, _, value, _, rfl⟩ := pathImage?_eq_some_iff.1 himage
    exact Text.Percent.notMem_encode (by decide) _
  have hfilled : pathOf o.path values = t.filled (pathImage? decl args) := by
    rw [Plan.path_of_shapeOperation h]
    exact pathOf_supplied h hv hpath hnames (List.Perm.refl _)
  obtain ⟨hbefore, hnone, hquery⟩ := urlParts_urlOf
    (Template.notMem_filled (hpath ▸ hquestion) hvalue) (queryPairs decl args)
  simp only [hfilled, queryOf_supplied h hv]
  refine ⟨hbefore, ?_, ?_, hnone, hquery⟩
  · intro values₁ values₂ hv₁ hperm
    rw [hbefore, pathOf_supplied h hv₁ hpath hnames hperm]
  · intro p hp hlocation
    obtain ⟨value, hvalue⟩ := exists_pathArgument h hv hp hlocation
    refine ⟨value, hvalue, pathImage?_eq_some_iff.2 ⟨p, hp, hlocation, rfl, value, hvalue, rfl⟩,
      Text.Percent.encoded_encode _, ?_⟩
    have hreserved : (['/', '?', '&', '#', '\x7b'].all fun c => !(Text.Percent.isUnreserved c || c == '%')) = true := by
      decide
    intro c hc
    exact Text.Percent.notMem_encode (by simpa using List.all_eq_true.1 hreserved c hc) _

/-- The path of a toy names its owner first; the operation declares the toy first. -/
def toyTemplate : Template :=
  [.literal "/owners/" (by decide), .place "owner" (by decide), .literal "/toys/" (by decide),
    .place "toy" (by decide)]

def findToy : Service.Operation where
  name := "findToy"
  method := .get
  description := none
  response := ⟨"Toy", []⟩
  parameters :=
    [⟨"toy", "string", "path", false, false, none, false⟩, ⟨"colour", "string", "query", false, true, none, false⟩,
      ⟨"a&b", "string", "query", false, false, none, false⟩, ⟨"owner", "string", "path", false, false, none, false⟩,
      ⟨"region", "string", "query", true, false, none, false⟩]
  longRunning := none
  paging := none

def plannedToy : Plan.Operation :=
  Plan.plannedOperation "findToy" toyTemplate.text none findToy
    [(false, ⟨"toy", "string", false, .path⟩), (false, ⟨"colour", "string", true, .query false⟩),
      (false, ⟨"a&b", "string", false, .query false⟩), (false, ⟨"owner", "string", false, .path⟩),
      (true, ⟨"region", "string", false, .query false⟩)]

theorem shapeOperation_findToy : shapeOperation toyTemplate.text none findToy = .ok plannedToy := rfl

/-- A call that finds a toy goes to a path, with these pairs in the query. -/
def FindsAt (args : Arguments) (place : String) (pairs : List (String × String)) : Prop :=
  ∃ r, request plannedToy args = .ok r ∧ (urlParts r.url).1 = place.toList ∧
    ∃ query, (urlParts r.url).2 = some query ∧ readQuery query = some pairs

/-- Texts that look like a place or a delimiter, and values that are no texts. -/
theorem url_spec_toy :
    FindsAt
        (.ofList [("toy", .string "\x7bowner\x7d"), ("owner", .string "a/b?"), ("colour", .null),
          ("a&b", .string "c=d&e"), ("region", .string "")])
        "/owners/a%2Fb%3F/toys/%7Bowner%7D" [("region", ""), ("a&b", "c=d&e")] ∧
      FindsAt
        (.ofList [("toy", .int (-7)), ("owner", .null), ("colour", .bool true), ("a&b", .array [.int 1, .null]),
          ("region", .null)])
        "/owners/null/toys/-7" [("region", "null"), ("colour", "true"), ("a&b", "[1,null]")] := by
  have hnames : ∀ p ∈ findToy.parameters, Location.parse? p.location = some .path → BraceFree p.name := by decide
  have hfinds : ∀ {args : Arguments} {r : Request} {place : String} {pairs : List (String × String)},
      request plannedToy args = .ok r → toyTemplate.filled (pathImage? findToy args) = place →
        queryPairs findToy args = pairs → pairs ≠ [] → FindsAt args place pairs := by
    intro args r place pairs hr hplace hpairs hne
    obtain ⟨hpath, _, _, hnone, hquery⟩ := url_spec shapeOperation_findToy rfl (by decide) hnames hr
    rw [hpairs] at hnone hquery
    obtain ⟨query, hparts⟩ := Option.ne_none_iff_exists'.1 (mt hnone.1 hne)
    exact ⟨r, hr, hplace ▸ hpath, query, hparts, hquery query hparts⟩
  exact ⟨hfinds rfl (by decide) (by decide) (by simp), hfinds rfl (by decide) (by decide) (by simp)⟩

end ClientGen.Call
