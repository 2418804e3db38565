import ClientGen.Baseline.Emitter
import ClientGen.Declarative.Emitter
import ClientGen.Proofs.Dict
import ClientGen.Proofs.Json.Reader
import ClientGen.Proofs.Text.Joined

/-!
# The manifest on both paths

The template of the manifest and the printer of JSON write the same text, and reading the text gives back what the plan
of the manifest says, in the same order.
-/

namespace ClientGen

namespace Json

@[simp] theorem distinct_string (text : String) : (string text).distinct = .string text := rfl

@[simp] theorem distinct_bool (value : Bool) : (bool value).distinct = .bool value := rfl

theorem distinctMembers_eq {members : List (String × Json)} (h : ∀ member ∈ members, member.2.distinct = member.2) :
    distinctMembers members = members := by
  induction members with
  | nil => rfl
  | cons member members ih =>
    rw [distinctMembers, h member List.mem_cons_self, ih fun other hother => h other (List.mem_cons_of_mem _ hother)]

/-- An object under whose names nothing is lost loses nothing itself if its names all differ. -/
theorem distinct_object {members : List (String × Json)} (hnodup : (members.map Prod.fst).Nodup)
    (h : ∀ member ∈ members, member.2.distinct = member.2) : (object members).distinct = .object members := by
  rw [distinct, distinctMembers_eq h, Dict.entries_ofList hnodup]

end Json

/-- The members after the first are printed one by one, each after a comma and a line end. -/
theorem prettyMembers_textMembers (depth : Nat) (entries : List (String × String)) :
    Json.prettyMembers depth (entries.map fun (name, text) => (name, .string text)) =
      Text.concat ((entries.map fun (name, text) => Json.quoted name ++ ": " ++ Json.quoted text).map
        ("," ++ Json.newLine (depth + 1) ++ ·)) := by
  induction entries with
  | nil => rfl
  | cons entry entries ih =>
    rw [List.map_cons, Json.prettyMembers, ih]
    simp [Json.prettyAt, Json.scalarText, String.append_assoc]

/-- A printed object of texts holds its entries as the template joins them. -/
theorem prettyAt_textMembers {entries : List (String × String)} (h : entries ≠ []) :
    Json.prettyAt 1 (Declarative.textMembers entries) = "\x7b\n    " ++ Baseline.entryLines entries ++ "\n  \x7d" := by
  have hone : Json.newLine 1 = "\n  " := rfl
  have htwo : Json.newLine 2 = "\n    " := rfl
  obtain ⟨⟨name, text⟩, entries, rfl⟩ := List.exists_cons_of_ne_nil h
  rw [Declarative.textMembers, List.map_cons, Json.prettyAt, prettyMembers_textMembers, Baseline.entryLines,
    List.map_cons, Text.joined_cons]
  simp [Json.prettyAt, Json.scalarText, hone, htwo, ← String.toList_inj]

/-- Nothing is escaped in the names of the members. -/
theorem quoted_memberNames :
    ∀ name ∈ ["name", "version", "description", "engines", "node", "sideEffects", "autoPublish", "dependencies",
        "devDependencies", "scripts", "sdk-type", "repository", "bugs", "url"],
      Json.quoted name = "\"" ++ name ++ "\"" := by
  simp only [List.forall_mem_cons]
  refine ⟨rfl, rfl, rfl, rfl, rfl, rfl, rfl, rfl, rfl, rfl, rfl, rfl, rfl, rfl, fun _ h => absurd h List.not_mem_nil⟩

set_option maxRecDepth 10000 in
/-- The template writes what the printer of JSON writes, if no object of texts is empty. -/
theorem Baseline.manifest_eq {d : Plan.Manifest} (hdependencies : d.dependencies ≠ [])
    (hdevDependencies : d.devDependencies ≠ []) (hscripts : d.scripts ≠ []) :
    Baseline.manifest d = Declarative.manifest d := by
  have hzero : Json.newLine 0 = "\n" := rfl
  have hone : Json.newLine 1 = "\n  " := rfl
  have htwo : Json.newLine 2 = "\n    " := rfl
  have hnames := quoted_memberNames
  simp only [List.forall_mem_cons] at hnames
  have hranges := prettyAt_textMembers hdependencies
  have hdevRanges := prettyAt_textMembers hdevDependencies
  have hcommands := prettyAt_textMembers hscripts
  -- The one text is made of lines and the other of members, so both are spelled out; values in quotes and entries stay.
  rw [← String.toList_inj]
  simp only [Baseline.manifest, Baseline.endLines, Declarative.manifest, Declarative.manifestValue]
  cases d.azure with
  | none =>
    simp [Json.pretty, Json.prettyAt, Json.prettyMembers, Json.scalarText, hzero, hone, htwo, hnames, hranges, hdevRanges,
      hcommands]
  | some a =>
    simp [Json.pretty, Json.prettyAt, Json.prettyMembers, Json.scalarText, Declarative.azureMembers, hzero, hone, htwo,
      hnames, hranges, hdevRanges, hcommands]

/-! ## Reading the manifest back -/

theorem isNumberless_textMembers (entries : List (String × String)) :
    (Declarative.textMembers entries).isNumberless := by
  rw [Declarative.textMembers, Json.isNumberless]
  induction entries with
  | nil => rfl
  | cons entry entries ih => simpa [Json.haveNumberless, Json.isNumberless] using ih

theorem height_textMembers (entries : List (String × String)) : (Declarative.textMembers entries).height = 1 := by
  rw [Declarative.textMembers, Json.height]
  induction entries with
  | nil => rfl
  | cons entry entries ih => simpa [Json.heightOfMembers, Json.height] using ih

/-- The manifest is read back as the value that was printed. -/
theorem parse?_manifest (d : Plan.Manifest) :
    Json.parse? (Declarative.manifest d) = some (Declarative.manifestValue d) := by
  have hnumberless : (Declarative.manifestValue d).isNumberless := by
    cases h : d.azure <;>
      simp [Declarative.manifestValue, Declarative.azureMembers, Json.isNumberless, Json.haveNumberless,
        isNumberless_textMembers, h]
  have hheight : (Declarative.manifestValue d).height ≤ 127 := by
    cases h : d.azure <;>
      simp [Declarative.manifestValue, Declarative.azureMembers, Json.height, Json.heightOfMembers,
        height_textMembers, h]
  exact Json.parse?_pretty_append hnumberless hheight (by simp [Json.isSpace])

theorem distinct_textMembers {entries : List (String × String)} (h : (entries.map Prod.fst).Nodup) :
    (Declarative.textMembers entries).distinct = Declarative.textMembers entries := by
  refine Json.distinct_object (by simpa [Function.comp_def] using h) fun member hmember => ?_
  obtain ⟨⟨name, text⟩, -, rfl⟩ := List.mem_map.1 hmember
  rfl

theorem nodup_dependencies (isAzure hasLongRunning : Bool) :
    ((Plan.dependencies isAzure hasLongRunning).map Prod.fst).Nodup := by
  cases isAzure <;> cases hasLongRunning <;> decide

theorem nodup_devDependencies (withTests : Bool) : ((Plan.devDependencies withTests).map Prod.fst).Nodup := by
  cases withTests <;> decide

theorem nodup_scripts (kind : Service.ModuleKind) (withTests : Bool) :
    ((Plan.scripts kind withTests).map Prod.fst).Nodup := by
  cases kind <;> cases withTests <;> decide

theorem distinct_manifestValue (m : Service.Model) :
    (Declarative.manifestValue (Plan.manifest m)).distinct = Declarative.manifestValue (Plan.manifest m) := by
  have hone : ∀ (name text : String), (Json.object [(name, .string text)]).distinct = .object [(name, .string text)] :=
    fun name text => Json.distinct_object (by simp) (by simp)
  have hdependencies : ∀ isAzure, _ := fun isAzure =>
    distinct_textMembers (nodup_dependencies isAzure m.hasLongRunning)
  have hdevDependencies := distinct_textMembers (nodup_devDependencies m.options.generateTest)
  have hscripts := distinct_textMembers (nodup_scripts m.options.moduleKind m.options.generateTest)
  unfold Declarative.manifestValue
  apply Json.distinct_object
  · cases h : (Plan.manifest m).azure <;> simp [Declarative.azureMembers]
  · cases h : (Plan.manifest m).azure <;>
      simp [Declarative.azureMembers, Plan.manifest, hone, hdependencies, hdevDependencies, hscripts]

/-- Both paths write the same manifest for every model. Read as JSON, it has the fields of the plan as its members, in
this order, each with the value that is planned, and no name twice. -/
theorem manifest_readable (m : Service.Model) :
    ∃ text members, Baseline.emit (.packageJson (Plan.manifest m)) = .ok ⟨"package.json", text⟩ ∧
      Declarative.emit (.packageJson (Plan.manifest m)) = .ok ⟨"package.json", text⟩ ∧
      Json.parse? text = some (.object members) ∧ (Json.object members).distinct = .object members ∧
      members =
        [("name", .string (Plan.manifest m).name),
         ("version", .string (Plan.manifest m).version),
         ("description", .string (Plan.manifest m).description),
         ("engines", .object [("node", .string (Plan.manifest m).nodeEngine)]),
         ("sideEffects", .bool false),
         ("autoPublish", .bool false),
         ("dependencies", .object ((Plan.manifest m).dependencies.map fun (name, range) => (name, .string range))),
         ("devDependencies",
           .object ((Plan.manifest m).devDependencies.map fun (name, range) => (name, .string range))),
         ("scripts", .object ((Plan.manifest m).scripts.map fun (name, command) => (name, .string command)))] ++
        match (Plan.manifest m).azure with
        | some a =>
          [("sdk-type", .string a.sdkType), ("repository", .string a.repository),
           ("bugs", .object [("url", .string a.bugsUrl)])]
        | none => [] := by
  have hdependencies : (Plan.manifest m).dependencies ≠ [] := by simp [Plan.manifest, Plan.dependencies]
  have hdevDependencies : (Plan.manifest m).devDependencies ≠ [] := by simp [Plan.manifest, Plan.devDependencies]
  have hscripts : (Plan.manifest m).scripts ≠ [] := by simp [Plan.manifest, Plan.scripts]
  refine ⟨Declarative.manifest (Plan.manifest m), _, ?_, rfl, parse?_manifest _, distinct_manifestValue m, rfl⟩
  rw [← Baseline.manifest_eq hdependencies hdevDependencies hscripts]
  rfl

end ClientGen
