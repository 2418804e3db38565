import ClientGen.Call.Arguments
import ClientGen.Proofs.Text.Search

/-!
# Path templates

A template is text with named places in it, each written as its name in braces. Filling one place after the other, by
search and replacement in the text, is the same as filling all of them at once.
-/

namespace ClientGen.Call

def BraceFree (s : String) : Prop := '\x7b' ∉ s.toList ∧ '\x7d' ∉ s.toList

instance (s : String) : Decidable (BraceFree s) := inferInstanceAs (Decidable (_ ∧ _))

def placeholder (name : String) : String := "\x7b" ++ name ++ "\x7d"

/-- A part of a template: text that stays, or a place for the value of a parameter. -/
inductive Segment where
  | literal (text : String) (braceFree : BraceFree text)
  | place (name : String) (braceFree : BraceFree name)
  deriving DecidableEq

def Segment.text : Segment → String
  | .literal text _ => text
  | .place name _ => placeholder name

abbrev Template := List Segment

namespace Template

def text (t : Template) : String := Text.concat (t.map Segment.text)

/-- The names of the places, from left to right. -/
def places : Template → List String
  | [] => []
  | .literal _ _ :: t => places t
  | .place name _ :: t => name :: places t

/-- The text with all places filled at once; one without a value stays. -/
def filled (value : String → Option String) : Template → String
  | [] => ""
  | .literal text _ :: t => text ++ filled value t
  | .place name _ :: t => (value name).getD (placeholder name) ++ filled value t

/-- The text with its places filled from left to right, whatever their names; those beyond the last image stay. -/
def filledInOrder : Template → List String → String
  | [], _ => ""
  | .literal text _ :: t, images => text ++ filledInOrder t images
  | .place name _ :: t, [] => placeholder name ++ filledInOrder t []
  | .place _ _ :: t, image :: images => image ++ filledInOrder t images

end Template

/-- Puts an image in a place with the given name. -/
def Segment.put (name image : String) (h : BraceFree image) : Segment → Segment
  | .literal text braceFree => .literal text braceFree
  | .place other braceFree => if other = name then .literal image h else .place other braceFree

/-! ## One place at a time -/

section Replace

variable {name image : String}

theorem placeholder_toList (name : String) : (placeholder name).toList = '\x7b' :: (name.toList ++ ['\x7d']) := by
  simp [placeholder]

theorem eq_of_placeholder_isPrefix {name other : String} {rest : List Char} (hname : BraceFree name)
    (hother : BraceFree other) (h : (placeholder name).toList <+: (placeholder other).toList ++ rest) :
    name = other := by
  obtain ⟨tail, htail⟩ := h
  have hparted := congrArg (fun s => (Text.partedAt '\x7d' s.tail).1) htail
  simp only [placeholder_toList, List.cons_append, List.append_assoc, List.tail_cons, List.nil_append] at hparted
  rw [Text.partedAt_append hname.2, Text.partedAt_append hother.2] at hparted
  exact String.toList_injective hparted

theorem replace_literal {text : String} (h : BraceFree text) (rest : List Char) :
    Text.replace (placeholder name).toList image.toList (text.toList ++ rest) =
      text.toList ++ Text.replace (placeholder name).toList image.toList rest := by
  rw [placeholder_toList]
  exact Text.replace_append_of_notMem h.1 rest

theorem replace_placeholder_self (rest : List Char) :
    Text.replace (placeholder name).toList image.toList ((placeholder name).toList ++ rest) =
      image.toList ++ Text.replace (placeholder name).toList image.toList rest := by
  refine Text.replace_piece ?_ rest
  simp [placeholder_toList]

theorem replace_placeholder_of_ne {other : String} (hname : BraceFree name) (hother : BraceFree other)
    (hne : other ≠ name) (rest : List Char) :
    Text.replace (placeholder name).toList image.toList ((placeholder other).toList ++ rest) =
      (placeholder other).toList ++ Text.replace (placeholder name).toList image.toList rest := by
  have hnot : ¬ (placeholder name).toList <+: (placeholder other).toList ++ rest :=
    fun h => hne (eq_of_placeholder_isPrefix hname hother h).symm
  -- after its opening brace the other placeholder has no brace that could begin an occurrence
  have hclosing : '\x7b' ∉ other.toList ++ ['\x7d'] := by simpa using hother.1
  rw [placeholder_toList other] at hnot ⊢
  rw [List.cons_append] at hnot
  rw [List.cons_append, Text.replace_cons hnot, placeholder_toList name, Text.replace_append_of_notMem hclosing,
    List.cons_append]

/-- Replacing a placeholder in the text of a template fills the places of that name. -/
theorem replaced_text (hname : BraceFree name) (himage : BraceFree image) (t : Template) :
    Text.replaced t.text (placeholder name) image = Template.text (t.map (Segment.put name image himage)) := by
  have hlist : Text.replace (placeholder name).toList image.toList t.text.toList =
      (Template.text (t.map (Segment.put name image himage))).toList := by
    induction t with
    | nil => rfl
    | cons s t ih =>
      simp only [Template.text, List.map_cons, Text.concat_cons, String.toList_append] at ih ⊢
      rw [← ih]
      cases s with
      | literal text h => exact replace_literal h _
      | place other h =>
        by_cases heq : other = name
        · subst heq
          simp only [Segment.put, if_pos, Segment.text]
          exact replace_placeholder_self _
        · simp only [Segment.put, if_neg heq, Segment.text]
          exact replace_placeholder_of_ne hname h heq _
  rw [Text.replaced, hlist, String.ofList_toList]

end Replace

/-! ## All places at once -/

namespace Template

theorem braceFree_of_mem_places {t : Template} {name : String} (h : name ∈ t.places) : BraceFree name := by
  induction t with
  | nil => cases h
  | cons s t ih =>
    cases s with
    | literal text _ => exact ih h
    | place other hother =>
      rcases List.mem_cons.1 h with rfl | h
      · exact hother
      · exact ih h

theorem filled_none (t : Template) : t.filled (fun _ => none) = t.text := by
  induction t with
  | nil => rfl
  | cons s t ih =>
    cases s with
    | literal text h => exact congrArg (text ++ ·) ih
    | place name h => exact congrArg (placeholder name ++ ·) ih

/-- A place that got its image first keeps it. -/
theorem filled_put {name image : String} (h : BraceFree image) (value : String → Option String) (t : Template) :
    filled value (t.map (Segment.put name image h)) =
      filled (fun other => if other = name then some image else value other) t := by
  induction t with
  | nil => rfl
  | cons s t ih =>
    cases s with
    | literal text ht => simp only [List.map_cons, Segment.put, filled, ih]
    | place other hother =>
      by_cases heq : other = name
      · simp only [List.map_cons, Segment.put, if_pos heq, filled, Option.getD_some, ih]
      · simp only [List.map_cons, Segment.put, if_neg heq, filled, ih]

theorem filled_congr {value value' : String → Option String} {t : Template}
    (h : ∀ name ∈ t.places, value name = value' name) : t.filled value = t.filled value' := by
  induction t with
  | nil => rfl
  | cons s t ih =>
    cases s with
    | literal text ht => rw [filled, filled, ih h]
    | place name hname =>
      obtain ⟨hfirst, hrest⟩ := List.forall_mem_cons.1 h
      rw [filled, filled, hfirst, ih hrest]

/-- Filling brings in no character that is neither in the template nor in an image. -/
theorem notMem_filled {c : Char} {value : String → Option String} {t : Template} (ht : c ∉ t.text.toList)
    (hvalue : ∀ name image, value name = some image → c ∉ image.toList) : c ∉ (t.filled value).toList := by
  induction t with
  | nil => simp [filled]
  | cons s t ih =>
    simp only [text, List.map_cons, Text.concat_cons, String.toList_append, List.mem_append, not_or] at ht ih
    obtain ⟨hs, hrest⟩ := ht
    cases s with
    | literal text h =>
      rw [filled, String.toList_append, List.mem_append, not_or]
      exact ⟨hs, ih hrest⟩
    | place name h =>
      rw [filled, String.toList_append, List.mem_append, not_or]
      refine ⟨?_, ih hrest⟩
      cases himage : value name with
      | none => exact hs
      | some image => exact hvalue name image himage

/-- Filling by name is filling in order with the images of the names. -/
theorem filled_eq_filledInOrder (value : String → String) (t : Template) :
    t.filled (fun name => some (value name)) = t.filledInOrder (t.places.map value) := by
  induction t with
  | nil => rfl
  | cons s t ih =>
    cases s with
    | literal text h => rw [filled, ih, places, filledInOrder]
    | place name h => rw [filled, ih, places, List.map_cons, filledInOrder, Option.getD_some]

/-- Which characters were put in the places, up to the first that was left, can be told from the text. -/
theorem filledInOrder_injective {cs cs' : List Char} (hcs : '\x7b' ∉ cs) {t : Template}
    (hlength : cs.length = t.places.length) (hlength' : cs'.length ≤ t.places.length)
    (h : t.filledInOrder (cs.map String.singleton) = t.filledInOrder (cs'.map String.singleton)) : cs = cs' := by
  induction t generalizing cs cs' with
  | nil => rw [List.length_eq_zero_iff.1 hlength, List.length_eq_zero_iff.1 (Nat.le_zero.1 hlength')]
  | cons s t ih =>
    cases s with
    | literal text _ => exact ih hcs hlength hlength' (String.append_right_inj text |>.1 h)
    | place name _ =>
      cases cs with
      | nil => simp [places] at hlength
      | cons c cs =>
        have hlists := congrArg String.toList h
        cases cs' with
        | nil =>
          -- the other text still has the opening brace of the place here
          simp only [List.map_cons, List.map_nil, filledInOrder, String.toList_append, String.toList_singleton,
            placeholder_toList, List.cons_append, List.nil_append, List.cons.injEq] at hlists
          exact absurd (hlists.1 ▸ List.mem_cons_self) hcs
        | cons c' cs' =>
          simp only [List.map_cons, filledInOrder, String.toList_append, String.toList_singleton,
            List.cons_append, List.nil_append, List.cons.injEq] at hlists
          obtain ⟨rfl, hrest⟩ := hlists
          simp only [places, List.length_cons] at hlength hlength'
          rw [ih (fun hm => hcs (List.mem_cons_of_mem _ hm)) (by omega) (by omega) (String.toList_injective hrest)]

end Template

end ClientGen.Call
