import ClientGen.Proofs.Text.Search
import ClientGen.Source.Tree

/-!
# Local names

What a function, a method or a constructor declares: its parameters, and the constants of its body. A constant is told
by the words of its line, which are never put in by reference.
-/

namespace ClientGen.Source

/-- The name of the constant that a line declares. -/
def constantIn? (line : String) : Option String :=
  (Text.after? "const ".toList (line.toList.dropWhile (· == ' '))).map fun rest =>
    String.ofList (rest.takeWhile (· != ' '))

def Code.constant? : Code → Option String
  | .text s :: _ => constantIn? s
  | _ => none

def localNames (params : List Param) (body : List Code) : List String :=
  params.map Param.name ++ body.filterMap Code.constant?

def ClassMember.locals : ClassMember → List (List String)
  | .field _ => []
  | .constructor m => [localNames m.params m.body]
  | .method m => [localNames m.params m.body]

/-- A call signature of an interface has no name and is no method. -/
def InterfaceMember.locals (m : InterfaceMember) : List (List String) :=
  m.name.toList.map fun _ => localNames m.params []

def Content.locals : Content → List (List String)
  | .classDecl members => members.flatMap ClassMember.locals
  | .interfaceDecl members => members.flatMap InterfaceMember.locals
  | .typeAlias _ => []
  | .function f => [localNames f.params f.body]

/-- The local names of each function, method and constructor of a file. -/
def File.locals (f : File) : List (List String) := f.declarations.flatMap fun d => d.content.locals

/-! ## Lines without a constant -/

/-- A text that begins with another letter than a constant does, blanks aside. -/
def beginsOtherwise (s : String) : Bool := (s.toList.dropWhile (· == ' ')).head?.any (· != 'c')

theorem constantIn?_of_beginsOtherwise {s : String} (h : beginsOtherwise s = true) : constantIn? s = none := by
  unfold beginsOtherwise at h
  rw [constantIn?, Option.map_eq_none_iff]
  cases hrest : s.toList.dropWhile (· == ' ') with
  | nil => simp [hrest] at h
  | cons c rest =>
    have hc : ¬ 'c' = c := by
      rintro rfl
      simp [hrest] at h
    simp [Text.after?, hc]

theorem beginsOtherwise_append {s : String} (h : beginsOtherwise s = true) (t : String) :
    beginsOtherwise (s ++ t) = true := by
  unfold beginsOtherwise at h ⊢
  rw [String.toList_append, List.dropWhile_append]
  cases hrest : s.toList.dropWhile (· == ' ') with
  | nil => simp [hrest] at h
  | cons c rest => simpa [hrest] using h

theorem constantIn?_append {s : String} (h : beginsOtherwise s = true) (t : String) : constantIn? (s ++ t) = none :=
  constantIn?_of_beginsOtherwise (beginsOtherwise_append h t)

/-- Blanks at the beginning of a line do not matter. -/
theorem constantIn?_blanks_append {s : String} (h : s.toList.all (· == ' ') = true) (t : String) :
    constantIn? (s ++ t) = constantIn? t := by
  rw [constantIn?, String.toList_append, List.dropWhile_append_of_pos, constantIn?]
  exact List.all_eq_true.1 h

@[simp] theorem constant?_text (s : String) : (Code.text s).constant? = constantIn? s := rfl

@[simp] theorem constant?_text_append (s : String) (c : Code) : (Code.text s ++ c).constant? = constantIn? s := rfl

@[simp] theorem constant?_ref_append (key : Reference) (c : Code) : (Code.ref key ++ c).constant? = none := rfl

@[simp] theorem constant?_nil : Code.constant? [] = none := rfl

end ClientGen.Source
