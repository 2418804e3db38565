import ClientGen.Json.Reader
import ClientGen.Proofs.Json.Tokens
import ClientGen.Proofs.Result

/-!
# Reading a printed value back

Reading the tokens of a value puts the value into the innermost array or object that stands open, as long as no more
than 127 of them stand open at once. So a printed value without numbers is read back as it was, members in order.
-/

namespace ClientGen.Json

mutual

/-- How many arrays and objects stand inside one another. -/
def height : Json → Nat
  | .array items => heightOfItems items + 1
  | .object members => heightOfMembers members + 1
  | _ => 0

def heightOfItems : List Json → Nat
  | [] => 0
  | j :: items => max (height j) (heightOfItems items)

def heightOfMembers : List (String × Json) → Nat
  | [] => 0
  | (_, j) :: members => max (height j) (heightOfMembers members)

end

theorem atDepth_of_lt {depth : Nat} (h : depth < 127) (j : Json) : atDepth depth j = j := if_pos h

/-- A member as it is read. -/
def readMember (member : String × Json) : Option String × Json := (some member.1, member.2)

theorem objectOf_map_readMember (members : List (String × Json)) :
    objectOf (members.map readMember).reverse = .object members := by
  unfold objectOf
  rw [List.reverse_reverse, mapM_map_eq_some (by intro member; rfl)]

/-- The first token of a value does not close the array in which the value stands. -/
theorem run_itemOrClose (frames : List Frame) (j : Json) (rest : List Token) :
    run (.inside frames .itemOrClose) (tokensOf j ++ rest) = run (.inside frames .value) (tokensOf j ++ rest) := by
  match j with
  | .array [] | .array (_ :: _) | .object [] | .object (_ :: _) => rfl
  | .null | .bool _ | .int _ | .double _ | .string _ | .unreadable => rfl

mutual

/-- Reading the tokens of a value where one is expected is to put the value into the innermost frame. -/
theorem run_tokensOf (frames : List Frame) (j : Json) (h : frames.length + j.height ≤ 127) (rest : List Token) :
    run (.inside frames .value) (tokensOf j ++ rest) = (put j frames).bind fun p => run p rest := by
  match j with
  | .null | .bool _ | .int _ | .double _ | .string _ | .unreadable => rfl
  | .array [] =>
    have hdepth : frames.length < 127 := by simp only [height] at h; omega
    simp [tokensOf, run, step, beginValue, closeArray, atDepth_of_lt hdepth]
  | .object [] =>
    have hdepth : frames.length < 127 := by simp only [height] at h; omega
    simp [tokensOf, run, step, beginValue, closeObject, objectOf, atDepth_of_lt hdepth]
  | .array (j :: items) =>
    simp only [height, heightOfItems] at h
    have hdepth : frames.length < 127 := by omega
    have hopen : (Frame.array [] :: frames).length + j.height ≤ 127 := by rw [List.length_cons]; omega
    calc run (.inside frames .value) (tokensOf (.array (j :: items)) ++ rest)
        = run (.inside (.array [] :: frames) .itemOrClose)
            (tokensOf j ++ (tokensOfItems items ++ .closeArray :: rest)) := by
          simp [tokensOf, run, step, beginValue]
      _ = run (.inside (.array [j] :: frames) .separator) (tokensOfItems items ++ .closeArray :: rest) := by
          rw [run_itemOrClose, run_tokensOf _ j hopen]
          rfl
      _ = run (.inside (.array (items.reverse ++ [j]) :: frames) .separator) (.closeArray :: rest) :=
          run_tokensOfItems frames [j] items (by omega) _
      _ = (put (.array (j :: items)) frames).bind fun p => run p rest := by
          simp [run, step, closeArray, atDepth_of_lt hdepth]
  | .object ((name, j) :: members) =>
    simp only [height, heightOfMembers] at h
    have hdepth : frames.length < 127 := by omega
    have hopen : (Frame.member [] (some name) :: frames).length + j.height ≤ 127 := by rw [List.length_cons]; omega
    calc run (.inside frames .value) (tokensOf (.object ((name, j) :: members)) ++ rest)
        = run (.inside (.member [] (some name) :: frames) .value)
            (tokensOf j ++ (tokensOfMembers members ++ .closeObject :: rest)) := by
          simp [tokensOf, run, step, beginValue]
      _ = run (.inside (.object [readMember (name, j)] :: frames) .separator)
            (tokensOfMembers members ++ .closeObject :: rest) := by
          rw [run_tokensOf _ j hopen]
          rfl
      _ = run (.inside (.object ((members.map readMember).reverse ++ [readMember (name, j)]) :: frames) .separator)
            (.closeObject :: rest) :=
          run_tokensOfMembers frames [readMember (name, j)] members (by omega) _
      _ = (put (.object ((name, j) :: members)) frames).bind fun p => run p rest := by
          rw [← List.reverse_cons, ← List.map_cons]
          simp only [run, step, closeObject, objectOf_map_readMember, atDepth_of_lt hdepth]

/-- Items after the first go on top of those that are read. -/
theorem run_tokensOfItems (frames : List Frame) (read items : List Json)
    (h : frames.length + 1 + heightOfItems items ≤ 127) (rest : List Token) :
    run (.inside (.array read :: frames) .separator) (tokensOfItems items ++ rest) =
      run (.inside (.array (items.reverse ++ read) :: frames) .separator) rest := by
  match items with
  | [] => rfl
  | j :: items =>
    simp only [heightOfItems] at h
    have hopen : (Frame.array read :: frames).length + j.height ≤ 127 := by rw [List.length_cons]; omega
    calc run (.inside (.array read :: frames) .separator) (tokensOfItems (j :: items) ++ rest)
        = run (.inside (.array read :: frames) .value) (tokensOf j ++ (tokensOfItems items ++ rest)) := by
          simp [tokensOfItems, run, step]
      _ = run (.inside (.array (j :: read) :: frames) .separator) (tokensOfItems items ++ rest) := by
          rw [run_tokensOf _ j hopen]
          rfl
      _ = run (.inside (.array ((j :: items).reverse ++ read) :: frames) .separator) rest := by
          rw [run_tokensOfItems frames (j :: read) items (by omega)]
          simp

theorem run_tokensOfMembers (frames : List Frame) (read : List (Option String × Json)) (members : List (String × Json))
    (h : frames.length + 1 + heightOfMembers members ≤ 127) (rest : List Token) :
    run (.inside (.object read :: frames) .separator) (tokensOfMembers members ++ rest) =
      run (.inside (.object ((members.map readMember).reverse ++ read) :: frames) .separator) rest := by
  match members with
  | [] => rfl
  | (name, j) :: members =>
    simp only [heightOfMembers] at h
    have hopen : (Frame.member read (some name) :: frames).length + j.height ≤ 127 := by rw [List.length_cons]; omega
    calc run (.inside (.object read :: frames) .separator) (tokensOfMembers ((name, j) :: members) ++ rest)
        = run (.inside (.member read (some name) :: frames) .value)
            (tokensOf j ++ (tokensOfMembers members ++ rest)) := by
          simp [tokensOfMembers, run, step]
      _ = run (.inside (.object (readMember (name, j) :: read) :: frames) .separator)
            (tokensOfMembers members ++ rest) := by
          rw [run_tokensOf _ j hopen]
          rfl
      _ = run (.inside (.object ((((name, j) :: members).map readMember).reverse ++ read) :: frames) .separator)
            rest := by
          rw [run_tokensOfMembers frames (readMember (name, j) :: read) members (by omega)]
          simp

end

/-- A printed value without numbers is read back as it was, whatever blanks follow. -/
theorem parse?_pretty_append {j : Json} (hj : j.isNumberless) (hheight : j.height ≤ 127) {blanks : String}
    (h : ∀ c ∈ blanks.toList, isSpace c) : parse? (j.pretty ++ blanks) = some j := by
  have hrun : run (.inside [] .value) (tokensOf j) = some (.complete j) := by
    have hrun := run_tokensOf [] j (by simpa using hheight) []
    rwa [List.append_nil] at hrun
  rw [parse?, tokens?_pretty_append hj h, Option.bind_some, hrun]

end ClientGen.Json
