/-!
Escape sequences that steer a terminal: an escape character, a bracket, numbers and marks, and a letter. What is not
shown on a terminal is shown without them.
-/

namespace Wiring.Text

def isParameter (c : Char) : Bool :=
  c = ';' || c = '?' || c.isDigit

def afterEscape? : List Char → Option (List Char)
  | '[' :: r =>
    match r.dropWhile isParameter with
    | [] => none
    | c :: rest => if c.isAlpha then some rest else none
  | _ => none

theorem length_le_of_afterEscape? {cs rest : List Char} (h : afterEscape? cs = some rest) :
    rest.length ≤ cs.length := by
  unfold afterEscape? at h
  split at h
  · rename_i r
    have hr := (List.dropWhile_sublist isParameter (l := r)).length_le
    split at h
    · simp at h
    · rename_i c _ hc
      rw [hc] at hr
      split at h
      · simp only [Option.some.injEq] at h
        subst h
        simp only [List.length_cons] at hr ⊢
        omega
      · simp at h
  · simp at h

def withoutEscapes (cs : List Char) : List Char :=
  match cs with
  | [] => []
  | c :: r =>
    if c = '\x1b' then
      match _h : afterEscape? r with
      | some rest => withoutEscapes rest
      | none => c :: withoutEscapes r
    else c :: withoutEscapes r
termination_by cs.length
decreasing_by
  · exact Nat.lt_succ_of_le (length_le_of_afterEscape? _h)
  · exact Nat.lt_succ_self _
  · exact Nat.lt_succ_self _

def plain (s : String) : String :=
  String.ofList (withoutEscapes s.toList)

end Wiring.Text
