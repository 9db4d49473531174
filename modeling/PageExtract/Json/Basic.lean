/-! # Reading JSON text

Reading goes over the characters once, from left to right, and stops at the first problem. A problem
is one of three: the text is no JSON, it is JSON of another shape than asked for, or it ends early.
-/
namespace PageExtract.Json

inductive Fault where
  | malformed
  | mismatch
  | truncated
  deriving DecidableEq

/-- What was read, and the characters behind it. -/
abbrev Reply (α : Type) := Except Fault (α × List Char)

def isBlank (c : Char) : Bool := c == ' ' || c == '\n' || c == '\t' || c == '\r'

def skipBlanks (cs : List Char) : List Char := cs.dropWhile isBlank

theorem length_skipBlanks_le (cs : List Char) : (skipBlanks cs).length ≤ cs.length :=
  (List.dropWhile_sublist _).length_le

def readWord : List Char → List Char → Except Fault (List Char)
  | [], cs => .ok cs
  | _ :: _, [] => .error .truncated
  | w :: ws, c :: cs => if c = w then readWord ws cs else .error .malformed

theorem length_of_readWord {word cs rest : List Char} (h : readWord word cs = .ok rest) :
    rest.length ≤ cs.length := by
  fun_induction readWord word cs with
  | case1 => simp_all
  | case2 => simp at h
  | case3 w ws cs ih => exact Nat.le_succ_of_le (ih h)
  | case4 => simp at h

def finish {α : Type} : Reply α → Except Fault α
  | .error fault => .error fault
  | .ok (value, rest) => if skipBlanks rest = [] then .ok value else .error .malformed

end PageExtract.Json
