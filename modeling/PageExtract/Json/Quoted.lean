import PageExtract.Json.Basic
import PageExtract.Text.CharNumber

/-! # Quoted texts in JSON

`quote` writes a text with its escapes, and `readText` reads one from behind its opening quote.
`skipText` only looks for the closing quote, so it lets pass escapes that stand for no character.
-/
namespace PageExtract.Json

def hexDigit (n : Nat) : Char := if n < 10 then Char.ofNat (48 + n) else Char.ofNat (87 + n)

def escape (c : Char) : List Char :=
  if c = '\x22' then ['\\', '\x22']
  else if c = '\\' then ['\\', '\\']
  else if c = '\x08' then ['\\', 'b']
  else if c = '\x0c' then ['\\', 'f']
  else if c = '\n' then ['\\', 'n']
  else if c = '\r' then ['\\', 'r']
  else if c = '\t' then ['\\', 't']
  else if c.toNat < 0x20 then
    ['\\', 'u', '0', '0', hexDigit (c.toNat / 16), hexDigit (c.toNat % 16)]
  else [c]

def quoteChars (cs : List Char) : List Char := '\x22' :: (cs.flatMap escape ++ ['\x22'])

def quote (s : String) : String := String.ofList (quoteChars s.toList)

def hexUnit? (a b c d : Char) : Option Nat := do
  let a ← Text.hexValue? a
  let b ← Text.hexValue? b
  let c ← Text.hexValue? c
  let d ← Text.hexValue? d
  some (((a * 16 + b) * 16 + c) * 16 + d)

/-- The four digits of a `\u` escape. Fewer than four bytes to the end of the text is an early end,
whatever they are. -/
def readUnit : List Char → Reply Nat
  | a :: b :: c :: d :: rest =>
    match hexUnit? a b c d with
    | some n => .ok (n, rest)
    | none => .error .malformed
  | cs => if (String.ofList cs).utf8ByteSize < 4 then .error .truncated else .error .malformed

theorem length_of_readUnit {cs rest : List Char} {n : Nat} (h : readUnit cs = .ok (n, rest)) :
    rest.length < cs.length := by
  unfold readUnit at h
  split at h
  · split at h
    · simp only [Except.ok.injEq, Prod.mk.injEq] at h
      simp only [List.length_cons, ← h.2]
      omega
    · simp at h
  · split at h <;> simp at h

def isLead (n : Nat) : Bool := 0xD800 ≤ n && n ≤ 0xDBFF

def isTrail (n : Nat) : Bool := 0xDC00 ≤ n && n ≤ 0xDFFF

def readTrail (lead : Nat) : List Char → Reply Char
  | [] => .error .truncated
  | '\\' :: [] => .error .truncated
  | '\\' :: 'u' :: cs =>
    match readUnit cs with
    | .error fault => .error fault
    | .ok (trail, rest) =>
      if isTrail trail then
        .ok (Char.ofNat ((lead - 0xD800) * 0x400 + (trail - 0xDC00) + 0x10000), rest)
      else .error .malformed
  | _ => .error .malformed

def simpleEscape? : Char → Option Char
  | '\x22' => some '\x22'
  | '\\' => some '\\'
  | '/' => some '/'
  | 'b' => some '\x08'
  | 'f' => some '\x0c'
  | 'n' => some '\n'
  | 'r' => some '\r'
  | 't' => some '\t'
  | _ => none

def readEscape : List Char → Reply Char
  | [] => .error .truncated
  | 'u' :: cs =>
    match readUnit cs with
    | .error fault => .error fault
    | .ok (n, rest) =>
      if isTrail n then .error .malformed
      else if isLead n then readTrail n rest
      else .ok (Char.ofNat n, rest)
  | c :: cs =>
    match simpleEscape? c with
    | some d => .ok (d, cs)
    | none => .error .malformed

theorem length_of_readTrail {lead : Nat} {cs rest : List Char} {c : Char}
    (h : readTrail lead cs = .ok (c, rest)) : rest.length < cs.length := by
  unfold readTrail at h
  split at h
  · simp at h
  · simp at h
  · split at h
    · simp at h
    · rename_i hu
      split at h
      · simp only [Except.ok.injEq, Prod.mk.injEq] at h
        have := length_of_readUnit hu
        simp only [List.length_cons, ← h.2]
        omega
      · simp at h
  · simp at h

theorem length_of_readEscape {cs rest : List Char} {c : Char}
    (h : readEscape cs = .ok (c, rest)) : rest.length < cs.length := by
  unfold readEscape at h
  split at h
  · simp at h
  · split at h
    · simp at h
    · rename_i hu
      have hl := length_of_readUnit hu
      split at h
      · simp at h
      · split at h
        · have := length_of_readTrail h
          simp only [List.length_cons]
          omega
        · simp only [Except.ok.injEq, Prod.mk.injEq] at h
          simp only [List.length_cons, ← h.2]
          omega
  · split at h
    · simp only [Except.ok.injEq, Prod.mk.injEq] at h
      simp [← h.2]
    · simp at h

def readText (cs : List Char) : Reply (List Char) :=
  match cs with
  | [] => .error .truncated
  | '\x22' :: rest => .ok ([], rest)
  | '\\' :: cs =>
    match _h : readEscape cs with
    | .error fault => .error fault
    | .ok (c, rest) =>
      match readText rest with
      | .error fault => .error fault
      | .ok (text, rest) => .ok (c :: text, rest)
  | c :: cs =>
    if c.toNat < 0x20 then .error .malformed
    else match readText cs with
      | .error fault => .error fault
      | .ok (text, rest) => .ok (c :: text, rest)
termination_by cs.length
decreasing_by
  · exact Nat.lt_succ_of_lt (length_of_readEscape ‹_›)
  · exact Nat.lt_succ_self _

theorem length_of_readText {cs text rest : List Char} (h : readText cs = .ok (text, rest)) :
    rest.length < cs.length := by
  fun_induction readText cs generalizing text with
  | case2 => simp_all
  | case5 cs c r hr t r' ht ih =>
    obtain ⟨_, rfl⟩ : _ ∧ r' = rest := by simpa using h
    have := length_of_readEscape hr
    have := ih ht
    simp only [List.length_cons]
    omega
  | case8 c cs _ _ _ t r ht ih =>
    obtain ⟨_, rfl⟩ : _ ∧ r = rest := by simpa using h
    exact Nat.lt_succ_of_lt (ih ht)
  | _ => simp at h

def skipText (cs : List Char) : Except Fault (List Char) :=
  match cs with
  | [] => .error .truncated
  | '\x22' :: rest => .ok rest
  | '\\' :: [] => .error .truncated
  | '\\' :: 'u' :: cs =>
    match _h : readUnit cs with
    | .error fault => .error fault
    | .ok (_, rest) => skipText rest
  | '\\' :: c :: cs => if (simpleEscape? c).isSome then skipText cs else .error .malformed
  | c :: cs => if c.toNat < 0x20 then .error .malformed else skipText cs
termination_by cs.length
decreasing_by
  · have := length_of_readUnit ‹_›
    simp only [List.length_cons]
    omega
  · simp only [List.length_cons]
    omega
  · exact Nat.lt_succ_self _

theorem length_of_skipText {cs rest : List Char} (h : skipText cs = .ok rest) :
    rest.length < cs.length := by
  fun_induction skipText cs with
  | case2 => simp_all
  | case5 cs n r hr ih =>
    have := length_of_readUnit hr
    have := ih h
    simp only [List.length_cons]
    omega
  | case6 c cs _ _ ih =>
    have := ih h
    simp only [List.length_cons]
    omega
  | case9 c cs _ _ _ _ _ ih => exact Nat.lt_succ_of_lt (ih h)
  | _ => simp at h

end PageExtract.Json
