import PageExtract.Json.Basic

/-! # Numbers in JSON

No number is kept, so a number is only scanned. Its size matters in one place: a number too large
for a double is no number where a value is read, and an ordinary one where it is skipped. The size
is that of the first digits, as many as 64 bits hold.
-/
namespace PageExtract.Json

structure Magnitude where
  significand : Nat
  exponent : Int
  deriving DecidableEq

inductive NumberFault where
  | wrong
  | ended
  deriving DecidableEq

abbrev NumberReply (α : Type) := Except NumberFault (α × List Char)

def digitsValue (digits : List Char) : Nat :=
  digits.foldl (fun n d => 10 * n + (d.toNat - 48)) 0

def readDigits (cs : List Char) : NumberReply (List Char) :=
  match cs with
  | [] => .error .ended
  | c :: rest =>
    if c.isDigit then .ok (c :: rest.takeWhile Char.isDigit, rest.dropWhile Char.isDigit)
    else .error .wrong

def readWhole (cs : List Char) : NumberReply (List Char) :=
  match readDigits cs with
  | .error fault => .error fault
  | .ok ('0' :: _ :: _, _) => .error .wrong
  | .ok (digits, rest) => .ok (digits, rest)

def readFraction : List Char → NumberReply (List Char)
  | '.' :: cs => readDigits cs
  | cs => .ok ([], cs)

def readSigned (cs : List Char) : NumberReply Int :=
  let (negative, digits) :=
    match cs with
    | '+' :: rest => (false, rest)
    | '-' :: rest => (true, rest)
    | cs => (false, cs)
  match readDigits digits with
  | .error fault => .error fault
  | .ok (digits, rest) =>
    let n := digitsValue digits
    .ok (if negative then -(n : Int) else n, rest)

def readExponent : List Char → NumberReply Int
  | 'e' :: cs => readSigned cs
  | 'E' :: cs => readSigned cs
  | cs => .ok (0, cs)

/-- Appends digits to a number as long as 64 bits hold it; the digits behind are left. -/
def appendDigits (n : Nat) : List Char → Nat × List Char
  | [] => (n, [])
  | d :: ds =>
    let next := 10 * n + (d.toNat - 48)
    if next < Nat.pow 2 64 then appendDigits next ds else (n, d :: ds)

/-- Digits that are left count as zeros before the point and not at all behind it. -/
def Magnitude.ofDigits (whole fraction : List Char) (exponent : Int) : Magnitude :=
  let (n, zeros) := appendDigits 0 whole
  let (n, left) := appendDigits n fraction
  ⟨n, exponent + zeros.length - (fraction.length - left.length)⟩

def readMagnitude (cs : List Char) : NumberReply Magnitude :=
  match readWhole cs with
  | .error fault => .error fault
  | .ok (whole, rest) =>
    match readFraction rest with
    | .error fault => .error fault
    | .ok (fraction, rest) =>
      match readExponent rest with
      | .error fault => .error fault
      | .ok (exponent, rest) =>
        .ok (.ofDigits whole fraction exponent, rest)

def readNumber : List Char → NumberReply Magnitude
  | '-' :: cs => readMagnitude cs
  | cs => readMagnitude cs

/-- The least number that rounds to no finite double. -/
def doubleLimit : Nat := Nat.pow 2 1024 - Nat.pow 2 970

def divNearest (n d : Nat) : Nat :=
  let low := n / d
  if d < 2 * (n % d) ∨ (d = 2 * (n % d) ∧ low % 2 = 1) then low + 1 else low

def nearestDouble (n : Nat) : Nat :=
  let unit := Nat.pow 2 (n.log2 - 52)
  divNearest n unit * unit

/-- Whether the double of the significand times that of the power of ten is no finite double. -/
def Magnitude.isTooLarge (m : Magnitude) : Bool :=
  m.significand ≠ 0 && 0 ≤ m.exponent && (308 < m.exponent ||
    doubleLimit ≤ nearestDouble m.significand * nearestDouble (Nat.pow 10 m.exponent.toNat))

def numberFault (cs : List Char) : Fault :=
  match readNumber cs with
  | .error .ended => .truncated
  | .error .wrong => .malformed
  | .ok (m, _) => if m.isTooLarge then .malformed else .mismatch

def skipNumber (cs : List Char) : Except Fault (List Char) :=
  match readNumber cs with
  | .error _ => .error .malformed
  | .ok (_, rest) => .ok rest

theorem length_of_readDigits {cs digits rest : List Char} (h : readDigits cs = .ok (digits, rest)) :
    rest.length < cs.length := by
  unfold readDigits at h
  split at h
  · simp at h
  · split at h
    · simp only [Except.ok.injEq, Prod.mk.injEq] at h
      exact h.2 ▸ Nat.lt_succ_of_le (List.dropWhile_sublist _).length_le
    · simp at h

theorem length_of_readWhole {cs digits rest : List Char} (h : readWhole cs = .ok (digits, rest)) :
    rest.length < cs.length := by
  unfold readWhole at h
  split at h
  · simp at h
  · simp at h
  · rename_i hd
    simp only [Except.ok.injEq, Prod.mk.injEq] at h
    exact h.2 ▸ length_of_readDigits hd

theorem length_of_readFraction {cs digits rest : List Char}
    (h : readFraction cs = .ok (digits, rest)) : rest.length ≤ cs.length := by
  unfold readFraction at h
  split at h
  · exact Nat.le_succ_of_le (Nat.le_of_lt (length_of_readDigits h))
  · simp_all

theorem length_of_readSigned {cs rest : List Char} {n : Int} (h : readSigned cs = .ok (n, rest)) :
    rest.length < cs.length := by
  unfold readSigned at h
  split at h
  rename_i negative digits hs
  split at h
  · simp at h
  · rename_i hd
    simp only [Except.ok.injEq, Prod.mk.injEq] at h
    have hl := length_of_readDigits hd
    rw [h.2] at hl
    split at hs
    · obtain ⟨_, rfl⟩ := Prod.mk.injEq .. ▸ hs
      exact Nat.lt_succ_of_lt hl
    · obtain ⟨_, rfl⟩ := Prod.mk.injEq .. ▸ hs
      exact Nat.lt_succ_of_lt hl
    · obtain ⟨_, rfl⟩ := Prod.mk.injEq .. ▸ hs
      exact hl

theorem length_of_readExponent {cs rest : List Char} {n : Int}
    (h : readExponent cs = .ok (n, rest)) : rest.length ≤ cs.length := by
  unfold readExponent at h
  split at h
  · exact Nat.le_succ_of_le (Nat.le_of_lt (length_of_readSigned h))
  · exact Nat.le_succ_of_le (Nat.le_of_lt (length_of_readSigned h))
  · simp_all

theorem length_of_readMagnitude {cs rest : List Char} {m : Magnitude}
    (h : readMagnitude cs = .ok (m, rest)) : rest.length < cs.length := by
  unfold readMagnitude at h
  split at h
  · simp at h
  · rename_i hw
    split at h
    · simp at h
    · rename_i hf
      split at h
      · simp at h
      · rename_i he
        simp only [Except.ok.injEq, Prod.mk.injEq] at h
        have := length_of_readWhole hw
        have := length_of_readFraction hf
        have := length_of_readExponent he
        rw [h.2] at this
        omega

theorem length_of_skipNumber {cs rest : List Char} (h : skipNumber cs = .ok rest) :
    rest.length < cs.length := by
  unfold skipNumber at h
  split at h
  · simp at h
  · rename_i hn
    obtain rfl : _ = rest := by simpa using h
    unfold readNumber at hn
    split at hn
    · exact Nat.lt_succ_of_lt (length_of_readMagnitude hn)
    · exact length_of_readMagnitude hn

end PageExtract.Json
