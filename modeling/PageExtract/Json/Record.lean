import PageExtract.Json.Skip

/-! # Flat records

A flat record gives texts to names, or `null`. It is written as an object whose members keep their
order. It is read by a `Shape`, the list of the names it may have: from an object, whose members
come in any order and where unknown names are passed over, or from an array that follows the shape.
-/
namespace PageExtract.Json

abbrev Record := List (String × Option String)

/-! ## Writing -/

def writeText? : Option String → String
  | some s => quote s
  | none => "null"

def writeMember (colon : String) (m : String × Option String) : String :=
  quote m.1 ++ colon ++ writeText? m.2

def Record.compact (r : Record) : String :=
  "\x7b" ++ String.intercalate "," (r.map (writeMember ":")) ++ "\x7d"

def Record.pretty (r : Record) : String :=
  if r.isEmpty then "\x7b\x7d"
  else "\x7b\n  " ++ String.intercalate ",\n  " (r.map (writeMember ": ")) ++ "\n\x7d"

/-! ## Reading -/

structure Slot where
  name : String
  nullable : Bool
  deriving DecidableEq

structure Shape where
  slots : List Slot
  /-- Whether an array may end before the last slot. -/
  partialArrays : Bool
  deriving DecidableEq

def otherValue : List Char → Fault
  | [] => .truncated
  | '[' :: _ => .mismatch
  | '{' :: _ => .mismatch
  | '\x22' :: cs => faultOf (readText cs)
  | 'n' :: cs => faultOf (readWord ['u', 'l', 'l'] cs)
  | 't' :: cs => faultOf (readWord ['r', 'u', 'e'] cs)
  | 'f' :: cs => faultOf (readWord ['a', 'l', 's', 'e'] cs)
  | c :: cs => if c = '-' ∨ c.isDigit then numberFault (c :: cs) else .malformed
where
  /-- A value that is well written is a mismatch. -/
  faultOf {α : Type} : Except Fault α → Fault
    | .error fault => fault
    | .ok _ => .mismatch

def readString (cs : List Char) : Reply String :=
  match skipBlanks cs with
  | '\x22' :: cs => (readText cs).map fun (text, rest) => (String.ofList text, rest)
  | cs => .error (otherValue cs)

def readNullable (cs : List Char) : Reply (Option String) :=
  match skipBlanks cs with
  | 'n' :: cs => (readWord ['u', 'l', 'l'] cs).map (none, ·)
  | cs => (readString cs).map fun (text, rest) => (some text, rest)

def Slot.read (slot : Slot) (cs : List Char) : Reply (Option String) :=
  if slot.nullable then readNullable cs
  else (readString cs).map fun (text, rest) => (some text, rest)

/-- A member from behind the quote that opens its key, added to those read before it. A second
member of a known name is a mismatch as soon as its key is read. -/
def readMember (shape : Shape) (before : Record) (cs : List Char) : Reply Record :=
  match readText cs with
  | .error fault => .error fault
  | .ok (key, rest) =>
    match shape.slots.find? (·.name = String.ofList key) with
    | none =>
      match readColon rest with
      | .error fault => .error fault
      | .ok rest => (skipValue rest).map (before, ·)
    | some slot =>
      if before.any (·.1 = slot.name) then .error .mismatch
      else match readColon rest with
        | .error fault => .error fault
        | .ok rest =>
          (slot.read rest).map fun (value, rest) => (before ++ [(slot.name, value)], rest)

theorem length_of_readString {cs rest : List Char} {s : String}
    (h : readString cs = .ok (s, rest)) : rest.length ≤ cs.length := by
  have hle := length_skipBlanks_le cs
  unfold readString at h
  split at h
  · rename_i cs' hb
    rw [hb] at hle
    cases ht : readText cs' with
    | error => simp [ht, Except.map] at h
    | ok p =>
      simp only [ht, Except.map, Except.ok.injEq, Prod.mk.injEq] at h
      have := length_of_readText ht
      rw [h.2] at this
      simp only [List.length_cons] at hle
      omega
  · simp at h

theorem length_of_readNullable {cs rest : List Char} {s : Option String}
    (h : readNullable cs = .ok (s, rest)) : rest.length ≤ cs.length := by
  have hle := length_skipBlanks_le cs
  unfold readNullable at h
  split at h
  · rename_i cs' hb
    rw [hb] at hle
    cases ht : readWord ['u', 'l', 'l'] cs' with
    | error => simp [ht, Except.map] at h
    | ok r =>
      simp only [ht, Except.map, Except.ok.injEq, Prod.mk.injEq] at h
      have := length_of_readWord ht
      rw [h.2] at this
      simp only [List.length_cons] at hle
      omega
  · cases ht : readString (skipBlanks cs) with
    | error => simp [ht, Except.map] at h
    | ok p =>
      simp only [ht, Except.map, Except.ok.injEq, Prod.mk.injEq] at h
      have := length_of_readString ht
      rw [h.2] at this
      omega

theorem Slot.length_of_read {slot : Slot} {cs rest : List Char} {s : Option String}
    (h : slot.read cs = .ok (s, rest)) : rest.length ≤ cs.length := by
  unfold Slot.read at h
  split at h
  · exact length_of_readNullable h
  · cases ht : readString cs with
    | error => simp [ht, Except.map] at h
    | ok p =>
      simp only [ht, Except.map, Except.ok.injEq, Prod.mk.injEq] at h
      have := length_of_readString ht
      rwa [h.2] at this

theorem length_of_readMember {shape : Shape} {before after : Record} {cs rest : List Char}
    (h : readMember shape before cs = .ok (after, rest)) : rest.length < cs.length := by
  unfold readMember at h
  split at h
  · simp at h
  · rename_i key r ht
    have hk := length_of_readText ht
    split at h
    · split at h
      · simp at h
      · rename_i r' hc
        have := length_of_readColon hc
        cases hs : skipValue r' with
        | error => simp [hs, Except.map] at h
        | ok r'' =>
          simp only [hs, Except.map, Except.ok.injEq, Prod.mk.injEq] at h
          have := length_of_skip hs
          rw [h.2] at this
          omega
    · rename_i slot _
      split at h
      · simp at h
      · split at h
        · simp at h
        · rename_i r' hc
          have := length_of_readColon hc
          cases hs : slot.read r' with
          | error => simp [hs, Except.map] at h
          | ok p =>
            simp only [hs, Except.map, Except.ok.injEq, Prod.mk.injEq] at h
            have := Slot.length_of_read hs
            rw [h.2] at this
            omega

def readMembers (shape : Shape) (before : Record) (cs : List Char) : Reply Record :=
  match _h : readMember shape before cs with
  | .error fault => .error fault
  | .ok (members, after) =>
    match _hb : skipBlanks after with
    | [] => .error .truncated
    | '}' :: rest => .ok (members, rest)
    | ',' :: next =>
      match _hk : skipBlanks next with
      | [] => .error .truncated
      | '\x22' :: rest => readMembers shape members rest
      | _ => .error .malformed
    | _ => .error .malformed
termination_by cs.length
decreasing_by
  have h₁ := length_of_readMember ‹_›
  have h₂ := length_skipBlanks_le after
  have h₃ := length_skipBlanks_le next
  rw [_hb] at h₂
  rw [_hk] at h₃
  simp only [List.length_cons] at h₂ h₃
  omega

def readObject (shape : Shape) (cs : List Char) : Reply Record :=
  match skipBlanks cs with
  | [] => .error .truncated
  | '}' :: rest => .ok ([], rest)
  | '\x22' :: rest => readMembers shape [] rest
  | _ => .error .malformed

def readArrayEnd (cs : List Char) : Except Fault (List Char) :=
  match skipBlanks cs with
  | [] => .error .truncated
  | ']' :: rest => .ok rest
  | _ => .error .malformed

def readItems (allowPartial : Bool) (before : Record) : List Slot → List Char → Reply Record
  | [], cs => (readArrayEnd cs).map (before, ·)
  | slot :: slots, cs =>
    match skipBlanks cs with
    | [] => .error .truncated
    | ']' :: rest => if allowPartial then .ok (before, rest) else .error .mismatch
    | ',' :: rest =>
      match skipBlanks rest with
      | [] => .error .truncated
      | ']' :: _ => .error .malformed
      | rest =>
        match slot.read rest with
        | .error fault => .error fault
        | .ok (value, rest) => readItems allowPartial (before ++ [(slot.name, value)]) slots rest
    | _ => .error .malformed

def readArray (shape : Shape) (cs : List Char) : Reply Record :=
  match shape.slots with
  | [] => (readArrayEnd cs).map ([], ·)
  | slot :: slots =>
    match skipBlanks cs with
    | [] => .error .truncated
    | ']' :: rest => if shape.partialArrays then .ok ([], rest) else .error .mismatch
    | rest =>
      match slot.read rest with
      | .error fault => .error fault
      | .ok (value, rest) => readItems shape.partialArrays [(slot.name, value)] slots rest

def readRecord (shape : Shape) (cs : List Char) : Except Fault Record :=
  finish <| match skipBlanks cs with
    | '[' :: rest => readArray shape rest
    | '{' :: rest => readObject shape rest
    | rest => .error (otherValue rest)

end PageExtract.Json
