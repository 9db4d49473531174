import PageExtract.Json.Number
import PageExtract.Json.Quoted

/-! # Skipping a value

A value that nobody asked for is passed over. The brackets that are still open are kept on a list,
the innermost first, so values may nest to any depth.
-/
namespace PageExtract.Json

inductive Bracket where
  | list
  | object
  deriving DecidableEq

inductive Expected where
  | value
  /-- The first item behind an opening bracket, or the closing one. -/
  | start (bracket : Bracket)
  | key
  /-- A comma or a closing bracket, if one is open. -/
  | rest
  deriving DecidableEq

def Bracket.item : Bracket → Expected
  | .list => .value
  | .object => .key

def Bracket.closing : Bracket → Char
  | .list => ']'
  | .object => '}'

def Expected.rank : Expected → Nat
  | .start _ => 1
  | _ => 0

@[simp] theorem rank_value : Expected.value.rank = 0 := rfl

@[simp] theorem rank_start (b : Bracket) : (Expected.start b).rank = 1 := rfl

@[simp] theorem rank_key : Expected.key.rank = 0 := rfl

@[simp] theorem rank_rest : Expected.rest.rank = 0 := rfl

@[simp] theorem rank_item (b : Bracket) : b.item.rank = 0 := by cases b <;> rfl

theorem Expected.rank_le_one (e : Expected) : e.rank ≤ 1 := by cases e <;> simp

def skipStart : List Char → Except Fault (Expected × List Char)
  | [] => .error .truncated
  | '[' :: cs => .ok (.start .list, cs)
  | '{' :: cs => .ok (.start .object, cs)
  | '\x22' :: cs => (skipText cs).map (.rest, ·)
  | 'n' :: cs => (readWord ['u', 'l', 'l'] cs).map (.rest, ·)
  | 't' :: cs => (readWord ['r', 'u', 'e'] cs).map (.rest, ·)
  | 'f' :: cs => (readWord ['a', 'l', 's', 'e'] cs).map (.rest, ·)
  | c :: cs =>
    if c = '-' ∨ c.isDigit then (skipNumber (c :: cs)).map (.rest, ·) else .error .malformed

def readColon (cs : List Char) : Except Fault (List Char) :=
  match skipBlanks cs with
  | [] => .error .truncated
  | ':' :: rest => .ok rest
  | _ => .error .malformed

def skipKey : List Char → Except Fault (List Char)
  | [] => .error .truncated
  | '\x22' :: cs =>
    match skipText cs with
    | .error fault => .error fault
    | .ok rest => readColon rest
  | _ => .error .malformed

theorem length_of_readColon {cs rest : List Char} (h : readColon cs = .ok rest) :
    rest.length < cs.length := by
  unfold readColon at h
  split at h
  · simp at h
  · rename_i after hb
    obtain rfl : after = rest := by simpa using h
    have hle := length_skipBlanks_le cs
    rw [hb] at hle
    exact hle
  · simp at h

theorem length_of_skipStart {cs rest : List Char} {e : Expected}
    (h : skipStart cs = .ok (e, rest)) : rest.length < cs.length := by
  have ofMap : ∀ {r : Except Fault (List Char)}, r.map (Expected.rest, ·) = .ok (e, rest) →
      r = .ok rest := by
    intro r hr
    cases r with
    | error => simp [Except.map] at hr
    | ok r => simp only [Except.map, Except.ok.injEq, Prod.mk.injEq] at hr; rw [hr.2]
  unfold skipStart at h
  split at h
  · simp at h
  · simp_all
  · simp_all
  · exact Nat.lt_succ_of_lt (length_of_skipText (ofMap h))
  · exact Nat.lt_succ_of_le (length_of_readWord (ofMap h))
  · exact Nat.lt_succ_of_le (length_of_readWord (ofMap h))
  · exact Nat.lt_succ_of_le (length_of_readWord (ofMap h))
  · split at h
    · exact length_of_skipNumber (ofMap h)
    · simp at h

theorem length_of_skipKey {cs rest : List Char} (h : skipKey cs = .ok rest) :
    rest.length < cs.length := by
  unfold skipKey at h
  split at h
  · simp at h
  · split at h
    · simp at h
    · rename_i ht
      have := length_of_skipText ht
      have := length_of_readColon h
      simp only [List.length_cons]
      omega
  · simp at h

/-- The characters behind what is expected and all that is open around it. -/
def skip (expected : Expected) (opened : List Bracket) (cs : List Char) :
    Except Fault (List Char) :=
  match expected with
  | .value =>
    match _h : skipStart (skipBlanks cs) with
    | .error fault => .error fault
    | .ok (.start bracket, rest) => skip (.start bracket) (bracket :: opened) rest
    | .ok (next, rest) => skip next opened rest
  | .start bracket =>
    match _h : skipBlanks cs with
    | [] => .error .truncated
    | c :: rest =>
      if c = bracket.closing then skip .rest opened.tail rest
      else skip bracket.item opened (c :: rest)
  | .key =>
    match _h : skipKey (skipBlanks cs) with
    | .error fault => .error fault
    | .ok rest => skip .value opened rest
  | .rest =>
    match opened with
    | [] => .ok cs
    | bracket :: outer =>
      match _h : skipBlanks cs with
      | [] => .error .truncated
      | c :: rest =>
        if c = ',' then skip bracket.item opened rest
        else if c = bracket.closing then skip .rest outer rest
        else .error .malformed
termination_by 2 * cs.length + expected.rank
decreasing_by
  all_goals have hle := length_skipBlanks_le cs
  · have := length_of_skipStart ‹_›
    simp only [rank_start, rank_value]
    omega
  · have := length_of_skipStart ‹_›
    have := next.rank_le_one
    simp only [rank_value]
    omega
  · simp only [_h, List.length_cons] at hle
    simp only [rank_start, rank_rest]
    omega
  · simp only [_h, List.length_cons] at hle
    simp only [rank_item, rank_start, List.length_cons]
    omega
  · have := length_of_skipKey ‹_›
    simp only [rank_key, rank_value]
    omega
  · simp only [_h, List.length_cons] at hle
    simp only [rank_item, rank_rest]
    omega
  · simp only [_h, List.length_cons] at hle
    simp only [rank_rest]
    omega

theorem length_of_skip {expected : Expected} {opened : List Bracket} {cs rest : List Char}
    (h : skip expected opened cs = .ok rest) : rest.length ≤ cs.length := by
  have hle := length_skipBlanks_le cs
  fun_induction skip expected opened cs with
  | case2 opened cs bracket r hs ih =>
    have := length_of_skipStart hs
    have := ih h (length_skipBlanks_le _)
    omega
  | case3 opened cs next r _ hs ih =>
    have := length_of_skipStart hs
    have := ih h (length_skipBlanks_le _)
    omega
  | case5 opened cs bracket r hb ih =>
    have := ih h (length_skipBlanks_le _)
    simp only [hb, List.length_cons] at hle
    omega
  | case6 opened cs bracket c r hb hc ih =>
    have := ih h (length_skipBlanks_le _)
    simp only [hb, List.length_cons] at hle this
    omega
  | case8 opened cs r hk ih =>
    have := length_of_skipKey hk
    have := ih h (length_skipBlanks_le _)
    omega
  | case9 cs => simp_all
  | case11 cs bracket outer r hb ih =>
    have := ih h (length_skipBlanks_le _)
    simp only [hb, List.length_cons] at hle
    omega
  | case12 cs bracket outer r hb hc ih =>
    have := ih h (length_skipBlanks_le _)
    simp only [hb, List.length_cons] at hle
    omega
  | _ => simp at h

def skipValue (cs : List Char) : Except Fault (List Char) := skip .value [] cs

end PageExtract.Json
