import PageExtract.Css.Token
import PageExtract.Text.CharNumber

/-! # From characters to the tokens of a selector

An escape is a backslash with up to six hexadecimal digits and one white space, or with any other
character. Texts and comments that are still open at the end close there.
-/
namespace PageExtract.Css

/-- A carriage return and a line feed count as one white space. -/
def dropOneSpace : List Char → List Char
  | '\r' :: '\n' :: cs => cs
  | c :: cs => if isSpace c then cs else c :: cs
  | [] => []

def readEscape : List Char → Char × List Char
  | [] => (Text.replacement, [])
  | c :: cs =>
    if Text.isHexDigit c then
      let digits := c :: (cs.takeWhile Text.isHexDigit).take 5
      (Text.charOf (Text.numberOf 16 digits),
        dropOneSpace (cs.drop (digits.length - 1)))
    else (Text.withoutNul c, cs)

theorem length_dropOneSpace_le (cs : List Char) : (dropOneSpace cs).length ≤ cs.length := by
  unfold dropOneSpace
  split
  · simp only [List.length_cons]; omega
  · split
    · exact Nat.le_succ _
    · exact Nat.le_refl _
  · exact Nat.le_refl _

theorem length_readEscape_le (cs : List Char) : (readEscape cs).2.length ≤ cs.length := by
  unfold readEscape
  split
  · exact Nat.le_refl _
  · split
    · refine Nat.le_trans (length_dropOneSpace_le _) ?_
      simp only [List.length_drop, List.length_cons]
      omega
    · exact Nat.le_succ _

def startsNewline : List Char → Bool
  | c :: _ => isNewline c
  | [] => false

def readName (cs : List Char) : List Char × List Char :=
  match cs with
  | [] => ([], [])
  | '\\' :: cs =>
    if startsNewline cs then ([], '\\' :: cs)
    else
      let escape := readEscape cs
      let name := readName escape.2
      (escape.1 :: name.1, name.2)
  | c :: cs =>
    if isNameChar c then
      let name := readName cs
      (Text.withoutNul c :: name.1, name.2)
    else ([], c :: cs)
termination_by cs.length
decreasing_by
  · exact Nat.lt_succ_of_le (length_readEscape_le _)
  · exact Nat.lt_succ_self _

theorem length_readName_le (cs : List Char) : (readName cs).2.length ≤ cs.length := by
  fun_induction readName cs with
  | case1 => exact Nat.le_refl _
  | case2 => exact Nat.le_refl _
  | case3 cs _ escape name ih =>
    exact Nat.le_succ_of_le (Nat.le_trans ih (length_readEscape_le cs))
  | case4 c cs _ _ name ih => exact Nat.le_succ_of_le ih
  | case5 => exact Nat.le_refl _

def startsIdent : List Char → Bool
  | '-' :: c :: cs => startsName c || c == '-' || (c == '\\' && !startsNewline cs)
  | '\\' :: cs => !startsNewline cs
  | c :: _ => startsName c
  | [] => false

def nameToken (name : List Char) : String := String.ofList name

/-- A text from behind its quote: the characters, or nothing if it is broken off by a new line, and
what follows. -/
def readText (quote : Char) (cs : List Char) : Option (List Char) × List Char :=
  match cs with
  | [] => (some [], [])
  | '\\' :: [] => (some [], [])
  | '\\' :: c :: cs =>
    if isNewline c then readText quote (dropOneSpace (c :: cs))
    else
      let escape := readEscape (c :: cs)
      let text := readText quote escape.2
      (text.1.map (escape.1 :: ·), text.2)
  | c :: cs =>
    if c = quote then (some [], cs)
    else if isNewline c then (none, c :: cs)
    else
      let text := readText quote cs
      (text.1.map (Text.withoutNul c :: ·), text.2)
termination_by cs.length
decreasing_by
  · exact Nat.lt_succ_of_le (length_dropOneSpace_le _)
  · exact Nat.lt_succ_of_le (length_readEscape_le _)
  · exact Nat.lt_succ_self _

theorem length_readText_le (quote : Char) (cs : List Char) :
    (readText quote cs).2.length ≤ cs.length := by
  fun_induction readText quote cs with
  | case1 => exact Nat.le_refl _
  | case2 => exact Nat.zero_le _
  | case3 c cs _ ih => exact Nat.le_succ_of_le (Nat.le_trans ih (length_dropOneSpace_le _))
  | case4 c cs _ escape text ih =>
    exact Nat.le_succ_of_le (Nat.le_trans ih (length_readEscape_le _))
  | case5 => exact Nat.le_succ _
  | case6 => exact Nat.le_refl _
  | case7 c cs _ _ _ _ text ih => exact Nat.le_succ_of_le ih

/-- Integers beyond 32 bits count as the nearest within them. -/
def clamp (n : Int) : Int := max (-2147483648) (min n 2147483647)

def dropFraction : List Char → Option (List Char)
  | '.' :: d :: cs => if d.isDigit then some (cs.dropWhile Char.isDigit) else none
  | _ => none

def dropExponent : List Char → Option (List Char)
  | e :: cs =>
    if e = 'e' ∨ e = 'E' then
      match cs with
      | sign :: d :: rest =>
        if sign.isDigit then some (cs.dropWhile Char.isDigit)
        else if (sign = '+' ∨ sign = '-') ∧ d.isDigit then some (rest.dropWhile Char.isDigit)
        else none
      | [d] => if d.isDigit then some [] else none
      | [] => none
    else none
  | [] => none

def readUnit (signed : Bool) (value : Option Int) : List Char → Token × List Char
  | '%' :: cs => (.other, cs)
  | cs =>
    if startsIdent cs then
      let name := readName cs
      (.dimension value (nameToken name.1), name.2)
    else (.number signed value, cs)

def readNumberRest (signed : Bool) (value : Int) (cs : List Char) : Token × List Char :=
  match dropFraction cs with
  | some cs => readUnit signed none ((dropExponent cs).getD cs)
  | none =>
    match dropExponent cs with
    | some cs => readUnit signed none cs
    | none => readUnit signed (some (clamp value)) cs

def readNumber (c : Char) (cs : List Char) : Token × List Char :=
  if c = '.' then
    let cs := cs.dropWhile Char.isDigit
    readUnit false none ((dropExponent cs).getD cs)
  else
    let digits := cs.takeWhile Char.isDigit
    let rest := cs.drop digits.length
    if c = '-' then readNumberRest true (-(Text.numberOf 10 digits : Int)) rest
    else if c = '+' then readNumberRest true (Text.numberOf 10 digits) rest
    else readNumberRest false (Text.numberOf 10 (c :: digits)) rest

def startsDigits : List Char → Bool
  | '.' :: d :: _ => d.isDigit
  | d :: _ => d.isDigit
  | [] => false

def startsNumber (c : Char) (cs : List Char) : Bool :=
  if c = '+' ∨ c = '-' then startsDigits cs
  else if c = '.' then (cs.head?.map Char.isDigit).getD false
  else c.isDigit

def afterComment : List Char → List Char
  | '*' :: '/' :: cs => cs
  | _ :: cs => afterComment cs
  | [] => []

def afterBroken : List Char → List Char
  | '\\' :: _ :: cs => afterBroken cs
  | c :: cs => if c = ')' then cs else afterBroken cs
  | [] => []

def isUnprintable (c : Char) : Bool :=
  let n := c.toNat
  (1 ≤ n && n ≤ 8) || n == 0xB || (0xE ≤ n && n ≤ 0x1F) || n == 0x7F

def readAddress (cs : List Char) : Token × List Char :=
  match cs with
  | [] => (.other, [])
  | '\\' :: cs =>
    if startsNewline cs then (.broken, afterBroken cs) else readAddress (readEscape cs).2
  | c :: cs =>
    if c = ')' then (.other, cs)
    else if isSpace c then
      match cs.dropWhile isSpace with
      | [] => (.other, [])
      | ')' :: cs => (.other, cs)
      | _ :: cs => (.broken, afterBroken cs)
    else if c = '\x22' ∨ c = '\x27' ∨ c = '(' ∨ isUnprintable c then (.broken, afterBroken cs)
    else readAddress cs
termination_by cs.length
decreasing_by
  · exact Nat.lt_succ_of_le (length_readEscape_le _)
  · exact Nat.lt_succ_self _

def nameOrFunction (name : List Char) : List Char → Token × List Char
  | '(' :: cs =>
    if name.map Char.toLower = ['u', 'r', 'l'] then
      match cs.dropWhile isSpace with
      | c :: rest =>
        if c = '\x22' ∨ c = '\x27' then (.function (nameToken name), cs)
        else readAddress (c :: rest)
      | [] => (.other, [])
    else (.function (nameToken name), cs)
  | cs => (.ident (nameToken name), cs)

def readIdent (c : Char) (cs : List Char) : Token × List Char :=
  if c = '\\' then
    let escape := readEscape cs
    let name := readName escape.2
    nameOrFunction (escape.1 :: name.1) name.2
  else
    let name := readName cs
    nameOrFunction (Text.withoutNul c :: name.1) name.2

def isComparison (c : Char) : Bool := ['~', '|', '^', '$', '*'].contains c

def nextMark (c : Char) (cs : List Char) : Option Token × List Char :=
  if c = '-' ∧ cs.take 2 = ['-', '>'] then (some .other, cs.drop 2)
  else if c = '<' ∧ cs.take 3 = ['!', '-', '-'] then (some .other, cs.drop 3)
  else if c = '@' ∧ startsIdent cs then (some .other, (readName cs).2)
  else if startsIdent (c :: cs) then
    let ident := readIdent c cs
    (some ident.1, ident.2)
  else if isComparison c ∧ cs.head? = some '=' then (some (.comparison c), cs.tail)
  else if c = ':' then (some .colon, cs)
  else if c = ',' then (some .comma, cs)
  else if c = '(' ∨ c = '[' ∨ c = '{' then (some (.opening c), cs)
  else if c = ')' ∨ c = ']' ∨ c = '}' then (some (.closing c), cs)
  else (some (.delim c), cs)

def next (c : Char) (cs : List Char) : Option Token × List Char :=
  if isSpace c then (some .space, cs.dropWhile isSpace)
  else if c = '\x22' ∨ c = '\x27' then
    let text := readText c cs
    (some ((text.1.map fun t => Token.text (String.ofList t)).getD .broken), text.2)
  else if c = '/' ∧ cs.head? = some '*' then (none, afterComment cs.tail)
  else if c = '#' then
    if startsIdent cs ∨ (cs.head?.map fun d => d.isDigit || d == '-').getD false then
      let name := readName cs
      (some (.hash (startsIdent cs) (nameToken name.1)), name.2)
    else (some (.delim c), cs)
  else if startsNumber c cs then
    let number := readNumber c cs
    (some number.1, number.2)
  else nextMark c cs

/-! ## Every token takes a character -/

theorem length_of_dropFraction {cs rest : List Char} (h : dropFraction cs = some rest) :
    rest.length ≤ cs.length := by
  unfold dropFraction at h
  split at h
  · split at h
    · obtain rfl := Option.some.inj h
      have := (List.dropWhile_sublist (l := ‹List Char›) Char.isDigit).length_le
      simp only [List.length_cons]
      omega
    · simp at h
  · simp at h

theorem length_of_dropExponent {cs rest : List Char} (h : dropExponent cs = some rest) :
    rest.length ≤ cs.length := by
  unfold dropExponent at h
  split at h
  · split at h
    · split at h
      · rename_i sign d rest'
        split at h
        · obtain rfl := Option.some.inj h
          exact Nat.le_succ_of_le (List.dropWhile_sublist _).length_le
        · split at h
          · obtain rfl := Option.some.inj h
            have := (List.dropWhile_sublist (l := rest') Char.isDigit).length_le
            simp only [List.length_cons]
            omega
          · simp at h
      · split at h
        · obtain rfl := Option.some.inj h
          exact Nat.zero_le _
        · simp at h
      · simp at h
    · simp at h
  · simp at h

theorem length_getD_dropExponent_le (cs : List Char) :
    ((dropExponent cs).getD cs).length ≤ cs.length := by
  cases h : dropExponent cs with
  | none => exact Nat.le_refl _
  | some rest => exact length_of_dropExponent h

theorem length_readUnit_le (signed : Bool) (value : Option Int) (cs : List Char) :
    (readUnit signed value cs).2.length ≤ cs.length := by
  unfold readUnit
  split
  · exact Nat.le_succ _
  · split
    · exact length_readName_le _
    · exact Nat.le_refl _

theorem length_readNumberRest_le (signed : Bool) (value : Int) (cs : List Char) :
    (readNumberRest signed value cs).2.length ≤ cs.length := by
  unfold readNumberRest
  split
  · rename_i hf
    exact Nat.le_trans (length_readUnit_le _ _ _)
      (Nat.le_trans (length_getD_dropExponent_le _) (length_of_dropFraction hf))
  · split
    · rename_i he
      exact Nat.le_trans (length_readUnit_le _ _ _) (length_of_dropExponent he)
    · exact length_readUnit_le _ _ _

theorem length_readNumber_le (c : Char) (cs : List Char) :
    (readNumber c cs).2.length ≤ cs.length := by
  have hd (n : Nat) : (cs.drop n).length ≤ cs.length := by simp
  unfold readNumber
  split
  · exact Nat.le_trans (length_readUnit_le _ _ _)
      (Nat.le_trans (length_getD_dropExponent_le _) (List.dropWhile_sublist _).length_le)
  · dsimp only
    split
    · exact Nat.le_trans (length_readNumberRest_le _ _ _) (hd _)
    · split
      · exact Nat.le_trans (length_readNumberRest_le _ _ _) (hd _)
      · exact Nat.le_trans (length_readNumberRest_le _ _ _) (hd _)

theorem length_afterComment_le (cs : List Char) : (afterComment cs).length ≤ cs.length := by
  fun_induction afterComment cs with
  | case1 => simp only [List.length_cons]; omega
  | case2 _ cs _ ih => exact Nat.le_succ_of_le ih
  | case3 => exact Nat.le_refl _

theorem length_afterBroken_le (cs : List Char) : (afterBroken cs).length ≤ cs.length := by
  fun_induction afterBroken cs with
  | case1 c cs ih => simp only [List.length_cons]; omega
  | case2 => exact Nat.le_succ _
  | case3 c cs _ _ ih => exact Nat.le_succ_of_le ih
  | case4 => exact Nat.le_refl _

theorem length_readAddress_le (cs : List Char) : (readAddress cs).2.length ≤ cs.length := by
  fun_induction readAddress cs with
  | case1 => exact Nat.le_refl _
  | case2 cs _ => exact Nat.le_succ_of_le (length_afterBroken_le _)
  | case3 cs _ ih => exact Nat.le_succ_of_le (Nat.le_trans ih (length_readEscape_le cs))
  | case4 => exact Nat.le_succ _
  | case5 => exact Nat.zero_le _
  | case6 c cs _ _ _ rest hr =>
    have := (List.dropWhile_sublist (l := cs) isSpace).length_le
    rw [hr] at this
    simp only [List.length_cons] at *
    omega
  | case7 c cs _ _ _ d rest _ hr =>
    have := (List.dropWhile_sublist (l := cs) isSpace).length_le
    have := length_afterBroken_le rest
    rw [hr] at *
    simp only [List.length_cons] at *
    omega
  | case8 => exact Nat.le_succ_of_le (length_afterBroken_le _)
  | case9 _ _ _ _ _ _ ih => exact Nat.le_succ_of_le ih

theorem length_nameOrFunction_le (name cs : List Char) :
    (nameOrFunction name cs).2.length ≤ cs.length := by
  unfold nameOrFunction
  split
  · rename_i cs
    split
    · split
      · rename_i c rest hr
        split
        · exact Nat.le_succ _
        · have := (List.dropWhile_sublist (l := cs) isSpace).length_le
          rw [hr] at this
          have := length_readAddress_le (c :: rest)
          simp only [List.length_cons] at *
          omega
      · exact Nat.zero_le _
    · exact Nat.le_succ _
  · exact Nat.le_refl _

theorem length_readIdent_le (c : Char) (cs : List Char) :
    (readIdent c cs).2.length ≤ cs.length := by
  unfold readIdent
  split
  · exact Nat.le_trans (length_nameOrFunction_le _ _)
      (Nat.le_trans (length_readName_le _) (length_readEscape_le _))
  · exact Nat.le_trans (length_nameOrFunction_le _ _) (length_readName_le _)

theorem length_nextMark_le (c : Char) (cs : List Char) :
    (nextMark c cs).2.length ≤ cs.length := by
  have hd (n : Nat) : (cs.drop n).length ≤ cs.length := by simp
  unfold nextMark
  split
  · exact hd 2
  · split
    · exact hd 3
    · split
      · exact length_readName_le _
      · split
        · exact length_readIdent_le _ _
        · split
          · exact (by simp : cs.tail.length ≤ cs.length)
          · split
            · exact Nat.le_refl _
            · split
              · exact Nat.le_refl _
              · split
                · exact Nat.le_refl _
                · split
                  · exact Nat.le_refl _
                  · exact Nat.le_refl _

theorem length_next_le (c : Char) (cs : List Char) : (next c cs).2.length ≤ cs.length := by
  have ht : cs.tail.length ≤ cs.length := by simp
  unfold next
  split
  · exact (List.dropWhile_sublist _).length_le
  · split
    · exact length_readText_le _ _
    · split
      · exact Nat.le_trans (length_afterComment_le _) ht
      · split
        · split
          · exact length_readName_le _
          · exact Nat.le_refl _
        · split
          · exact length_readNumber_le _ _
          · exact length_nextMark_le c cs

def tokens (cs : List Char) : List Token :=
  match cs with
  | [] => []
  | c :: cs =>
    let token := next c cs
    token.1.toList ++ tokens token.2
termination_by cs.length
decreasing_by exact Nat.lt_succ_of_le (length_next_le _ _)

end PageExtract.Css
