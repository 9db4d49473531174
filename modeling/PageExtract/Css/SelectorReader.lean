import PageExtract.Css.Nth
import PageExtract.Css.Selector

/-! # From blocks to selectors

A text is a list of selectors with commas between them. Inside `:is` and `:where` a selector that
cannot be read fits nothing and does no further harm, unless what is left of it is broken off. A
relative selector may hold no other inside.
-/
namespace PageExtract.Css

/-- A failure carries the components that have not been looked at. -/
abbrev Parsed (α : Type) := Except (List Component) (α × List Component)

/-! ## Attributes -/

def caselessAttributes : List String :=
  ["accept", "accept-charset", "align", "alink", "axis", "bgcolor", "charset", "checked", "clear",
   "codetype", "color", "compact", "declare", "defer", "dir", "direction", "disabled", "enctype",
   "face", "frame", "hreflang", "http-equiv", "lang", "language", "link", "media", "method",
   "multiple", "nohref", "noresize", "noshade", "nowrap", "readonly", "rel", "rev", "rules",
   "scope", "scrolling", "selected", "shape", "target", "text", "type", "valign", "valuetype",
   "vlink"]

def readAttributeName : List Component → Option (Bool × String × List Component)
  | .token (.ident _) :: .token (.delim '|') :: _ => none
  | .token (.ident name) :: rest => some (false, name, rest)
  | .token (.delim '*') :: .token (.delim '|') :: .token (.ident name) :: rest =>
    some (true, name, rest)
  | .token (.delim '|') :: .token (.ident name) :: rest => some (false, name, rest)
  | _ => none

def Comparison.ofToken? : Token → Option Comparison
  | .delim '=' => some .equal
  | .comparison '~' => some .includes
  | .comparison '|' => some .dash
  | .comparison '^' => some .front
  | .comparison '$' => some .back
  | .comparison '*' => some .anywhere
  | _ => none

def readValue : List Component → Option (String × List Component)
  | .token (.ident value) :: rest => some (value, rest)
  | .token (.text value) :: rest => some (value, rest)
  | _ => none

def readCaseFlag (default : Bool) (cs : List Component) : Option Bool :=
  match Component.skipSpace cs with
  | [] => some default
  | .token (.ident flag) :: rest =>
    if (Component.skipSpace rest).isEmpty then
      if lower flag = "i" then some true else if lower flag = "s" then some false else none
    else none
  | _ => none

def readAttribute (cs : List Component) : Option Simple := do
  let (anyNamespace, name, rest) ← readAttributeName (Component.skipSpace cs)
  let name := lower name
  match Component.skipSpace rest with
  | [] => some (.attr name .present)
  | .token t :: rest =>
    let comparison ← Comparison.ofToken? t
    let (value, rest) ← readValue (Component.skipSpace rest)
    let ignoreCase ← readCaseFlag (!anyNamespace && caselessAttributes.contains name) rest
    some (.attr name (.compare comparison value ignoreCase))
  | _ => none

/-! ## Compounds -/

/-- Readers for the lists of selectors inside a compound; the first argument tells whether they
stand inside `:has`. -/
structure ListReaders where
  strict : Bool → List Component → Option (List Selector)
  forgiving : Bool → List Component → Option (List Selector)
  relative : List Component → Option (List Relative)

def Counting.ofName? : String → Option Counting
  | "nth-child" => some ⟨false, false⟩
  | "nth-last-child" => some ⟨false, true⟩
  | "nth-of-type" => some ⟨true, false⟩
  | "nth-last-of-type" => some ⟨true, true⟩
  | _ => none

def plainClass? : String → Option (List Simple)
  | "first-child" => some [.nth ⟨false, false⟩ 0 1]
  | "last-child" => some [.nth ⟨false, true⟩ 0 1]
  | "only-child" => some [.nth ⟨false, false⟩ 0 1, .nth ⟨false, true⟩ 0 1]
  | "first-of-type" => some [.nth ⟨true, false⟩ 0 1]
  | "last-of-type" => some [.nth ⟨true, true⟩ 0 1]
  | "only-of-type" => some [.nth ⟨true, false⟩ 0 1, .nth ⟨true, true⟩ 0 1]
  | "root" => some [.root]
  | "scope" => some [.scope]
  | "empty" => some [.empty]
  | _ => none

def functionClass? (lists : ListReaders) (inHas : Bool) (name : String)
    (argument : List Component) : Option Simple :=
  if name = "is" ∨ name = "where" then (lists.forgiving inHas argument).map .isAny
  else if name = "not" then (lists.strict inHas argument).map .isNot
  else if name = "has" then if inHas then none else (lists.relative argument).map .has
  else match Counting.ofName? name with
    | some counting => (readPattern argument).map fun (a, b) => .nth counting a b
    | none => none

def prepend (parts : List Simple) : Parsed (List Simple) → Parsed (List Simple)
  | .error rest => .error rest
  | .ok (more, rest) => .ok (parts ++ more, rest)

def readParts (lists : ListReaders) (inHas : Bool) : List Component → Parsed (List Simple)
  | .token (.hash true id) :: rest => prepend [.id id] (readParts lists inHas rest)
  | .token (.delim '.') :: .token (.ident name) :: rest =>
    prepend [.className name] (readParts lists inHas rest)
  | .token (.delim '.') :: rest => .error rest.tail
  | .block (.opening '[') inside :: rest =>
    match readAttribute inside with
    | some part => prepend [part] (readParts lists inHas rest)
    | none => .error rest
  | .token .colon :: .token (.ident name) :: rest =>
    match plainClass? (lower name) with
    | some parts => prepend parts (readParts lists inHas rest)
    | none => .error rest
  | .token .colon :: .block (.function name) inside :: rest =>
    match functionClass? lists inHas (lower name) inside with
    | some part => prepend [part] (readParts lists inHas rest)
    | none => .error rest
  | .token .colon :: .token .colon :: rest => .error rest.tail
  | .token .colon :: rest => .error rest.tail
  | rest => .ok ([], rest)

def readBarred (before : List Simple) : List Component → Parsed (Option (List Simple))
  | .token (.delim '*') :: rest => .ok (some before, rest)
  | .token (.ident name) :: rest => .ok (some (before ++ [.name (lower name)]), rest)
  | [] => .ok (none, [])
  | _ :: rest => .error rest

/-- The element name of a compound. An element of a page is in no namespace that a selector could
name, and not in none. -/
def readElementName : List Component → Parsed (Option (List Simple))
  | .token (.ident _) :: .token (.delim '|') :: rest => .error rest
  | .token (.ident name) :: rest => .ok (some [.name (lower name)], rest)
  | .token (.delim '*') :: .token (.delim '|') :: rest => readBarred [] rest
  | .token (.delim '*') :: rest => .ok (some [], rest)
  | .token (.delim '|') :: rest => readBarred [.never] rest
  | rest => .ok (none, rest)

def readCompound (lists : ListReaders) (inHas : Bool) (cs : List Component) :
    Parsed (Option (List Simple)) :=
  match readElementName (Component.skipSpace cs) with
  | .error rest => .error rest
  | .ok (name, rest) =>
    match readParts lists inHas rest with
    | .error rest => .error rest
    | .ok (parts, rest) =>
      if name.isNone && parts.isEmpty then .ok (none, rest)
      else .ok (some (name.getD [] ++ parts), rest)

theorem length_of_prepend {front parts : List Simple} {p : Parsed (List Simple)}
    {rest : List Component} (h : prepend front p = .ok (parts, rest)) :
    ∃ more, p = .ok (more, rest) := by
  unfold prepend at h
  split at h
  · simp at h
  · rename_i more rest'
    obtain rfl : rest' = rest := (Prod.mk.inj (Except.ok.inj h)).2
    exact ⟨more, rfl⟩

theorem length_of_readParts {lists : ListReaders} {inHas : Bool} {cs rest : List Component}
    {parts : List Simple} (h : readParts lists inHas cs = .ok (parts, rest)) :
    rest.length ≤ cs.length ∧ (parts ≠ [] → rest.length < cs.length) := by
  have shorter {front parts : List Simple} {p : Parsed (List Simple)} {rest : List Component}
      {n : Nat} (hn : ∀ more, p = .ok (more, rest) → rest.length ≤ n)
      (hp : prepend front p = .ok (parts, rest)) : rest.length ≤ n :=
    let ⟨more, hm⟩ := length_of_prepend hp
    hn more hm
  fun_induction readParts lists inHas cs generalizing parts with
  | case1 id r ih =>
    have := shorter (fun _ hm => (ih hm).1) h
    simp only [List.length_cons]
    omega
  | case2 name r ih =>
    have := shorter (fun _ hm => (ih hm).1) h
    simp only [List.length_cons]
    omega
  | case4 inside r part _ ih =>
    have := shorter (fun _ hm => (ih hm).1) h
    simp only [List.length_cons]
    omega
  | case6 name r part _ ih =>
    have := shorter (fun _ hm => (ih hm).1) h
    simp only [List.length_cons]
    omega
  | case8 name inside r part _ ih =>
    have := shorter (fun _ hm => (ih hm).1) h
    simp only [List.length_cons]
    omega
  | case12 cs =>
    obtain ⟨rfl, rfl⟩ := Prod.mk.inj (Except.ok.inj h)
    exact ⟨Nat.le_refl _, fun hne => absurd rfl hne⟩
  | _ => simp at h

theorem length_of_readBarred {before : List Simple} {cs rest : List Component}
    {name : Option (List Simple)} (h : readBarred before cs = .ok (name, rest)) :
    rest.length ≤ cs.length := by
  unfold readBarred at h
  split at h
  · obtain ⟨_, rfl⟩ := Prod.mk.inj (Except.ok.inj h)
    exact Nat.le_succ _
  · obtain ⟨_, rfl⟩ := Prod.mk.inj (Except.ok.inj h)
    exact Nat.le_succ _
  · obtain ⟨_, rfl⟩ := Prod.mk.inj (Except.ok.inj h)
    exact Nat.le_refl _
  · simp at h

theorem length_of_readElementName {cs rest : List Component} {name : Option (List Simple)}
    (h : readElementName cs = .ok (name, rest)) :
    rest.length ≤ cs.length ∧ (name ≠ none → rest.length < cs.length) := by
  unfold readElementName at h
  split at h
  · simp at h
  · obtain ⟨_, rfl⟩ := Prod.mk.inj (Except.ok.inj h)
    exact ⟨Nat.le_succ _, fun _ => Nat.lt_succ_self _⟩
  · have := length_of_readBarred h
    simp only [List.length_cons]
    omega
  · obtain ⟨_, rfl⟩ := Prod.mk.inj (Except.ok.inj h)
    exact ⟨Nat.le_succ _, fun _ => Nat.lt_succ_self _⟩
  · have := length_of_readBarred h
    simp only [List.length_cons]
    omega
  · obtain ⟨rfl, rfl⟩ := Prod.mk.inj (Except.ok.inj h)
    exact ⟨Nat.le_refl _, fun hne => absurd rfl hne⟩

/-- A compound takes at least one component. -/
theorem length_of_readCompound {lists : ListReaders} {inHas : Bool} {cs rest : List Component}
    {parts : List Simple} (h : readCompound lists inHas cs = .ok (some parts, rest)) :
    rest.length < cs.length := by
  have hs : (Component.skipSpace cs).length ≤ cs.length := (List.dropWhile_sublist _).length_le
  unfold readCompound at h
  cases hn : readElementName (Component.skipSpace cs) with
  | error e => simp [hn] at h
  | ok p =>
    obtain ⟨name, rest₁⟩ := p
    obtain ⟨hle, hlt⟩ := length_of_readElementName hn
    cases hp : readParts lists inHas rest₁ with
    | error e => simp [hn, hp] at h
    | ok q =>
      obtain ⟨parts', rest₂⟩ := q
      obtain ⟨hle', hlt'⟩ := length_of_readParts hp
      simp only [hn, hp] at h
      split at h
      · simp at h
      · rename_i hne
        obtain ⟨_, rfl⟩ := Prod.mk.inj (Except.ok.inj h)
        cases name with
        | some _ =>
          have := hlt (by simp)
          omega
        | none =>
          have := hlt' fun he => hne (by simp [he])
          omega

/-! ## Selectors -/

def readCombinator (cs : List Component) : Option Combinator × List Component :=
  match Component.skipSpace cs with
  | .token (.delim '>') :: rest => (some .child, rest)
  | .token (.delim '+') :: rest => (some .nextSibling, rest)
  | .token (.delim '~') :: rest => (some .laterSibling, rest)
  | [] => (none, [])
  | rest =>
    if (cs.head?.map Component.isSpace).getD false then (some .descendant, rest) else (none, cs)

theorem length_readCombinator_le (cs : List Component) :
    (readCombinator cs).2.length ≤ cs.length := by
  have hs : (Component.skipSpace cs).length ≤ cs.length := (List.dropWhile_sublist _).length_le
  unfold readCombinator
  split
  · rename_i h
    rw [h] at hs
    exact Nat.le_of_succ_le hs
  · rename_i h
    rw [h] at hs
    exact Nat.le_of_succ_le hs
  · rename_i h
    rw [h] at hs
    exact Nat.le_of_succ_le hs
  · exact Nat.zero_le _
  · split
    · exact hs
    · exact Nat.le_refl _

structure Chain where
  first : List Simple
  rest : List (Combinator × List Simple)

def Chain.toSelector (c : Chain) : Selector :=
  c.rest.foldl (fun left (combinator, parts) => .join left combinator parts) (.compound c.first)

def Chain.toRelative (c : Chain) (first : Combinator) : Relative :=
  .starting first (Chain.toSelector ⟨[.anchor], (first, c.first) :: c.rest⟩)

def readChain (lists : ListReaders) (inHas : Bool) (cs : List Component) : Parsed Chain :=
  match _h : readCompound lists inHas cs with
  | .error rest => .error rest
  | .ok (none, rest) => .error rest
  | .ok (some parts, rest) =>
    match _hc : readCombinator rest with
    | (none, rest) => .ok (⟨parts, []⟩, rest)
    | (some combinator, behind) =>
      match readChain lists inHas behind with
      | .error rest => .error rest
      | .ok (chain, rest) => .ok (⟨parts, (combinator, chain.first) :: chain.rest⟩, rest)
termination_by cs.length
decreasing_by
  have h₁ := length_of_readCompound _h
  have h₂ := length_readCombinator_le rest
  rw [_hc] at h₂
  exact Nat.lt_of_le_of_lt h₂ h₁

def readSelector (lists : ListReaders) (inHas : Bool) (cs : List Component) : Option Selector :=
  match readChain lists inHas cs with
  | .ok (chain, []) => some chain.toSelector
  | _ => none

/-- A selector, or one that fits nothing if what has not been looked at is not broken off. -/
def forgive (lists : ListReaders) (inHas : Bool) (cs : List Component) : Option Selector :=
  let left :=
    match readChain lists inHas cs with
    | .ok (chain, []) => Except.ok chain.toSelector
    | .ok (_, rest) => .error rest
    | .error rest => .error rest
  match left with
  | .ok selector => some selector
  | .error rest => if Component.hasBroken rest then none else some (.compound [.never])

def readRelative (lists : ListReaders) (cs : List Component) : Option Relative :=
  let (combinator, rest) := readCombinator (Component.skipSpace cs)
  match readChain lists true rest with
  | .ok (chain, []) => some (chain.toRelative (combinator.getD .descendant))
  | _ => none

def ListReaders.none : ListReaders := ⟨fun _ _ => .none, fun _ _ => .none, fun _ => .none⟩

def ListReaders.deeper (lists : ListReaders) : ListReaders where
  strict inHas cs := (Component.splitCommas cs).mapM (readSelector lists inHas)
  forgiving inHas cs := (Component.splitCommas cs).mapM (forgive lists inHas)
  relative cs := (Component.splitCommas cs).mapM (readRelative lists)

def ListReaders.ofDepth : Nat → ListReaders
  | 0 => none
  | n + 1 => (ofDepth n).deeper

def readSelectors (s : String) : Option (List Selector) :=
  let components := Component.ofText s
  (ListReaders.ofDepth (Component.depth components + 1)).strict false components

end PageExtract.Css
