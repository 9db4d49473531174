import PageExtract.Rule.Lexer
import PageExtract.Rule.Render
import PageExtract.Text.Blank

/-! # From tokens to rules

A rule is a chain of terms with `?` between them, nested to the right. A term is `D`, a quoted
selector, and what reads it: a triple quoted selector is followed by `>`, a single quoted one, or
the item that `>` stands on, by exactly one `#` or `@'name'`. Reading works on the kinds of the
tokens; a failure carries the kinds from the blamed one on, which fixes the place it is blamed on.
-/
namespace PageExtract.Rule

/-- What is being read when an operation is expected. -/
inductive Subject where
  | selection (q : Quoted)
  | item
  deriving DecidableEq

def Subject.describe : Subject → String
  | .selection q => q.written
  | .item => "each item"

inductive ParseCause where
  | lexical (cause : LexCause)
  | emptyRule
  | trailing (found : Kind)
  | noDocument (found : Kind)
  | noSelector (found : Kind)
  | blankSelector
  | listRead (found : Kind) (subject : Subject)
  | listUnmapped (subject : Subject)
  | singleMapped (subject : Subject)
  | unread (subject : Subject) (found : Kind)
  | alreadyRead (found : Kind) (subject : Subject) (op : Op)
  | noAttributeName (found : Kind)
  | tripleAttributeName
  | blankAttributeName
  deriving DecidableEq

def ParseCause.message : ParseCause → String
  | .lexical cause => cause.message
  | .emptyRule => "Empty rule"
  | .trailing found => "Unexpected " ++ found.describe ++ " after complete rule"
  | .noDocument found => "Expected 'D' to start a selection, got " ++ found.describe
  | .noSelector found => "Expected a quoted selector, got " ++ found.describe
  | .blankSelector => "Empty selector"
  | .listRead found subject =>
    found.describe ++ " cannot read the list selection " ++ subject.describe ++
      " directly; map it with '>' first"
  | .listUnmapped subject => "List selection " ++ subject.describe ++ " must be followed by '>'"
  | .singleMapped subject =>
    "'>' needs a list selection, but " ++ subject.describe ++ " is a single node; use '''...'''"
  | .unread subject found =>
    "Expected '#' or '@' to read " ++ subject.describe ++ ", got " ++ found.describe
  | .alreadyRead found subject op =>
    "Unexpected " ++ found.describe ++ ": " ++ subject.describe ++ " has already been read by " ++
      op.render
  | .noAttributeName found => "Expected attribute name after '@', got " ++ found.describe
  | .tripleAttributeName => "Attribute name must be single-quoted"
  | .blankAttributeName => "Empty attribute name"

/-- A cause and the kinds from the blamed one on. -/
structure Fault where
  cause : ParseCause
  rest : List Kind
  deriving DecidableEq

abbrev Reply (α : Type) := Except Fault (α × List Kind)

def nextKind (kinds : List Kind) : Kind := kinds.headD .finish

def readAttribute : List Kind → Reply Op
  | .quoted ⟨.single, text⟩ :: kinds =>
    match Text.trim? text with
    | some name => .ok (.attr name, kinds)
    | none => .error ⟨.blankAttributeName, .quoted ⟨.single, text⟩ :: kinds⟩
  | .quoted ⟨.triple, text⟩ :: kinds =>
    .error ⟨.tripleAttributeName, .quoted ⟨.triple, text⟩ :: kinds⟩
  | kinds => .error ⟨.noAttributeName (nextKind kinds), kinds⟩

def readTerminal (subject : Subject) : List Kind → Reply Op
  | .hash :: kinds => .ok (.text, kinds)
  | .atSign :: kinds => readAttribute kinds
  | .arrow :: kinds => .error ⟨.singleMapped subject, .arrow :: kinds⟩
  | kinds => .error ⟨.unread subject (nextKind kinds), kinds⟩

def Kind.isOperation : Kind → Bool
  | .hash | .atSign | .arrow => true
  | _ => false

def readOnce (subject : Subject) (kinds : List Kind) : Reply Op :=
  match readTerminal subject kinds with
  | .error fault => .error fault
  | .ok (op, rest) =>
    if (nextKind rest).isOperation then
      .error ⟨.alreadyRead (nextKind rest) subject op, rest⟩
    else .ok (op, rest)

def readOps (subject : Subject) : Quote → List Kind → Reply (List Op)
  | .single, kinds =>
    match readOnce subject kinds with
    | .error fault => .error fault
    | .ok (op, rest) => .ok ([op], rest)
  | .triple, .arrow :: .quoted q :: kinds =>
    if Text.isBlankText q.text then .error ⟨.blankSelector, .quoted q :: kinds⟩
    else match readOps (.selection q) q.quote kinds with
      | .error fault => .error fault
      | .ok (ops, rest) => .ok ([.each (some q) ops], rest)
  | .triple, .arrow :: kinds =>
    match readOnce .item kinds with
    | .error fault => .error fault
    | .ok (op, rest) => .ok ([.each none [op]], rest)
  | .triple, .hash :: kinds => .error ⟨.listRead .hash subject, .hash :: kinds⟩
  | .triple, .atSign :: kinds => .error ⟨.listRead .atSign subject, .atSign :: kinds⟩
  | .triple, kinds => .error ⟨.listUnmapped subject, kinds⟩

def readSelection : List Kind → Reply Selection
  | .document :: .quoted q :: kinds =>
    if Text.isBlankText q.text then .error ⟨.blankSelector, .quoted q :: kinds⟩
    else match readOps (.selection q) q.quote kinds with
      | .error fault => .error fault
      | .ok (ops, rest) => .ok (⟨q, ops⟩, rest)
  | .document :: kinds => .error ⟨.noSelector (nextKind kinds), kinds⟩
  | kinds => .error ⟨.noDocument (nextKind kinds), kinds⟩

theorem length_of_readAttribute {kinds rest : List Kind} {op : Op}
    (h : readAttribute kinds = .ok (op, rest)) : rest.length < kinds.length := by
  unfold readAttribute at h
  split at h
  · split at h <;> simp_all
  · simp at h
  · simp at h

theorem length_of_readTerminal {subject : Subject} {kinds rest : List Kind} {op : Op}
    (h : readTerminal subject kinds = .ok (op, rest)) : rest.length < kinds.length := by
  unfold readTerminal at h
  split at h
  · simp_all
  · exact Nat.lt_succ_of_lt (length_of_readAttribute h)
  · simp at h
  · simp at h

theorem length_of_readOnce {subject : Subject} {kinds rest : List Kind} {op : Op}
    (h : readOnce subject kinds = .ok (op, rest)) : rest.length < kinds.length := by
  unfold readOnce at h
  split at h
  · simp at h
  · rename_i hr
    split at h
    · simp at h
    · obtain ⟨rfl, rfl⟩ : _ ∧ _ := by simpa using h
      exact length_of_readTerminal hr

theorem length_of_readOps {subject : Subject} {quote : Quote} {kinds rest : List Kind}
    {ops : List Op} (h : readOps subject quote kinds = .ok (ops, rest)) :
    rest.length < kinds.length := by
  fun_induction readOps subject quote kinds generalizing ops with
  | case2 subject kinds op r hr =>
    obtain ⟨_, rfl⟩ : _ ∧ r = rest := by simpa using h
    exact length_of_readOnce hr
  | case5 subject q kinds hq ops' r hr ih =>
    obtain ⟨_, rfl⟩ : _ ∧ r = rest := by simpa using h
    have := ih hr
    simp only [List.length_cons]
    omega
  | case7 subject kinds _ op r hr =>
    obtain ⟨_, rfl⟩ : _ ∧ r = rest := by simpa using h
    exact Nat.lt_succ_of_lt (length_of_readOnce hr)
  | _ => simp at h

/-- A selection is read strictly forward. -/
theorem length_of_readSelection {kinds rest : List Kind} {s : Selection}
    (h : readSelection kinds = .ok (s, rest)) : rest.length < kinds.length := by
  unfold readSelection at h
  split at h
  · split at h
    · simp at h
    · split at h
      · simp at h
      · rename_i hr
        obtain ⟨_, rfl⟩ : _ ∧ _ := by simpa using h
        have := length_of_readOps hr
        simp only [List.length_cons]
        omega
  · simp at h
  · simp at h

def readChain (kinds : List Kind) : Reply Rule :=
  match _h : readSelection kinds with
  | .error fault => .error fault
  | .ok (s, .question :: more) =>
    match readChain more with
    | .error fault => .error fault
    | .ok (second, rest) => .ok (.orElse (.select s) second, rest)
  | .ok (s, rest) => .ok (.select s, rest)
termination_by kinds.length
decreasing_by
  have := length_of_readSelection ‹_›
  simp only [List.length_cons] at this
  omega

def readAll (kinds : List Kind) : Except Fault Rule :=
  if nextKind kinds = .finish then .error ⟨.emptyRule, kinds⟩
  else match readChain kinds with
    | .error fault => .error fault
    | .ok (rule, rest) =>
      if nextKind rest = .finish then .ok rule
      else .error ⟨.trailing (nextKind rest), rest⟩

abbrev ParseError := Located ParseCause

def ParseError.message (e : ParseError) : String := e.cause.message

def ParseError.describe (e : ParseError) : String :=
  s!"Parse error at line {e.place.line}, column {e.place.column}: {e.message}"

def placeOf (tokens : List Token) (rest : List Kind) : Place :=
  match tokens.drop (tokens.length - rest.length) with
  | token :: _ => token.start
  | [] => ⟨0, 0, 0⟩

def parse (source : String) : Except ParseError Rule :=
  match tokenize source with
  | .error e => .error ⟨.lexical e.cause, e.place⟩
  | .ok tokens =>
    match readAll (tokens.map Token.kind) with
    | .ok rule => .ok rule
    | .error fault => .error ⟨fault.cause, placeOf tokens fault.rest⟩

end PageExtract.Rule
