import PageExtract.Proofs.Rule.Scan
import PageExtract.Proofs.Text.Trim

/-! # The grammar of rules

Main statements: reading the kinds of a list of tokens accepts exactly the grammar below, with one
rule for each list, and an accepted list is the linear form of its rule but for blanks around the
names of attributes.
-/
namespace PageExtract.Rule

/-- What ends a chain: `#`, or `@` and a name in single quotes. -/
inductive Terminal : List Kind → Op → Prop
  | text : Terminal [.hash] .text
  | attr {written : String} (h : Text.trim written ≠ "") :
      Terminal [.atSign, .quoted ⟨.single, written⟩] (.attr (Text.trim written))

/-- A selector and what reads it: the item behind `>` is read in turn, or ends the chain. -/
inductive Reading : List Kind → Selection → Prop
  | single {text : String} {kinds : List Kind} {op : Op} (hq : Text.trim text ≠ "")
      (h : Terminal kinds op) :
      Reading (.quoted ⟨.single, text⟩ :: kinds) ⟨⟨.single, text⟩, [op]⟩
  | nested {text : String} {kinds : List Kind} {s : Selection} (hq : Text.trim text ≠ "")
      (h : Reading kinds s) :
      Reading (.quoted ⟨.triple, text⟩ :: .arrow :: kinds)
        ⟨⟨.triple, text⟩, [.each (some s.selector) s.ops]⟩
  | items {text : String} {kinds : List Kind} {op : Op} (hq : Text.trim text ≠ "")
      (h : Terminal kinds op) :
      Reading (.quoted ⟨.triple, text⟩ :: .arrow :: kinds) ⟨⟨.triple, text⟩, [.each none [op]]⟩

/-- A term, or a term, `?` and what follows it. -/
inductive Derives : List Kind → Rule → Prop
  | term {kinds : List Kind} {s : Selection} (h : Reading kinds s) :
      Derives (.document :: kinds) (.select s)
  | chain {kinds more : List Kind} {s : Selection} {second : Rule} (h : Reading kinds s)
      (hmore : Derives more second) :
      Derives (.document :: (kinds ++ .question :: more)) (.orElse (.select s) second)

/-! ## What is read is derived -/

theorem terminal_of_readTerminal {subject : Subject} {kinds rest : List Kind} {op : Op}
    (h : readTerminal subject kinds = .ok (op, rest)) :
    ∃ used, Terminal used op ∧ kinds = used ++ rest := by
  unfold readTerminal at h
  split at h
  · cases h
    exact ⟨_, .text, rfl⟩
  · unfold readAttribute at h
    split at h
    · split at h
      · rename_i hname
        cases h
        obtain ⟨hne, rfl⟩ := Text.trim?_eq_some_iff.1 hname
        exact ⟨_, .attr hne, rfl⟩
      · cases h
    · cases h
    · cases h
  · cases h
  · cases h

theorem terminal_of_readOnce {subject : Subject} {kinds rest : List Kind} {op : Op}
    (h : readOnce subject kinds = .ok (op, rest)) :
    ∃ used, Terminal used op ∧ kinds = used ++ rest := by
  unfold readOnce at h
  split at h
  · cases h
  · rename_i hr
    split at h
    · cases h
    · cases h
      exact terminal_of_readTerminal hr

theorem reading_of_readOps {subject : Subject} {quote : Quote} {kinds rest : List Kind}
    {ops : List Op} {text : String} (hq : Text.trim text ≠ "")
    (h : readOps subject quote kinds = .ok (ops, rest)) :
    ∃ used, Reading (.quoted ⟨quote, text⟩ :: used) ⟨⟨quote, text⟩, ops⟩ ∧
      kinds = used ++ rest := by
  fun_induction readOps subject quote kinds generalizing ops text with
  | case2 subject kinds op after hr =>
    cases h
    obtain ⟨used, hu, rfl⟩ := terminal_of_readOnce hr
    exact ⟨used, .single hq hu, rfl⟩
  | case5 subject q kinds hblank inner after hr ih =>
    cases h
    obtain ⟨used, hu, rfl⟩ := ih (mt Text.trim_eq_empty_iff.1 hblank) hr
    exact ⟨_, .nested hq hu, rfl⟩
  | case7 subject kinds _ op after hr =>
    cases h
    obtain ⟨used, hu, rfl⟩ := terminal_of_readOnce hr
    exact ⟨_, .items hq hu, rfl⟩
  | _ => cases h

theorem reading_of_readSelection {kinds rest : List Kind} {s : Selection}
    (h : readSelection kinds = .ok (s, rest)) :
    ∃ used, Reading used s ∧ kinds = .document :: (used ++ rest) := by
  unfold readSelection at h
  split at h
  · split at h
    · cases h
    · rename_i hblank
      split at h
      · cases h
      · rename_i hr
        cases h
        obtain ⟨used, hu, rfl⟩ := reading_of_readOps (mt Text.trim_eq_empty_iff.1 hblank) hr
        exact ⟨_, hu, rfl⟩
  · cases h
  · cases h

theorem derives_of_readChain {kinds rest : List Kind} {rule : Rule}
    (h : readChain kinds = .ok (rule, rest)) :
    ∃ used, Derives used rule ∧ kinds = used ++ rest := by
  fun_induction readChain kinds generalizing rule rest with
  | case3 kinds s more hs second after hr ih =>
    cases h
    obtain ⟨used, hu, rfl⟩ := reading_of_readSelection hs
    obtain ⟨tail, ht, rfl⟩ := ih hr
    exact ⟨_, .chain hu ht, by simp⟩
  | case4 kinds s after _ hs =>
    cases h
    obtain ⟨used, hu, rfl⟩ := reading_of_readSelection hs
    exact ⟨_, .term hu, rfl⟩
  | _ => cases h

/-! ## What is derived is read

A term ends where no operation follows, and a chain where no `?` follows either.
-/

theorem readTerminal_of_terminal {subject : Subject} {kinds rest : List Kind} {op : Op}
    (h : Terminal kinds op) : readTerminal subject (kinds ++ rest) = .ok (op, rest) := by
  cases h with
  | text => rfl
  | attr hname => simp [readTerminal, readAttribute, Text.trim?_of_ne hname]

theorem readOnce_of_terminal {subject : Subject} {kinds rest : List Kind} {op : Op}
    (h : Terminal kinds op) (hrest : (nextKind rest).isOperation = false) :
    readOnce subject (kinds ++ rest) = .ok (op, rest) := by
  simp [readOnce, readTerminal_of_terminal h, hrest]

theorem Terminal.head_ne_quoted {kinds : List Kind} {op : Op} (h : Terminal kinds op)
    (q : Quoted) (rest more : List Kind) : kinds ++ rest ≠ .quoted q :: more := by
  cases h <;> simp

theorem readOps_of_reading {kinds rest : List Kind} {s : Selection} (h : Reading kinds s)
    (hrest : (nextKind rest).isOperation = false) :
    ∃ used, kinds = .quoted s.selector :: used ∧ Text.isBlankText s.selector.text = false ∧
      ∀ subject, readOps subject s.selector.quote (used ++ rest) = .ok (s.ops, rest) := by
  induction h with
  | single hq ht =>
    refine ⟨_, rfl, by simpa [Text.trim_eq_empty_iff] using hq, ?_⟩
    intro subject
    rw [readOps, readOnce_of_terminal ht hrest]
  | nested hq _ ih =>
    obtain ⟨used, rfl, hblank, hops⟩ := ih
    refine ⟨_, rfl, by simpa [Text.trim_eq_empty_iff] using hq, ?_⟩
    intro subject
    simp [readOps, hblank, hops]
  | @items text kinds op hq ht =>
    -- a terminal starts with no quoted text, so the item behind `>` is read at once
    have hhead : ∀ q more, kinds ++ rest ≠ .quoted q :: more := by
      intro q more
      exact ht.head_ne_quoted q rest more
    refine ⟨_, rfl, by simpa [Text.trim_eq_empty_iff] using hq, ?_⟩
    intro subject
    rw [List.cons_append, readOps.eq_3 _ _ hhead, readOnce_of_terminal ht hrest]

theorem readSelection_of_reading {kinds rest : List Kind} {s : Selection} (h : Reading kinds s)
    (hrest : (nextKind rest).isOperation = false) :
    readSelection (.document :: (kinds ++ rest)) = .ok (s, rest) := by
  obtain ⟨used, rfl, hblank, hops⟩ := readOps_of_reading h hrest
  simp [readSelection, hblank, hops]

theorem readChain_of_select {kinds rest : List Kind} {s : Selection}
    (h : readSelection kinds = .ok (s, rest)) (hmore : nextKind rest ≠ .question) :
    readChain kinds = .ok (.select s, rest) := by
  rw [readChain]
  split
  · simp_all
  · rename_i heq
    obtain ⟨rfl, rfl⟩ := Prod.mk.inj (Except.ok.inj (h.symm.trans heq))
    exact absurd rfl hmore
  · simp_all

theorem readChain_of_question {kinds more rest : List Kind} {s : Selection} {second : Rule}
    (h : readSelection kinds = .ok (s, .question :: more))
    (hmore : readChain more = .ok (second, rest)) :
    readChain kinds = .ok (.orElse (.select s) second, rest) := by
  rw [readChain]
  split
  · simp_all
  · simp_all
  · simp_all

theorem readChain_of_derives {kinds rest : List Kind} {rule : Rule} (h : Derives kinds rule)
    (hop : (nextKind rest).isOperation = false) (hmore : nextKind rest ≠ .question) :
    readChain (kinds ++ rest) = .ok (rule, rest) := by
  induction h with
  | term h => exact readChain_of_select (readSelection_of_reading h hop) hmore
  | @chain kinds more _ _ h _ ih =>
    have hs : readSelection (.document :: (kinds ++ .question :: (more ++ rest))) =
        .ok (_, .question :: (more ++ rest)) := readSelection_of_reading h rfl
    rw [List.cons_append, List.append_assoc]
    exact readChain_of_question hs ih

/-! ## A whole rule -/

theorem Terminal.finish_not_mem {kinds : List Kind} {op : Op} (h : Terminal kinds op) :
    .finish ∉ kinds := by
  cases h <;> simp

theorem Reading.finish_not_mem {kinds : List Kind} {s : Selection} (h : Reading kinds s) :
    .finish ∉ kinds := by
  induction h with
  | single _ ht => simp [ht.finish_not_mem]
  | nested _ _ ih => simp [ih]
  | items _ ht => simp [ht.finish_not_mem]

theorem Derives.finish_not_mem {kinds : List Kind} {rule : Rule} (h : Derives kinds rule) :
    .finish ∉ kinds := by
  induction h with
  | term h => simp [h.finish_not_mem]
  | chain h _ ih => simp [h.finish_not_mem, ih]

theorem readAll_of_derives {kinds : List Kind} {rule : Rule} (h : Derives kinds rule) :
    readAll (kinds ++ [.finish]) = .ok rule := by
  have hr : readChain (kinds ++ [.finish]) = .ok (rule, [.finish]) :=
    readChain_of_derives h rfl (by simp [nextKind])
  have hne : nextKind (kinds ++ [.finish]) ≠ .finish := by
    cases h <;> simp [nextKind]
  rw [readAll, if_neg hne, hr]
  rfl

/-- Reading accepts what the grammar derives: nothing behind the rule is left over. -/
theorem readAll_eq_ok_iff {kinds : List Kind} {rule : Rule} (hk : .finish ∉ kinds) :
    readAll (kinds ++ [.finish]) = .ok rule ↔ Derives kinds rule := by
  refine ⟨?_, readAll_of_derives⟩
  intro h
  unfold readAll at h
  split at h
  · cases h
  · split at h
    · cases h
    · rename_i rule' rest hr
      split at h
      · rename_i hrest
        cases h
        obtain ⟨used, hu, he⟩ := derives_of_readChain hr
        have hfinish := hu.finish_not_mem
        rcases rest with _ | ⟨kind, rest⟩
        · rw [List.append_nil] at he
          have hmem : .finish ∈ used := by
            rw [← he]
            simp
          exact absurd hmem hfinish
        · obtain rfl : kind = .finish := hrest
          -- what is read stops at the first `finish`, which is the only one
          obtain ⟨rfl, -⟩ := (List.append_cons_inj_of_notMem hk (by simp)).1 he
          exact hu
      · cases h

/-- No list of kinds derives two rules. -/
theorem Derives.unique {kinds : List Kind} {first second : Rule} (h : Derives kinds first)
    (h' : Derives kinds second) : first = second :=
  Except.ok.inj ((readAll_of_derives h).symm.trans (readAll_of_derives h'))

theorem parse_eq_ok_iff_readAll {source : String} {rule : Rule} :
    parse source = .ok rule ↔
      ∃ tokens, tokenize source = .ok tokens ∧ readAll (tokens.map Token.kind) = .ok rule := by
  unfold parse
  cases h : tokenize source with
  | error e => simp
  | ok tokens =>
    cases hr : readAll (tokens.map Token.kind) <;> simp [hr]

/-- A text is read as a rule if its tokens derive it. -/
theorem parse_eq_ok_iff_scans {source : String} {rule : Rule} :
    parse source = .ok rule ↔
      ∃ kinds, Scans source.toList (kinds ++ [.finish]) ∧ Derives kinds rule := by
  rw [parse_eq_ok_iff_readAll]
  constructor
  · rintro ⟨tokens, ht, hr⟩
    have hs := tokenize_iff.1 ⟨tokens, ht, rfl⟩
    obtain ⟨kinds, hkinds, hfinish⟩ := hs.finish_last
    rw [hkinds] at hs hr
    exact ⟨kinds, hs, (readAll_eq_ok_iff hfinish).1 hr⟩
  · rintro ⟨kinds, hs, hd⟩
    obtain ⟨tokens, ht, hkinds⟩ := tokenize_iff.2 hs
    exact ⟨tokens, ht, hkinds ▸ readAll_of_derives hd⟩

/-! ## The linear form of a rule -/

mutual

def Op.kinds : Op → List Kind
  | .text => [.hash]
  | .attr name => [.atSign, .quoted ⟨.single, name⟩]
  | .each none ops => .arrow :: Op.kindsAll ops
  | .each (some sub) ops => .arrow :: .quoted sub :: Op.kindsAll ops

def Op.kindsAll : List Op → List Kind
  | [] => []
  | op :: ops => op.kinds ++ Op.kindsAll ops

end

def Selection.kinds (s : Selection) : List Kind :=
  .document :: .quoted s.selector :: Op.kindsAll s.ops

/-- Operations in order, and `?` between alternatives, which nest to the right. -/
def kinds : Rule → List Kind
  | select s => s.kinds
  | orElse first second => first.kinds ++ .question :: second.kinds

def trimNames : List Kind → List Kind
  | .atSign :: .quoted q :: kinds =>
    .atSign :: .quoted ⟨q.quote, Text.trim q.text⟩ :: trimNames kinds
  | kind :: kinds => kind :: trimNames kinds
  | [] => []

/-- Only a quoted text is changed by what stands before it. -/
theorem trimNames_append {kind : Kind} (hk : ∀ q, kind ≠ .quoted q) (before after : List Kind) :
    trimNames (before ++ kind :: after) = trimNames before ++ trimNames (kind :: after) := by
  fun_induction trimNames before with
  | case1 q kinds ih => simp [trimNames, ih]
  | case2 k kinds h ih =>
    rw [List.cons_append, trimNames.eq_2, ih]
    · rfl
    · intro q more hk' he
      rcases kinds with _ | ⟨next, kinds⟩
      · exact hk q (List.cons.inj he).1
      · exact h q kinds hk' (by rw [(List.cons.inj he).1])
  | case3 => rfl

theorem trimNames_of_terminal {kinds : List Kind} {op : Op} (h : Terminal kinds op) :
    trimNames kinds = op.kinds := by
  cases h <;> simp [trimNames, Op.kinds]

theorem trimNames_of_reading {kinds : List Kind} {s : Selection} (h : Reading kinds s) :
    trimNames kinds = .quoted s.selector :: Op.kindsAll s.ops := by
  induction h with
  | single _ ht => simp [trimNames, Op.kindsAll, trimNames_of_terminal ht]
  | nested _ _ ih => simp [trimNames, Op.kindsAll, Op.kinds, ih]
  | items _ ht => simp [trimNames, Op.kindsAll, Op.kinds, trimNames_of_terminal ht]

theorem trimNames_of_derives {kinds : List Kind} {rule : Rule} (h : Derives kinds rule) :
    trimNames kinds = rule.kinds := by
  induction h with
  | term h => simp [trimNames, trimNames_of_reading h, Rule.kinds, Selection.kinds]
  | chain h _ ih =>
    simp [trimNames, trimNames_append, trimNames_of_reading h, Rule.kinds, Selection.kinds, ih]

/-- A source is read as a rule exactly if its tokens derive the rule, which is then the only one
they derive. No token is lost: the linear form of the rule is the tokens but for the blanks around
names. -/
theorem parse_iff_derives (source : String) (rule : Rule) :
    (parse source = .ok rule ↔
      ∃ tokens kinds, tokenize source = .ok tokens ∧
        tokens.map Token.kind = kinds ++ [.finish] ∧ Derives kinds rule) ∧
    (∀ kinds other, Derives kinds rule → Derives kinds other → other = rule) ∧
    (parse source = .ok rule →
      ∃ tokens, tokenize source = .ok tokens ∧
        trimNames (tokens.map Token.kind) = rule.kinds ++ [.finish]) := by
  have hiff : parse source = .ok rule ↔ ∃ tokens kinds, tokenize source = .ok tokens ∧
      tokens.map Token.kind = kinds ++ [.finish] ∧ Derives kinds rule := by
    rw [parse_eq_ok_iff_scans]
    constructor
    · rintro ⟨kinds, hs, hd⟩
      obtain ⟨tokens, ht, hkinds⟩ := tokenize_iff.2 hs
      exact ⟨tokens, kinds, ht, hkinds, hd⟩
    · rintro ⟨tokens, kinds, ht, hkinds, hd⟩
      exact ⟨kinds, tokenize_iff.1 ⟨tokens, ht, hkinds⟩, hd⟩
  refine ⟨hiff, ?_, ?_⟩
  · intro kinds other h h'
    exact h'.unique h
  · intro h
    obtain ⟨tokens, kinds, ht, hkinds, hd⟩ := hiff.1 h
    refine ⟨tokens, ht, ?_⟩
    rw [hkinds, trimNames_append (by simp), trimNames_of_derives hd]
    rfl

end PageExtract.Rule
