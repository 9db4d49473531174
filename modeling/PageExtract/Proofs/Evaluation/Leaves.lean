import PageExtract.Proofs.Evaluation.Faults
import PageExtract.TaggedTree

/-! # The flat meaning of nested lists

A chain is a path of selectors and the operation at its end. The path leads to a flat list of nodes,
and the operation reads a text from each of them. Main statement: where no query is rejected, a
selection finds these texts, joined once, however deep its lists nest.
-/
namespace PageExtract

/-! ## Joining what was joined before -/

@[simp] theorem fragments?_nil : fragments? [] = none := rfl

theorem fragments?_of_ne_nil {fragments : List String} (h : fragments ≠ []) :
    fragments? fragments = some (String.intercalate "\n" fragments) := by
  simp [fragments?, h]

theorem fragments?_append (first second : List String) :
    fragments? (first ++ second) =
      Option.merge (fun s t => s ++ "\n" ++ t) (fragments? first) (fragments? second) := by
  by_cases hf : first = []
  · simp [hf]
  · by_cases hs : second = []
    · simp [hs]
    · have hall : first ++ second ≠ [] := by simp [hf]
      rw [fragments?_of_ne_nil hf, fragments?_of_ne_nil hs, fragments?_of_ne_nil hall,
        String.intercalate_append_of_ne_nil hf hs]
      rfl

theorem fragments?_toList (found : Option String) : fragments? found.toList = found := by
  cases found <;> simp [fragments?]

/-- What was joined before counts as one fragment, and leaves no trace if it was empty. -/
theorem fragments?_flatMap {α : Type} (f : α → List String) (items : List α) :
    fragments? (items.flatMap fun a => (fragments? (f a)).toList) =
      fragments? (items.flatMap f) := by
  induction items with
  | nil => rfl
  | cons a items ih =>
    rw [List.flatMap_cons, List.flatMap_cons, fragments?_append, fragments?_append,
      fragments?_toList, ih]

/-! ## Paths and leaves -/

namespace Rule
variable {ν : Type} [Scope ν]

/-- The nodes that a selector stands for below a node, in document order: the first match or none,
or all matches. -/
def Quoted.picks : Quoted → ν → List ν
  | ⟨.single, text⟩, node =>
    match Scope.first node text with
    | .ok found => found.toList
    | .error _ => []
  | ⟨.triple, text⟩, node =>
    match Scope.all node text with
    | .ok found => found
    | .error _ => []

def expand (selectors : List Quoted) (nodes : List ν) : List ν :=
  selectors.foldl (fun nodes q => nodes.flatMap q.picks) nodes

def Op.raw? : Op → ν → Option String
  | .text, node => some (Scope.text node)
  | .attr name, node => Scope.attr node name
  | .each _ _, _ => none

/-- What an operation finds on a node: nothing, where only blanks are left. -/
def Op.value? (op : Op) (node : ν) : Option String := (op.raw? node).bind Text.trim?

/-- The values at the end of the path of a selection, in order. -/
def Selection.leaves (s : Selection) (scope : ν) : List String :=
  (expand s.selectors [scope]).flatMap fun node => s.readers.filterMap fun op => op.value? node

theorem expand_flatMap (selectors : List Quoted) (f : ν → List ν) (nodes : List ν) :
    expand selectors (nodes.flatMap f) = nodes.flatMap fun node => expand selectors (f node) := by
  induction selectors generalizing f with
  | nil => rfl
  | cons q selectors ih =>
    have hq : (nodes.flatMap f).flatMap q.picks =
        nodes.flatMap fun node => (f node).flatMap q.picks := List.flatMap_assoc
    show expand selectors ((nodes.flatMap f).flatMap q.picks) = _
    rw [hq, ih]
    rfl

theorem expand_cons (q : Quoted) (selectors : List Quoted) (scope : ν) :
    expand (q :: selectors) [scope] =
      (q.picks scope).flatMap fun node => expand selectors [node] := by
  rw [← expand_flatMap, List.flatMap_singleton']
  show expand selectors ([scope].flatMap q.picks) = _
  rw [List.flatMap_singleton]

theorem expand_singleton (q : Quoted) (scope : ν) : expand [q] [scope] = q.picks scope := by
  rw [expand_cons]
  exact List.flatMap_singleton' _

theorem leaves_nested (q : Quoted) (s : Selection) (scope : ν) :
    Selection.leaves ⟨q, [.each (some s.selector) s.ops]⟩ scope =
      (q.picks scope).flatMap s.leaves := by
  rw [Selection.leaves, Selection.selectors_nested, Selection.readers_nested, expand_cons,
    List.flatMap_assoc]
  rfl

theorem leaves_of_readers {s : Selection} {q : Quoted} {op : Op} (hq : s.selectors = [q])
    (hop : s.readers = [op]) (scope : ν) :
    s.leaves scope = (q.picks scope).flatMap fun node => (op.value? node).toList := by
  rw [Selection.leaves, hq, hop, expand_singleton]
  apply List.flatMap_congr
  intro node _
  rw [List.filterMap_eq_flatMap_toList, List.flatMap_singleton]

/-! ## What is found is what the leaves join to -/

/-- A run that gives a result for a node finds the values of the node, joined. -/
def Finds (read : ν → Evaluation ν (Option String)) (values : ν → List String) : Prop :=
  ∀ ⦃node found⦄, (read node).result = .ok found → found = fragments? (values node)

omit [Scope ν] in
theorem gather_eq_ok {read : ν → Evaluation ν (Option String)} {values : ν → List String}
    (h : Finds read values) {nodes : List ν} {fragments : List String}
    (hg : (Evaluation.gather read nodes).result = .ok fragments) :
    fragments = nodes.flatMap fun node => (fragments? (values node)).toList := by
  induction nodes generalizing fragments with
  | nil =>
    obtain rfl : [] = fragments := Except.ok.inj hg
    rfl
  | cons node nodes ih =>
    rw [Evaluation.gather] at hg
    obtain ⟨found, hfound, hmore⟩ := Run.result_bind_eq_ok_iff.1 hg
    obtain ⟨rest, hrest, hall⟩ := Run.result_bind_eq_ok_iff.1 hmore
    obtain rfl : found.toList ++ rest = fragments := Except.ok.inj hall
    rw [h hfound, ih hrest, List.flatMap_cons]

omit [Scope ν] in
theorem answer_of_call {α : Type} {c : Call ν} {answer : Except Rejection α} {a : α}
    (h : (Run.call c (answer.mapError EvalError.rejected)).result = .ok a) : answer = .ok a := by
  cases answer with
  | error r => simp [Run.call, Except.mapError] at h
  | ok b =>
    obtain rfl : b = a := Except.ok.inj h
    rfl

theorem picks_single {node : ν} {text : String} {found : Option ν}
    (h : (Evaluation.first node text).result = .ok found) :
    (Quoted.mk .single text).picks node = found.toList := by
  have hq : Scope.first node text = .ok found := answer_of_call h
  simp [Quoted.picks, hq]

theorem picks_triple {node : ν} {text : String} {found : List ν}
    (h : (Evaluation.all node text).result = .ok found) :
    (Quoted.mk .triple text).picks node = found := by
  have hq : Scope.all node text = .ok found := answer_of_call h
  simp [Quoted.picks, hq]

theorem finds_value {op : Op} (h : op.Reads fun _ => True) (q : Quoted) :
    Finds (fun node : ν => op.read q node) fun node => (op.value? node).toList := by
  intro node found hread
  cases op with
  | text =>
    obtain rfl : Text.trim? (Scope.text node) = found := Except.ok.inj hread
    exact (fragments?_toList _).symm
  | attr name =>
    obtain rfl : (Scope.attr node name).bind Text.trim? = found := Except.ok.inj hread
    exact (fragments?_toList _).symm
  | each => exact h.elim

/-- The values of the items of a list, joined. Where an item is a list of its own, its values were
joined before. -/
theorem Finds.items {read : ν → Evaluation ν (Option String)} {values : ν → List String}
    (h : Finds read values) (text : String) {scope : ν} {found : Option String}
    (hrun : (Evaluation.items read text scope).result = .ok found) :
    found = fragments? (((Quoted.mk .triple text).picks scope).flatMap values) := by
  obtain ⟨nodes, hnodes, hmore⟩ := Run.result_bind_eq_ok_iff.1 hrun
  obtain ⟨fragments, hfragments, hjoin⟩ := Run.result_bind_eq_ok_iff.1 hmore
  obtain rfl : fragments? fragments = found := Except.ok.inj hjoin
  rw [gather_eq_ok h hfragments, picks_triple hnodes, fragments?_flatMap]

theorem finds_leaves {s : Selection} (hs : s.WellShaped) :
    Finds s.evaluate (s.leaves : ν → List String) := by
  induction hs with
  | @single text op _ hop =>
    intro scope found hrun
    rw [leaves_of_readers (Selection.selectors_single hop _) (Selection.readers_single hop _)]
    rw [evaluate_single] at hrun
    obtain ⟨answer, hanswer, hread⟩ := Run.result_bind_eq_ok_iff.1 hrun
    rw [picks_single hanswer]
    cases answer with
    | none =>
      obtain rfl : none = found := Except.ok.inj hread
      rfl
    | some node =>
      have hvalue := finds_value hop ⟨.single, text⟩ hread
      rw [Option.toList_some, List.flatMap_singleton]
      exact hvalue
  | @nested text s _ _ ih =>
    intro scope found hrun
    rw [evaluate_nested] at hrun
    rw [leaves_nested]
    exact ih.items text hrun
  | @items text op _ hop =>
    intro scope found hrun
    rw [evaluate_items] at hrun
    rw [leaves_of_readers (Selection.selectors_items hop _) (Selection.readers_items hop _)]
    exact (finds_value hop ⟨.triple, text⟩).items text hrun

theorem result_of_no_rejection {s : Selection} (hs : s.WellShaped) {scope : ν}
    (hcalls : ∀ c ∈ (s.evaluate scope).calls, c.rejection? = none) :
    ∃ found, (s.evaluate scope).result = .ok found := by
  have hbehaved := Evaluation.closed_wellBehaved.evaluate_selection hs scope
  rcases hbehaved.ok_or_rejected with hfound | ⟨fault, hr⟩
  · exact hfound
  · have hfaithful := Evaluation.closed_faithful.evaluate_selection hs scope
    obtain ⟨before, last, hsplit, -, hlast⟩ := hfaithful.rejected_iff.1 hr
    have hnone := hcalls last (by simp [hsplit])
    simp [hnone] at hlast

theorem clean_of_mem_leaves {s : Selection} {scope : ν} {value : String}
    (h : value ∈ s.leaves scope) : value ≠ "" ∧ Text.trim value = value := by
  obtain ⟨node, -, hnode⟩ := List.mem_flatMap.1 h
  obtain ⟨op, -, hop⟩ := List.mem_filterMap.1 hnode
  obtain ⟨raw, -, htrim⟩ := Option.bind_eq_some_iff.1 hop
  have hclean := Text.clean_of_trim? htrim
  exact ⟨hclean.ne_empty, hclean.trim_eq⟩

/-- Where no query is rejected, a selection finds its leaves, joined by line feeds: none is lost,
doubled or moved, however deep the lists nest, and lists without leaves add nothing. -/
theorem evaluate_eq_join_leaves {s : Selection} (hs : s.WellShaped) {scope : ν}
    (hcalls : ∀ c ∈ (s.evaluate scope).calls, c.rejection? = none) :
    (s.leaves scope ≠ [] →
      (s.evaluate scope).result = .ok (some (String.intercalate "\n" (s.leaves scope)))) ∧
    ((s.evaluate scope).result = .ok none ↔ s.leaves scope = []) ∧
    ∀ value ∈ s.leaves scope, value ≠ "" ∧ Text.trim value = value := by
  obtain ⟨found, hfound⟩ := result_of_no_rejection hs hcalls
  have hjoin : found = fragments? (s.leaves scope) := finds_leaves hs hfound
  refine ⟨?_, ?_, fun value => clean_of_mem_leaves⟩
  · intro hne
    rw [hfound, hjoin, fragments?_of_ne_nil hne]
  · rw [hfound, hjoin]
    simp [fragments?]

def sections : TaggedTree :=
  .node "page" "" []
    [.node "section" "" [] [.node "p" "a" [] [], .node "p" "b" [] []],
      .node "section" "" [] [],
      .node "section" "" [] [.node "p" " " [] [], .node "p" " c " [] []]]

def paragraphs : Selection :=
  ⟨⟨.triple, "section"⟩, [.each (some ⟨.triple, "p"⟩) [.each none [.text]]]⟩

theorem evaluate_join_leaves_sections :
    paragraphs.WellShaped ∧ (∀ c ∈ (paragraphs.evaluate sections).calls, c.rejection? = none) ∧
      (paragraphs.evaluate sections).result = .ok (some "a\nb\nc") := by
  have hitems : Selection.WellShaped ⟨⟨.triple, "p"⟩, [.each none [.text]]⟩ :=
    .items trivial trivial
  have hs : paragraphs.WellShaped := .nested trivial hitems
  have hbind {α β : Type} (calls : List (Call TaggedTree)) (a : α)
      (f : α → Evaluation TaggedTree β) :
      (⟨calls, .ok a⟩ >>= f : Evaluation TaggedTree β) =
        ⟨calls ++ (f a).calls, (f a).result⟩ := Run.bind_of_ok rfl f
  have hcalls : ∀ c ∈ (paragraphs.evaluate sections).calls, c.rejection? = none := by
    simp [-bind_pure_comp, paragraphs, sections, hbind, Selection.evaluate, evaluateSelection,
      evaluateItems, Evaluation.all, Scope.all, TaggedTree.select, TaggedTree.nodes,
      TaggedTree.children, TaggedTree.tag, Run.call, Except.mapError, Evaluation.gather,
      Evaluation.text, readNode, Op.read, Call.rejection?, rejectionOf]
  have ha : Text.trim? "a" = some "a" := by decide +kernel
  have hb : Text.trim? "b" = some "b" := by decide +kernel
  have hblank : Text.trim? " " = none := by decide +kernel
  have hc : Text.trim? " c " = some "c" := by decide +kernel
  have hleaves : paragraphs.leaves sections = ["a", "b", "c"] := by
    simp [paragraphs, sections, Selection.leaves, Selection.selectors, Op.selectorsAll,
      Op.selectors, expand, Selection.readers, Op.readersAll, Op.readers, Quoted.picks, Scope.all,
      TaggedTree.select, TaggedTree.nodes, TaggedTree.children, TaggedTree.tag, Op.value?, Op.raw?,
      Scope.text, TaggedTree.text, ha, hb, hblank, hc]
  have hjoin := (evaluate_eq_join_leaves hs hcalls).1 (by simp [hleaves])
  rw [hleaves] at hjoin
  exact ⟨hs, hcalls, hjoin⟩

end Rule

end PageExtract
