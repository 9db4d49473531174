import Mathlib
import PageExtract.Proofs.Evaluation.Chains
import PageExtract.Proofs.Page.Queries
import PageExtract.Proofs.Rule.WellFormed
import PageExtract.TaggedTree

/-! # One rule on two kinds of scope

A rule sees a scope only through the answers to what is written in it. Main statement: where a
relation between the nodes of two scopes is kept by the rule's own queries, and related nodes have
the same text and the same attributes of the rule's own names, the rule gives the same result on
both, failures included.
-/
namespace PageExtract

/-! ## Runs that agree -/

inductive Agree {ε α β : Type} (R : α → β → Prop) : Except ε α → Except ε β → Prop
  | error (e : ε) : Agree R (.error e) (.error e)
  | ok {a : α} {b : β} (h : R a b) : Agree R (.ok a) (.ok b)

theorem Agree.mapError {ε ε' α β : Type} {R : α → β → Prop} {x : Except ε α} {y : Except ε β}
    (h : Agree R x y) (f : ε → ε') : Agree R (x.mapError f) (y.mapError f) := by
  cases h with
  | error e => exact .error (f e)
  | ok hab => exact .ok hab

theorem Agree.of_ok {ε α β : Type} {R : α → β → Prop} {x : Except ε α} {y : Except ε β} {a : α}
    {b : β} (hx : x = .ok a) (hy : y = .ok b) (h : R a b) : Agree R x y := by
  rw [hx, hy]
  exact .ok h

theorem Agree.head? {ε α β : Type} {R : α → β → Prop} {x : Except ε (List α)}
    {y : Except ε (List β)} (h : Agree (List.Forall₂ R) x y) :
    Agree (Option.Rel R) (x.map List.head?) (y.map List.head?) := by
  cases h with
  | error e => exact .error e
  | ok hall =>
    cases hall with
    | nil => exact .ok .none
    | cons hab _ => exact .ok (.some hab)

theorem Agree.eq {ε α : Type} {x y : Except ε α} (h : Agree Eq x y) : x = y := by
  cases h with
  | error e => rfl
  | ok hab => rw [hab]

theorem Agree.refl {ε α : Type} {R : α → α → Prop} (h : ∀ a, R a a) (x : Except ε α) :
    Agree R x x := by
  cases x with
  | error e => exact .error e
  | ok a => exact .ok (h a)

variable {ν μ : Type}

/-- The same question asked of related nodes: a query for a text that is asked for, the text of a
node, or an attribute that is named. -/
inductive Call.Parallel (asked named : String → Prop) (R : ν → μ → Prop) : Call ν → Call μ → Prop
  | first {a : ν} {b : μ} {text : String} (h : R a b) (ht : asked text) :
      Parallel asked named R (.first a text) (.first b text)
  | all {a : ν} {b : μ} {text : String} (h : R a b) (ht : asked text) :
      Parallel asked named R (.all a text) (.all b text)
  | text {a : ν} {b : μ} (h : R a b) : Parallel asked named R (.text a) (.text b)
  | attr {a : ν} {b : μ} {name : String} (h : R a b) (hn : named name) :
      Parallel asked named R (.attr a name) (.attr b name)

/-- Two runs that ask the same of related nodes, one call after the other, with results that
agree. -/
structure Evaluation.Parallel {α β : Type} (asked named : String → Prop) (R : ν → μ → Prop)
    (Q : α → β → Prop) (r : Evaluation ν α) (r' : Evaluation μ β) : Prop where
  calls : List.Forall₂ (Call.Parallel asked named R) r.calls r'.calls
  result : Agree Q r.result r'.result

/-- Related nodes answer alike whatever may be asked of them. -/
structure Corresponds [Scope ν] [Scope μ] (asked named : String → Prop) (R : ν → μ → Prop) :
    Prop where
  first : ∀ {a b text}, R a b → asked text →
    Agree (Option.Rel R) (Scope.first a text) (Scope.first b text)
  all : ∀ {a b text}, R a b → asked text →
    Agree (List.Forall₂ R) (Scope.all a text) (Scope.all b text)
  text : ∀ {a b}, R a b → Scope.text a = Scope.text b
  attr : ∀ {a b name}, R a b → named name → Scope.attr a name = Scope.attr b name

namespace Evaluation.Parallel
variable {α β α' β' : Type} {asked named : String → Prop} {R : ν → μ → Prop}

theorem pure {Q : α → β → Prop} {a : α} {b : β} (h : Q a b) :
    Parallel asked named R Q (pure a : Evaluation ν α) (pure b : Evaluation μ β) :=
  ⟨.nil, .ok h⟩

theorem fail {Q : α → β → Prop} (e : EvalError) :
    Parallel asked named R Q (.fail e : Evaluation ν α) (.fail e : Evaluation μ β) :=
  ⟨.nil, .error e⟩

theorem bind {P : α → β → Prop} {Q : α' → β' → Prop} {r : Evaluation ν α} {r' : Evaluation μ β}
    {f : α → Evaluation ν α'} {f' : β → Evaluation μ β'} (h : Parallel asked named R P r r')
    (hf : ∀ a b, P a b → Parallel asked named R Q (f a) (f' b)) :
    Parallel asked named R Q (r >>= f) (r' >>= f') := by
  obtain ⟨calls, result⟩ := r
  obtain ⟨calls', result'⟩ := r'
  obtain ⟨hcalls, hresult⟩ := h
  cases hresult with
  | error e =>
    rw [Run.bind_of_error rfl, Run.bind_of_error rfl]
    exact ⟨hcalls, .error e⟩
  | ok hab =>
    rw [Run.bind_of_ok rfl, Run.bind_of_ok rfl]
    have hnext := hf _ _ hab
    exact ⟨List.rel_append hcalls hnext.calls, hnext.result⟩

theorem gather {read : ν → Evaluation ν (Option String)} {read' : μ → Evaluation μ (Option String)}
    (h : ∀ a b, R a b → Parallel asked named R Eq (read a) (read' b)) {nodes : List ν}
    {nodes' : List μ} (hn : List.Forall₂ R nodes nodes') :
    Parallel asked named R Eq (Evaluation.gather read nodes) (Evaluation.gather read' nodes') := by
  induction hn with
  | nil => exact .pure rfl
  | cons hab _ ih =>
    apply bind (h _ _ hab)
    rintro found _ rfl
    apply bind ih
    rintro rest _ rfl
    exact .pure rfl

variable [Scope ν] [Scope μ] (hR : Corresponds asked named R) {a : ν} {b : μ} (hab : R a b)
include hR hab

theorem first {text : String} (ht : asked text) :
    Parallel asked named R (Option.Rel R) (Evaluation.first a text) (Evaluation.first b text) :=
  ⟨.cons (.first hab ht) .nil, (hR.first hab ht).mapError EvalError.rejected⟩

theorem all {text : String} (ht : asked text) :
    Parallel asked named R (List.Forall₂ R) (Evaluation.all a text) (Evaluation.all b text) :=
  ⟨.cons (.all hab ht) .nil, (hR.all hab ht).mapError EvalError.rejected⟩

theorem text : Parallel asked named R Eq (Evaluation.text a) (Evaluation.text b) :=
  ⟨.cons (.text hab) .nil, .ok (hR.text hab)⟩

theorem attr {name : String} (hn : named name) :
    Parallel asked named R Eq (Evaluation.attr a name) (Evaluation.attr b name) :=
  ⟨.cons (.attr hab hn) .nil, .ok (hR.attr hab hn)⟩

theorem items {read : ν → Evaluation ν (Option String)} {read' : μ → Evaluation μ (Option String)}
    (h : ∀ a b, R a b → Parallel asked named R Eq (read a) (read' b)) {text : String}
    (ht : asked text) :
    Parallel asked named R Eq (Evaluation.items read text a) (Evaluation.items read' text b) := by
  apply bind (all hR hab ht)
  intro nodes nodes' hn
  apply bind (gather h hn)
  rintro fragments _ rfl
  exact .pure rfl

theorem read (q : Rule.Quoted) {op : Rule.Op} (hop : ∀ name, .attr name ∈ op.readers → named name) :
    Parallel asked named R Eq (op.read q a) (op.read q b) := by
  cases op with
  | text =>
    apply bind (text hR hab)
    rintro raw _ rfl
    exact .pure rfl
  | attr name =>
    apply bind (attr hR hab (hop name (by simp [Rule.Op.readers])))
    rintro raw _ rfl
    exact .pure rfl
  | each => exact .fail _

theorem readNode (q : Rule.Quoted) {ops : List Rule.Op}
    (hops : ∀ name, .attr name ∈ Rule.Op.readersAll ops → named name) :
    Parallel asked named R Eq (Rule.readNode q a ops) (Rule.readNode q b ops) := by
  rcases ops with _ | ⟨op, more⟩
  · exact .fail _
  · have hop : ∀ name, .attr name ∈ op.readers → named name := by
      intro name hn
      exact hops name (by simp [Rule.Op.readersAll, hn])
    have hread := read hR hab q hop
    rcases more with _ | ⟨next, more⟩
    · exact hread
    · exact bind hread fun _ _ _ => .fail _

end Evaluation.Parallel

/-! ## Rules -/

namespace Rule
variable [Scope ν] [Scope μ] {asked named : String → Prop} {R : ν → μ → Prop}

theorem Selection.parallel_evaluate (hR : Corresponds asked named R) {s : Selection}
    (hq : ∀ q ∈ s.selectors, asked q.text) (hop : ∀ name, .attr name ∈ s.readers → named name)
    {a : ν} {b : μ} (hab : R a b) :
    Evaluation.Parallel asked named R Eq (s.evaluate a) (s.evaluate b) := by
  induction s.shape generalizing a b with
  | single text ops =>
    rw [evaluate_single, evaluate_single]
    apply Evaluation.Parallel.bind (.first hR hab (hq ⟨.single, text⟩ (by simp [selectors])))
    rintro found found' hfound
    cases hfound with
    | none => exact .pure rfl
    | some hnode => exact .readNode hR hnode _ hop
  | @nested text s _ ih =>
    rw [selectors_nested] at hq
    rw [readers_nested] at hop
    obtain ⟨hself, hsub⟩ := List.forall_mem_cons.1 hq
    rw [evaluate_nested, evaluate_nested]
    exact .items hR hab (fun _ _ h => ih hsub hop h) hself
  | items text ops =>
    have hself := hq ⟨.triple, text⟩ (by simp [selectors])
    have hops : ∀ name, .attr name ∈ Op.readersAll ops → named name := by
      intro name hn
      exact hop name (by simpa [readers, Op.readersAll, Op.readers] using hn)
    rw [evaluate_items, evaluate_items]
    exact .items hR hab (fun _ _ h => .readNode hR h _ hops) hself
  | unmapped text h =>
    rw [evaluate_unmapped text h, evaluate_unmapped text h]
    exact .fail _

def selectorTexts (rule : Rule) : List String :=
  rule.alternatives.flatMap fun s => s.selectors.map Quoted.text

def Op.name? : Op → Option String
  | .attr name => some name
  | _ => none

def attributeNames (rule : Rule) : List String :=
  rule.alternatives.flatMap fun s => s.readers.filterMap Op.name?

theorem mem_selectorTexts {rule : Rule} {s : Selection} {q : Quoted} (hs : s ∈ rule.alternatives)
    (hq : q ∈ s.selectors) : q.text ∈ rule.selectorTexts :=
  List.mem_flatMap.2 ⟨s, hs, List.mem_map_of_mem hq⟩

theorem mem_attributeNames {rule : Rule} {s : Selection} {name : String}
    (hs : s ∈ rule.alternatives) (hop : .attr name ∈ s.readers) : name ∈ rule.attributeNames :=
  List.mem_flatMap.2 ⟨s, hs, List.mem_filterMap.2 ⟨.attr name, hop, rfl⟩⟩

theorem parallel_evaluate {rule : Rule} (hR : Corresponds asked named R)
    (hs : ∀ s ∈ rule.alternatives, (∀ q ∈ s.selectors, asked q.text) ∧
      ∀ name, .attr name ∈ s.readers → named name) {a : ν} {b : μ} (hab : R a b) :
    Evaluation.Parallel asked named R Eq (rule.evaluate a) (rule.evaluate b) := by
  induction rule with
  | select s =>
    obtain ⟨hq, hop⟩ := hs s (by simp)
    exact s.parallel_evaluate hR hq hop hab
  | orElse first second ihFirst ihSecond =>
    rw [alternatives_orElse, List.forall_mem_append] at hs
    rw [evaluate, evaluate]
    apply Evaluation.Parallel.bind (ihFirst hs.1)
    rintro found _ rfl
    cases found with
    | some value => exact .pure rfl
    | none => exact ihSecond hs.2

theorem parallel_of_corresponds (rule : Rule)
    (hR : Corresponds (· ∈ rule.selectorTexts) (· ∈ rule.attributeNames) R) {a : ν} {b : μ}
    (hab : R a b) :
    Evaluation.Parallel (· ∈ rule.selectorTexts) (· ∈ rule.attributeNames) R Eq (rule.evaluate a)
      (rule.evaluate b) := by
  refine parallel_evaluate hR ?_ hab
  intro s hs
  exact ⟨fun q => mem_selectorTexts hs, fun name => mem_attributeNames hs⟩

/-- A rule gives the same result on corresponding nodes of two scopes, and asks the same of both on
the way. -/
theorem result_eq_of_corresponds {rule : Rule}
    (hR : Corresponds (· ∈ rule.selectorTexts) (· ∈ rule.attributeNames) R) {a : ν} {b : μ}
    (hab : R a b) :
    (rule.evaluate a).result = (rule.evaluate b).result ∧
      List.Forall₂ (Call.Parallel (· ∈ rule.selectorTexts) (· ∈ rule.attributeNames) R)
        (rule.evaluate a).calls (rule.evaluate b).calls := by
  have hrun := parallel_of_corresponds rule hR hab
  exact ⟨hrun.result.eq, hrun.calls⟩

end Rule

/-! ## A tree and a page -/

def itemTree : TaggedTree :=
  .node "html" "one two" [] [.node "li" "one " [("id", " a ")] [], .node "li" "two" [] []]

/-- The same items on a page, inside an element that the tree lacks. -/
def itemPage : Page :=
  ⟨⟨"html", []⟩, [.element ⟨"ul", []⟩
    [.element ⟨"li", [("id", " a ")]⟩ [.text "one "], .element ⟨"li", []⟩ [.text "two"]]]⟩

def itemCrumbs (before after : List Node) : List Crumb :=
  [⟨⟨"ul", []⟩, before, after⟩, ⟨⟨"html", []⟩, [], []⟩]

inductive SameItem : TaggedTree → PageNode → Prop
  | all : SameItem itemTree (.page itemPage)
  | first : SameItem (.node "li" "one " [("id", " a ")] [])
      (.element ⟨⟨"li", [("id", " a ")]⟩, [.text "one "],
        itemCrumbs [] [.element ⟨"li", []⟩ [.text "two"]]⟩)
  | second : SameItem (.node "li" "two" [] [])
      (.element ⟨⟨"li", []⟩, [.text "two"],
        itemCrumbs [.element ⟨"li", [("id", " a ")]⟩ [.text "one "]] []⟩)

def itemRule : Rule :=
  .orElse (.select ⟨⟨.single, "h1"⟩, [.attr "id"]⟩)
    (.select ⟨⟨.triple, "li"⟩, [.each none [.text]]⟩)

theorem selectorTexts_itemRule : itemRule.selectorTexts = ["h1", "li"] := by decide

theorem attributeNames_itemRule : itemRule.attributeNames = ["id"] := by decide

namespace SameItem

theorem read_h1 : SelectorEngine.read "h1" = .ok [Css.Selector.compound [.name "h1"]] := by
  with_unfolding_all rfl

theorem read_li : SelectorEngine.read "li" = .ok [Css.Selector.compound [.name "li"]] := by
  with_unfolding_all rfl

theorem all_h1 {a : TaggedTree} {b : PageNode} (h : SameItem a b) :
    Scope.all a "h1" = .ok [] ∧ Scope.all b "h1" = .ok [] := by
  rw [PageNode.all_of_name read_h1]
  cases h <;>
    simp [Scope.all, TaggedTree.select, TaggedTree.nodes, TaggedTree.children, TaggedTree.tag,
      itemTree, itemPage, PageNode.candidates, Page.elements, Page.root, Element.descendants,
      Element.elementsFrom]

theorem all_li {a : TaggedTree} {b : PageNode} (h : SameItem a b) :
    Agree (List.Forall₂ SameItem) (Scope.all a "li") (Scope.all b "li") := by
  rw [PageNode.all_of_name read_li]
  cases h with
  | all =>
    have htree : Scope.all itemTree "li" =
        .ok [.node "li" "one " [("id", " a ")] [], .node "li" "two" [] []] := by
      simp [Scope.all, TaggedTree.select, TaggedTree.nodes, TaggedTree.children, TaggedTree.tag,
        itemTree]
    refine .of_ok htree ?_ (.cons .first (.cons .second .nil))
    simp [itemPage, itemCrumbs, PageNode.candidates, Page.elements, Page.root,
      Element.descendants, Element.elementsFrom]
  | first | second =>
    refine .of_ok (a := []) (b := []) ?_ ?_ .nil
    · simp [Scope.all, TaggedTree.select, TaggedTree.nodes, TaggedTree.children]
    · simp [PageNode.candidates, Element.descendants, Element.elementsFrom]

theorem corresponds :
    Corresponds (· ∈ itemRule.selectorTexts) (· ∈ itemRule.attributeNames) SameItem := by
  have hall : ∀ {a b text}, SameItem a b → text ∈ itemRule.selectorTexts →
      Agree (List.Forall₂ SameItem) (Scope.all a text) (Scope.all b text) := by
    intro a b text h ht
    obtain rfl | rfl : text = "h1" ∨ text = "li" := by
      simpa [selectorTexts_itemRule] using ht
    · exact .of_ok (all_h1 h).1 (all_h1 h).2 .nil
    · exact all_li h
  refine ⟨?_, hall, ?_, ?_⟩
  · intro a b text h ht
    rw [PageNode.first_eq_head?]
    exact (hall h ht).head?
  · rintro _ _ (_ | _ | _) <;>
      simp [Scope.text, PageNode.text, Page.root, Element.text, TaggedTree.text, itemTree,
        itemPage, Node.allText]
  · intro a b name h hn
    obtain rfl : name = "id" := by simpa [attributeNames_itemRule] using hn
    cases h <;> rfl

end SameItem

theorem result_eq_of_corresponds_items :
    SameItem itemTree (.page itemPage) ∧
      Corresponds (· ∈ itemRule.selectorTexts) (· ∈ itemRule.attributeNames) SameItem ∧
      (itemRule.evaluate (PageNode.page itemPage)).result = .ok (some "one\ntwo") := by
  have htree : (itemRule.evaluate itemTree).result = .ok (some "one\ntwo") := by cbv
  have hsame := (Rule.result_eq_of_corresponds SameItem.corresponds SameItem.all).1
  exact ⟨.all, SameItem.corresponds, hsame.symm.trans htree⟩

end PageExtract
