import PageExtract.Rule.Parser
import Mathlib.Data.List.Infix

/-! # The texts behind a list of tokens

Main statement: a text is tokenized exactly if it is laid out of separators, marks and quoted texts
that hold no closing mark of their own kind. The layout says nothing about places.
-/
namespace PageExtract.Rule

/-- The texts that can be quoted: the first closing mark behind them is the one that is written. -/
def Quote.Holds : Quote → List Char → Prop
  | .single, text => '\x27' ∉ text
  | .triple, text => ¬ ['\x27', '\x27', '\x27'] <:+: text ∧ text.getLast? ≠ some '\x27'

theorem Quote.holds_nil (q : Quote) : q.Holds [] := by
  cases q <;> simp [Quote.Holds]

/-- No closing mark starts at the first character of a text that can be quoted. -/
theorem Quote.holds_cons {q : Quote} {c : Char} {text : List Char} (rest : List Char) :
    q.Holds (c :: text) ↔
      ¬ q.marks.toList <+: c :: (text ++ q.marks.toList ++ rest) ∧ q.Holds text := by
  cases q with
  | single =>
    have hc : '\x27' = c ↔ c = '\x27' := eq_comm
    simp [Quote.Holds, Quote.marks, hc]
  | triple =>
    simp only [Quote.Holds, Quote.marks, List.infix_cons_iff]
    rcases text with _ | ⟨a, _ | ⟨b, text⟩⟩
    · have hc : '\x27' = c ↔ c = '\x27' := eq_comm
      simp [hc]
    · simp
      intro _ ha _ h
      exact ha h.symm
    · simp
      exact and_assoc

theorem Quote.cut_marks (q : Quote) (cs : List Char) :
    q.cut (q.marks.toList ++ cs) = some ([], cs) := by
  cases q with
  | single => exact Quote.cut.eq_1 cs
  | triple => exact Quote.cut.eq_2 cs

theorem Quote.cut_of_not_prefix {q : Quote} {c : Char} {cs : List Char}
    (h : ¬ q.marks.toList <+: c :: cs) :
    q.cut (c :: cs) = (q.cut cs).map fun (text, rest) => (c :: text, rest) := by
  apply Quote.cut.eq_3
  · rintro rfl rfl
    exact h (by simp [Quote.marks])
  · rintro cs rfl rfl rfl
    exact h (by simp [Quote.marks])

/-- Cutting at the first closing mark leaves a text that can be quoted, and finds the mark behind
any such text. -/
theorem Quote.cut_eq_some_iff {q : Quote} {cs text rest : List Char} :
    q.cut cs = some (text, rest) ↔ q.Holds text ∧ cs = text ++ q.marks.toList ++ rest := by
  constructor
  · intro h
    induction cs generalizing text with
    | nil => simp [Quote.cut] at h
    | cons c cs ih =>
      by_cases hc : q.marks.toList <+: c :: cs
      · obtain ⟨after, hafter⟩ := hc
        rw [← hafter, Quote.cut_marks] at h
        obtain ⟨rfl, rfl⟩ : [] = text ∧ after = rest := by simpa using h
        exact ⟨q.holds_nil, hafter.symm⟩
      · rw [Quote.cut_of_not_prefix hc] at h
        obtain ⟨⟨inner, after⟩, hcut, he⟩ := Option.map_eq_some_iff.1 h
        obtain ⟨rfl, rfl⟩ : c :: inner = text ∧ after = rest := by simpa using he
        obtain ⟨hinner, rfl⟩ := ih hcut
        exact ⟨(Quote.holds_cons after).2 ⟨hc, hinner⟩, rfl⟩
  · rintro ⟨h, rfl⟩
    induction text with
    | nil => exact q.cut_marks rest
    | cons c text ih =>
      obtain ⟨hc, ht⟩ := (Quote.holds_cons rest).1 h
      simp only [List.cons_append]
      rw [Quote.cut_of_not_prefix hc, ih ht]
      rfl

def Quoted.Writable (q : Quoted) : Prop := q.quote.Holds q.text.toList

def Kind.Writable : Kind → Prop
  | .quoted q => q.Writable
  | _ => True

def Kind.written : Kind → String
  | .document => "D"
  | .quoted q => q.written
  | .hash => "#"
  | .atSign => "@"
  | .arrow => ">"
  | .question => "?"
  | .finish => ""

def isSeparator (c : Char) : Bool := c = ' ' || c = '\t' || c = '\n' || c = '\r'

/-- The texts whose tokens have the given kinds. An empty text in single quotes would open a triple
mark together with a quote behind it. -/
inductive Scans : List Char → List Kind → Prop
  | finish : Scans [] [.finish]
  | skip {c : Char} {cs : List Char} {kinds : List Kind} (hc : isSeparator c)
      (h : Scans cs kinds) : Scans (c :: cs) kinds
  | mark {c : Char} {cs : List Char} {kind : Kind} {kinds : List Kind}
      (hc : Kind.ofChar? c = some kind) (h : Scans cs kinds) : Scans (c :: cs) (kind :: kinds)
  | quoted {q : Quoted} {cs : List Char} {kinds : List Kind} (hq : q.Writable)
      (seam : q = ⟨.single, ""⟩ → cs.head? ≠ some '\x27') (h : Scans cs kinds) :
      Scans (q.written.toList ++ cs) (.quoted q :: kinds)

theorem tokensFrom_separator {c : Char} (hc : isSeparator c) (p : Place) (cs : List Char) :
    ∃ p', p'.offset = p.offset + 1 ∧ tokensFrom p (c :: cs) = tokensFrom p' cs := by
  simp only [isSeparator, Bool.or_eq_true, decide_eq_true_eq] at hc
  rcases hc with ((rfl | rfl) | rfl) | rfl
  · exact ⟨p.right, rfl, by simp [tokensFrom]⟩
  · exact ⟨p.right, rfl, by simp [tokensFrom]⟩
  · exact ⟨p.nextLine, rfl, by rw [tokensFrom]⟩
  · by_cases h : ∃ more, cs = '\n' :: more
    · obtain ⟨more, rfl⟩ := h
      exact ⟨p.right, rfl, by rw [tokensFrom, tokensFrom]⟩
    · exact ⟨p.nextLine, rfl, tokensFrom.eq_4 p cs fun more hm => h ⟨more, hm⟩⟩

theorem mem_marks_of_ofChar? {c : Char} {kind : Kind} (h : Kind.ofChar? c = some kind) :
    (c, kind) ∈ [('D', .document), ('#', .hash), ('@', .atSign), ('>', Kind.arrow),
      ('?', .question)] := by
  unfold Kind.ofChar? at h
  split at h <;> simp_all

section
variable {c : Char} {kind : Kind} (h : Kind.ofChar? c = some kind)
include h

theorem Kind.written_of_ofChar? : kind.written.toList = [c] := by
  have hm := mem_marks_of_ofChar? h
  simp only [List.mem_cons, Prod.mk.injEq, List.not_mem_nil, or_false] at hm
  rcases hm with ⟨rfl, rfl⟩ | ⟨rfl, rfl⟩ | ⟨rfl, rfl⟩ | ⟨rfl, rfl⟩ | ⟨rfl, rfl⟩ <;> rfl

theorem Kind.ne_finish_of_ofChar? : kind ≠ .finish := by
  rintro rfl
  simpa using mem_marks_of_ofChar? h

theorem Kind.ne_quoted_of_ofChar? (q : Quoted) : kind ≠ .quoted q := by
  rintro rfl
  simpa using mem_marks_of_ofChar? h

theorem Kind.writable_of_ofChar? : kind.Writable := by
  cases kind with
  | quoted q => exact absurd rfl (ne_quoted_of_ofChar? h q)
  | _ => trivial

end

theorem tokensFrom_mark {c : Char} {kind : Kind} (hc : Kind.ofChar? c = some kind) (p : Place)
    (cs : List Char) :
    tokensFrom p (c :: cs) = (tokensFrom p.right cs).map (⟨kind, p, p.offset + 1⟩ :: ·) := by
  have hm := mem_marks_of_ofChar? hc
  rw [tokensFrom.eq_7]
  · rw [if_neg, hc]
    rintro (rfl | rfl) <;> simp at hm
  all_goals (intros; subst_vars; simp at hm)

theorem Quoted.toList_written (q : Quoted) :
    q.written.toList = q.quote.marks.toList ++ q.text.toList ++ q.quote.marks.toList := by
  simp [Quoted.written, String.toList_append]

theorem Quoted.head?_written (q : Quoted) : q.written.toList.head? = some '\x27' := by
  obtain ⟨quote, text⟩ := q
  cases quote <;> simp [Quoted.toList_written, Quote.marks]

theorem Quoted.getLast?_written (q : Quoted) : q.written.toList.getLast? = some '\x27' := by
  have hmarks : q.quote.marks.toList.getLast? = some '\x27' := by
    cases q.quote <;> decide
  rw [Quoted.toList_written, List.getLast?_append, hmarks]
  rfl

theorem Quote.toList_marks_single : Quote.single.marks.toList = ['\x27'] := rfl

theorem Quote.toList_marks_triple : Quote.triple.marks.toList = ['\x27', '\x27', '\x27'] := rfl

/-- Behind the opening mark of a single quoted text the mark of a triple quoted one is not met. -/
theorem not_open_triple {text cs : List Char} (hq : Quote.single.Holds text)
    (seam : text = [] → cs.head? ≠ some '\x27') (more : List Char) :
    text ++ '\x27' :: cs ≠ '\x27' :: '\x27' :: more := by
  rcases text with _ | ⟨c, text⟩
  · rcases cs with _ | ⟨d, cs⟩
    · simp
    · intro h
      exact seam rfl (by simp_all)
  · intro h
    have hc : c = '\x27' := (List.cons.inj h).1
    exact hq (by simp [hc])

theorem tokensFrom_quoted {q : Quoted} (hq : q.Writable) (p : Place) {cs : List Char}
    (seam : q = ⟨.single, ""⟩ → cs.head? ≠ some '\x27') :
    tokensFrom p (q.written.toList ++ cs) =
      (tokensFrom (p.pastAll q.written.toList) cs).map (q.token p :: ·) := by
  obtain ⟨quote, text⟩ := q
  have hcut : quote.cut (text.toList ++ quote.marks.toList ++ cs) = some (text.toList, cs) :=
    Quote.cut_eq_some_iff.2 ⟨hq, rfl⟩
  have hw : (Quoted.mk quote text).written.toList ++ cs =
      quote.marks.toList ++ (text.toList ++ quote.marks.toList ++ cs) := by
    simp [Quoted.toList_written]
  rw [hw]
  cases quote with
  | single =>
    have hopen : ∀ more, text.toList ++ ['\x27'] ++ cs = '\x27' :: '\x27' :: more → False := by
      intro more h
      have hseam : text.toList = [] → cs.head? ≠ some '\x27' := by
        intro ht
        obtain rfl : text = "" := String.toList_eq_nil_iff.1 ht
        exact seam rfl
      exact not_open_triple hq hseam more (by simpa using h)
    rw [Quote.toList_marks_single] at hcut ⊢
    rw [List.singleton_append, tokensFrom.eq_6 p _ hopen]
    split
    · simp_all
    · rename_i heq
      obtain ⟨rfl, rfl⟩ := Prod.mk.inj (Option.some.inj (hcut.symm.trans heq))
      rw [String.ofList_toList]
  | triple =>
    rw [Quote.toList_marks_triple] at hcut ⊢
    simp only [List.cons_append, List.nil_append] at hcut ⊢
    rw [tokensFrom.eq_5]
    split
    · simp_all
    · rename_i heq
      obtain ⟨rfl, rfl⟩ := Prod.mk.inj (Option.some.inj (hcut.symm.trans heq))
      rw [String.ofList_toList]

theorem map_eq_ok_iff {ε α β : Type} {f : α → β} {r : Except ε α} {b : β} :
    r.map f = .ok b ↔ ∃ a, r = .ok a ∧ f a = b := by
  cases r <;> simp [Except.map]

theorem writable_of_cut {quote : Quote} {cs text rest : List Char}
    (h : quote.cut cs = some (text, rest)) :
    (Quoted.mk quote (String.ofList text)).Writable ∧
      quote.marks.toList ++ cs = (Quoted.mk quote (String.ofList text)).written.toList ++ rest := by
  obtain ⟨hq, rfl⟩ := Quote.cut_eq_some_iff.1 h
  refine ⟨?_, by simp [Quoted.toList_written]⟩
  rw [Quoted.Writable, String.toList_ofList]
  exact hq

/-- An empty text with a quote behind it would have opened a triple mark. -/
theorem seam_of_cut {cs text rest : List Char}
    (hopen : ∀ more, cs = '\x27' :: '\x27' :: more → False)
    (hcut : Quote.single.cut cs = some (text, rest)) :
    Quoted.mk .single (String.ofList text) = ⟨.single, ""⟩ → rest.head? ≠ some '\x27' := by
  intro hempty hrest
  obtain ⟨more, rfl⟩ := List.head?_eq_some_iff.1 hrest
  have ht : text = [] := by simpa using hempty
  obtain ⟨-, rfl⟩ := Quote.cut_eq_some_iff.1 hcut
  exact hopen more (by rw [ht]; rfl)

/-- A text is tokenized exactly if it is laid out of separators, marks and quoted texts. -/
theorem scans_iff {p : Place} {cs : List Char} {kinds : List Kind} :
    Scans cs kinds ↔ ∃ tokens, tokensFrom p cs = .ok tokens ∧ tokens.map Token.kind = kinds := by
  constructor
  · intro h
    induction h generalizing p with
    | finish => exact ⟨_, tokensFrom.eq_1 p, rfl⟩
    | skip hc _ ih =>
      obtain ⟨p', -, hp⟩ := tokensFrom_separator hc p _
      rw [hp]
      exact ih
    | mark hc _ ih =>
      obtain ⟨tokens, ht, rfl⟩ := ih (p := p.right)
      exact ⟨_, by rw [tokensFrom_mark hc, ht]; rfl, rfl⟩
    | @quoted q _ _ hq seam _ ih =>
      obtain ⟨tokens, ht, rfl⟩ := ih (p := p.pastAll q.written.toList)
      exact ⟨_, by rw [tokensFrom_quoted hq p seam, ht]; rfl, rfl⟩
  · rintro ⟨tokens, h, rfl⟩
    fun_induction tokensFrom p cs generalizing tokens with
    | case1 p =>
      cases h
      exact .finish
    | case2 p cs ih => exact .skip (by decide) (ih tokens h)
    | case3 p cs ih => exact .skip (by decide) (.skip (by decide) (ih tokens h))
    | case4 p cs _ ih => exact .skip (by decide) (ih tokens h)
    | case6 p cs text rest hcut q ih =>
      obtain ⟨more, hm, rfl⟩ := map_eq_ok_iff.1 h
      obtain ⟨hq, hw⟩ := writable_of_cut hcut
      rw [Quote.toList_marks_triple] at hw
      have hscan := Scans.quoted hq (by simp) (ih more hm)
      rwa [← hw] at hscan
    | case8 p cs hopen text rest hcut q ih =>
      obtain ⟨more, hm, rfl⟩ := map_eq_ok_iff.1 h
      obtain ⟨hq, hw⟩ := writable_of_cut hcut
      have hscan := Scans.quoted hq (seam_of_cut hopen hcut) (ih more hm)
      rwa [← hw] at hscan
    | case9 p c cs h1 h2 h3 h4 h5 hc ih =>
      refine .skip ?_ (ih tokens h)
      rcases hc with rfl | rfl <;> decide
    | case10 p c cs h1 h2 h3 h4 h5 hc kind hk ih =>
      obtain ⟨more, hm, rfl⟩ := map_eq_ok_iff.1 h
      exact .mark hk (ih more hm)
    | _ => simp at h

theorem tokenize_iff {source : String} {kinds : List Kind} :
    (∃ tokens, tokenize source = .ok tokens ∧ tokens.map Token.kind = kinds) ↔
      Scans source.toList kinds :=
  scans_iff.symm

namespace Scans

theorem finish_last {cs : List Char} {kinds : List Kind} (h : Scans cs kinds) :
    ∃ before, kinds = before ++ [.finish] ∧ .finish ∉ before := by
  induction h with
  | finish => exact ⟨[], rfl, by simp⟩
  | skip _ _ ih => exact ih
  | @mark c _ kind _ hc _ ih =>
    obtain ⟨before, rfl, hb⟩ := ih
    refine ⟨kind :: before, rfl, ?_⟩
    simp [hb, (Kind.ne_finish_of_ofChar? hc).symm]
  | @quoted q _ _ _ _ _ ih =>
    obtain ⟨before, rfl, hb⟩ := ih
    exact ⟨.quoted q :: before, rfl, by simp [hb]⟩

theorem writable {cs : List Char} {kinds : List Kind} (h : Scans cs kinds) :
    ∀ kind ∈ kinds, kind.Writable := by
  induction h with
  | finish => simp [Kind.Writable]
  | skip _ _ ih => exact ih
  | mark hc _ ih => exact List.forall_mem_cons.2 ⟨Kind.writable_of_ofChar? hc, ih⟩
  | quoted hq _ _ ih => exact List.forall_mem_cons.2 ⟨hq, ih⟩

/-- The text of any kind before a text, unless the two join. -/
theorem written {kind : Kind} {cs : List Char} {kinds : List Kind} (hw : kind.Writable)
    (hk : kind ≠ .finish) (seam : kind = .quoted ⟨.single, ""⟩ → cs.head? ≠ some '\x27')
    (h : Scans cs kinds) : Scans (kind.written.toList ++ cs) (kind :: kinds) := by
  cases kind with
  | quoted q => exact .quoted hw (fun he => seam (congrArg _ he)) h
  | finish => exact absurd rfl hk
  | document => exact .mark (c := 'D') rfl h
  | hash => exact .mark (c := '#') rfl h
  | atSign => exact .mark (c := '@') rfl h
  | arrow => exact .mark (c := '>') rfl h
  | question => exact .mark (c := '?') rfl h

end Scans

/-- Every list of kinds that can be written is that of some text: its tokens with a blank behind
each of them. -/
theorem exists_scans {kinds : List Kind} (hw : ∀ kind ∈ kinds, kind.Writable)
    (hfinish : .finish ∉ kinds) : ∃ cs, Scans cs (kinds ++ [.finish]) := by
  induction kinds with
  | nil => exact ⟨[], .finish⟩
  | cons kind kinds ih =>
    obtain ⟨hkind, hkinds⟩ := List.forall_mem_cons.1 hw
    obtain ⟨hne, hmore⟩ := not_or.1 (mt List.mem_cons.2 hfinish)
    obtain ⟨cs, hs⟩ := ih hkinds hmore
    have hblank : Scans (' ' :: cs) (kinds ++ [.finish]) := .skip rfl hs
    exact ⟨_, .written hkind (Ne.symm hne) (by simp) hblank⟩

end PageExtract.Rule
