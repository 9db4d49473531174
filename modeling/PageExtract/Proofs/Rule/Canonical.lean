import PageExtract.Proofs.Rule.WellFormed
import PageExtract.Rule.Render

/-! # The canonical text is read back

Main statement: the canonical text of a well-formed rule has the linear form of the rule as its
tokens, so parsing gives the rule again.
-/
namespace PageExtract.Rule

theorem Quoted.IsSelector.seam {q : Quoted} (h : q.IsSelector) {cs : List Char} :
    q = ⟨.single, ""⟩ → cs.head? ≠ some '\x27' := by
  rintro rfl
  exact absurd (by decide) h.1

theorem scans_terminal {op : Op} (h : op.Reads IsName) {cs : List Char} {kinds : List Kind}
    (hs : Scans cs kinds) :
    Scans ((Op.renderAll [op]).toList ++ cs) (Op.kindsAll [op] ++ kinds) := by
  cases op with
  | text => simpa [Op.renderAll, Op.render, Op.kindsAll, Op.kinds] using Scans.mark rfl hs
  | attr n =>
    obtain ⟨hne, -, hquote⟩ := h
    have hq : Scans ((Quoted.mk .single n).written.toList ++ cs) (.quoted ⟨.single, n⟩ :: kinds) :=
      .quoted hquote (fun he => absurd (Quoted.mk.inj he).2 hne) hs
    have hat := Scans.mark (c := '@') rfl hq
    simpa [Op.renderAll, Op.render, Op.kindsAll, Op.kinds, Quoted.written, Quote.marks] using hat
  | each => exact h.elim

theorem scans_chain {s : Selection} (h : s.WellFormed) {cs : List Char} {kinds : List Kind}
    (hs : Scans cs kinds) :
    Scans (s.selector.written.toList ++ ((Op.renderAll s.ops).toList ++ cs))
      (.quoted s.selector :: (Op.kindsAll s.ops ++ kinds)) := by
  induction h with
  | single hq hop => exact .quoted hq.2 hq.seam (scans_terminal hop hs)
  | nested hq _ ih =>
    have hmap := Scans.quoted hq.2 hq.seam (Scans.mark (c := '>') rfl ih)
    simpa [Op.renderAll, Op.render, Op.kindsAll, Op.kinds] using hmap
  | items hq hop =>
    have hmap := Scans.quoted hq.2 hq.seam (Scans.mark (c := '>') rfl (scans_terminal hop hs))
    simpa [Op.renderAll, Op.render, Op.kindsAll, Op.kinds] using hmap

theorem scans_selection {s : Selection} (h : s.WellFormed) {cs : List Char} {kinds : List Kind}
    (hs : Scans cs kinds) : Scans (s.render.toList ++ cs) (s.kinds ++ kinds) := by
  have hd := Scans.mark (c := 'D') rfl (scans_chain h hs)
  simpa [Selection.render, Selection.kinds] using hd

/-- The text of alternatives that are well-formed has their linear form as its tokens, whatever
their nesting. -/
theorem scans_render {rule : Rule} (h : ∀ s ∈ rule.alternatives, s.WellFormed) {cs : List Char}
    {kinds : List Kind} (hs : Scans cs kinds) :
    Scans (rule.render.toList ++ cs) (rule.kinds ++ kinds) := by
  induction rule generalizing cs kinds with
  | select s => exact scans_selection (h s (by simp)) hs
  | orElse first second ihFirst ihSecond =>
    rw [alternatives_orElse, List.forall_mem_append] at h
    obtain ⟨hfirst, hsecond⟩ := h
    have hmore := ihSecond hsecond hs
    have hmark := Scans.mark (c := '?') rfl (Scans.skip (c := ' ') rfl hmore)
    have hall := ihFirst hfirst (Scans.skip (c := ' ') rfl hmark)
    simpa [Rule.render, Rule.kinds] using hall

theorem parse_render_of_wellFormed {rule : Rule} (h : rule.WellFormed) :
    parse rule.render = .ok rule := by
  have hs : Scans (rule.render.toList ++ []) (rule.kinds ++ [.finish]) :=
    scans_render (fun s => h.of_mem) .finish
  rw [List.append_nil] at hs
  exact parse_eq_ok_iff_scans.2 ⟨rule.kinds, hs, derives_of_wellFormed h⟩

/-- The rules that can be written are those that nest to the right, with chains that fit their
selections, selectors that are not blank and hold no closing mark of theirs, and names that are
trimmed, not empty and without quotes. -/
theorem exists_parse_iff (rule : Rule) :
    (∃ source, parse source = .ok rule) ↔
      rule.RightNested ∧ ∀ s ∈ rule.alternatives,
        s.WellShaped ∧ (∀ q ∈ s.selectors, q.IsSelector) ∧ ∀ op ∈ s.readers, op.Reads IsName := by
  have hiff : rule.WellFormed ↔ rule.RightNested ∧ ∀ s ∈ rule.alternatives,
      s.WellShaped ∧ (∀ q ∈ s.selectors, q.IsSelector) ∧ ∀ op ∈ s.readers, op.Reads IsName := by
    rw [wellFormed_iff]
    simp only [Selection.WellFormed, Selection.fits_iff]
  rw [← hiff]
  constructor
  · rintro ⟨source, h⟩
    exact wellFormed_of_parse h
  · intro h
    exact ⟨rule.render, parse_render_of_wellFormed h⟩

/-- Printing a parsed rule and parsing the text again gives the same rule. -/
theorem parse_render {source : String} {rule : Rule} (h : parse source = .ok rule) :
    parse rule.render = .ok rule :=
  parse_render_of_wellFormed (wellFormed_of_parse h)

/-- Quotes that open a triple text, padding around a name and a newline before a fallback. -/
theorem parse_render_quotes_and_padding :
    ∃ rule, parse "D'''''a, ''b'''>'''p ? #'''>@' href '\n?D'> h1'#" = .ok rule ∧
      parse rule.render = .ok rule ∧
      rule.render = "D'''''a, ''b'''>'''p ? #'''>@'href' ? D'> h1'#" := by
  have h : parse "D'''''a, ''b'''>'''p ? #'''>@' href '\n?D'> h1'#" =
      .ok (.orElse
        (.select ⟨⟨.triple, "''a, ''b"⟩, [.each (some ⟨.triple, "p ? #"⟩)
          [.each none [.attr "href"]]]⟩)
        (.select ⟨⟨.single, "> h1"⟩, [.text]⟩)) := by
    decide +kernel
  exact ⟨_, h, parse_render h, by decide +kernel⟩

end PageExtract.Rule
