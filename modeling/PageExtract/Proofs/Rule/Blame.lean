import PageExtract.Proofs.Rule.Grammar

/-! # The token that a parse error is blamed on

A failure is blamed on the first kind that spoils the list of kinds: those before it can be
completed to what is read, and whatever stands behind it, the failure is the same. Main statement:
a parse error stands at the first token such that no rule begins with the tokens up to it.
-/
namespace PageExtract.Rule

/-- Kinds that can be completed to the language by kinds that can be written. -/
def Opens (language : List Kind → Prop) (used : List Kind) : Prop :=
  ∃ tail, (∀ kind ∈ tail, kind.Writable) ∧ language (used ++ tail)

theorem Opens.of_complete {language : List Kind → Prop} {used : List Kind} (h : language used) :
    Opens language used :=
  ⟨[], by simp, by simpa using h⟩

/-- The kinds before the blamed one open the language, and reading fails in the same way whatever
stands behind the blamed one. -/
def Blamed {α : Type} (read : List Kind → Except Fault α) (language : List Kind → Prop)
    (kinds : List Kind) (fault : Fault) : Prop :=
  ∃ used, kinds = used ++ fault.rest ∧ Opens language used ∧
    ∀ kind rest, fault.rest = kind :: rest →
      ∀ more, read (used ++ kind :: more) = .error ⟨fault.cause, kind :: more⟩

theorem Blamed.of_cons {α : Type} {read : List Kind → Except Fault α}
    {language : List Kind → Prop} (used : List Kind) {kind : Kind} {rest : List Kind}
    {cause : ParseCause} (hopens : Opens language used)
    (hread : ∀ more, read (used ++ kind :: more) = .error ⟨cause, kind :: more⟩) :
    Blamed read language (used ++ kind :: rest) ⟨cause, kind :: rest⟩ := by
  refine ⟨used, rfl, hopens, ?_⟩
  intro kind' rest' hrest more
  obtain ⟨rfl, -⟩ := List.cons.inj hrest
  exact hread more

/-- A reader that starts with another one fails where that one does. -/
theorem Blamed.lift {α β : Type} {read : List Kind → Except Fault α}
    {read' : List Kind → Except Fault β} {language language' : List Kind → Prop}
    {kinds : List Kind} {fault : Fault} (h : Blamed read language kinds fault)
    (before : List Kind) (hl : ∀ ks, language ks → language' (before ++ ks))
    (hread : ∀ ks fault, nextKind ks = nextKind kinds → read ks = .error fault →
      read' (before ++ ks) = .error fault) :
    Blamed read' language' (before ++ kinds) fault := by
  obtain ⟨used, hsplit, ⟨tail, htail, hopen⟩, hsame⟩ := h
  refine ⟨before ++ used, ?_, ⟨tail, htail, ?_⟩, ?_⟩
  · rw [hsplit, List.append_assoc]
  · rw [List.append_assoc]
    exact hl _ hopen
  · intro kind rest hrest more
    have hnext : nextKind (used ++ kind :: more) = nextKind kinds := by
      rw [hsplit, hrest]
      cases used <;> rfl
    rw [List.append_assoc]
    exact hread _ _ hnext (hsame kind rest hrest more)

/-! ## The readers -/

theorem writable_quoted_a : (Kind.quoted ⟨.single, "a"⟩).Writable := by
  simp [Kind.Writable, Quoted.Writable, Quote.Holds]

theorem trim_a : Text.trim "a" ≠ "" := by decide

def Ends (before kinds : List Kind) : Prop := ∃ op, Terminal (before ++ kinds) op

theorem opens_terminal : Opens (Ends []) [] :=
  ⟨[.hash], by simp [Kind.Writable], .text, .text⟩

theorem opens_name : Opens (Ends [.atSign]) [] :=
  ⟨[.quoted ⟨.single, "a"⟩], by simpa using writable_quoted_a, _, .attr trim_a⟩

theorem blamed_readAttribute {kinds : List Kind} {fault : Fault}
    (h : readAttribute kinds = .error fault) :
    Blamed readAttribute (Ends [.atSign]) kinds fault := by
  unfold readAttribute at h
  split at h
  · split at h
    · cases h
    · rename_i hblank
      cases h
      exact .of_cons [] opens_name fun more => by simp [readAttribute, hblank]
  · cases h
    exact .of_cons [] opens_name fun _ => rfl
  · rename_i hsingle htriple
    cases h
    refine ⟨[], rfl, opens_name, ?_⟩
    rintro kind rest rfl more
    cases kind with
    | quoted q =>
      obtain ⟨quote, text⟩ := q
      cases quote with
      | single => exact absurd rfl (hsingle text rest)
      | triple => exact absurd rfl (htriple text rest)
    | _ => rfl

theorem blamed_readTerminal {subject : Subject} {kinds : List Kind} {fault : Fault}
    (h : readTerminal subject kinds = .error fault) :
    Blamed (readTerminal subject) (Ends []) kinds fault := by
  unfold readTerminal at h
  split at h
  · cases h
  · exact (blamed_readAttribute h).lift [.atSign] (fun _ hks => hks) fun _ _ _ hks => hks
  · cases h
    exact .of_cons [] opens_terminal fun _ => rfl
  · rename_i hhash hat harrow
    cases h
    refine ⟨[], rfl, opens_terminal, ?_⟩
    rintro kind rest rfl more
    cases kind with
    | hash => exact absurd rfl (hhash rest)
    | atSign => exact absurd rfl (hat rest)
    | arrow => exact absurd rfl (harrow rest)
    | _ => rfl

theorem blamed_readOnce {subject : Subject} {kinds : List Kind} {fault : Fault}
    (h : readOnce subject kinds = .error fault) :
    Blamed (readOnce subject) (Ends []) kinds fault := by
  unfold readOnce at h
  split at h
  · rename_i hr
    cases h
    refine (blamed_readTerminal hr).lift [] (fun _ hks => hks) ?_
    intro ks fault _ hks
    simp [readOnce, hks]
  · rename_i op rest hr
    split at h
    · rename_i hop
      cases h
      -- the chain is complete, and the blamed kind is an operation behind it
      obtain ⟨used, hu, rfl⟩ := terminal_of_readTerminal hr
      refine ⟨used, rfl, .of_complete ⟨op, hu⟩, ?_⟩
      rintro kind rest rfl more
      have hkind : kind.isOperation = true := hop
      simp [readOnce, readTerminal_of_terminal hu, nextKind, hkind]
    · cases h

def ReadsOn (q : Quoted) (kinds : List Kind) : Prop := ∃ ops, Reading (.quoted q :: kinds) ⟨q, ops⟩

theorem opens_readsOn_items {text : String} (hq : Text.trim text ≠ "") :
    Opens (ReadsOn ⟨.triple, text⟩) [.arrow] :=
  ⟨[.hash], by simp [Kind.Writable], _, .items hq .text⟩

theorem opens_readsOn_list {text : String} (hq : Text.trim text ≠ "") :
    Opens (ReadsOn ⟨.triple, text⟩) [] :=
  ⟨[.arrow, .hash], by simp [Kind.Writable], _, .items hq .text⟩

theorem blamed_readOps {subject : Subject} {quote : Quote} {kinds : List Kind} {fault : Fault}
    {text : String} (hq : Text.trim text ≠ "") (h : readOps subject quote kinds = .error fault) :
    Blamed (readOps subject quote) (ReadsOn ⟨quote, text⟩) kinds fault := by
  fun_induction readOps subject quote kinds generalizing text with
  | case1 subject kinds fault' hr =>
    cases h
    refine (blamed_readOnce hr).lift [] ?_ ?_
    · rintro ks ⟨op, hop⟩
      exact ⟨[op], .single hq hop⟩
    · intro ks fault _ hks
      simp [readOps, hks]
  | case3 subject q kinds hblank =>
    cases h
    exact .of_cons [.arrow] (opens_readsOn_items hq) fun more => by simp [readOps, hblank]
  | case4 subject q kinds hblank fault' hr ih =>
    cases h
    have hsub : Text.trim q.text ≠ "" := mt Text.trim_eq_empty_iff.1 hblank
    refine (ih hsub hr).lift [.arrow, .quoted q] ?_ ?_
    · rintro ks ⟨ops, hops⟩
      exact ⟨_, .nested hq hops⟩
    · intro ks fault _ hks
      simp [readOps, hblank, hks]
  | case6 subject kinds hhead fault' hr =>
    cases h
    refine (blamed_readOnce hr).lift [.arrow] ?_ ?_
    · rintro ks ⟨op, hop⟩
      exact ⟨_, .items hq hop⟩
    · intro ks fault hnext hks
      -- what is read on starts with the same kind, so it is no selector either
      have hno : ∀ q more, ks = .quoted q :: more → False := by
        rintro q more rfl
        cases kinds with
        | nil => simp [nextKind] at hnext
        | cons kind rest =>
          obtain rfl : .quoted q = kind := hnext
          exact hhead q rest rfl
      rw [List.singleton_append, readOps.eq_3 _ _ hno, hks]
  | case8 subject kinds =>
    cases h
    exact .of_cons [] (opens_readsOn_list hq) fun _ => rfl
  | case9 subject kinds =>
    cases h
    exact .of_cons [] (opens_readsOn_list hq) fun _ => rfl
  | case10 subject kinds _ harrow hhash hat =>
    cases h
    refine ⟨[], rfl, opens_readsOn_list hq, ?_⟩
    rintro kind rest rfl more
    cases kind with
    | arrow => exact absurd rfl (harrow rest)
    | hash => exact absurd rfl (hhash rest)
    | atSign => exact absurd rfl (hat rest)
    | _ => rfl
  | _ => cases h

def Alternative (kinds : List Kind) : Prop := ∃ used s, Reading used s ∧ kinds = .document :: used

theorem alternative_a : Alternative [.document, .quoted ⟨.single, "a"⟩, .hash] :=
  ⟨_, _, .single trim_a .text, rfl⟩

theorem opens_alternative : Opens Alternative [] :=
  ⟨_, by simpa [Kind.Writable] using writable_quoted_a, alternative_a⟩

theorem opens_alternative_document : Opens Alternative [.document] :=
  ⟨[.quoted ⟨.single, "a"⟩, .hash], by simpa [Kind.Writable] using writable_quoted_a, alternative_a⟩

theorem blamed_readSelection {kinds : List Kind} {fault : Fault}
    (h : readSelection kinds = .error fault) :
    Blamed readSelection Alternative kinds fault := by
  unfold readSelection at h
  split at h
  · rename_i q kinds
    split at h
    · rename_i hblank
      cases h
      exact .of_cons [.document] opens_alternative_document fun more => by
        simp [readSelection, hblank]
    · rename_i hblank
      split at h
      · rename_i hr
        cases h
        have hq : Text.trim q.text ≠ "" := mt Text.trim_eq_empty_iff.1 hblank
        refine (blamed_readOps hq hr).lift [.document, .quoted q] ?_ ?_
        · rintro ks ⟨ops, hops⟩
          exact ⟨_, _, hops, rfl⟩
        · intro ks fault _ hks
          simp [readSelection, hblank, hks]
      · cases h
  · rename_i kinds hhead
    cases h
    refine ⟨[.document], rfl, opens_alternative_document, ?_⟩
    rintro kind rest rfl more
    cases kind with
    | quoted q => exact absurd rfl (hhead q rest)
    | _ => rfl
  · rename_i hquoted hdocument
    cases h
    refine ⟨[], rfl, opens_alternative, ?_⟩
    rintro kind rest rfl more
    cases kind with
    | document => exact absurd rfl (hdocument rest)
    | _ => rfl

/-! ## What stands behind what was read -/

theorem next_of_readOnce {subject : Subject} {kinds rest : List Kind} {op : Op}
    (h : readOnce subject kinds = .ok (op, rest)) : (nextKind rest).isOperation = false := by
  unfold readOnce at h
  split at h
  · cases h
  · split at h
    · cases h
    · rename_i hop
      cases h
      simpa using hop

theorem next_of_readOps {subject : Subject} {quote : Quote} {kinds rest : List Kind}
    {ops : List Op} (h : readOps subject quote kinds = .ok (ops, rest)) :
    (nextKind rest).isOperation = false := by
  fun_induction readOps subject quote kinds generalizing ops with
  | case2 subject kinds op after hr =>
    cases h
    exact next_of_readOnce hr
  | case5 subject q kinds _ ops' after hr ih =>
    cases h
    exact ih hr
  | case7 subject kinds _ op after hr =>
    cases h
    exact next_of_readOnce hr
  | _ => cases h

theorem next_of_readSelection {kinds rest : List Kind} {s : Selection}
    (h : readSelection kinds = .ok (s, rest)) : (nextKind rest).isOperation = false := by
  unfold readSelection at h
  split at h
  · split at h
    · cases h
    · split at h
      · cases h
      · rename_i hr
        cases h
        exact next_of_readOps hr
  · cases h
  · cases h

theorem next_of_readChain {kinds rest : List Kind} {rule : Rule}
    (h : readChain kinds = .ok (rule, rest)) :
    (nextKind rest).isOperation = false ∧ nextKind rest ≠ .question := by
  fun_induction readChain kinds generalizing rule with
  | case3 kinds s more hs second after hr ih =>
    cases h
    exact ih hr
  | case4 kinds s after hmore hs =>
    cases h
    refine ⟨next_of_readSelection hs, ?_⟩
    intro hnext
    cases rest with
    | nil => simp [nextKind] at hnext
    | cons kind rest =>
      obtain rfl : kind = .question := hnext
      exact hmore rest rfl
  | _ => cases h

/-! ## A whole rule -/

def Derivable (kinds : List Kind) : Prop := ∃ rule, Derives kinds rule

theorem Alternative.derivable {kinds : List Kind} (h : Alternative kinds) : Derivable kinds := by
  obtain ⟨used, s, hu, rfl⟩ := h
  exact ⟨.select s, .term hu⟩

theorem readChain_of_error {kinds : List Kind} {fault : Fault}
    (h : readSelection kinds = .error fault) : readChain kinds = .error fault := by
  rw [readChain]
  split
  · rename_i heq
    exact congrArg _ (Except.error.inj (heq.symm.trans h))
  · simp_all
  · simp_all

theorem readChain_of_question_error {kinds more : List Kind} {s : Selection} {fault : Fault}
    (h : readSelection kinds = .ok (s, .question :: more)) (hmore : readChain more = .error fault) :
    readChain kinds = .error fault := by
  rw [readChain]
  split
  · simp_all
  · simp_all
  · simp_all

theorem blamed_readChain {kinds : List Kind} {fault : Fault} (h : readChain kinds = .error fault) :
    Blamed readChain Derivable kinds fault := by
  fun_induction readChain kinds generalizing fault with
  | case1 kinds fault' hs =>
    cases h
    exact (blamed_readSelection hs).lift [] (fun _ hks => hks.derivable)
      fun _ _ _ hks => readChain_of_error hks
  | case2 kinds s more hs fault' hr ih =>
    cases h
    obtain ⟨used, hu, rfl⟩ := reading_of_readSelection hs
    have hbefore : .document :: (used ++ .question :: more) =
        (.document :: (used ++ [.question])) ++ more := by simp
    rw [hbefore]
    refine (ih hr).lift _ ?_ ?_
    · rintro ks ⟨rule, hrule⟩
      exact ⟨.orElse (.select s) rule, by simpa using Derives.chain hu hrule⟩
    · intro ks fault _ hks
      have hsel : readSelection (.document :: (used ++ .question :: ks)) =
          .ok (s, .question :: ks) := readSelection_of_reading hu rfl
      have hcons : (.document :: (used ++ [.question])) ++ ks =
          .document :: (used ++ .question :: ks) := by simp
      rw [hcons]
      exact readChain_of_question_error hsel hks
  | _ => cases h

theorem blamed_readAll {kinds : List Kind} {fault : Fault} (h : readAll kinds = .error fault) :
    Blamed readAll Derivable kinds fault := by
  unfold readAll at h
  split at h
  · rename_i hempty
    cases h
    obtain ⟨tail, htail, hopen⟩ := opens_alternative
    refine ⟨[], rfl, ⟨tail, htail, hopen.derivable⟩, ?_⟩
    rintro kind rest rfl more
    obtain rfl : kind = .finish := hempty
    rfl
  · rename_i hne
    split at h
    · rename_i hr
      cases h
      refine (blamed_readChain hr).lift [] (fun _ hks => hks) ?_
      intro ks fault hnext hks
      rw [List.nil_append, readAll, if_neg (hnext ▸ hne), hks]
    · rename_i rule rest hr
      split at h
      · cases h
      · rename_i htrailing
        cases h
        obtain ⟨hop, hquestion⟩ := next_of_readChain hr
        obtain ⟨used, hu, rfl⟩ := derives_of_readChain hr
        refine ⟨used, rfl, .of_complete ⟨rule, hu⟩, ?_⟩
        rintro kind rest rfl more
        have hread : readChain (used ++ kind :: more) = .ok (rule, kind :: more) :=
          readChain_of_derives hu hop hquestion
        have hstart : nextKind (used ++ kind :: more) ≠ .finish := by
          cases hu <;> simp [nextKind]
        have hkind : kind ≠ .finish := htrailing
        rw [readAll, if_neg hstart, hread]
        exact if_neg hkind

/-- Reading never passes the last kind, so there is one to be blamed. -/
theorem exists_blamed_kind {kinds : List Kind} {fault : Fault} (hfinish : .finish ∈ kinds)
    (h : readAll kinds = .error fault) :
    ∃ used kind rest, kinds = used ++ kind :: rest ∧ fault.rest = kind :: rest ∧
      Opens Derivable used ∧
      ∀ more, readAll (used ++ kind :: more) = .error ⟨fault.cause, kind :: more⟩ := by
  obtain ⟨used, hsplit, hopens, hsame⟩ := blamed_readAll h
  cases hrest : fault.rest with
  | nil =>
    obtain ⟨tail, -, rule, hrule⟩ := hopens
    have hmem : .finish ∈ used := by simpa [hsplit, hrest] using hfinish
    exact absurd (List.mem_append_left tail hmem) hrule.finish_not_mem
  | cons kind rest =>
    rw [hrest] at hsplit
    exact ⟨used, kind, rest, hsplit, rfl, hopens, hsame kind rest hrest⟩

/-! ## The beginnings of rules -/

/-- Some rule begins with tokens of these kinds. -/
def Viable (kinds : List Kind) : Prop :=
  ∃ source tokens rule, tokenize source = .ok tokens ∧ parse source = .ok rule ∧
    kinds <+: tokens.map Token.kind

theorem Viable.of_prefix {kinds more : List Kind} (h : Viable more) (hk : kinds <+: more) :
    Viable kinds := by
  obtain ⟨source, tokens, rule, ht, hp, hmore⟩ := h
  exact ⟨source, tokens, rule, ht, hp, hk.trans hmore⟩

theorem viable_of_opens {used : List Kind} (hw : ∀ kind ∈ used, kind.Writable)
    (h : Opens Derivable used) : Viable used := by
  obtain ⟨tail, htail, rule, hrule⟩ := h
  obtain ⟨cs, hs⟩ := exists_scans (List.forall_mem_append.2 ⟨hw, htail⟩) hrule.finish_not_mem
  have hsource : Scans (String.ofList cs).toList (used ++ tail ++ [.finish]) := by
    rw [String.toList_ofList]
    exact hs
  obtain ⟨tokens, ht, hkinds⟩ := tokenize_iff.2 hsource
  refine ⟨_, tokens, rule, ht, parse_eq_ok_iff_scans.2 ⟨_, hsource, hrule⟩, ?_⟩
  rw [hkinds, List.append_assoc]
  exact List.prefix_append _ _

theorem not_viable_of_error {used : List Kind} {kind : Kind} {cause : ParseCause}
    (h : ∀ more, readAll (used ++ kind :: more) = .error ⟨cause, kind :: more⟩) :
    ¬ Viable (used ++ [kind]) := by
  rintro ⟨source, tokens, rule, ht, hp, more, hmore⟩
  obtain ⟨tokens', ht', hr⟩ := parse_eq_ok_iff_readAll.1 hp
  obtain rfl : tokens = tokens' := Except.ok.inj (ht.symm.trans ht')
  rw [← hmore, List.append_assoc, List.singleton_append, h more] at hr
  cases hr

/-! ## Places -/

theorem placeOf_eq {tokens : List Token} {used rest : List Kind} {kind : Kind}
    (h : tokens.map Token.kind = used ++ kind :: rest) :
    ∃ token, tokens[used.length]? = some token ∧ placeOf tokens (kind :: rest) = token.start := by
  have hlength : tokens.length = used.length + (rest.length + 1) := by
    simpa using congrArg List.length h
  have hlt : used.length < tokens.length := by omega
  refine ⟨tokens[used.length], List.getElem?_eq_getElem hlt, ?_⟩
  have hdrop : tokens.length - (kind :: rest).length = used.length := by
    rw [List.length_cons]
    omega
  rw [placeOf, hdrop, List.drop_eq_getElem_cons hlt]

def Place.Real (p : Place) : Prop := 0 < p.line ∧ 0 < p.column

theorem Place.Real.right {p : Place} (h : p.Real) : p.right.Real := ⟨h.1, Nat.succ_pos _⟩

theorem Place.Real.nextLine {p : Place} : p.nextLine.Real := ⟨Nat.succ_pos _, Nat.one_pos⟩

theorem Place.Real.pastAll {p : Place} (h : p.Real) (cs : List Char) : (p.pastAll cs).Real := by
  induction cs generalizing p with
  | nil => exact h
  | cons c cs ih =>
    have hc : (p.past c).Real := by
      unfold Place.past
      split
      · exact .nextLine
      · exact h.right
    exact ih hc

theorem real_of_tokensFrom {p : Place} (hp : p.Real) {cs : List Char} {tokens : List Token}
    (h : tokensFrom p cs = .ok tokens) : ∀ token ∈ tokens, token.start.Real := by
  fun_induction tokensFrom p cs generalizing tokens with
  | case1 p =>
    cases h
    simpa using hp
  | case2 p cs ih => exact ih .nextLine h
  | case3 p cs ih => exact ih .nextLine h
  | case4 p cs _ ih => exact ih .nextLine h
  | case6 p cs text rest _ q ih =>
    obtain ⟨more, hm, rfl⟩ := map_eq_ok_iff.1 h
    exact List.forall_mem_cons.2 ⟨hp, ih (hp.pastAll _) hm⟩
  | case8 p cs _ text rest _ q ih =>
    obtain ⟨more, hm, rfl⟩ := map_eq_ok_iff.1 h
    exact List.forall_mem_cons.2 ⟨hp, ih (hp.pastAll _) hm⟩
  | case9 p c cs _ _ _ _ _ _ ih => exact ih hp.right h
  | case10 p c cs _ _ _ _ _ _ kind _ ih =>
    obtain ⟨more, hm, rfl⟩ := map_eq_ok_iff.1 h
    exact List.forall_mem_cons.2 ⟨hp, ih hp.right hm⟩
  | _ => simp at h

theorem readAll_of_parse_error {source : String} {tokens : List Token} {e : ParseError}
    (ht : tokenize source = .ok tokens) (hp : parse source = .error e) :
    ∃ fault, readAll (tokens.map Token.kind) = .error fault ∧
      e.place = placeOf tokens fault.rest := by
  cases hr : readAll (tokens.map Token.kind) with
  | ok rule =>
    have hok : parse source = .ok rule := parse_eq_ok_iff_readAll.2 ⟨tokens, ht, hr⟩
    simp [hok] at hp
  | error fault =>
    simp only [parse, ht, hr] at hp
    cases hp
    exact ⟨fault, rfl, rfl⟩

/-- A parse error stands at the first token such that no rule begins with the tokens up to it. -/
theorem parse_error_at_first_unviable {source : String} {tokens : List Token} {e : ParseError}
    (ht : tokenize source = .ok tokens) (hp : parse source = .error e) :
    ∃ i token, tokens[i]? = some token ∧ e.place = token.start ∧
      ¬ Viable ((tokens.map Token.kind).take (i + 1)) ∧
      Viable ((tokens.map Token.kind).take i) ∧
      (∀ j < i, Viable ((tokens.map Token.kind).take (j + 1))) ∧
      0 < e.place.line ∧ 0 < e.place.column := by
  obtain ⟨fault, hr, hplace⟩ := readAll_of_parse_error ht hp
  have hs : Scans source.toList (tokens.map Token.kind) := tokenize_iff.1 ⟨tokens, ht, rfl⟩
  have hfinish : .finish ∈ tokens.map Token.kind := by
    obtain ⟨before, hbefore, -⟩ := hs.finish_last
    simp [hbefore]
  obtain ⟨used, kind, rest, hsplit, hrest, hopens, herror⟩ := exists_blamed_kind hfinish hr
  have hwritable : ∀ k ∈ used, k.Writable := by
    intro k hk
    exact hs.writable k (by simp [hsplit, hk])
  have htake : (tokens.map Token.kind).take used.length = used := by simp [hsplit]
  have htakeSucc : (tokens.map Token.kind).take (used.length + 1) = used ++ [kind] := by
    simp [hsplit, List.take_append]
  have hviable : Viable ((tokens.map Token.kind).take used.length) := by
    rw [htake]
    exact viable_of_opens hwritable hopens
  obtain ⟨token, htoken, hstart⟩ := placeOf_eq hsplit
  have hat : e.place = token.start := by rw [hplace, hrest, hstart]
  have hreal : token.start.Real :=
    real_of_tokensFrom ⟨Nat.one_pos, Nat.one_pos⟩ ht token (List.mem_of_getElem? htoken)
  refine ⟨used.length, token, htoken, hat, ?_, hviable, ?_, hat ▸ hreal⟩
  · rw [htakeSucc]
    exact not_viable_of_error herror
  · intro j hj
    exact hviable.of_prefix (List.take_prefix_take_left hj)

/-- The second reading is blamed, not the `?` behind it. -/
theorem parse_error_at_first_unviable_second_reading :
    ∃ tokens e, tokenize "D'a'@'href'\n  # ?" = .ok tokens ∧
      parse "D'a'@'href'\n  # ?" = .error e ∧ e.place = ⟨14, 2, 3⟩ ∧
      ∃ i token, tokens[i]? = some token ∧ e.place = token.start ∧
        ¬ Viable ((tokens.map Token.kind).take (i + 1)) := by
  have ht : tokenize "D'a'@'href'\n  # ?" = .ok [⟨.document, ⟨0, 1, 1⟩, 1⟩,
      ⟨.quoted ⟨.single, "a"⟩, ⟨1, 1, 2⟩, 4⟩, ⟨.atSign, ⟨4, 1, 5⟩, 5⟩,
      ⟨.quoted ⟨.single, "href"⟩, ⟨5, 1, 6⟩, 11⟩, ⟨.hash, ⟨14, 2, 3⟩, 15⟩,
      ⟨.question, ⟨16, 2, 5⟩, 17⟩, ⟨.finish, ⟨17, 2, 6⟩, 17⟩] := by
    decide +kernel
  have hp : parse "D'a'@'href'\n  # ?" =
      .error ⟨.alreadyRead .hash (.selection ⟨.single, "a"⟩) (.attr "href"), ⟨14, 2, 3⟩⟩ := by
    decide +kernel
  obtain ⟨i, token, htoken, hat, hnot, -⟩ := parse_error_at_first_unviable ht hp
  exact ⟨_, _, ht, hp, rfl, i, token, htoken, hat, hnot⟩

end PageExtract.Rule
