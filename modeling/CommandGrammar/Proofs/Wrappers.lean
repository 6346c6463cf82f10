import CommandGrammar.Proofs.Accounting
import CommandGrammar.Proofs.Paths
import Mathlib.Data.List.Chain
import Mathlib.Data.List.Perm.Subperm
import Mathlib.Logic.Relation

/-!
Wrappers. A wrapper leads to the command at its path and nowhere else, so from each wrapper there is
one chain. Following it passes distinct nodes of the grammar, and so comes to an end: at a plain
command, at a path that names none, or at a node that it has passed. The wrappers of a finished
grammar were all followed, so a line that matches calls the handler at the end of its chain.
-/

namespace CommandGrammar

namespace Root

variable (root : Root)

/-! ### Chains -/

/-- The node is the command at the path of the wrapper. -/
def Leads (m n : Node) : Prop := ∃ path, m.path? = some path ∧ root.resolve path = .ok n

/-- The chain from the one node comes to the other. -/
def LeadsTo (m n : Node) : Prop := Relation.ReflTransGen root.Leads m n

/-- The path of the wrapper names no command. -/
def IsDangling (n : Node) : Prop := ∃ path e, n.path? = some path ∧ root.resolve path = .error e

/-- What a chain comes to that has passed nodes, the given one last: a plain command, a path that
names no command, or a node that it has passed. -/
inductive ChainEnds (passed : List Node) (last : Node) : Except ChainError Node → Prop
  | plain : last.isWrapper = false → ChainEnds passed last (.ok last)
  | dangling : root.IsDangling last → ChainEnds passed last (.error (.dangling last))
  | cyclic {next : Node} : root.Leads last next → next ∈ passed →
    ChainEnds passed last (.error (.cyclic next))

/-- The chain from a node passes the nodes, no two of them the same, and comes to the outcome. -/
structure Passes (first : Node) (passed : List Node) (outcome : Except ChainError Node) : Prop where
  nodup : passed.Nodup
  head? : passed.head? = some first
  isChain : passed.IsChain root.Leads
  ends : ∃ last, passed.getLast? = some last ∧ root.ChainEnds passed last outcome

end Root

section

variable {root : Root} {first last m n k : Node} {passed : List Node}
  {outcome : Except ChainError Node}

lemma Root.ext {r t : Root} (h : r.successors = t.successors) : r = t := by
  cases r
  cases t
  cases h
  rfl

lemma Node.isWrapper_iff : n.isWrapper = true ↔ ∃ path, n.path? = some path :=
  Option.isSome_iff_exists

namespace Root

lemma Leads.isWrapper (h : root.Leads m n) : m.isWrapper = true := by
  obtain ⟨path, hp, -⟩ := h
  exact Node.isWrapper_iff.2 ⟨path, hp⟩

lemma Leads.isCommand (h : root.Leads m n) : n.isCommand = true := by
  obtain ⟨path, -, hr⟩ := h
  exact isCommand_of_resolve hr

lemma Leads.mem_walk (h : root.Leads m n) : n ∈ root.walk := by
  obtain ⟨path, -, hr⟩ := h
  exact mem_walk_of_resolve hr

/-- A wrapper leads to one node. -/
lemma Leads.unique (h : root.Leads m n) (h' : root.Leads m k) : n = k := by
  obtain ⟨path, hp, hr⟩ := h
  obtain ⟨path', hp', hr'⟩ := h'
  cases hp.symm.trans hp'
  exact Except.ok.inj (hr.symm.trans hr')

lemma IsDangling.isWrapper (h : root.IsDangling n) : n.isWrapper = true := by
  obtain ⟨path, e, hp, -⟩ := h
  exact Node.isWrapper_iff.2 ⟨path, hp⟩

lemma IsDangling.not_leads (h : root.IsDangling m) : ¬ root.Leads m n := by
  rintro ⟨path, hp, hr⟩
  obtain ⟨path', e, hp', hr'⟩ := h
  cases hp.symm.trans hp'
  cases hr.symm.trans hr'

lemma LeadsTo.isCommand (h : root.LeadsTo m n) (hm : m.isCommand = true) :
    n.isCommand = true := by
  rcases Relation.ReflTransGen.cases_tail h with rfl | ⟨k, -, hk⟩
  · exact hm
  · exact hk.isCommand

/-! ### Following a chain -/

lemma ChainEnds.mono (h : root.ChainEnds passed last outcome) {more : List Node}
    (hsub : passed ⊆ more) : root.ChainEnds more last outcome := by
  cases h with
  | plain hp => exact .plain hp
  | dangling hd => exact .dangling hd
  | cyclic hl hn => exact .cyclic hl (hsub hn)

/-- **Following a chain passes new nodes of the grammar** until it comes to an end. -/
theorem exists_chainEnds_followFrom (root : Root) (seen : List Node) (node : Node) :
    ∃ rest last, (node :: rest).IsChain root.Leads ∧ rest.Nodup ∧
      (∀ n ∈ rest, n ∈ root.walk ∧ n ∉ seen) ∧ (node :: rest).getLast? = some last ∧
      root.ChainEnds (rest ++ seen) last (root.followFrom seen node) := by
  fun_induction Root.followFrom root seen node with
  | case1 seen node hp =>
    exact ⟨[], node, .singleton node, List.nodup_nil, by simp, rfl,
      .plain (by simp [Node.isWrapper, hp])⟩
  | case2 seen node path hp e he =>
    exact ⟨[], node, .singleton node, List.nodup_nil, by simp, rfl, .dangling ⟨path, e, hp, he⟩⟩
  | case3 seen node path hp next hr hs =>
    exact ⟨[], node, .singleton node, List.nodup_nil, by simp, rfl, .cyclic ⟨path, hp, hr⟩ hs⟩
  | case4 seen node path hp next hr hs ih =>
    have hleads : root.Leads node next := ⟨path, hp, hr⟩
    obtain ⟨rest, last, hchain, hnodup, hnew, hlast, hends⟩ := ih
    refine ⟨next :: rest, last, .cons_cons hleads hchain, ?_, ?_, ?_, ?_⟩
    · exact List.nodup_cons.2 ⟨fun hn => (hnew next hn).2 List.mem_cons_self, hnodup⟩
    · refine List.forall_mem_cons.2 ⟨⟨hleads.mem_walk, hs⟩, fun n hn => ?_⟩
      exact ⟨(hnew n hn).1, fun h => (hnew n hn).2 (List.mem_cons_of_mem next h)⟩
    · rwa [List.getLast?_cons_cons]
    · refine hends.mono fun n hn => ?_
      simp only [List.mem_append, List.mem_cons] at hn ⊢
      tauto

/-- **Every chain comes to an end,** after nodes of the grammar that are all different. -/
theorem exists_passes (root : Root) (first : Node) :
    ∃ passed, root.Passes first passed (root.follow first) ∧
      ∀ n ∈ passed, n = first ∨ n ∈ root.walk := by
  obtain ⟨rest, last, hchain, hnodup, hnew, hlast, hends⟩ :=
    root.exists_chainEnds_followFrom [first] first
  refine ⟨first :: rest, ⟨?_, rfl, hchain, last, hlast, hends.mono fun n hn => ?_⟩, ?_⟩
  · refine List.nodup_cons.2 ⟨fun hn => (hnew first hn).2 ?_, hnodup⟩
    exact List.mem_singleton_self first
  · rw [List.mem_append, List.mem_singleton] at hn
    exact List.mem_cons.2 hn.symm
  · exact List.forall_mem_cons.2 ⟨.inl rfl, fun n hn => .inr (hnew n hn).1⟩

namespace Passes

variable (h : root.Passes first passed outcome)

include h

lemma mem_first : first ∈ passed := List.mem_of_mem_head? h.head?

lemma leadsTo_of_mem (hn : n ∈ passed) : root.LeadsTo first n := by
  obtain ⟨-, hhead, hchain, -⟩ := h
  cases passed with
  | nil => cases hn
  | cons m ms =>
    cases hhead
    rcases List.mem_cons.1 hn with rfl | hn
    · exact .refl
    · exact hchain.cons_induction _ ms (fun _ _ hxy hx => hx.tail hxy) .refl n hn

/-- A node that was passed leads to another one that was passed, or it is the last. -/
lemma last_or_leads (hn : n ∈ passed) :
    passed.getLast? = some n ∨ ∃ m ∈ passed, root.Leads n m := by
  have hchain := h.isChain
  clear h
  induction passed with
  | nil => cases hn
  | cons k ks ih =>
    cases ks with
    | nil =>
      rw [List.mem_singleton] at hn
      exact .inl (by rw [hn]; rfl)
    | cons l ls =>
      obtain ⟨hkl, hchain⟩ := List.isChain_cons_cons.1 hchain
      rcases List.mem_cons.1 hn with rfl | hn
      · exact .inr ⟨l, by simp, hkl⟩
      · rw [List.getLast?_cons_cons]
        refine (ih hn hchain).imp_right ?_
        rintro ⟨m, hm, hnm⟩
        exact ⟨m, List.mem_cons_of_mem k hm, hnm⟩

/-- The chain does not leave the nodes that it has passed. -/
lemma mem_of_leads (hm : m ∈ passed) (hmn : root.Leads m n) : n ∈ passed := by
  rcases h.last_or_leads hm with hlast | ⟨k, hk, hmk⟩
  · obtain ⟨last, hlast', hends⟩ := h.ends
    cases hlast.symm.trans hlast'
    cases hends with
    | plain hp =>
      cases hmn.isWrapper.symm.trans hp
    | dangling hd => exact absurd hmn hd.not_leads
    | cyclic hl hk =>
      rw [hmn.unique hl]
      exact hk
  · rw [hmn.unique hmk]
    exact hk

/-- **The nodes passed are those that the chain comes to.** -/
theorem mem_iff : n ∈ passed ↔ root.LeadsTo first n := by
  refine ⟨h.leadsTo_of_mem, fun hn => ?_⟩
  induction hn with
  | refl => exact h.mem_first
  | tail _ hmn hm => exact h.mem_of_leads hm hmn

/-- The only plain node on the way is the last one. -/
lemma getLast?_of_plain (hn : root.LeadsTo first n) (hp : n.isWrapper = false) :
    passed.getLast? = some n := by
  refine (h.last_or_leads (h.mem_iff.2 hn)).resolve_right ?_
  rintro ⟨m, -, hnm⟩
  cases hnm.isWrapper.symm.trans hp

end Passes

/-- **Following gives the plain node that the chain comes to.** -/
theorem follow_eq_ok_iff : root.follow m = .ok n ↔ root.LeadsTo m n ∧ n.isWrapper = false := by
  obtain ⟨passed, h, -⟩ := root.exists_passes m
  obtain ⟨last, hlast, hends⟩ := h.ends
  have hmem : last ∈ passed := List.mem_of_getLast? hlast
  constructor
  · intro hf
    rw [hf] at hends
    cases hends with
    | plain hp => exact ⟨h.leadsTo_of_mem hmem, hp⟩
  · rintro ⟨hn, hp⟩
    cases hlast.symm.trans (h.getLast?_of_plain hn hp)
    generalize root.follow m = outcome at hends
    cases hends with
    | plain => rfl
    | dangling hd =>
      cases hd.isWrapper.symm.trans hp
    | cyclic hl _ =>
      cases hl.isWrapper.symm.trans hp

/-- **Following fails** exactly when the chain comes to a path that names no command, or never to a
plain one. -/
theorem exists_follow_eq_error_iff : (∃ e, root.follow m = .error e) ↔
    (∃ n, root.LeadsTo m n ∧ root.IsDangling n) ∨
      ∀ n, root.LeadsTo m n → n.isWrapper = true := by
  obtain ⟨passed, h, -⟩ := root.exists_passes m
  obtain ⟨last, hlast, hends⟩ := h.ends
  have hleads : root.LeadsTo m last := h.leadsTo_of_mem (List.mem_of_getLast? hlast)
  constructor
  · rintro ⟨e, he⟩
    rw [he] at hends
    cases hends with
    | dangling hd => exact .inl ⟨last, hleads, hd⟩
    | cyclic hl _ =>
      refine .inr fun n hn => ?_
      by_contra hp
      rw [Bool.not_eq_true] at hp
      cases hlast.symm.trans (h.getLast?_of_plain hn hp)
      cases hl.isWrapper.symm.trans hp
  · intro hbad
    cases hf : root.follow m with
    | error e => exact ⟨e, rfl⟩
    | ok t =>
      obtain ⟨ht, hp⟩ := follow_eq_ok_iff.1 hf
      rcases hbad with ⟨n, hn, hd⟩ | hall
      · rcases h.last_or_leads (h.mem_iff.2 hn) with hn' | ⟨k, -, hnk⟩
        · cases (h.getLast?_of_plain ht hp).symm.trans hn'
          cases hd.isWrapper.symm.trans hp
        · exact absurd hnk hd.not_leads
      · rw [hall t ht] at hp
        cases hp

/-- A wrapper comes to what the command comes to that it leads to. -/
lemma Leads.follow_eq (hl : root.Leads m n) (hf : root.follow m = .ok k) :
    root.follow n = .ok k := by
  obtain ⟨hleads, hplain⟩ := follow_eq_ok_iff.1 hf
  rcases Relation.ReflTransGen.cases_head hleads with rfl | ⟨l, hml, hlk⟩
  · cases hl.isWrapper.symm.trans hplain
  · cases hml.unique hl
    exact follow_eq_ok_iff.2 ⟨hlk, hplain⟩

/-! ### Checking -/

lemma exists_checkWrapper_eq_error_iff :
    (∃ e, root.checkWrapper m = .error e) ↔ ∃ e, root.follow m = .error e := by
  unfold checkWrapper
  split
  · next hn => simp [hn]
  · next hn => simp [hn]
  · next hn => simp [hn]

lemma checkWrapper_ne_argument (e : ArgumentError) :
    root.checkWrapper m ≠ .error (.argument e) := by
  unfold checkWrapper
  split
  · simp
  · simp
  · simp

/-- Checking passes when every wrapper among the nodes does, and fails with the error of one. -/
lemma checkWrappersAmong_cases (root : Root) (nodes : List Node) :
    (root.checkWrappersAmong nodes = .ok () ∧
      ∀ n ∈ nodes, n.isWrapper = true → root.checkWrapper n = .ok ()) ∨
    ∃ n ∈ nodes, n.isWrapper = true ∧ ∃ e, root.checkWrapper n = .error e ∧
      root.checkWrappersAmong nodes = .error e := by
  induction nodes with
  | nil => exact .inl ⟨rfl, by simp⟩
  | cons n ns ih =>
    rw [checkWrappersAmong]
    cases hc : if n.isWrapper then root.checkWrapper n else .ok () with
    | ok =>
      refine ih.imp ?_ ?_
      · rintro ⟨hok, hall⟩
        refine ⟨hok, List.forall_mem_cons.2 ⟨fun hw => ?_, hall⟩⟩
        rwa [if_pos hw] at hc
      · rintro ⟨k, hk, hke⟩
        exact ⟨k, List.mem_cons_of_mem n hk, hke⟩
    | error e =>
      by_cases hw : n.isWrapper = true
      · rw [if_pos hw] at hc
        exact .inr ⟨n, List.mem_cons_self, hw, e, hc, rfl⟩
      · rw [if_neg hw] at hc
        cases hc

lemma checkWrappers_ne_argument (root : Root) (e : ArgumentError) :
    root.checkWrappers ≠ .error (.argument e) := by
  intro h
  rcases root.checkWrappersAmong_cases root.walk with ⟨hok, -⟩ | ⟨w, -, -, e', hw, he⟩
  · cases hok.symm.trans h
  · cases he.symm.trans h
    exact checkWrapper_ne_argument e hw

/-- **The check fails** exactly when some wrapper cannot be followed. -/
theorem exists_checkWrappers_eq_error_iff : (∃ e, root.checkWrappers = .error e) ↔
    ∃ w ∈ root.walk, w.isWrapper = true ∧ ∃ e, root.follow w = .error e := by
  rcases root.checkWrappersAmong_cases root.walk with ⟨hok, hall⟩ | ⟨w, hw, hwrapper, e, he, hall⟩
  · constructor
    · rintro ⟨e, he⟩
      cases hok.symm.trans he
    · rintro ⟨w, hw, hwrapper, hf⟩
      obtain ⟨e, he⟩ := exists_checkWrapper_eq_error_iff.2 hf
      cases (hall w hw hwrapper).symm.trans he
  · constructor
    · intro _
      exact ⟨w, hw, hwrapper, exists_checkWrapper_eq_error_iff.1 ⟨e, he⟩⟩
    · intro _
      exact ⟨e, hall⟩

/-- Where the wrappers have passed the check, every node of the grammar can be followed. -/
lemma exists_follow_of_checkWrappers (h : root.checkWrappers = .ok ()) (hm : m ∈ root.walk) :
    ∃ n, root.follow m = .ok n := by
  by_cases hw : m.isWrapper = true
  · cases hf : root.follow m with
    | ok n => exact ⟨n, rfl⟩
    | error e =>
      obtain ⟨e', he'⟩ := exists_checkWrappers_eq_error_iff.2 ⟨m, hm, hw, e, hf⟩
      cases h.symm.trans he'
  · exact ⟨m, follow_eq_ok_iff.2 ⟨.refl, (Bool.not_eq_true _).mp hw⟩⟩

end Root

end

/-! ### Building -/

namespace Registry

variable {registry : Registry} {next : Nat} {built : Numbered (List Node)} {root : Root}

/-- Where the descriptions build, the root is checked. -/
lemma build_eq (hb : Command.buildAll registry.commands next = .ok built)
    (hr : root.successors = built.value) :
    registry.build next = root.checkWrappers.map fun _ => ⟨root, built.next⟩ := by
  obtain ⟨nodes, hcommands⟩ := root
  cases hr
  unfold build
  split
  · next h => cases hb.symm.trans h
  · next nodes h =>
    cases hb.symm.trans h
    dsimp only
    split
    · next he => rw [he]; rfl
    · next he => rw [he]; rfl

lemma build_eq_error_iff (hb : Command.buildAll registry.commands next = .ok built)
    (hr : root.successors = built.value) {e : BuildError} :
    registry.build next = .error e ↔ root.checkWrappers = .error e := by
  rw [build_eq hb hr]
  cases root.checkWrappers with
  | ok => simp [Except.map]
  | error e' => simp [Except.map]

/-- In a finished grammar the wrappers have passed the check, and its root is the one over what the
descriptions build. -/
lemma root_of_finish (hb : Command.buildAll registry.commands next = .ok built)
    (hr : root.successors = built.value) {isStrict : Bool} {grammar : Grammar}
    (hf : registry.finish isStrict next = .ok grammar) :
    grammar.root = root ∧ root.checkWrappers = .ok () := by
  obtain ⟨nodes, hnodes, hsuccessors, hcheck⟩ := exists_of_finish hf
  cases hb.symm.trans hnodes
  have heq : grammar.root = root := Root.ext (hsuccessors.trans hr.symm)
  exact ⟨heq, heq ▸ hcheck⟩

end Registry

/-! ### Executing -/

namespace State

variable {s : State} {c target : Node}

/-- Without a command there is nothing to execute. -/
lemma runExecute_of_command_eq_none (hc : s.command = none) (host : Host) :
    s.runExecute host = .of (.ok .null) := by
  rw [runExecute, dispatch, hc]

/-- What executing a line does when its command stands for the target: the target's handler is
called once, with the bindings of the line, or there is none to call. -/
lemma runExecute_of_follow (hc : s.command = some c) (hf : s.root.follow c = .ok target)
    (host : Host) :
    (s.runExecute host).transcript.calls =
        (target.handler.map fun handler => ⟨target, handler, s.names⟩).toList ∧
      (s.runExecute host).result =
        target.handler.elim (.ok .null) fun handler => (host handler s.names.frozen).result := by
  unfold runExecute dispatch
  rw [hc]
  dsimp only
  rw [hf]
  dsimp only
  cases target.handler with
  | none => exact ⟨rfl, rfl⟩
  | some handler => exact ⟨rfl, rfl⟩

/-- In a tree whose wrappers have passed the check, the command in force comes to a plain one. -/
lemma IsSettled.exists_follow (hs : s.IsSettled) (hcheck : s.root.checkWrappers = .ok ())
    (hc : s.command = some c) : ∃ target, s.root.follow c = .ok target ∧
      s.root.LeadsTo c target ∧ target.isCommand = true ∧ target.isWrapper = false := by
  obtain ⟨hwalk, hcommand⟩ := hs.of_command hc
  obtain ⟨target, hf⟩ := Root.exists_follow_of_checkWrappers hcheck hwalk
  obtain ⟨hleads, hplain⟩ := Root.follow_eq_ok_iff.1 hf
  exact ⟨target, hf, hleads, hleads.isCommand hcommand, hplain⟩

end State

/-! ### Grammars -/

section Grammar

variable {registry : Registry} {next : Nat} {built : Numbered (List Node)} {root : Root}

/-- **Wrappers are sound.** Following a wrapper passes no node twice and so ends within the number
of nodes. Where the descriptions build, building the root fails exactly when some wrapper comes to a
path that names no command or never to a plain command. In a finished grammar a line that matches
calls the handler of the plain command that its command comes to, once and with the bindings of the
line itself, or nothing if there is no handler; and only the line without tokens has no command. -/
theorem build_wrappers (hb : Command.buildAll registry.commands next = .ok built)
    (hr : root.successors = built.value) :
    (∀ w ∈ root.walk, w.isWrapper = true →
      ∃ passed, root.Passes w passed (root.follow w) ∧ passed.length ≤ root.walk.length) ∧
    (∀ e, registry.build next ≠ .error (.argument e)) ∧
    ((∃ e, registry.build next = .error e) ↔ ∃ w ∈ root.walk, w.isWrapper = true ∧
      ((∃ n, root.LeadsTo w n ∧ root.IsDangling n) ∨
        ∀ n, root.LeadsTo w n → n.isWrapper = true)) ∧
    ∀ isStrict grammar, registry.finish isStrict next = .ok grammar → grammar.root = root ∧
      ∀ tokens s, parse tokens root = .ok s → ∀ host,
        (s.command = none ∧ tokens = [] ∧ (s.runExecute host).transcript.calls = [] ∧
          (s.runExecute host).result = .ok .null) ∨
        ∃ c target, s.command = some c ∧ root.LeadsTo c target ∧ target.isCommand = true ∧
          target.isWrapper = false ∧
          (s.runExecute host).transcript.calls =
            (target.handler.map fun handler => ⟨target, handler, s.names⟩).toList ∧
          (s.runExecute host).result =
            target.handler.elim (.ok .null) fun handler => (host handler s.names.frozen).result := by
  refine ⟨fun w hw _ => ?_, fun a ha => ?_, ?_, fun isStrict grammar hf => ?_⟩
  · obtain ⟨passed, hp, hmem⟩ := root.exists_passes w
    refine ⟨passed, hp, (hp.nodup.subperm fun n hn => ?_).length_le⟩
    rcases hmem n hn with rfl | hn
    · exact hw
    · exact hn
  · exact root.checkWrappers_ne_argument a ((Registry.build_eq_error_iff hb hr).1 ha)
  · simp only [Registry.build_eq_error_iff hb hr, Root.exists_checkWrappers_eq_error_iff,
      Root.exists_follow_eq_error_iff]
  · obtain ⟨hroot, hcheck⟩ := Registry.root_of_finish hb hr hf
    refine ⟨hroot, fun tokens s hp host => ?_⟩
    have hs := isSettled_of_parse hf (hroot ▸ hp)
    obtain ⟨gs, hreaches, rfl⟩ := parse_eq_ok_iff.1 hp
    have hsroot : s.root = root := hreaches.root_eq
    cases hc : s.command with
    | none =>
      rw [State.runExecute_of_command_eq_none hc, hreaches.eq_nil_of_command hc]
      exact .inl ⟨rfl, rfl, rfl, rfl⟩
    | some c =>
      obtain ⟨target, hf, hleads, hcommand, hplain⟩ := hs.exists_follow (hsroot ▸ hcheck) hc
      obtain ⟨hcalls, hresult⟩ := State.runExecute_of_follow hc hf host
      exact .inr ⟨c, target, rfl, hsroot ▸ hleads, hcommand, hplain, hcalls, hresult⟩

/-- The description of a command that stands for the one at the path. -/
def shortForm (name : String) (path : List String) (parameters : List Parameter) : Command :=
  .mk {
    name, help := none, handler := none, wraps := some path, priority := defaultPriority
    isHidden := false } parameters []

/-- The demo grammar with a shorter form, which stands for the short one. -/
def shorterRegistry : Registry := Demo.registry.register (shortForm "s" ["sh"] [Demo.target])

/-- The shorter form stands for the short one, and that one for the command that shows. -/
theorem build_wrappers_shorter : ∃ built root grammar s w passed target,
    Command.buildAll shorterRegistry.commands 0 = .ok built ∧ root.successors = built.value ∧
    shorterRegistry.finish false 0 = .ok grammar ∧ grammar.root = root ∧
    w ∈ root.walk ∧ w.path? = some ["sh"] ∧ root.Passes w passed (.ok target) ∧
    target.name = "show" ∧ passed.length ≤ root.walk.length ∧
    parse ["s", "tree"] root = .ok s ∧ s.command = some w ∧
    ∀ host, (s.runExecute host).transcript.calls = [⟨target, Demo.showHandler, s.names⟩] := by
  obtain ⟨grammar, s, hf, hp, hall⟩ := exists_ok_of_any_any
    (e := shorterRegistry.finish false 0)
    (f := fun grammar => parse ["s", "tree"] grammar.root)
    (p := fun grammar s => s.command.any fun w => decide (w ∈ grammar.root.walk) &&
      decide (w.path? = some ["sh"]) && (grammar.root.follow w).toOption.any fun target : Node =>
        decide (target.name = "show") && decide (target.handler = some Demo.showHandler))
    (by decide +kernel)
  obtain ⟨w, hw, hall⟩ := (Option.any_eq_true ..).1 hall
  obtain ⟨hall, htarget⟩ := Bool.and_eq_true_iff.1 hall
  obtain ⟨hwalk, hpath⟩ := Bool.and_eq_true_iff.1 hall
  obtain ⟨target, hfollow, htarget⟩ := exists_ok_of_any htarget
  obtain ⟨hname, hhandler⟩ := Bool.and_eq_true_iff.1 htarget
  obtain ⟨built, hb, hsuccessors, -⟩ := Registry.exists_of_finish hf
  obtain ⟨hpasses, -, -, hfinish⟩ := build_wrappers hb hsuccessors
  obtain ⟨passed, hpassed, hlength⟩ :=
    hpasses w (of_decide_eq_true hwalk) (Node.isWrapper_iff.2 ⟨_, of_decide_eq_true hpath⟩)
  refine ⟨built, grammar.root, grammar, s, w, passed, target, hb, hsuccessors, hf, rfl,
    of_decide_eq_true hwalk, of_decide_eq_true hpath, hfollow ▸ hpassed, of_decide_eq_true hname,
    hlength, hp, hw, fun host => ?_⟩
  rcases (hfinish false grammar hf).2 _ s hp host with
    ⟨hnone, -⟩ | ⟨c, t, hc, hleads, -, hplain, hcalls, -⟩
  · cases hnone.symm.trans hw
  · cases hc.symm.trans hw
    cases hfollow.symm.trans (Root.follow_eq_ok_iff.2 ⟨hleads, hplain⟩)
    rw [hcalls, of_decide_eq_true hhandler]
    rfl

end Grammar

end CommandGrammar
