import CommandGrammar.Proofs.Frontier

/-!
Paths of names. A path finds commands one below another, each of them the first of its name among
the successors of the one before; resolving a path gives the last command that it finds. Typing the
names of commands matches them when each name stands for its command among the successors of the one
before.
-/

namespace CommandGrammar

/-- The names find the commands: the first one among the siblings, and each other one among the
successors of the one before it. -/
inductive Finds : List Node → List String → List Node → Prop
  | nil (siblings : List Node) : Finds siblings [] []
  | cons {siblings ns : List Node} {name : String} {names : List String} {n : Node} :
    commandNamed name siblings = some n → Finds n.successors names ns →
      Finds siblings (name :: names) (n :: ns)

section Named

variable {siblings : List Node} {name : String} {n : Node}

lemma isCommand_of_commandNamed (h : commandNamed name siblings = some n) :
    n.isCommand = true := by
  have := List.find?_some h
  rw [Bool.and_eq_true] at this
  exact this.1

lemma name_of_commandNamed (h : commandNamed name siblings = some n) : n.name = name := by
  have := List.find?_some h
  rw [Bool.and_eq_true] at this
  exact beq_iff_eq.1 this.2

end Named

namespace Finds

variable {siblings ns : List Node} {names : List String}

lemma isCommand (h : Finds siblings names ns) : ∀ n ∈ ns, n.isCommand = true := by
  induction h with
  | nil => simp
  | cons hn _ ih => exact List.forall_mem_cons.2 ⟨isCommand_of_commandNamed hn, ih⟩

lemma map_name (h : Finds siblings names ns) : ns.map Node.name = names := by
  induction h with
  | nil => rfl
  | cons hn _ ih => rw [List.map_cons, name_of_commandNamed hn, ih]

/-- Names find the same commands whenever they are looked up. -/
lemma unique {ms : List Node} (h : Finds siblings names ns) (h' : Finds siblings names ms) :
    ns = ms := by
  induction h generalizing ms with
  | nil =>
    cases h'
    rfl
  | cons hn _ ih =>
    cases h' with
    | cons hm hms =>
      cases hn.symm.trans hm
      rw [ih hms]

end Finds

/-! ### Resolving -/

section Resolve

variable {root : Root} {path : List String} {m n : Node}

lemma Node.descend_eq_some_iff : m.descend path = some n ↔
    ∃ ns, Finds m.successors path ns ∧ (m :: ns).getLast? = some n := by
  induction path generalizing m with
  | nil =>
    constructor
    · intro h
      cases h
      exact ⟨[], .nil _, rfl⟩
    · rintro ⟨ns, hns, hlast⟩
      cases hns
      exact hlast
  | cons name names ih =>
    rw [descend]
    constructor
    · intro h
      split at h
      · next next hnext =>
        obtain ⟨ns, hns, hlast⟩ := ih.1 h
        exact ⟨next :: ns, .cons hnext hns, by rwa [List.getLast?_cons_cons]⟩
      · cases h
    · rintro ⟨ns, hns, hlast⟩
      cases hns with
      | cons hnext hns =>
        rw [hnext]
        rw [List.getLast?_cons_cons] at hlast
        exact ih.2 ⟨_, hns, hlast⟩

/-- **A path resolves to the last command that its names find.** -/
theorem Root.resolve_eq_ok_iff : root.resolve path = .ok n ↔
    ∃ ns, Finds root.successors path ns ∧ ns.getLast? = some n := by
  cases path with
  | nil =>
    constructor
    · intro h
      cases h
    · rintro ⟨ns, hns, hlast⟩
      cases hns
      cases hlast
  | cons name names =>
    rw [resolve]
    constructor
    · intro h
      split at h
      · next node hnode =>
        cases h
        obtain ⟨first, hfirst, hdescend⟩ := Option.bind_eq_some_iff.1 hnode
        obtain ⟨ns, hns, hlast⟩ := Node.descend_eq_some_iff.1 hdescend
        exact ⟨first :: ns, .cons hfirst hns, hlast⟩
      · cases h
    · rintro ⟨ns, hns, hlast⟩
      cases hns with
      | cons hfirst hns =>
        have hdescend := Node.descend_eq_some_iff.2 ⟨_, hns, hlast⟩
        rw [hfirst, Option.bind_some, hdescend]

lemma Root.isCommand_of_resolve (h : root.resolve path = .ok n) : n.isCommand = true := by
  obtain ⟨ns, hns, hlast⟩ := resolve_eq_ok_iff.1 h
  exact hns.isCommand n (List.mem_of_getLast? hlast)

end Resolve

/-! ### Calling by names -/

/-- The commands called by their names, as groups. -/
def called (path : List Node) : List Group := path.map fun c => ⟨c, c.name, none⟩

/-- Each of the commands is what its name stands for: the first one among the siblings, and each
other one among the successors of the one before it. -/
def IsChosen : List Node → List Node → Prop
  | _, [] => True
  | siblings, c :: cs => Frontier.select siblings c.name = .chosen c ∧ IsChosen c.successors cs

section Called

variable {path : List Node}

lemma called_map_node (path : List Node) : (called path).map Group.node = path := by
  simp [called, Function.comp_def]

lemma wordsOf_called (path : List Node) : wordsOf (called path) = path.map Node.name := by
  induction path with
  | nil => rfl
  | cons c cs ih => rw [called, List.map_cons, wordsOf_cons, ← called, ih]; rfl

/-- Groups of commands whose words are the names call the commands by their names. -/
lemma eq_called {gs : List Group} (hfull : ∀ g ∈ gs, g.IsFull) (hnodes : gs.map Group.node = path)
    (hc : ∀ c ∈ path, c.isCommand = true) (hwords : wordsOf gs = path.map Node.name) :
    gs = called path := by
  induction gs generalizing path with
  | nil =>
    cases hnodes
    rfl
  | cons g gs ih =>
    subst hnodes
    obtain ⟨hg, hfulls⟩ := List.forall_mem_cons.1 hfull
    obtain ⟨hcg, hcs⟩ := List.forall_mem_cons.1 hc
    obtain ⟨n, word, value?⟩ := g
    -- a command takes its word alone
    have hv : value? = none := by
      simpa [Group.IsFull, Node.takesValue_of_isCommand hcg] using hg
    subst hv
    obtain ⟨hword : word = n.name, hrest⟩ := List.cons_eq_cons.1 hwords
    subst hword
    exact congrArg _ (ih hfulls rfl hcs hrest)

/-- **Commands are reached by their names** exactly when each is what its name stands for. -/
theorem State.reaches_called_iff {s : State} (hs : s.frontier = s.siblings)
    (hc : ∀ c ∈ path, c.isCommand = true) :
    (∃ t, s.Reaches (called path) t) ↔ IsChosen s.siblings path := by
  induction path generalizing s with
  | nil => exact ⟨fun _ => trivial, fun _ => ⟨s, .nil s⟩⟩
  | cons c cs ih =>
    obtain ⟨hcc, hcs⟩ := List.forall_mem_cons.1 hc
    have hsiblings := after_siblings_command (s := s) (g := ⟨c, c.name, none⟩) hcc
    have hfrontier :
        (s.after ⟨c, c.name, none⟩).frontier = (s.after ⟨c, c.name, none⟩).siblings := by
      rw [hsiblings, after_of_isCommand hcc]
      rfl
    have hrest := ih hfrontier hcs
    rw [hsiblings] at hrest
    rw [IsChosen, ← hrest, ← hs]
    constructor
    · rintro ⟨t, ht⟩
      cases ht with
      | cons hg ht => exact ⟨hg.chosen, t, ht⟩
    · rintro ⟨hchosen, t, ht⟩
      exact ⟨t, .cons ⟨hchosen, (Node.takesValue_of_isCommand hcc).symm⟩ ht⟩

/-- **Typing the names of commands matches these commands** exactly when each is what its name
stands for. -/
theorem parse_names_iff {root : Root} (hc : ∀ c ∈ path, c.isCommand = true) :
    (∃ t, parse (path.map Node.name) root = .ok t ∧ t.trace = path) ↔
      IsChosen root.successors path := by
  refine Iff.trans ?_ (State.reaches_called_iff (s := State.start root) rfl hc)
  constructor
  · rintro ⟨t, hp, htrace⟩
    obtain ⟨gs, hr, hwords⟩ := parse_eq_ok_iff.1 hp
    have hnodes : gs.map Group.node = path := hr.trace_eq.symm.trans htrace
    exact ⟨t, eq_called hr.isFull hnodes hc hwords ▸ hr⟩
  · rintro ⟨t, hr⟩
    refine ⟨t, parse_eq_ok_iff.2 ⟨_, hr, wordsOf_called path⟩, ?_⟩
    exact hr.trace_eq.trans (called_map_node path)

end Called

end CommandGrammar
