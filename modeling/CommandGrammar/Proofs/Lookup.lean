import CommandGrammar.Parser
import CommandGrammar.Proofs.Paths

/-!
Looking commands up. Each step of a path is the name of a command, and takes the first command of
that name, whatever stands beside it; the lookup fails where a step has none, and does not go back.
A text is looked up by its words. In a tree whose commands have names of their own among their
siblings a command has one path, which leads to it and to no other.
-/

namespace CommandGrammar

/-! ### The words of a text -/

namespace Text

/-- Blanks separate the words of the characters: each word is a maximal run of other characters. -/
inductive IsSeparated : List Char → List (List Char) → Prop
  | blank {gap : List Char} : (∀ c ∈ gap, isBlank c = true) → IsSeparated gap []
  | word {gap word rest : List Char} {words : List (List Char)} :
    (∀ c ∈ gap, isBlank c = true) → word ≠ [] → (∀ c ∈ word, isBlank c = false) →
      (∀ c ∈ rest.head?, isBlank c = true) → IsSeparated rest words →
        IsSeparated (gap ++ (word ++ rest)) (word :: words)

/-- The words of a text. -/
def HasWords (text : String) (words : List String) : Prop :=
  IsSeparated text.toList (words.map String.toList)

section Words

variable {c : Char} {cs gap word rest run : List Char} {words : List (List Char)} {text : String}

/-- A blank in front belongs to no word. -/
lemma IsSeparated.cons_blank (h : IsSeparated cs words) (hc : isBlank c = true) :
    IsSeparated (c :: cs) words := by
  cases h with
  | blank hgap => exact .blank (List.forall_mem_cons.2 ⟨hc, hgap⟩)
  | @word gap word rest words hgap hne hword hrest h =>
    have hgap' : ∀ d ∈ c :: gap, isBlank d = true := List.forall_mem_cons.2 ⟨hc, hgap⟩
    exact .word hgap' hne hword hrest h

/-- No blank has to stand before the first word. -/
lemma IsSeparated.cons_word (hne : word ≠ []) (hword : ∀ c ∈ word, isBlank c = false)
    (hrest : ∀ c ∈ rest.head?, isBlank c = true) (h : IsSeparated rest words) :
    IsSeparated (word ++ rest) (word :: words) := by
  have hfirst := IsSeparated.word (List.forall_mem_nil _) hne hword hrest h
  rwa [List.nil_append] at hfirst

/-- The words found are separated by blanks; the run that was begun is the first of them, with what
goes on with it. -/
lemma isSeparated_runsAfter (cs : List Char) :
    ∀ run : List Char, (∀ c ∈ run, isBlank c = false) →
      IsSeparated (run.reverse ++ cs) (runsAfter run cs) := by
  induction cs with
  | nil =>
    intro run hrun
    by_cases hne : run = []
    · subst hne
      exact .blank (List.forall_mem_nil _)
    · have hempty : run.isEmpty = false := by simpa using hne
      rw [runsAfter, hempty]
      exact .cons_word (by simpa using hne) (by simpa using hrun) (by simp)
        (.blank (List.forall_mem_nil _))
  | cons c cs ih =>
    intro run hrun
    by_cases hc : isBlank c = true
    · have hrest : IsSeparated (c :: cs) (runsAfter [] cs) :=
        (ih [] (List.forall_mem_nil _)).cons_blank hc
      by_cases hne : run = []
      · subst hne
        simpa [runsAfter, hc] using hrest
      · have hempty : run.isEmpty = false := by simpa using hne
        rw [runsAfter, if_pos hc, hempty]
        exact .cons_word (by simpa using hne) (by simpa using hrun) (by simpa using hc) hrest
    · rw [Bool.not_eq_true] at hc
      have hlonger := ih (c :: run) (List.forall_mem_cons.2 ⟨hc, hrun⟩)
      rw [List.reverse_cons, List.append_assoc, List.singleton_append] at hlonger
      rw [runsAfter, if_neg (by simp [hc])]
      exact hlonger

lemma runsAfter_gap (hgap : ∀ c ∈ gap, isBlank c = true) (cs : List Char) :
    runsAfter [] (gap ++ cs) = runsAfter [] cs := by
  induction gap with
  | nil => rfl
  | cons c gap ih =>
    obtain ⟨hc, hgap⟩ := List.forall_mem_cons.1 hgap
    rw [List.cons_append, runsAfter, if_pos hc]
    exact ih hgap

lemma runsAfter_word (hword : ∀ c ∈ word, isBlank c = false) (run cs : List Char) :
    runsAfter run (word ++ cs) = runsAfter (word.reverse ++ run) cs := by
  induction word generalizing run with
  | nil => rfl
  | cons c word ih =>
    obtain ⟨hc, hword⟩ := List.forall_mem_cons.1 hword
    rw [List.cons_append, runsAfter, if_neg (by simp [hc]), ih hword, List.reverse_cons,
      List.append_assoc, List.singleton_append]

/-- A run that was begun ends with the text or at a blank. -/
lemma runsAfter_end (hne : run ≠ []) (hrest : ∀ c ∈ rest.head?, isBlank c = true) :
    runsAfter run rest = run.reverse :: runsAfter [] rest := by
  have hempty : run.isEmpty = false := by simpa using hne
  cases rest with
  | nil => rw [runsAfter, hempty]; rfl
  | cons c cs =>
    have hc : isBlank c = true := by simpa using hrest
    rw [runsAfter, runsAfter, if_pos hc, if_pos hc, hempty]
    rfl

/-- **The words of a text** are what its blanks separate, and nothing else is. -/
theorem isSeparated_iff : IsSeparated cs words ↔ runsAfter [] cs = words := by
  constructor
  · intro h
    induction h with
    | @blank gap hgap =>
      have hall := runsAfter_gap hgap []
      rw [List.append_nil] at hall
      exact hall
    | @word gap word rest words hgap hne hword hrest _ ih =>
      have hreverse : word.reverse ≠ [] := by simpa using hne
      rw [runsAfter_gap hgap, runsAfter_word hword, List.append_nil, runsAfter_end hreverse hrest,
        List.reverse_reverse, ih]
  · rintro rfl
    exact isSeparated_runsAfter cs [] (List.forall_mem_nil _)

lemma hasWords_iff {words : List String} : HasWords text words ↔ blankSeparated text = words := by
  rw [HasWords, isSeparated_iff, blankSeparated]
  constructor
  · intro h
    rw [h, List.map_map]
    simp [Function.comp_def]
  · rintro rfl
    rw [List.map_map]
    simp [Function.comp_def]

end Words

end Text

/-! ### Steps -/

/-- The node is the first command of the name among the siblings; what is no command is passed
over. -/
def IsFirstNamed (siblings : List Node) (name : String) (n : Node) : Prop :=
  ∃ before after, siblings = before ++ n :: after ∧ n.isCommand = true ∧ n.name = name ∧
    ∀ m ∈ before, m.isCommand = true → m.name ≠ name

/-- The steps lead to the node: each takes the first command of its name, the first step among the
siblings, and each other one among the successors of what the one before it took. -/
inductive StepsTo : List Node → List String → Node → Prop
  | last {siblings : List Node} {step : String} {n : Node} :
    IsFirstNamed siblings step n → StepsTo siblings [step] n
  | more {siblings : List Node} {step : String} {steps : List String} {m n : Node} :
    IsFirstNamed siblings step m → StepsTo m.successors steps n → StepsTo siblings (step :: steps) n

/-- The steps break off: one of them is the name of no command where the ones before it lead. -/
inductive BreaksOff : List Node → List String → Prop
  | here {siblings : List Node} {step : String} {steps : List String} :
    (∀ m ∈ siblings, m.isCommand = true → m.name ≠ step) → BreaksOff siblings (step :: steps)
  | after {siblings : List Node} {step : String} {steps : List String} {m : Node} :
    IsFirstNamed siblings step m → BreaksOff m.successors steps → BreaksOff siblings (step :: steps)

section Steps

variable {siblings : List Node} {step name : String} {steps : List String} {m n : Node}
  {root : Root} {e : PathError}

lemma commandNamed_eq_some_iff : commandNamed name siblings = some n ↔
    IsFirstNamed siblings name n := by
  rw [commandNamed, List.find?_eq_some_iff_append, IsFirstNamed]
  constructor
  · rintro ⟨hn, before, after, rfl, hbefore⟩
    rw [Bool.and_eq_true, beq_iff_eq] at hn
    refine ⟨before, after, rfl, hn.1, hn.2, fun m hm hc he => ?_⟩
    simpa [hc, he] using hbefore m hm
  · rintro ⟨before, after, rfl, hc, hname, hbefore⟩
    refine ⟨by simp [hc, hname], before, after, rfl, fun m hm => ?_⟩
    by_cases hmc : m.isCommand = true
    · simpa [hmc] using hbefore m hm hmc
    · simp [hmc]

lemma commandNamed_eq_none_iff : commandNamed name siblings = none ↔
    ∀ m ∈ siblings, m.isCommand = true → m.name ≠ name := by
  simp [commandNamed]

/-- The steps lead to the last of the commands that they find. -/
lemma stepsTo_iff : StepsTo siblings steps n ↔
    ∃ ns, Finds siblings steps ns ∧ ns.getLast? = some n := by
  constructor
  · intro h
    induction h with
    | last hn => exact ⟨_, .cons (commandNamed_eq_some_iff.2 hn) (.nil _), rfl⟩
    | more hm _ ih =>
      obtain ⟨ns, hns, hlast⟩ := ih
      refine ⟨_, .cons (commandNamed_eq_some_iff.2 hm) hns, ?_⟩
      cases ns with
      | nil => cases hlast
      | cons k ks => rwa [List.getLast?_cons_cons]
  · rintro ⟨ns, hns, hlast⟩
    induction hns with
    | nil => cases hlast
    | cons hm hns ih =>
      cases hns with
      | nil =>
        cases hlast
        exact .last (commandNamed_eq_some_iff.1 hm)
      | cons hk hks =>
        rw [List.getLast?_cons_cons] at hlast
        exact .more (commandNamed_eq_some_iff.1 hm) (ih hlast)

/-- **A path is looked up step by step.** -/
theorem Root.resolve_eq_ok_iff_stepsTo :
    root.resolve steps = .ok n ↔ StepsTo root.successors steps n :=
  resolve_eq_ok_iff.trans stepsTo_iff.symm

/-- Steps break off at the first of them, or after the command that it takes. -/
lemma breaksOff_cons_iff : BreaksOff siblings (step :: steps) ↔
    ∀ m, commandNamed step siblings = some m → BreaksOff m.successors steps := by
  constructor
  · intro h m hm
    cases h with
    | here hnone => cases hm.symm.trans (commandNamed_eq_none_iff.2 hnone)
    | after hk h =>
      cases hm.symm.trans (commandNamed_eq_some_iff.2 hk)
      exact h
  · intro h
    cases hfirst : commandNamed step siblings with
    | none => exact .here (commandNamed_eq_none_iff.1 hfirst)
    | some m => exact .after (commandNamed_eq_some_iff.1 hfirst) (h m hfirst)

lemma descend_eq_none_iff : m.descend steps = none ↔ BreaksOff m.successors steps := by
  induction steps generalizing m with
  | nil =>
    constructor
    · intro h
      cases h
    · intro h
      cases h
  | cons step steps ih =>
    rw [Node.descend, breaksOff_cons_iff]
    cases commandNamed step m.successors with
    | none => simp
    | some next => simp [ih]

/-- **A lookup fails** when there is no step, and when a step breaks off; it tells of the whole
path. -/
theorem Root.resolve_eq_error_iff : root.resolve steps = .error e ↔
    (steps = [] ∧ e = .empty) ∨ BreaksOff root.successors steps ∧ e = .unknown steps := by
  cases steps with
  | nil =>
    constructor
    · intro h
      cases h
      exact .inl ⟨rfl, rfl⟩
    · rintro (⟨-, rfl⟩ | ⟨h, -⟩)
      · rfl
      · cases h
  | cons step steps =>
    rw [resolve, breaksOff_cons_iff]
    cases hfirst : commandNamed step root.successors with
    | none => simp [eq_comm]
    | some first =>
      have hrest : first.descend steps = none ↔ BreaksOff first.successors steps :=
        descend_eq_none_iff
      cases hlast : first.descend steps with
      | none => simp [hlast, hrest.1 hlast, eq_comm]
      | some n =>
        have hnot : ¬ BreaksOff first.successors steps := fun h => by
          cases hlast.symm.trans (hrest.2 h)
        simp [hlast, hnot]

end Steps

/-! ### Paths given as values -/

section Values

variable {root : Root} {value : Value} {steps : List String} {text : String}

lemma firstOtherThanText?_eq_none (steps : List String) (place : Nat) :
    firstOtherThanText? place (steps.map .text) = none := by
  induction steps generalizing place with
  | nil => rfl
  | cons step steps ih => exact ih (place + 1)

/-- A collection of names is looked up as the names are. -/
lemma Root.resolveValue_of_collection (h : value.collection? = some (steps.map .text)) :
    root.resolveValue value = (root.resolve steps).mapError .path := by
  have helements : value.elements? = some (steps.map .text) ∧ ∀ s, value ≠ .text s := by
    cases value with
    | text s => cases h
    | _ => exact ⟨h, fun s hs => by cases hs⟩
  have htexts : (steps.map Value.text).filterMap Value.text? = steps := by
    rw [List.filterMap_map]
    exact List.filterMap_some
  unfold resolveValue
  split
  · next s => exact absurd rfl (helements.2 s)
  · rw [helements.1]
    dsimp only
    rw [firstOtherThanText?_eq_none, htexts]

/-- A text is looked up as its words are. -/
lemma Root.resolveValue_of_hasWords (h : Text.HasWords text steps) :
    root.resolveValue (.text text) = (root.resolve steps).mapError .path := by
  rw [resolveValue, resolveText, Text.hasWords_iff.1 h]

end Values

/-! ### Names of their own -/

/-- The commands among the siblings have different names. -/
def NamesApart (siblings : List Node) : Prop :=
  ((siblings.filter Node.isCommand).map Node.name).Nodup

instance (siblings : List Node) : Decidable (NamesApart siblings) :=
  inferInstanceAs (Decidable (List.Nodup _))

/-- A tree of different nodes, in which commands beside each other have different names. -/
structure Root.IsNamed (root : Root) : Prop where
  walk_nodup : root.walk.Nodup
  namesApart : NamesApart root.successors
  namesApart_successors : ∀ n ∈ root.walk, NamesApart n.successors

instance (root : Root) : Decidable root.IsNamed :=
  decidable_of_iff
    (root.walk.Nodup ∧ NamesApart root.successors ∧ ∀ n ∈ root.walk, NamesApart n.successors)
    ⟨fun ⟨h, h', h''⟩ => ⟨h, h', h''⟩, fun ⟨h, h', h''⟩ => ⟨h, h', h''⟩⟩

/-- The steps are the names of commands, one below another, that lead down to the node. -/
def Root.IsNamePath (root : Root) (steps : List String) (n : Node) : Prop :=
  ∃ path, IsDescent root.successors path ∧ (∀ c ∈ path, c.isCommand = true) ∧
    path.getLast? = some n ∧ path.map Node.name = steps

section Named

variable {root : Root} {siblings path other : List Node} {m n : Node} {steps : List String}

/-- A command that has its name for itself is the first of that name. -/
lemma isFirstNamed_of_mem (hs : NamesApart siblings) (hn : n ∈ siblings)
    (hc : n.isCommand = true) : IsFirstNamed siblings n.name n := by
  obtain ⟨before, after, rfl⟩ := List.append_of_mem hn
  refine ⟨before, after, rfl, hc, rfl, fun m hm hmc hname => ?_⟩
  have hsplit : ((before ++ n :: after).filter Node.isCommand).map Node.name =
      (before.filter Node.isCommand).map Node.name ++
        n.name :: (after.filter Node.isCommand).map Node.name := by
    rw [List.filter_append, List.filter_cons_of_pos hc, List.map_append, List.map_cons]
  have hapart := hs
  rw [NamesApart, hsplit, List.nodup_append'] at hapart
  have hbefore : m.name ∈ (before.filter Node.isCommand).map Node.name :=
    List.mem_map_of_mem (List.mem_filter.2 ⟨hm, hmc⟩)
  exact hapart.2.2 hbefore (hname ▸ List.mem_cons_self)

/-- The names of commands that lead down are steps to the last of them. -/
lemma IsDescent.stepsTo (h : IsDescent siblings path) (hs : NamesApart siblings)
    (hwalk : ∀ k ∈ Node.walkAll siblings, NamesApart k.successors)
    (hc : ∀ c ∈ path, c.isCommand = true) (hlast : path.getLast? = some n) :
    StepsTo siblings (path.map Node.name) n := by
  induction path generalizing siblings with
  | nil => cases hlast
  | cons c cs ih =>
    obtain ⟨hmem, hdescent⟩ := h
    obtain ⟨hcc, hcs⟩ := List.forall_mem_cons.1 hc
    have hfirst := isFirstNamed_of_mem hs hmem hcc
    cases cs with
    | nil =>
      cases hlast
      exact .last hfirst
    | cons d ds =>
      rw [List.getLast?_cons_cons] at hlast
      have hc' := hwalk c (Node.mem_walkAll_of_mem hmem)
      have hwalk' : ∀ k ∈ Node.walkAll c.successors, NamesApart k.successors := fun k hk =>
        hwalk k (Node.walk_subset_walkAll hmem (Node.walkAll_subset_walk c hk))
      exact .more hfirst (ih hdescent hc' hwalk' hcs hlast)

/-- A way that ends at a node ends at its first one, or goes on below that. -/
lemma getLast?_cons_cases {c : Node} {cs : List Node} (h : (c :: cs).getLast? = some n) :
    cs = [] ∧ n = c ∨ cs.getLast? = some n := by
  cases cs with
  | nil =>
    cases h
    exact .inl ⟨rfl, rfl⟩
  | cons d ds =>
    rw [List.getLast?_cons_cons] at h
    exact .inr h

lemma IsDescent.mem_walk {c : Node} {cs : List Node} (h : IsDescent c.successors cs)
    (hlast : (c :: cs).getLast? = some n) : n ∈ c.walk := by
  rcases getLast?_cons_cases hlast with ⟨-, rfl⟩ | hlast
  · exact n.mem_walk_self
  · exact Node.walkAll_subset_walk c (h.mem_walkAll n (List.mem_of_getLast? hlast))

/-- In a tree of different nodes only one way leads down to a node. -/
lemma IsDescent.unique (h : IsDescent siblings path) (h' : IsDescent siblings other)
    (hd : (Node.walkAll siblings).Nodup) (hlast : path.getLast? = some n)
    (hlast' : other.getLast? = some n) : other = path := by
  induction path generalizing siblings other with
  | nil => cases hlast
  | cons c cs ih =>
    cases other with
    | nil => cases hlast'
    | cons d ds =>
      obtain ⟨hc, hcs⟩ := h
      obtain ⟨hd', hds⟩ := h'
      -- the node is in the walks of both first nodes, which are disjoint unless they are the same
      have hsame : d = c := by
        by_contra hne
        exact Node.walk_disjoint hd hd' hc hne (hds.mem_walk hlast') (hcs.mem_walk hlast)
      subst hsame
      obtain ⟨hself, hbelow⟩ := Node.nodup_walkAll_successors hd hd'
      rcases getLast?_cons_cases hlast with ⟨rfl, rfl⟩ | hrest
      · rcases getLast?_cons_cases hlast' with ⟨rfl, -⟩ | hrest'
        · rfl
        · exact absurd (hds.mem_walkAll n (List.mem_of_getLast? hrest')) hself
      · rcases getLast?_cons_cases hlast' with ⟨-, rfl⟩ | hrest'
        · exact absurd (hcs.mem_walkAll n (List.mem_of_getLast? hrest)) hself
        · rw [ih hcs hds hbelow hrest hrest']

/-- **The names on the way to a command lead to it.** -/
theorem Root.IsNamePath.resolve_eq (h : root.IsNamePath steps n) (hn : root.IsNamed) :
    root.resolve steps = .ok n := by
  obtain ⟨path, hdescent, hc, hlast, rfl⟩ := h
  exact resolve_eq_ok_iff_stepsTo.2
    (hdescent.stepsTo hn.namesApart hn.namesApart_successors hc hlast)

/-- A command has one path of names. -/
lemma Root.IsNamePath.unique {others : List String} (h : root.IsNamePath steps n)
    (h' : root.IsNamePath others n) (hn : root.IsNamed) : others = steps := by
  obtain ⟨path, hdescent, -, hlast, rfl⟩ := h
  obtain ⟨other, hdescent', -, hlast', rfl⟩ := h'
  rw [hdescent.unique hdescent' hn.walk_nodup hlast hlast']

end Named

/-! ### Lookups -/

/-- **Looking a path up undoes naming.** Over any root a path is looked up step by step: each step
takes the first command of its name, and the lookup fails when there is no step or one breaks off. A
text is looked up as its words are, and any other collection of names as the names are. So in a tree
of different nodes whose commands have names of their own among their siblings, the names on the way
to a command are one path, which leads to this command and is the path of no other. -/
theorem Root.resolve_paths (root : Root) :
    (∀ steps n, root.resolve steps = .ok n ↔ StepsTo root.successors steps n) ∧
    (∀ steps e, root.resolve steps = .error e ↔
      (steps = [] ∧ e = .empty) ∨ BreaksOff root.successors steps ∧ e = .unknown steps) ∧
    (∀ value steps, value.collection? = some (steps.map .text) →
      root.resolveValue value = (root.resolve steps).mapError .path) ∧
    (∀ text, (∃! steps, Text.HasWords text steps) ∧ ∀ steps, Text.HasWords text steps →
      root.resolveValue (.text text) = (root.resolve steps).mapError .path) ∧
    (root.IsNamed → ∀ n steps, root.IsNamePath steps n → root.resolve steps = .ok n ∧
      (∀ others, root.IsNamePath others n → others = steps) ∧
      ∀ m, m ≠ n → ¬ root.IsNamePath steps m) := by
  refine ⟨fun steps n => resolve_eq_ok_iff_stepsTo, fun steps e => resolve_eq_error_iff,
    fun value steps => resolveValue_of_collection, fun text => ⟨?_, fun steps h => ?_⟩,
    fun hn n steps h => ⟨h.resolve_eq hn, fun others h' => h.unique h' hn, fun m hm h' => ?_⟩⟩
  · exact ⟨_, Text.hasWords_iff.2 rfl, fun words h => (Text.hasWords_iff.1 h).symm⟩
  · exact resolveValue_of_hasWords h
  · have hsame : (.ok m : Except PathError Node) = .ok n :=
      (h'.resolve_eq hn).symm.trans (h.resolve_eq hn)
    exact hm (Except.ok.inj hsame)

/-! ### Commands of one name -/

namespace Nesting

/-- A flag with the name of a command. -/
def flag : Node :=
  .mk { number := 0, name := "port", help := none, isHidden := false
        priority := priorityOfKind (some .flag)
        role := .parameter { kind := some .flag, aliases := [], repeatable := false
                             required := false } } [] []

/-- A command that holds no other, with the number. -/
def port (number : Nat) : Node :=
  .mk { number, name := "port", help := none, isHidden := false, priority := defaultPriority
        role := .command none } [] []

/-- A command of the name that offers the parameters and then a command that holds no other. -/
def group (name : String) (number : Nat) (parameters : List Node) : Node :=
  .mk { number := number + 1, name, help := none, isHidden := false, priority := defaultPriority
        role := .command none } parameters (parameters ++ [port number])

/-- Two commands, each with a command of the same name below it. -/
def root : Root := ⟨[group "show" 1 [flag], group "set" 3 []], by simp [group]; decide⟩

end Nesting

open Nesting in
/-- Below either of two commands a command has its own path, the flag of its name notwithstanding;
beginnings of names lead nowhere. -/
theorem Root.resolve_paths_port : root.IsNamed ∧ root.IsNamePath ["show", "port"] (port 1) ∧
    root.resolve ["show", "port"] = .ok (port 1) ∧
    ¬ root.IsNamePath ["show", "port"] (port 3) ∧
    root.resolveValue (.tuple [.text "set", .text "port"]) = .ok (port 3) ∧
    root.resolveValue (.text "\tset  port\n") = .ok (port 3) ∧
    root.resolve ["show", "po"] = .error (.unknown ["show", "po"]) ∧
    root.resolve [] = .error .empty := by
  obtain ⟨hok, herror, hcollection, htext, hnamed⟩ := resolve_paths Nesting.root
  have hn : Nesting.root.IsNamed := by decide +kernel
  have hfirst : Nesting.root.IsNamePath ["show", "port"] (port 1) :=
    ⟨[group "show" 1 [flag], port 1], by decide +kernel, by decide +kernel, rfl, rfl⟩
  have hsecond : Nesting.root.IsNamePath ["set", "port"] (port 3) :=
    ⟨[group "set" 3 [], port 3], by decide +kernel, by decide +kernel, rfl, rfl⟩
  obtain ⟨hshow, -, hother⟩ := hnamed hn _ _ hfirst
  obtain ⟨hset, -, -⟩ := hnamed hn _ _ hsecond
  have hmapped : (Nesting.root.resolve ["set", "port"]).mapError Failure.path = .ok (port 3) := by
    rw [hset]
    rfl
  have hwords : Text.HasWords "\tset  port\n" ["set", "port"] :=
    Text.hasWords_iff.2 (by decide +kernel)
  refine ⟨hn, hfirst, hshow, hother _ (by decide +kernel), (hcollection _ _ rfl).trans hmapped,
    ((htext _).2 _ hwords).trans hmapped, (herror _ _).2 (.inr ⟨?_, rfl⟩),
    (herror _ _).2 (.inl ⟨rfl, rfl⟩)⟩
  exact .after (isFirstNamed_of_mem hn.namesApart List.mem_cons_self (by decide))
    (.here (by decide +kernel))

end CommandGrammar
