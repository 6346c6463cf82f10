import CommandGrammar.Matching.Inspect
import CommandGrammar.Proofs.Descriptions
import CommandGrammar.Proofs.Frontier
import CommandGrammar.Proofs.Lines
import CommandGrammar.Proofs.Names

/-!
Which parameter a name stands for. Commands that enclose one another may declare parameters of one
name. A handler is given the innermost of those that were matched: one of the matched command goes
over those of the commands around it, whatever their kinds.
-/

namespace CommandGrammar

/-! ### Lookups -/

section Find

variable {α : Type} {l : List α} {o P : α → Bool}

/-- Looking up among some of the values first finds what looking up among all does, if the first
value found is one of them wherever there is one among them. -/
lemma find?_filter_or (h : ∀ a, l.find? P = some a → o a = false → ∀ b ∈ l, P b = true → o b = false) :
    ((l.filter o).find? P).or ((l.filter fun a => !o a).find? P) = l.find? P := by
  induction l with
  | nil => rfl
  | cons a l ih =>
    cases hP : P a with
    | false =>
      have hrest := ih fun b hb hob c hc =>
        h b (by rwa [List.find?_cons_of_neg (by simp [hP])]) hob c (List.mem_cons_of_mem a hc)
      rw [List.find?_cons_of_neg (by simp [hP]), ← hrest]
      cases ho : o a <;> simp [ho, hP]
    | true =>
      have hfound : (a :: l).find? P = some a := List.find?_cons_of_pos hP
      rw [hfound]
      cases ho : o a with
      | true => simp [ho, hP]
      | false =>
        have hnone : ((a :: l).filter o).find? P = none := by
          rw [List.find?_eq_none]
          intro b hb hPb
          obtain ⟨hbl, hob⟩ := List.mem_filter.1 hb
          cases (h a hfound ho b hbl hPb).symm.trans hob
        rw [hnone, Option.none_or, List.filter_cons_of_pos (by simp [ho]),
          List.find?_cons_of_pos hP]

end Find

namespace State

variable {s t : State} {g : Group} {gs : List Group} {name : String} {p : Node}

/-! ### The innermost parameter of a name -/

/-- The parameters matched, in the order of their first matches. -/
def bound (s : State) : List Node := (s.trace.filter Node.isParameter).eraseDups

/-- The parameter of the name that was matched for the innermost command that has one. -/
def innermost? (s : State) (name : String) : Option Node :=
  s.path.reverse.findSome? fun c => c.parameters.find? fun p => p.name = name ∧ p ∈ s.bound

/-- The parameter has the name and was matched, a command of the line declares it, and no command
below that one has a parameter of the name that was matched. -/
def IsInnermost (s : State) (name : String) (p : Node) : Prop :=
  ∃ outer c inner, s.path = outer ++ c :: inner ∧ p ∈ c.parameters ∧ p.name = name ∧
    p ∈ s.trace ∧ ∀ d ∈ inner, ∀ q ∈ d.parameters, q.name = name → q ∉ s.trace

/-- A parameter of the matched command goes over those of the commands around it. -/
lemma isInnermost_of_command {c : Node} (hlast : s.command = s.path.getLast?)
    (hc : s.command = some c) (hp : p ∈ c.parameters) (hmem : p ∈ s.trace) :
    s.IsInnermost p.name p := by
  obtain ⟨outer, houter⟩ := List.getLast?_eq_some_iff.1 (hlast.symm.trans hc)
  exact ⟨outer, c, [], houter, hp, rfl, hmem, by simp⟩

lemma mem_bound : p ∈ s.bound ↔ p ∈ s.trace ∧ p.isParameter = true := by
  rw [bound, List.mem_eraseDups, List.mem_filter]

/-- How the commands of a line declare parameters: their nodes are parameters, and those of one
command have different names. -/
structure Declares (s : State) : Prop where
  areParameters : ∀ c ∈ s.path, ∀ p ∈ c.parameters, p.isParameter = true
  nodup_names : ∀ c ∈ s.path, (c.parameters.map Node.name).Nodup

namespace Declares

variable (h : s.Declares)

include h

/-- What looking for a name among the parameters of a command finds. -/
lemma find?_eq_some_iff {c : Node} (hc : c ∈ s.path) :
    (c.parameters.find? fun p => p.name = name ∧ p ∈ s.bound) = some p ↔
      p ∈ c.parameters ∧ p.name = name ∧ p ∈ s.trace := by
  constructor
  · intro hfind
    have hp := List.mem_of_find?_eq_some hfind
    have hfound := List.find?_some hfind
    obtain ⟨hname, hbound⟩ := of_decide_eq_true hfound
    exact ⟨hp, hname, (mem_bound.1 hbound).1⟩
  · rintro ⟨hp, hname, htrace⟩
    have hbound : p ∈ s.bound := mem_bound.2 ⟨htrace, h.areParameters c hc p hp⟩
    cases hfind : c.parameters.find? fun p => p.name = name ∧ p ∈ s.bound with
    | none =>
      have := List.find?_eq_none.1 hfind p hp
      simp [hname, hbound] at this
    | some q =>
      have hq := List.mem_of_find?_eq_some hfind
      have hfound := List.find?_some hfind
      have hqname := (of_decide_eq_true hfound).1
      rw [List.inj_on_of_nodup_map (h.nodup_names c hc) hq hp (hqname.trans hname.symm)]

lemma find?_eq_none_iff {c : Node} (hc : c ∈ s.path) :
    (c.parameters.find? fun p => p.name = name ∧ p ∈ s.bound) = none ↔
      ∀ q ∈ c.parameters, q.name = name → q ∉ s.trace := by
  rw [List.find?_eq_none]
  refine forall₂_congr fun q hq => ?_
  simp [mem_bound, h.areParameters c hc q hq]

/-- The parameter that a name stands for is the innermost one of the name. -/
theorem innermost?_eq_some_iff : s.innermost? name = some p ↔ s.IsInnermost name p := by
  unfold innermost?
  rw [List.findSome?_eq_some_iff]
  constructor
  · rintro ⟨inner, c, outer, hpath, hfind, hnone⟩
    have hpath' : s.path = outer.reverse ++ c :: inner.reverse := by
      rw [← List.reverse_reverse s.path, hpath]
      simp
    have hc : c ∈ s.path := by simp [hpath']
    obtain ⟨hp, hname, htrace⟩ := (h.find?_eq_some_iff hc).1 hfind
    refine ⟨outer.reverse, c, inner.reverse, hpath', hp, hname, htrace, fun d hd => ?_⟩
    have hd' : d ∈ s.path := by simp [hpath', List.mem_reverse.1 hd]
    exact (h.find?_eq_none_iff hd').1 (hnone d (List.mem_reverse.1 hd))
  · rintro ⟨outer, c, inner, hpath, hp, hname, htrace, hnone⟩
    have hc : c ∈ s.path := by simp [hpath]
    refine ⟨inner.reverse, c, outer.reverse, by simp [hpath],
      (h.find?_eq_some_iff hc).2 ⟨hp, hname, htrace⟩, fun d hd => ?_⟩
    have hd' : d ∈ s.path := by simp [hpath, List.mem_reverse.1 hd]
    exact (h.find?_eq_none_iff hd').2 (hnone d (List.mem_reverse.1 hd))

lemma mem_bound_of_isInnermost (hp : s.IsInnermost name p) : p ∈ s.bound := by
  obtain ⟨outer, c, inner, hpath, hpc, -, htrace, -⟩ := hp
  exact mem_bound.2 ⟨htrace, h.areParameters c (by simp [hpath]) p hpc⟩

/-- A name stands for a parameter when some command has one of the name that was matched. -/
lemma exists_isInnermost_iff : (∃ p, s.IsInnermost name p) ↔
    ∃ c ∈ s.path, ∃ p ∈ c.parameters, p.name = name ∧ p ∈ s.trace := by
  constructor
  · rintro ⟨p, outer, c, inner, hpath, hp, hname, htrace, -⟩
    exact ⟨c, by simp [hpath], p, hp, hname, htrace⟩
  · rintro ⟨c, hc, p, hp, hname, htrace⟩
    cases hinner : s.innermost? name with
    | some q => exact ⟨q, h.innermost?_eq_some_iff.1 hinner⟩
    | none =>
      have hnone := List.findSome?_eq_none_iff.1 hinner c (List.mem_reverse.2 hc)
      exact absurd htrace ((h.find?_eq_none_iff hc).1 hnone p hp hname)

end Declares

/-- The commands of a line over a tree declare parameters as the nodes of the tree do. -/
lemma IsSettled.declares (h : s.IsSettled) (ht : s.root.IsTree)
    (hn : ∀ n ∈ s.root.walk, (n.parameters.map Node.name).Nodup) : s.Declares where
  areParameters := fun c hc => (ht.isBuilt c (h.isDescent.mem_walkAll c hc)).areParameters
  nodup_names := fun c hc => hn c (h.isDescent.mem_walkAll c hc)

/-! ### Steps -/

lemma bound_after_of_isCommand (hc : g.node.isCommand = true) : (s.after g).bound = s.bound := by
  rw [bound, after_trace, List.filter_append, List.filter_singleton]
  simp [Node.isParameter, hc, bound]

lemma bound_after_of_isParameter (hc : g.node.isCommand = false) :
    (s.after g).bound = if g.node ∈ s.bound then s.bound else s.bound ++ [g.node] := by
  have hp : g.node.isParameter = true := Node.isParameter_iff.2 hc
  rw [bound, after_trace, List.filter_append, List.filter_singleton, hp, cond_true, eraseDups_concat]
  simp only [bound, List.mem_eraseDups]

/-- A command keeps what names stand for, since none of its own parameters was matched yet. -/
lemma innermost?_after_of_isCommand (h : s.IsSettled) (hg : s.Accepts g)
    (hc : g.node.isCommand = true) (name : String) :
    (s.after g).innermost? name = s.innermost? name := by
  have hbuilt := h.isBuilt g.node (Node.mem_walkAll_of_mem (h.mem_siblings hg))
  have hnew : (g.node.parameters.find? fun p => p.name = name ∧ p ∈ s.bound) = none := by
    rw [List.find?_eq_none]
    intro p hp hfound
    obtain ⟨-, hbound⟩ := of_decide_eq_true hfound
    refine h.trace_past hg hc p (List.mem_append_left _ (mem_bound.1 hbound).1) ?_
    exact Node.mem_walkAll_of_mem (hbuilt.mem_successors hp)
  rw [innermost?, bound_after_of_isCommand hc, after_path, if_pos hc, List.reverse_concat,
    List.findSome?_cons, hnew]
  rfl

/-- A parameter that is matched for the first time is what its name stands for from then on. -/
lemma innermost?_after_of_isParameter (h : s.IsSettled) (hd : (s.after g).Declares)
    (hg : s.Accepts g) (hc : g.node.isCommand = false) (name : String) :
    (s.after g).innermost? name =
      if g.node.name = name ∧ g.node ∉ s.bound then some g.node else s.innermost? name := by
  have hpath : (s.after g).path = s.path := by rw [after_path, if_neg (by simp [hc])]
  by_cases hmem : g.node ∈ s.bound
  · have hbound := bound_after_of_isParameter (s := s) hc
    rw [if_pos hmem] at hbound
    rw [if_neg fun h => h.2 hmem, innermost?, hbound, hpath]
    rfl
  by_cases hname : g.node.name = name
  · -- the command in force comes first, and declares no other parameter of the name
    obtain ⟨c, hcommand, hdeclared⟩ := h.exists_command hg hc
    rw [h.command_eq] at hcommand
    obtain ⟨outer, houter⟩ := List.getLast?_eq_some_iff.1 hcommand
    have hmemc : c ∈ (s.after g).path := by simp [hpath, houter]
    have hfind := (hd.find?_eq_some_iff hmemc).2 ⟨hdeclared, hname, by simp [after_trace]⟩
    rw [if_pos ⟨hname, hmem⟩, innermost?, hpath, houter, List.reverse_concat, List.findSome?_cons,
      hfind]
  · have hsame : ∀ p : Node, (p.name = name ∧ p ∈ (s.after g).bound) ↔
        (p.name = name ∧ p ∈ s.bound) := by
      intro p
      rw [bound_after_of_isParameter hc, if_neg hmem, List.mem_append, List.mem_singleton]
      refine and_congr_right fun hp => or_iff_left ?_
      rintro rfl
      exact hname hp
    rw [if_neg fun h => hname h.1, innermost?, hpath]
    simp only [hsame]
    rfl

/-- Names stand for the parameters that were bound last. -/
def FollowsNames (s : State) : Prop :=
  ∀ name, (s.bound.reverse.find? fun p => p.name = name) = s.innermost? name

/-- **One step:** the parameter of a name that is bound last stays the innermost one. -/
theorem FollowsNames.after (hs : s.FollowsNames) (h : s.IsSettled) (hd : (s.after g).Declares)
    (hg : s.Accepts g) : (s.after g).FollowsNames := by
  intro name
  cases hc : g.node.isCommand with
  | true =>
    rw [bound_after_of_isCommand hc, innermost?_after_of_isCommand h hg hc]
    exact hs name
  | false =>
    rw [bound_after_of_isParameter hc, innermost?_after_of_isParameter h hd hg hc]
    by_cases hmem : g.node ∈ s.bound
    · rw [if_pos hmem, if_neg fun h => h.2 hmem]
      exact hs name
    · rw [if_neg hmem, List.reverse_concat]
      by_cases hname : g.node.name = name
      · rw [List.find?_cons_of_pos (by simpa using hname), if_pos ⟨hname, hmem⟩]
      · rw [List.find?_cons_of_neg (by simpa using hname), if_neg fun h => hname h.1]
        exact hs name

/-- **A run:** what a name stands for is the parameter of the name that was bound last. -/
theorem Reaches.followsNames {root : Root} (h : (start root).Reaches gs s) (ht : root.IsTree)
    (hn : ∀ n ∈ root.walk, (n.parameters.map Node.name).Nodup) : s.FollowsNames := by
  have hrun : s.IsSettled ∧ s.root = root ∧ s.FollowsNames := by
    refine h.invariant (P := fun u => u.IsSettled ∧ u.root = root ∧ u.FollowsNames) ?_
      ⟨isSettled_start ht, rfl, fun _ => rfl⟩
    rintro u g ⟨hu, rfl, hfollows⟩ hg
    have hd : (u.after g).Declares := by
      refine (hu.after hg).declares ?_ ?_
      · rwa [after_root]
      · rwa [after_root]
    exact ⟨hu.after hg, after_root u g, hfollows.after hu hd hg⟩
  exact hrun.2.2

/-! ### Names -/

lemma Reaches.parametersOf_eq {root : Root} (h : (start root).Reaches gs s) :
    parametersOf gs = s.bound := by
  rw [parametersOf, bound, h.trace_of_start]

/-- No name has two values. -/
lemma nodup_names (s : State) : (s.names.map Prod.fst).Nodup := by
  have hnil : (([] : Namespace).map Prod.fst).Nodup := List.nodup_nil
  exact Entries.nodup_setAll (Entries.nodup_setAll hnil _) _

lemma owns_iff : s.owns p = true ↔ ∃ c, s.command = some c ∧ p ∈ c.parameters := by
  unfold owns
  cases s.command <;> simp

/-- **Names stand for innermost parameters.** The value of a name is what the innermost parameter of
the name is bound to. -/
theorem FollowsNames.get?_names (hf : s.FollowsNames) (h : s.command = s.path.getLast?)
    (hd : s.Declares) {f : Node → Binding} (hb : s.bindings = s.bound.map fun p => (p, f p))
    (name : String) : s.names.get? name = (s.innermost? name).map f := by
  have hget : ∀ o : Node → Bool,
      Entries.get? (Bindings.byName (s.bindings.filter fun entry => o entry.1)).reverse name =
        ((s.bound.reverse.filter o).find? fun p => p.name = name).map f := by
    intro o
    rw [hb, List.filter_map, Bindings.byName, List.map_map, ← List.map_reverse,
      ← List.filter_reverse]
    exact Entries.get?_map_find? _ Node.name f name
  have hfirst : ∀ p, (s.bound.reverse.find? fun p => p.name = name) = some p →
      s.owns p = false → ∀ q ∈ s.bound.reverse, decide (q.name = name) = true →
        s.owns q = false := by
    intro p hp hop q hq hname
    by_contra hoq
    rw [Bool.not_eq_false] at hoq
    obtain ⟨c, hc, hqc⟩ := owns_iff.1 hoq
    have hmem := (mem_bound.1 (List.mem_reverse.1 hq)).1
    have hinner := hd.innermost?_eq_some_iff.2 (isInnermost_of_command h hc hqc hmem)
    rw [of_decide_eq_true hname, ← hf name, hp] at hinner
    cases hinner
    cases hop.symm.trans hoq
  have hnone : Entries.get? ([] : Namespace) name = none := rfl
  rw [names_eq, Entries.get?_setAll, Entries.get?_setAll, hget s.owns, hget fun p => !s.owns p,
    hnone, Option.or_none, ← Option.map_or, find?_filter_or hfirst, hf name]

/-! ### Runs over a tree -/

section Run

variable {root : Root} (h : (start root).Reaches gs s) (ht : root.IsTree)
  (hn : ∀ n ∈ root.walk, (n.parameters.map Node.name).Nodup)

include h

lemma Reaches.get?_bindings_of_mem_bound (hp : p ∈ s.bound) :
    s.bindings.get? p = some (.gathered p (itemsOf gs p)) := by
  rw [h.bindings_eq]
  exact Bindings.get?_gathered (h.parametersOf_eq ▸ hp)

include ht hn

lemma Reaches.declares : s.Declares := by
  have hroot : s.root = root := h.root_eq
  exact (h.isSettled (isSettled_start ht)).declares (hroot ▸ ht) (hroot ▸ hn)

lemma Reaches.get?_names (name : String) : s.names.get? name =
    (s.innermost? name).map fun p => .gathered p (itemsOf gs p) := by
  refine (h.followsNames ht hn).get?_names (h.command_eq rfl) (h.declares ht hn) ?_ name
  rw [h.bindings_eq, Bindings.gathered, h.parametersOf_eq]

lemma Reaches.get?_names_of_isInnermost (hp : s.IsInnermost name p) :
    s.names.get? name = some (.gathered p (itemsOf gs p)) := by
  rw [h.get?_names ht hn, (h.declares ht hn).innermost?_eq_some_iff.2 hp]
  rfl

/-- **The value of a name** is what the innermost parameter of the name is bound to. -/
theorem Reaches.get?_names_eq_some_iff {b : Binding} : s.names.get? name = some b ↔
    ∃ p, s.IsInnermost name p ∧ s.bindings.get? p = some b := by
  have hd := h.declares ht hn
  constructor
  · intro hb
    rw [h.get?_names ht hn] at hb
    obtain ⟨p, hinner, rfl⟩ := Option.map_eq_some_iff.1 hb
    have hp := hd.innermost?_eq_some_iff.1 hinner
    exact ⟨p, hp, h.get?_bindings_of_mem_bound (hd.mem_bound_of_isInnermost hp)⟩
  · rintro ⟨p, hp, hb⟩
    rw [h.get?_names_of_isInnermost ht hn hp, ← hb,
      h.get?_bindings_of_mem_bound (hd.mem_bound_of_isInnermost hp)]

/-- A name has a value when some command has a parameter of the name that was matched. -/
lemma Reaches.exists_get?_names_iff : (∃ b, s.names.get? name = some b) ↔
    ∃ c ∈ s.path, ∃ p ∈ c.parameters, p.name = name ∧ p ∈ s.trace := by
  rw [← (h.declares ht hn).exists_isInnermost_iff]
  constructor
  · rintro ⟨b, hb⟩
    obtain ⟨p, hp, -⟩ := (h.get?_names_eq_some_iff ht hn).1 hb
    exact ⟨p, hp⟩
  · rintro ⟨p, hp⟩
    exact ⟨_, h.get?_names_of_isInnermost ht hn hp⟩

end Run

end State

/-! ### What handlers are given -/

namespace Binding

variable {p : Node}

lemma frozen_gathered_of_isRepeatable (h : p.isRepeatable = true) (items : List Item) :
    (gathered p items).frozen = .tuple (items.map Item.value) := by
  rw [gathered, if_pos h]
  rfl

lemma frozen_gathered_singleton (h : p.isRepeatable = false) (item : Item) :
    (gathered p [item]).frozen = item.value := by
  rw [gathered, if_neg (by simp [h])]
  cases item <;> rfl

end Binding

lemma Namespace.get?_frozen (names : Namespace) (name : String) :
    names.frozen.get? name = (names.get? name).map Binding.frozen :=
  Entries.get?_map_values names Binding.frozen name

/-- A parameter that was matched and may not be repeated has one item. -/
lemma State.IsSettled.exists_itemsOf_eq {root : Root} {s : State} {gs : List Group} {p : Node}
    (hs : s.IsSettled) (h : (start root).Reaches gs s) (hp : p ∈ s.bound)
    (hr : p.isRepeatable = false) : ∃ item, itemsOf gs p = [item] := by
  obtain ⟨hmem, hparameter⟩ := mem_bound.1 hp
  have hone := hs.count_le_one p hparameter hr
  have hpos := List.count_pos_iff.2 hmem
  refine List.length_eq_one_iff.1 ?_
  rw [itemsOf_length, ← h.trace_of_start]
  omega

/-! ### Commands that enclose others -/

namespace Nested

/-- A positional parameter. -/
def target (isRepeatable : Bool) : Parameter where
  name := "x"
  kind := .simple
  aliases := []
  help := none
  isRequired := false
  isRepeatable
  priority := none
  isHidden := false

/-- A named parameter. -/
def label (isRequired : Bool) : Parameter where
  name := "--name"
  kind := .named
  aliases := []
  help := none
  isRequired
  isRepeatable := false
  priority := none
  isHidden := false

/-- A plain command, with its handler. -/
def command (name : String) (handler : Handler) (parameters : List Parameter)
    (commands : List Command) : Command :=
  .mk {
    name, help := none, handler := some handler, wraps := none, priority := defaultPriority
    isHidden := false } parameters commands

/-- A command that may take several targets. -/
def detail : Command := command "detail" 1 [target true] []

/-- A command that needs a label. -/
def port : Command := command "port" 2 [label true] []

/-- A command with a target and a label, around others that have one of them too. -/
def registry : Registry := ⟨[command "show" 0 [target false, label false] [detail, port]]⟩

lemma isAccepted_target (isRepeatable : Bool) : (target isRepeatable).IsAccepted :=
  ⟨{ name := .text "x", repeatable := .truth isRepeatable }, rfl⟩

lemma isAccepted_label (isRequired : Bool) : (label isRequired).IsAccepted :=
  ⟨{ name := .text "--name", kind := .text "named", required := .truth isRequired }, rfl⟩

lemma isAccepted_registry : registry.IsAccepted := by
  have hdetail : detail.IsAccepted :=
    .ofDraft { name := .text "detail", parameters := [.parameter (target true)]
               handler := .callable ⟨1, "detail", "detail", false⟩ } rfl
      (List.forall_mem_singleton.2 (isAccepted_target true)) (List.forall_mem_nil _)
  have hport : port.IsAccepted :=
    .ofDraft { name := .text "port", parameters := [.parameter (label true)]
               handler := .callable ⟨2, "port", "port", false⟩ } rfl
      (List.forall_mem_singleton.2 (isAccepted_label true)) (List.forall_mem_nil _)
  refine List.forall_mem_singleton.2 (.ofDraft {
    name := .text "show", parameters := [.parameter (target false), .parameter (label false)]
    commands := .list [.command detail, .command port]
    handler := .callable ⟨0, "show", "show", false⟩ } rfl ?_ ?_)
  · refine List.forall_mem_cons.2 ⟨isAccepted_target false, ?_⟩
    exact List.forall_mem_singleton.2 (isAccepted_label false)
  · exact List.forall_mem_cons.2 ⟨hdetail, List.forall_mem_singleton.2 hport⟩

end Nested

/-! ### What a line hands to its handler -/

namespace State

/-- A name of the state stands for the innermost of the parameters of the name that were matched. -/
structure NamesInnermost (s : State) : Prop where
  nodup : (s.names.map Prod.fst).Nodup
  exists_iff : ∀ name, (∃ b, s.names.get? name = some b) ↔
    ∃ c ∈ s.path, ∃ p ∈ c.parameters, p.name = name ∧ p ∈ s.trace
  get?_eq_some_iff : ∀ name b, s.names.get? name = some b ↔
    ∃ p, s.IsInnermost name p ∧ s.bindings.get? p = some b
  own : ∀ c, s.command = some c → ∀ p ∈ c.parameters, p ∈ s.trace →
    s.IsInnermost p.name p ∧ s.names.get? p.name = s.bindings.get? p

/-- What is given has the names of the state, in their order. Each has the items that were typed for
its parameter: as a tuple, in the order in which they were typed, where it may be repeated, and the
one item where it may not. -/
structure IsGiven (s : State) (gs : List Group) (given : Entries Value) : Prop where
  names_eq : given.map Prod.fst = s.names.map Prod.fst
  get?_eq : ∀ name, given.get? name = (s.names.get? name).map Binding.frozen
  repeated : ∀ name p, s.IsInnermost name p → p.isRepeatable = true →
    given.get? name = some (.tuple ((itemsOf gs p).map Item.value))
  single : ∀ name p, s.IsInnermost name p → p.isRepeatable = false →
    ∃ item, itemsOf gs p = [item] ∧ given.get? name = some item.value

/-- Executing the state calls the handler of the command that the matched one stands for in the root,
once and with what is given, or does nothing where there is none. -/
structure Gives (s : State) (root : Root) (given : Entries Value) : Prop where
  idle : s.command = none → ∀ host, s.runExecute host = .of (.ok .null)
  called : ∀ c, s.command = some c → ∃ target, root.follow c = .ok target ∧ ∀ host : Host,
    (s.runExecute host).transcript.calls =
        (target.handler.map fun handler => ⟨target, handler, s.names⟩).toList ∧
      (s.runExecute host).result =
        target.handler.elim (.ok .null) fun handler => (host handler given).result
  given_eq : ∀ host, ∀ call ∈ (s.runExecute host).transcript.calls, call.given = given

section Run

variable {root : Root} {s : State} {gs : List Group} (h : (start root).Reaches gs s)
  (ht : root.IsTree) (hn : ∀ n ∈ root.walk, (n.parameters.map Node.name).Nodup)

include h ht hn

lemma Reaches.namesInnermost : s.NamesInnermost where
  nodup := s.nodup_names
  exists_iff _ := h.exists_get?_names_iff ht hn
  get?_eq_some_iff _ _ := h.get?_names_eq_some_iff ht hn
  own c hc p hp hmem := by
    have hs := h.isSettled (isSettled_start ht)
    have hinner := isInnermost_of_command hs.command_eq hc hp hmem
    refine ⟨hinner, ?_⟩
    rw [h.get?_names_of_isInnermost ht hn hinner,
      h.get?_bindings_of_mem_bound ((h.declares ht hn).mem_bound_of_isInnermost hinner)]

/-- **What a handler is given** holds the items that were typed, as values that cannot change. -/
theorem Reaches.isGiven : s.IsGiven gs s.names.frozen where
  names_eq := by
    rw [Namespace.frozen, List.map_map]
    rfl
  get?_eq := s.names.get?_frozen
  repeated name p hinner hrepeatable := by
    rw [Namespace.get?_frozen, h.get?_names_of_isInnermost ht hn hinner, Option.map_some,
      Binding.frozen_gathered_of_isRepeatable hrepeatable]
  single name p hinner hrepeatable := by
    have hs := h.isSettled (isSettled_start ht)
    obtain ⟨item, hitem⟩ := hs.exists_itemsOf_eq h
      ((h.declares ht hn).mem_bound_of_isInnermost hinner) hrepeatable
    refine ⟨item, hitem, ?_⟩
    rw [Namespace.get?_frozen, h.get?_names_of_isInnermost ht hn hinner, hitem, Option.map_some,
      Binding.frozen_gathered_singleton hrepeatable]

end Run

/-- In a settled state whose wrappers lead to commands, the handler is given the names of the state,
as values that cannot change. -/
lemma IsSettled.gives {s : State} (hs : s.IsSettled) (hcheck : s.root.checkWrappers = .ok ()) :
    s.Gives s.root s.names.frozen where
  idle hc := runExecute_of_command_eq_none hc
  called c hc := by
    obtain ⟨target, hfollow, -⟩ := hs.exists_follow hcheck hc
    exact ⟨target, hfollow, runExecute_of_follow hc hfollow⟩
  given_eq host call hcall := by
    rw [Call.given, (s.calls_eq_of_mem hcall).2]

end State

section Parse

variable {registry : Registry} {isStrict : Bool} {next : Nat} {grammar : Grammar}
  {tokens : List String} {s : State}

/-- **Handlers see the innermost binding.** A name has a value exactly when some command of the line
declares a parameter of the name that was matched, and the value is what the innermost such parameter
is bound to; so the parameters of the matched command go over those of the commands around it. The
handler of the command that the matched one stands for is called once, if there is one, and is given
just these names: the items of a repeatable parameter as a tuple, in the order in which they were
typed, and the one item of any other. A parser that verifies and executes the line keeps its
state. -/
theorem parse_names (ha : registry.IsAccepted) (hf : registry.finish isStrict next = .ok grammar)
    (hp : parse tokens grammar.root = .ok s) :
    ∃ gs given, Splits gs s.trace tokens ∧ s.NamesInnermost ∧ s.IsGiven gs given ∧
      s.Gives grammar.root given ∧ s.IsKept grammar.root tokens := by
  obtain ⟨gs, hr, rfl⟩ := parse_eq_ok_iff.1 hp
  have ht := Registry.isTree_of_finish hf
  have hn := Registry.nodup_names_of_finish ha hf
  have hroot : s.root = grammar.root := hr.root_eq
  obtain ⟨-, -, -, hcheck⟩ := Registry.exists_of_finish hf
  exact ⟨gs, s.names.frozen, hr.splits, hr.namesInnermost ht hn, hr.isGiven ht hn,
    hroot ▸ (isSettled_of_parse hf hp).gives (hroot ▸ hcheck), State.isKept_of_parse hp⟩

/-- Both commands of the line were given a target; the handler is given those of the inner one. -/
theorem parse_names_detail : ∃ grammar s p given, Nested.registry.IsAccepted ∧
    Nested.registry.finish false 0 = .ok grammar ∧
    parse ["show", "v", "detail", "a", "b"] grammar.root = .ok s ∧
    (s.trace.filter Node.isParameter).map Node.name = ["x", "x", "x"] ∧
    s.IsInnermost "x" p ∧ given.get? "x" = some (.tuple [.text "a", .text "b"]) ∧
    ∀ host : Host, (s.runExecute host).result = (host 1 given).result := by
  obtain ⟨grammar, s, hf, hp, hall⟩ := exists_ok_of_any_any
    (e := Nested.registry.finish false 0)
    (f := fun grammar => parse ["show", "v", "detail", "a", "b"] grammar.root)
    (p := fun _ s => decide ((s.trace.filter Node.isParameter).map Node.name = ["x", "x", "x"]) &&
      s.command.any fun c : Node => decide (c.isWrapper = false ∧ c.handler = some 1 ∧
        ∃ p ∈ c.parameters, p.name = "x" ∧ p ∈ s.trace ∧
          s.bindings.get? p = some (.several [.word "a", .word "b"]))) (by decide +kernel)
  obtain ⟨hkinds, hall⟩ := Bool.and_eq_true_iff.1 hall
  obtain ⟨c, hc, hall⟩ := (Option.any_eq_true ..).1 hall
  obtain ⟨hplain, hhandler, p, hpc, hname, hmem, hbound⟩ := of_decide_eq_true hall
  obtain ⟨gs, given, -, hnames, hgiven, hgives, -⟩ := parse_names Nested.isAccepted_registry hf hp
  obtain ⟨hinner, hvalue⟩ := hnames.own c hc p hpc hmem
  rw [hname] at hinner hvalue
  refine ⟨grammar, s, p, given, Nested.isAccepted_registry, hf, hp, of_decide_eq_true hkinds, hinner,
    ?_, fun host => ?_⟩
  · rw [hgiven.get?_eq, hvalue, hbound]
    rfl
  · obtain ⟨target, hfollow, hrun⟩ := hgives.called c hc
    -- the command is no wrapper, so its own handler is called
    have hself : target = c := Except.ok.inj (hfollow.symm.trans
      (Root.follow_eq_ok_iff.2 ⟨.refl, hplain⟩))
    rw [(hrun host).2, hself, hhandler]
    rfl

end Parse

end CommandGrammar
