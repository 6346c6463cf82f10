import CommandGrammar.Grammar
import Mathlib.Data.List.Lattice
import Mathlib.Data.List.Nodup
import Mathlib.Data.List.Pairwise

/-!
Built grammars are trees. The nodes of a finished grammar have distinct numbers, a command is
followed by the parameters that it declares and then by commands, and nothing follows a parameter.
-/

namespace CommandGrammar

/-- Induction on a command's description, with the hypothesis for every sub-command. -/
@[elab_as_elim]
theorem Command.induction {motive : Command → Prop}
    (mk : ∀ signature parameters commands, (∀ c ∈ commands, motive c) →
      motive (.mk signature parameters commands)) (command : Command) : motive command :=
  match command with
  | .mk signature parameters commands =>
    mk signature parameters commands fun c _ => induction mk c

/-! ### Walks -/

namespace Node

lemma walk_eq (n : Node) : n.walk = n :: walkAll n.successors := by
  cases n with
  | mk face parameters successors => rfl

lemma walkAll_append (ms ns : List Node) : walkAll (ms ++ ns) = walkAll ms ++ walkAll ns := by
  induction ms with
  | nil => rfl
  | cons m ms ih => rw [List.cons_append, walkAll, walkAll, ih, List.append_assoc]

lemma walkAll_eq_flatMap (ns : List Node) : walkAll ns = ns.flatMap walk := by
  induction ns with
  | nil => rfl
  | cons n ns ih => rw [walkAll, ih, List.flatMap_cons]

lemma walkAll_subset_walk (n : Node) : walkAll n.successors ⊆ n.walk := by
  rw [walk_eq]
  exact List.subset_cons_self _ _

lemma walk_subset_walkAll {n : Node} {ns : List Node} (h : n ∈ ns) : n.walk ⊆ walkAll ns :=
  fun _ hm => mem_walkAll.2 ⟨n, h, hm⟩

lemma mem_walkAll_of_mem {n : Node} {ns : List Node} (h : n ∈ ns) : n ∈ walkAll ns :=
  walk_subset_walkAll h n.mem_walk_self

/-- Walks meet the nodes that they start from in order. -/
lemma sublist_walkAll (ns : List Node) : ns.Sublist (walkAll ns) := by
  induction ns with
  | nil => exact List.Sublist.refl _
  | cons n ns ih =>
    rw [walkAll, walk_eq]
    exact (ih.trans (List.sublist_append_right _ _)).cons_cons n

/-- A walk holds the walks of its nodes. -/
lemma walk_subset_walk {m n : Node} (h : m ∈ n.walk) : m.walk ⊆ n.walk := by
  induction n with
  | mk face parameters successors _ ih =>
    rw [walk_eq, List.mem_cons] at h
    rcases h with rfl | h
    · exact List.Subset.refl _
    · obtain ⟨k, hk, hm⟩ := mem_walkAll.1 h
      exact List.Subset.trans (ih k hk hm)
        (List.Subset.trans (walk_subset_walkAll hk) (walkAll_subset_walk _))

lemma mem_walkAll_of_mem_successors {m n : Node} {ns : List Node} (hn : n ∈ walkAll ns)
    (hm : m ∈ n.successors) : m ∈ walkAll ns := by
  obtain ⟨k, hk, hnk⟩ := mem_walkAll.1 hn
  exact mem_walkAll.2 ⟨k, hk, walk_subset_walk hnk (mem_walk_of_successor hm m.mem_walk_self)⟩

section Nodup

variable {m n : Node} {ns : List Node} (h : (walkAll ns).Nodup)

include h

/-- A node whose walk repeats nothing does not come back in its own walk. -/
lemma nodup_walkAll_successors (hn : n ∈ ns) :
    n ∉ walkAll n.successors ∧ (walkAll n.successors).Nodup := by
  rw [walkAll_eq_flatMap, List.nodup_flatMap] at h
  have := h.1 n hn
  rwa [walk_eq, List.nodup_cons] at this

lemma walk_disjoint (hm : m ∈ ns) (hn : n ∈ ns) (hne : m ≠ n) : m.walk.Disjoint n.walk := by
  rw [walkAll_eq_flatMap, List.nodup_flatMap] at h
  have : Std.Symm (Function.onFun List.Disjoint walk) := ⟨fun _ _ => List.Disjoint.symm⟩
  exact h.2.forall hm hn hne

end Nodup

end Node

/-! ### Built nodes -/

/-- What building makes of a description: the parameters that a node declares are the first of its
successors and commands are the others, and a parameter has a kind and no successors. -/
structure Node.IsBuilt (n : Node) : Prop where
  successors_eq : ∃ nested, n.successors = n.parameters ++ nested ∧ ∀ m ∈ nested, m.isCommand = true
  areParameters : ∀ p ∈ n.parameters, p.isParameter = true
  of_isParameter : n.isParameter = true → n.successors = [] ∧ n.isKindless = false

/-- The nodes are built, and numbered without repetition from one number on and below another. -/
structure BuiltIn (lo hi : Nat) (nodes : List Node) : Prop where
  le : lo ≤ hi
  nodup : (nodes.map Node.number).Nodup
  bounds : ∀ n ∈ nodes, lo ≤ n.number ∧ n.number < hi
  isBuilt : ∀ n ∈ nodes, n.IsBuilt

namespace Node.IsBuilt

variable {n p : Node}

/-- The parameters among the successors of a built node are those that it declares. -/
lemma mem_parameters (h : n.IsBuilt) (hp : p ∈ n.successors) (hpp : p.isParameter = true) :
    p ∈ n.parameters := by
  obtain ⟨nested, he, hc⟩ := h.successors_eq
  rw [he, List.mem_append] at hp
  rcases hp with hp | hp
  · exact hp
  · simp [isParameter, hc p hp] at hpp

lemma mem_successors (h : n.IsBuilt) (hp : p ∈ n.parameters) : p ∈ n.successors := by
  obtain ⟨nested, he, -⟩ := h.successors_eq
  rw [he]
  exact List.mem_append_left _ hp

lemma isKindless_eq_false (h : n.IsBuilt) : n.isKindless = false := by
  by_cases hn : n.isParameter = true
  · exact (h.of_isParameter hn).2
  · have hc : n.isCommand = true := by simpa [isParameter] using hn
    unfold isCommand at hc
    unfold isKindless
    split at hc
    · next hr => rw [hr]
    · next hr => rw [hr]
    · cases hc

end Node.IsBuilt

namespace BuiltIn

variable {a b c : Nat} {xs ys : List Node} {n : Node}

lemma nil (a : Nat) : BuiltIn a a [] := ⟨Nat.le_refl a, List.nodup_nil, by simp, by simp⟩

lemma append (hx : BuiltIn a b xs) (hy : BuiltIn b c ys) : BuiltIn a c (xs ++ ys) := by
  refine ⟨Nat.le_trans hx.le hy.le, ?_, fun n hn => ?_, fun n hn => ?_⟩
  · rw [List.map_append, List.nodup_append']
    refine ⟨hx.nodup, hy.nodup, fun k hk hk' => ?_⟩
    obtain ⟨m, hm, rfl⟩ := List.mem_map.1 hk
    obtain ⟨m', hm', he⟩ := List.mem_map.1 hk'
    have h1 := hx.bounds m hm
    have h2 := hy.bounds m' hm'
    omega
  · have := hx.le
    have := hy.le
    rcases List.mem_append.1 hn with hn | hn
    · have := hx.bounds n hn
      omega
    · have := hy.bounds n hn
      omega
  · rcases List.mem_append.1 hn with hn | hn
    · exact hx.isBuilt n hn
    · exact hy.isBuilt n hn

/-- A node numbered after all others may come before them. -/
lemma cons (hn : n.number = b) (hb : n.IsBuilt) (hx : BuiltIn a b xs) :
    BuiltIn a (b + 1) (n :: xs) := by
  have hle := hx.le
  refine ⟨by omega, ?_, fun m hm => ?_, fun m hm => ?_⟩
  · rw [List.map_cons, List.nodup_cons]
    refine ⟨fun h => ?_, hx.nodup⟩
    obtain ⟨m, hm, he⟩ := List.mem_map.1 h
    have := hx.bounds m hm
    omega
  · rcases List.mem_cons.1 hm with rfl | hm
    · omega
    · have := hx.bounds m hm
      omega
  · rcases List.mem_cons.1 hm with rfl | hm
    · exact hb
    · exact hx.isBuilt m hm

end BuiltIn

/-! ### Building -/

namespace Parameter

lemma isBuilt_build (p : Parameter) (number : Nat) : (p.build number).IsBuilt :=
  ⟨⟨[], rfl, by simp⟩, by simp [build, Node.parameters], fun _ => ⟨rfl, rfl⟩⟩

lemma exists_of_mem_buildAll {ps : List Parameter} {number : Nat} {n : Node}
    (h : n ∈ buildAll number ps) : ∃ p ∈ ps, ∃ k, n = p.build k := by
  induction ps generalizing number with
  | nil => cases h
  | cons p ps ih =>
    rcases List.mem_cons.1 h with rfl | h
    · exact ⟨p, List.mem_cons_self, number, rfl⟩
    · obtain ⟨q, hq, hn⟩ := ih h
      exact ⟨q, List.mem_cons_of_mem p hq, hn⟩

lemma isParameter_of_mem_buildAll {ps : List Parameter} {number : Nat} {n : Node}
    (h : n ∈ buildAll number ps) : n.isParameter = true := by
  obtain ⟨p, -, k, rfl⟩ := exists_of_mem_buildAll h
  rfl

lemma builtIn_buildAll (ps : List Parameter) (number : Nat) :
    BuiltIn number (number + ps.length) (Node.walkAll (buildAll number ps)) := by
  induction ps generalizing number with
  | nil => exact .nil number
  | cons p ps ih =>
    have hone : BuiltIn number (number + 1) [p.build number] :=
      BuiltIn.cons rfl (p.isBuilt_build number) (.nil number)
    have hlen : number + (p :: ps).length = number + 1 + ps.length := by
      rw [List.length_cons]
      omega
    rw [hlen]
    exact hone.append (ih (number + 1))

end Parameter

namespace Command

variable {c : Command} {cs : List Command} {next : Nat}

/-- What building commands comes to: the first is built, and the others after it. -/
lemma exists_of_buildAll_cons {built : Numbered (List Node)}
    (h : buildAll (c :: cs) next = .ok built) : ∃ first rest, c.build next = .ok first ∧
      buildAll cs first.next = .ok rest ∧ built = ⟨first.value :: rest.value, rest.next⟩ := by
  rw [buildAll] at h
  split at h
  · cases h
  · next first hfirst =>
    split at h
    · cases h
    · next rest hrest =>
      cases h
      exact ⟨first, rest, hfirst, hrest, rfl⟩

lemma builtIn_buildAll {built : Numbered (List Node)}
    (h : ∀ c ∈ cs, ∀ next built, c.build next = .ok built →
      BuiltIn next built.next built.value.walk)
    (hb : buildAll cs next = .ok built) : BuiltIn next built.next (Node.walkAll built.value) := by
  induction cs generalizing next built with
  | nil =>
    cases hb
    exact .nil next
  | cons c cs ih =>
    obtain ⟨hc, hcs⟩ := List.forall_mem_cons.1 h
    obtain ⟨first, rest, hfirst, hrest, rfl⟩ := exists_of_buildAll_cons hb
    exact (hc next first hfirst).append (ih hcs hrest)

/-- What building a command comes to: its sub-commands build, and its node holds those of its
parameters and then theirs. -/
lemma exists_of_build {built : Numbered Node} (h : c.build next = .ok built) :
    ∃ nested role, buildAll c.commands (next + c.parameters.length) = .ok nested ∧
      roleOf c.signature = .ok role ∧
      built = {
        value := .mk {
          number := nested.next, name := c.signature.name, help := c.signature.help
          isHidden := c.signature.isHidden, priority := c.signature.priority, role
        } (Parameter.buildAll next c.parameters)
          (Parameter.buildAll next c.parameters ++ nested.value)
        next := nested.next + 1 } := by
  obtain ⟨signature, parameters, commands⟩ := c
  rw [build] at h
  split at h
  · cases h
  · next nested hnested =>
    split at h
    · cases h
    · next role hrole =>
      cases h
      exact ⟨nested, role, hnested, hrole, rfl⟩

/-- Each of the nodes built is that of one of the descriptions. -/
lemma exists_of_mem_buildAll {built : Numbered (List Node)} (h : buildAll cs next = .ok built)
    {n : Node} (hn : n ∈ built.value) :
    ∃ c ∈ cs, ∃ number one, c.build number = .ok one ∧ n = one.value := by
  induction cs generalizing next built with
  | nil =>
    cases h
    cases hn
  | cons c cs ih =>
    obtain ⟨first, rest, hfirst, hrest, rfl⟩ := exists_of_buildAll_cons h
    rcases List.mem_cons.1 hn with rfl | hn
    · exact ⟨c, List.mem_cons_self, next, first, hfirst, rfl⟩
    · obtain ⟨d, hd, hbuild⟩ := ih hrest hn
      exact ⟨d, List.mem_cons_of_mem c hd, hbuild⟩

/-- **Building numbers every node once,** a command after all that it holds. -/
theorem builtIn_build (c : Command) : ∀ next built, c.build next = .ok built →
    BuiltIn next built.next built.value.walk := by
  induction c using Command.induction with
  | mk signature parameters commands ih =>
    intro next built h
    have hcommand := isCommand_of_build h
    obtain ⟨nested, role, hnested, -, rfl⟩ := exists_of_build h
    have hall := (Parameter.builtIn_buildAll parameters next).append
      (builtIn_buildAll ih hnested)
    rw [← Node.walkAll_append] at hall
    rw [Node.walk_eq]
    refine hall.cons rfl ⟨⟨nested.value, rfl, isCommand_of_buildAll hnested⟩, ?_, ?_⟩
    · exact fun p hp => Parameter.isParameter_of_mem_buildAll hp
    · intro hp
      simp [Node.isParameter, hcommand] at hp

end Command

/-! ### Grammars -/

/-- A root whose nodes are built and numbered without repetition. -/
structure Root.IsTree (root : Root) : Prop where
  numbers_nodup : (root.walk.map Node.number).Nodup
  isBuilt : ∀ n ∈ root.walk, n.IsBuilt

namespace Registry

variable {registry : Registry} {isStrict : Bool} {next : Nat} {grammar : Grammar}

/-- What building comes to: the descriptions build, and the wrappers of the root pass the check. -/
lemma exists_of_build {built : Numbered Root} (h : registry.build next = .ok built) :
    ∃ nodes, Command.buildAll registry.commands next = .ok nodes ∧
      built.value.successors = nodes.value ∧ built.value.checkWrappers = .ok () := by
  unfold build at h
  split at h
  · cases h
  · next nodes hnodes =>
    dsimp only at h
    split at h
    · cases h
    · next hcheck =>
      cases h
      exact ⟨nodes, hnodes, rfl, hcheck⟩

lemma isTree_of_build {built : Numbered Root} (h : registry.build next = .ok built) :
    built.value.IsTree := by
  obtain ⟨nodes, hnodes, hsuccessors, -⟩ := exists_of_build h
  have hin := Command.builtIn_buildAll (fun c _ => c.builtIn_build) hnodes
  rw [← hsuccessors] at hin
  exact ⟨hin.nodup, hin.isBuilt⟩

/-- A finished grammar has the root that was built. -/
lemma exists_build_of_finish (h : registry.finish isStrict next = .ok grammar) :
    ∃ built, registry.build next = .ok built ∧ grammar.root = built.value := by
  unfold finish at h
  split at h
  · cases h
  · next built hbuilt =>
    refine ⟨built, hbuilt, ?_⟩
    dsimp only at h
    split at h
    · cases h
    · cases h
      rfl

/-- What finishing comes to: the root of the grammar is over what the descriptions build, and its
wrappers pass the check. -/
lemma exists_of_finish (h : registry.finish isStrict next = .ok grammar) :
    ∃ nodes, Command.buildAll registry.commands next = .ok nodes ∧
      grammar.root.successors = nodes.value ∧ grammar.root.checkWrappers = .ok () := by
  obtain ⟨built, hbuilt, hroot⟩ := exists_build_of_finish h
  rw [hroot]
  exact exists_of_build hbuilt

/-- **The root of a finished grammar is a tree.** -/
theorem isTree_of_finish (h : registry.finish isStrict next = .ok grammar) :
    grammar.root.IsTree := by
  obtain ⟨built, hbuilt, hroot⟩ := exists_build_of_finish h
  rw [hroot]
  exact isTree_of_build hbuilt

end Registry

end CommandGrammar
