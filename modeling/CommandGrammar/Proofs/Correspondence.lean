import CommandGrammar.Proofs.Acceptance
import CommandGrammar.Proofs.Wrappers
import Mathlib.Data.List.Forall2

/-!
Finished grammars and the descriptions that they are built from. Every use of a description has a
node of its own, which shows what the description gives; a description that is used several times
has as many nodes, and two grammars that are finished one after the other have none in common.
-/

namespace CommandGrammar

/-! ### Likeness -/

/-- The node shows what the description of a parameter gives, and the priority of the kind where
that gives none. -/
structure Parameter.Describes (p : Parameter) (n : Node) : Prop where
  name_eq : n.name = p.name
  help_eq : n.face.help = p.help
  isHidden_eq : n.isHidden = p.isHidden
  priority_eq : n.priority = p.priority.getD (priorityOfKind (some p.kind))
  role_eq : n.role = .parameter {
    kind := some p.kind, aliases := p.aliases, repeatable := p.isRepeatable
    required := p.isRequired }
  parameters_eq : n.parameters = []
  successors_eq : n.successors = []

/-- The node shows what the description of a command gives but for its parameters and
sub-commands. -/
structure Signature.Describes (signature : Signature) (n : Node) : Prop where
  name_eq : n.name = signature.name
  help_eq : n.face.help = signature.help
  isHidden_eq : n.isHidden = signature.isHidden
  priority_eq : n.priority = signature.priority
  role_eq : n.role = signature.wraps.elim (.command signature.handler) .wrapper

/-- The node is like the description of a command: it declares nodes of the parameters, and these
are followed by nodes of the sub-commands, one for each and in order. -/
inductive Command.Describes : Command → Node → Prop
  | mk {c : Command} {n : Node} {nested : List Node} : c.signature.Describes n →
    List.Forall₂ Parameter.Describes c.parameters n.parameters →
    n.successors = n.parameters ++ nested → List.Forall₂ Describes c.commands nested →
    Describes c n

/-! ### Places -/

/-- A use of a description. -/
inductive Place where
  | parameter (p : Parameter)
  | command (c : Command)

/-- The node is like the description that is used. -/
def Place.Describes : Place → Node → Prop
  | .parameter p => p.Describes
  | .command c => c.Describes

namespace Command

mutual
/-- The description of a command and all that it holds, each followed by what that holds. -/
def places : Command → List Place
  | .mk signature parameters commands =>
    .command (.mk signature parameters commands) ::
      (parameters.map Place.parameter ++ placesAll commands)
/-- The places of descriptions, one after another. -/
def placesAll : List Command → List Place
  | [] => []
  | c :: cs => places c ++ placesAll cs
end

end Command

/-- A parameter's node leads nowhere. -/
lemma Parameter.Describes.walk_eq {p : Parameter} {n : Node} (h : p.Describes n) :
    n.walk = [n] := by
  rw [Node.walk_eq, h.successors_eq]
  rfl

lemma Parameter.forall₂_places {ps : List Parameter} {ns : List Node}
    (h : List.Forall₂ Parameter.Describes ps ns) :
    List.Forall₂ Place.Describes (ps.map Place.parameter) (Node.walkAll ns) := by
  induction h with
  | nil => exact .nil
  | @cons p n ps ns hp _ ih =>
    rw [Node.walkAll, hp.walk_eq]
    exact .cons hp ih

namespace Command

variable {c : Command} {cs : List Command} {ns : List Node}

lemma forall₂_placesAll (h : ∀ c ∈ cs, ∀ n, c.Describes n →
      List.Forall₂ Place.Describes c.places n.walk)
    (hd : List.Forall₂ Command.Describes cs ns) :
    List.Forall₂ Place.Describes (placesAll cs) (Node.walkAll ns) := by
  induction hd with
  | nil => exact .nil
  | @cons c n cs ns hc _ ih =>
    obtain ⟨hfirst, hrest⟩ := List.forall_mem_cons.1 h
    exact List.rel_append (hfirst n hc) (ih hrest)

/-- **The walk of a node that is like a description** meets one node for each place, in order. -/
theorem Describes.forall₂_places (c : Command) : ∀ n, c.Describes n →
    List.Forall₂ Place.Describes c.places n.walk := by
  induction c using Command.induction with
  | mk signature parameters commands ih =>
    intro n h
    have hplace : Place.Describes (.command (.mk signature parameters commands)) n := h
    cases h with
    | @mk _ _ nested _ hparameters hsuccessors hcommands =>
      rw [Node.walk_eq, hsuccessors, Node.walkAll_append]
      exact .cons hplace (List.rel_append (Parameter.forall₂_places hparameters)
        (forall₂_placesAll ih hcommands))

end Command

/-! ### Building -/

lemma Parameter.describes_build (p : Parameter) (number : Nat) : p.Describes (p.build number) :=
  ⟨rfl, rfl, rfl, rfl, rfl, rfl, rfl⟩

lemma Parameter.forall₂_describes_buildAll (ps : List Parameter) (number : Nat) :
    List.Forall₂ Parameter.Describes ps (buildAll number ps) := by
  induction ps generalizing number with
  | nil => exact .nil
  | cons p ps ih => exact .cons (p.describes_build number) (ih (number + 1))

namespace Command

variable {cs : List Command} {next : Nat}

/-- The part of a command is that of its description. -/
lemma role_of_roleOf {signature : Signature} {role : Role} (h : roleOf signature = .ok role) :
    role = signature.wraps.elim (.command signature.handler) .wrapper := by
  unfold roleOf at h
  split at h
  · next hwraps =>
    cases h
    rw [hwraps]
    rfl
  · next path hwraps =>
    split at h
    · next words hwords =>
      cases h
      rw [hwraps, eq_of_mapM_checkWord hwords]
      rfl
    · cases h

lemma forall₂_describes_buildAll {built : Numbered (List Node)}
    (h : ∀ c ∈ cs, ∀ next built, c.build next = .ok built → c.Describes built.value)
    (hb : buildAll cs next = .ok built) : List.Forall₂ Command.Describes cs built.value := by
  induction cs generalizing next built with
  | nil =>
    cases hb
    exact .nil
  | cons c cs ih =>
    obtain ⟨hc, hcs⟩ := List.forall_mem_cons.1 h
    obtain ⟨first, rest, hfirst, hrest, rfl⟩ := exists_of_buildAll_cons hb
    exact .cons (hc next first hfirst) (ih hcs hrest)

/-- **What is built is like its description.** -/
theorem describes_build (c : Command) :
    ∀ next built, c.build next = .ok built → c.Describes built.value := by
  induction c using Command.induction with
  | mk signature parameters commands ih =>
    intro next built h
    obtain ⟨nested, role, hnested, hrole, rfl⟩ := exists_of_build h
    exact .mk ⟨rfl, rfl, rfl, rfl, role_of_roleOf hrole⟩
      (Parameter.forall₂_describes_buildAll parameters next) rfl
      (forall₂_describes_buildAll ih hnested)

end Command

/-! ### Finishing -/

namespace Registry

variable {registry : Registry} {isStrict : Bool} {next : Nat} {grammar : Grammar}

/-- The numbers of a finished grammar are taken from the supply. -/
lemma exists_bounds_of_finish (h : registry.finish isStrict next = .ok grammar) :
    ∃ stop, registry.build next = .ok ⟨grammar.root, stop⟩ ∧
      ∀ n ∈ grammar.root.walk, next ≤ n.number ∧ n.number < stop := by
  obtain ⟨nodes, hnodes, hsuccessors, hcheck⟩ := exists_of_finish h
  have hin := Command.builtIn_buildAll (fun c _ => c.builtIn_build) hnodes
  refine ⟨nodes.next, ?_, ?_⟩
  · rw [build_eq hnodes hsuccessors, hcheck]
    rfl
  · rw [Root.walk, hsuccessors]
    exact hin.bounds

end Registry

/-- **A finished grammar is a tree, and like its descriptions.** No two of its nodes have one
number. Its commands are like the descriptions registered, one for each and in order, and its walk
meets one node for each use of a description. The parameters of a node are the first of its
successors. No grammar that is finished later has a node of it. -/
theorem finish_describes {registry : Registry} {isStrict : Bool} {next : Nat} {grammar : Grammar}
    (h : registry.finish isStrict next = .ok grammar) :
    (grammar.root.walk.map Node.number).Nodup ∧
    List.Forall₂ Command.Describes registry.commands grammar.root.successors ∧
    List.Forall₂ Place.Describes (Command.placesAll registry.commands) grammar.root.walk ∧
    (∀ n ∈ grammar.root.walk, n.parameters <+: n.successors) ∧
    ∃ stop, registry.build next = .ok ⟨grammar.root, stop⟩ ∧
      ∀ (others : Registry) (isStrict' : Bool) (later : Nat) (other : Grammar), stop ≤ later →
        others.finish isStrict' later = .ok other →
        (grammar.root.walk.map Node.number).Disjoint (other.root.walk.map Node.number) := by
  have htree := Registry.isTree_of_finish h
  obtain ⟨nodes, hnodes, hsuccessors, -⟩ := Registry.exists_of_finish h
  have hlike : List.Forall₂ Command.Describes registry.commands grammar.root.successors := by
    rw [hsuccessors]
    exact Command.forall₂_describes_buildAll (fun c _ => c.describes_build) hnodes
  refine ⟨htree.numbers_nodup, hlike,
    Command.forall₂_placesAll (fun c _ => Command.Describes.forall₂_places c) hlike,
    fun n hn => ?_, ?_⟩
  · obtain ⟨nested, hsplit, -⟩ := (htree.isBuilt n hn).successors_eq
    exact ⟨nested, hsplit.symm⟩
  · obtain ⟨stop, hbuild, hbounds⟩ := Registry.exists_bounds_of_finish h
    refine ⟨stop, hbuild, fun others isStrict' later other hlater hother => ?_⟩
    obtain ⟨stop', -, hbounds'⟩ := Registry.exists_bounds_of_finish hother
    intro k hk hk'
    obtain ⟨m, hm, rfl⟩ := List.mem_map.1 hk
    obtain ⟨m', hm', heq⟩ := List.mem_map.1 hk'
    have hbelow : m.number < stop := (hbounds m hm).2
    have habove : later ≤ m'.number := (hbounds' m' hm').1
    omega

/-- The command that shows, registered twice and held by a command besides. -/
def sharedRegistry : Registry :=
  ⟨[Demo.showCommand,
    .mk {
      name := "all", help := none, handler := none, wraps := none, priority := defaultPriority
      isHidden := false } [] [Demo.showCommand, Demo.setCommand],
    Demo.showCommand]⟩

/-- A description that is used three times has three nodes, and three others in a second grammar. -/
theorem finish_describes_shared : ∃ built first second,
    sharedRegistry.build 0 = .ok built ∧ sharedRegistry.finish false 0 = .ok first ∧
    sharedRegistry.finish false built.next = .ok second ∧
    (first.root.walk.map Node.number).Nodup ∧
    List.Forall₂ Place.Describes (Command.placesAll sharedRegistry.commands) first.root.walk ∧
    (first.root.walk.filter fun n => n.name == "show").map Node.number = [2, 5, 13] ∧
    (second.root.walk.filter fun n => n.name == "show").map Node.number = [16, 19, 27] ∧
    (first.root.walk.map Node.number).Disjoint (second.root.walk.map Node.number) := by
  obtain ⟨built, second, hbuilt, hsecond, hfirst⟩ := exists_ok_of_any_any
    (e := sharedRegistry.build 0) (f := fun built => sharedRegistry.finish false built.next)
    (p := fun _ second => (sharedRegistry.finish false 0).toOption.any fun first : Grammar =>
      decide ((first.root.walk.filter fun n => n.name == "show").map Node.number = [2, 5, 13]) &&
      decide ((second.root.walk.filter fun n => n.name == "show").map Node.number = [16, 19, 27]))
    (by decide +kernel)
  obtain ⟨first, hfirst, hnumbers⟩ := exists_ok_of_any hfirst
  obtain ⟨hnumbers, hnumbers'⟩ := Bool.and_eq_true_iff.1 hnumbers
  obtain ⟨hnodup, -, hplaces, -, stop, hbuild, hdisjoint⟩ := finish_describes hfirst
  cases hbuilt.symm.trans hbuild
  exact ⟨_, first, second, hbuilt, hfirst, hsecond, hnodup, hplaces, of_decide_eq_true hnumbers,
    of_decide_eq_true hnumbers', hdisjoint _ false _ second (Nat.le_refl stop) hsecond⟩

end CommandGrammar
