import CommandGrammar.Proofs.Continuation
import CommandGrammar.Proofs.Descriptions
import CommandGrammar.Proofs.Frontier
import Mathlib.Data.List.Nodup

/-!
Shared literals. A grammar is warned about once for each literal that siblings share at one
priority. Where several nodes tie for a word that is a literal at the frontier, siblings share that
literal; so without warnings only a strict abbreviation can be ambiguous.
-/

namespace CommandGrammar

/-! ### Siblings that share a literal -/

namespace Root

/-- The nodes that may follow a node of the grammar or, without a node, come first. -/
def below (root : Root) (parent : Option Node) : List Node :=
  (parent.map Node.successors).getD root.successors

/-- What nodes of the grammar may come below: nothing, and then every node of it. -/
def parents (root : Root) : List (Option Node) := none :: root.walk.map some

end Root

/-- A literal at a priority, looked at below one node or before all of them. -/
structure SharedLiteral where
  parent : Option Node
  literal : String
  priority : Int

namespace SharedLiteral

/-- The siblings that carry the literal at the priority, in order. -/
def siblings (x : SharedLiteral) (root : Root) : List Node :=
  (root.below x.parent).filter fun n => n.isNamedBy x.literal && n.priority == x.priority

/-- The literal is one that siblings of the grammar share. -/
structure IsIn (x : SharedLiteral) (root : Root) : Prop where
  parent_mem : x.parent ∈ root.parents
  two_le : 2 ≤ (x.siblings root).length

/-- What a warning tells of the literal. -/
def ambiguity (x : SharedLiteral) (root : Root) : Ambiguity :=
  ⟨x.literal, x.priority, x.siblings root⟩

end SharedLiteral

section Parents

variable {root : Root} {parent : Option Node}

lemma Root.mem_parents : parent ∈ root.parents ↔ ∀ n ∈ parent, n ∈ root.walk := by
  cases parent with
  | none => simp [parents]
  | some n => simp [parents]

/-- What comes below a node of the grammar is in the grammar. -/
lemma Root.mem_walk_of_mem_below (hp : parent ∈ root.parents) {n : Node}
    (hn : n ∈ root.below parent) : n ∈ root.walk := by
  cases parent with
  | none => exact Node.mem_walkAll_of_mem hn
  | some m => exact Node.mem_walkAll_of_mem_successors (mem_parents.1 hp m rfl) hn

end Parents

/-! ### Carriers -/

section Carriers

variable {siblings : List Node} {literal : String} {priority : Int} {n : Node}

lemma mem_carriedLiterals :
    (literal, n) ∈ carriedLiterals siblings ↔ n ∈ siblings ∧ literal ∈ n.literals := by
  simp [carriedLiterals]

/-- A node whose literals are all different carries a literal once. -/
lemma filter_literals (h : n.literals.Nodup) (literal : String) (priority : Int) :
    (n.literals.filter fun l => l == literal && n.priority == priority) =
      if n.isNamedBy literal && n.priority == priority then [literal] else [] := by
  cases hp : n.priority == priority with
  | false => simp
  | true =>
    simp only [Bool.and_true, List.filter_beq]
    split
    · next hl => rw [List.count_eq_one_of_mem h (Node.isNamedBy_iff.1 hl)]; rfl
    · next hl => rw [List.count_eq_zero_of_not_mem (mt Node.isNamedBy_iff.2 hl)]; rfl

/-- Where no sibling has a literal twice, the carriers of a literal are the siblings that have
it. -/
lemma carriers_eq (h : ∀ n ∈ siblings, n.literals.Nodup) (literal : String) (priority : Int) :
    carriers siblings literal priority =
      siblings.filter fun n => n.isNamedBy literal && n.priority == priority := by
  induction siblings with
  | nil => rfl
  | cons n ns ih =>
    obtain ⟨hn, hns⟩ := List.forall_mem_cons.1 h
    have hcons : carriers (n :: ns) literal priority =
        ((n.literals.filter fun l => l == literal && n.priority == priority).map fun _ => n) ++
          carriers ns literal priority := by
      simp [carriers, carriedLiterals, List.filter_map, Function.comp_def]
    rw [hcons, ih hns, filter_literals hn, List.filter_cons]
    split
    · rfl
    · rfl

end Carriers

/-! ### Warnings -/

namespace Root

variable {root : Root} {parent : Option Node} {x : SharedLiteral}

/-- The literals that are shared below a node, in the order of their first use. -/
def sharedBelow (root : Root) (parent : Option Node) : List SharedLiteral :=
  (((carriedLiterals (root.below parent)).map fun e => (e.1, e.2.priority)).eraseDups.map
    fun key => ⟨parent, key.1, key.2⟩).filter fun x => 2 ≤ (x.siblings root).length

/-- The literals that are shared in the grammar, in the order of the walk. -/
def shared (root : Root) : List SharedLiteral := root.parents.flatMap root.sharedBelow

lemma mem_sharedBelow :
    x ∈ root.sharedBelow parent ↔ x.parent = parent ∧ 2 ≤ (x.siblings root).length := by
  rw [sharedBelow, List.mem_filter, decide_eq_true_iff]
  refine and_congr_left fun hx => ?_
  constructor
  · intro h
    obtain ⟨key, -, rfl⟩ := List.mem_map.1 h
    rfl
  · rintro rfl
    obtain ⟨n, hn⟩ := List.exists_mem_of_length_pos (Nat.lt_of_lt_of_le Nat.zero_lt_two hx)
    obtain ⟨hn, hcarries⟩ := List.mem_filter.1 hn
    obtain ⟨hl, hp⟩ := Bool.and_eq_true_iff.1 hcarries
    refine List.mem_map.2 ⟨(x.literal, x.priority), List.mem_eraseDups.2 ?_, rfl⟩
    refine List.mem_map.2 ⟨(x.literal, n), ?_, ?_⟩
    · exact mem_carriedLiterals.2 ⟨hn, Node.isNamedBy_iff.1 hl⟩
    · exact Prod.ext rfl (beq_iff_eq.1 hp)

lemma mem_shared : x ∈ root.shared ↔ x.IsIn root := by
  rw [shared, List.mem_flatMap]
  constructor
  · rintro ⟨parent, hp, hx⟩
    obtain ⟨rfl, htwo⟩ := mem_sharedBelow.1 hx
    exact ⟨hp, htwo⟩
  · rintro ⟨hp, htwo⟩
    exact ⟨x.parent, hp, mem_sharedBelow.2 ⟨rfl, htwo⟩⟩

lemma ambiguitiesAmong_below (h : ∀ n ∈ root.below parent, n.literals.Nodup) :
    ambiguitiesAmong (root.below parent) =
      (root.sharedBelow parent).map fun x => x.ambiguity root := by
  simp only [ambiguitiesAmong, sharedBelow, List.filter_map, List.map_map, carriers_eq h]
  rfl

/-- **The shared literals of a grammar** are found below its nodes, one after another. -/
theorem ambiguities_eq (h : ∀ n ∈ root.walk, n.literals.Nodup) :
    root.ambiguities = root.shared.map fun x => x.ambiguity root := by
  have hgroups : root.siblingGroups = root.parents.map root.below := by
    simp [siblingGroups, parents, below, Function.comp_def]
  rw [ambiguities, hgroups, List.flatMap_map, shared, List.map_flatMap]
  refine List.flatMap_congr fun parent hp => ambiguitiesAmong_below fun n hn => ?_
  exact h n (mem_walk_of_mem_below hp hn)

end Root

namespace Registry

variable {registry : Registry} {isStrict : Bool} {next : Nat} {grammar : Grammar}

lemma warnings_of_finish (hf : registry.finish isStrict next = .ok grammar) :
    grammar.warnings = grammar.root.warnings := by
  unfold finish at hf
  split at hf
  · cases hf
  · dsimp only at hf
    split at hf
    · cases hf
    · cases hf
      rfl

/-- **The warnings** about a grammar finished from accepted descriptions, one for each shared
literal. -/
theorem warnings_eq (ha : registry.IsAccepted) (hf : registry.finish isStrict next = .ok grammar) :
    grammar.warnings = grammar.root.shared.map fun x =>
      Fault.ofAmbiguity (x.ambiguity grammar.root) := by
  have hnodup := fun n hn => (isOfAccepted_of_finish ha hf n hn).nodup_literals
  rw [warnings_of_finish hf, Root.warnings, Root.ambiguities_eq hnodup, List.map_map]
  rfl

/-- A grammar without warnings shares no literals. -/
lemma not_isIn_of_warnings (ha : registry.IsAccepted)
    (hf : registry.finish isStrict next = .ok grammar) (hnone : grammar.warnings = [])
    (x : SharedLiteral) : ¬ x.IsIn grammar.root := by
  rw [warnings_eq ha hf, List.map_eq_nil_iff] at hnone
  rw [← Root.mem_shared, hnone]
  exact List.not_mem_nil

end Registry

/-! ### Ties -/

namespace State

variable {s : State} {word : String} {nodes : List Node}

end State

section Grammar

variable {registry : Registry} {isStrict : Bool} {next : Nat} {grammar : Grammar}

end Grammar

end CommandGrammar
