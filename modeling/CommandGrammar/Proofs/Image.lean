import CommandGrammar.Proofs.Selection
import CommandGrammar.Proofs.Tree

/-!
Images of grammars. A grammar has an image where every node goes to one that is matched alike, and
what follows a node to what follows its image, in an arrangement that keeps the positional
parameters in order. Matching a line over the image goes step by step as it does over the grammar:
what is selected, how a state advances, and what comes out.
-/

namespace CommandGrammar

/-! ### Arrangements -/

namespace Frontier

/-- The nodes are the same, and the positional parameters among them come in the same order. -/
def Rearranges (xs ys : List Node) : Prop :=
  xs.Perm ys ∧ xs.filter Node.isPositional = ys.filter Node.isPositional

instance : DecidableRel Rearranges := fun xs ys =>
  inferInstanceAs (Decidable (xs.Perm ys ∧ xs.filter Node.isPositional = ys.filter _))

/-- A relation between lists of nodes that goes along with what matching does to frontiers, and
allows no more than rearranging them. -/
class IsArrangement (r : List Node → List Node → Prop) : Prop where
  rearranges {xs ys : List Node} : r xs ys → Rearranges xs ys
  append {xs ys us vs : List Node} : r xs ys → r us vs → r (xs ++ us) (ys ++ vs)
  filter {xs ys : List Node} (p : Node → Bool) : r xs ys → r (xs.filter p) (ys.filter p)

/-- The least arrangement. -/
instance : IsArrangement (· = ·) where
  rearranges := by
    rintro xs _ rfl
    exact ⟨.refl xs, rfl⟩
  append := by
    rintro _ _ _ _ rfl rfl
    rfl
  filter := by
    rintro _ _ _ rfl
    rfl

/-- The widest arrangement. -/
instance : IsArrangement Rearranges where
  rearranges := id
  append h h' := by
    refine ⟨h.1.append h'.1, ?_⟩
    rw [List.filter_append, List.filter_append, h.2, h'.2]
  filter p h := by
    refine ⟨h.1.filter p, ?_⟩
    rw [List.filter_comm, h.2, List.filter_comm]

end Frontier

/-! ### Images -/

section Images

variable (r : List Node → List Node → Prop) (f : Node → Node)

/-- The node that `f` gives for the node is matched alike, and is followed by what `f` gives for
what follows the node, arranged. -/
structure Node.IsImage (n : Node) : Prop where
  name_eq : (f n).name = n.name
  priority_eq : (f n).priority = n.priority
  role_eq : (f n).role = n.role
  successors : r (n.successors.map f) (f n).successors

/-- The one root is what `f` makes of the other, node by node. -/
structure Root.IsImage (root image : Root) : Prop where
  successors : r (root.successors.map f) image.successors
  isImage : ∀ n ∈ root.walk, n.IsImage r f
  injective : ∀ m ∈ root.walk, ∀ n ∈ root.walk, f m = f n → m = n

variable (root : Root)

/-- Nodes of the root, and what `f` gives for them, arranged. -/
structure Frontier.IsImage (xs ys : List Node) : Prop where
  mem_walk : ∀ n ∈ xs, n ∈ root.walk
  arranged : r (xs.map f) ys

/-- What a word stands for, by a node of the root or not, and what it stands for by images. -/
inductive Frontier.Selection.IsImage : Selection → Selection → Prop
  | chosen {n : Node} : n ∈ root.walk → IsImage (.chosen n) (.chosen (f n))
  | tied {xs ys : List Node} : Frontier.IsImage r f root xs ys → IsImage (.tied xs) (.tied ys)
  | nothing : IsImage .nothing .nothing
  | blocked {n : Node} : n ∈ root.walk → n.isKindless = true → IsImage .blocked .blocked

/-- The one state is as far as the other. -/
structure State.IsImage (s t : State) : Prop where
  frontier : Frontier.IsImage r f root s.frontier t.frontier
  trace_eq : t.trace = s.trace.map f
  command_eq : t.command = s.command.map f
  bindings_eq : t.bindings = s.bindings.map (Prod.map f id)
  bindings_mem : ∀ entry ∈ s.bindings, entry.1 ∈ root.walk
  tokens_eq : t.tokens = s.tokens

/-- The one error is that of the other, told of images. -/
inductive MatchError.IsImage : MatchError → MatchError → Prop
  | noMatch {xs ys : List Node} (word : String) (position : Nat) (consumed : List String) :
    Frontier.IsImage r f root xs ys →
      IsImage (.atFrontier xs word position consumed) (.atFrontier ys word position consumed)
  | ambiguous {xs ys : List Node} (word : String) (position : Nat) (consumed : List String) :
    Frontier.IsImage r f root xs ys →
      IsImage (.ambiguous word position xs consumed) (.ambiguous word position ys consumed)
  | missingValue {n : Node} (word : String) (position : Nat) (consumed : List String) :
    n ∈ root.walk →
      IsImage (.missingValue word n position consumed) (.missingValue word (f n) position consumed)
  | blocked {n : Node} : n ∈ root.walk → n.isKindless = true → IsImage .blocked .blocked

/-- Matching comes to a state and its image, or to an error and its image. -/
inductive Outcome.IsImage : Except MatchError State → Except MatchError State → Prop
  | ok {s t : State} : s.IsImage r f root t → IsImage (.ok s) (.ok t)
  | error {e d : MatchError} : e.IsImage r f root d → IsImage (.error e) (.error d)

end Images

/-- Every node of the root is a command, a wrapper or a parameter of some kind. -/
def Root.IsClosed (root : Root) : Prop := ∀ n ∈ root.walk, n.isKindless = false

/-- The first node of the root that has the name of the node; where no two nodes share a name, it
can only be the node's image. -/
def Root.counterpart (image : Root) (n : Node) : Node :=
  (image.walk.find? fun m => m.name == n.name).getD n

/-- The group at the node that `f` gives for its node. -/
def Group.image (f : Node → Node) (g : Group) : Group := { g with node := f g.node }

variable {r : List Node → List Node → Prop} {f : Node → Node}

instance (n : Node) [DecidableRel r] : Decidable (n.IsImage r f) :=
  decidable_of_iff ((f n).name = n.name ∧ (f n).priority = n.priority ∧ (f n).role = n.role ∧
      r (n.successors.map f) (f n).successors)
    ⟨fun h => ⟨h.1, h.2.1, h.2.2.1, h.2.2.2⟩, fun h => ⟨h.1, h.2, h.3, h.4⟩⟩

instance (root image : Root) [DecidableRel r] : Decidable (root.IsImage r f image) :=
  decidable_of_iff (r (root.successors.map f) image.successors ∧
      (∀ n ∈ root.walk, n.IsImage r f) ∧ ∀ m ∈ root.walk, ∀ n ∈ root.walk, f m = f n → m = n)
    ⟨fun h => ⟨h.1, h.2.1, h.2.2⟩, fun h => ⟨h.1, h.2, h.3⟩⟩

instance (root : Root) : Decidable root.IsClosed :=
  inferInstanceAs (Decidable (∀ n ∈ root.walk, n.isKindless = false))

lemma Registry.isClosed_of_finish {registry : Registry} {isStrict : Bool} {next : Nat}
    {grammar : Grammar} (hf : registry.finish isStrict next = .ok grammar) :
    grammar.root.IsClosed :=
  fun n hn => ((Registry.isTree_of_finish hf).isBuilt n hn).isKindless_eq_false

/-! ### What images share -/

namespace Node.IsImage

variable {n : Node} (h : n.IsImage r f)

include h

lemma isCommand_eq : (f n).isCommand = n.isCommand := by
  unfold isCommand
  rw [h.role_eq]

lemma isKindless_eq : (f n).isKindless = n.isKindless := by
  unfold isKindless
  rw [h.role_eq]

lemma traits?_eq : (f n).traits? = n.traits? := by
  unfold traits?
  rw [h.role_eq]

lemma kind?_eq : (f n).kind? = n.kind? := by rw [kind?, kind?, h.traits?_eq]

lemma isPositional_eq : (f n).isPositional = n.isPositional := by
  rw [isPositional, isPositional, h.kind?_eq]

lemma takesValue_eq : (f n).takesValue = n.takesValue := by
  rw [takesValue, takesValue, h.kind?_eq]

lemma isRepeatable_eq : (f n).isRepeatable = n.isRepeatable := by
  rw [isRepeatable, isRepeatable, h.traits?_eq]

lemma literals_eq : (f n).literals = n.literals := by
  unfold literals
  rw [h.role_eq, h.name_eq]

lemma isNamedBy_eq (word : String) : (f n).isNamedBy word = n.isNamedBy word := by
  rw [isNamedBy, isNamedBy, h.literals_eq]

lemma isAbbreviatedBy_eq (word : String) : (f n).isAbbreviatedBy word = n.isAbbreviatedBy word := by
  rw [isAbbreviatedBy, isAbbreviatedBy, h.literals_eq]

end Node.IsImage

/-! ### Selection -/

namespace Frontier.IsImage

variable [IsArrangement r] {root image : Root} {xs ys us vs : List Node} {word : String}

lemma append (h : IsImage r f root xs ys) (h' : IsImage r f root us vs) :
    IsImage r f root (xs ++ us) (ys ++ vs) := by
  refine ⟨fun n hn => ?_, ?_⟩
  · exact (List.mem_append.1 hn).elim (h.mem_walk n) (h'.mem_walk n)
  · rw [List.map_append]
    exact IsArrangement.append h.arranged h'.arranged

/-- A test that nodes and their images pass alike selects nodes and their images. -/
lemma filter {p q : Node → Bool} (h : IsImage r f root xs ys) (hpq : ∀ n ∈ xs, q (f n) = p n) :
    IsImage r f root (xs.filter p) (ys.filter q) := by
  refine ⟨fun n hn => h.mem_walk n (List.mem_of_mem_filter hn), ?_⟩
  have hmap : (xs.filter p).map f = (xs.map f).filter q := by
    rw [List.filter_map]
    congr 1
    exact List.filter_congr fun n hn => (hpq n hn).symm
  rw [hmap]
  exact IsArrangement.filter q h.arranged

variable (h : IsImage r f root xs ys)

include h

lemma perm : (xs.map f).Perm ys := (IsArrangement.rearranges h.arranged).1

lemma isEmpty_eq : ys.isEmpty = xs.isEmpty := by
  rw [← h.perm.isEmpty_eq, List.isEmpty_map]

lemma mem_iff {n : Node} : n ∈ ys ↔ ∃ m ∈ xs, f m = n := by
  rw [← h.perm.mem_iff, List.mem_map]

/-- The only one of the nodes goes to the only one of the images. -/
lemma eq_singleton_iff {n : Node} : ys = [n] ↔ ∃ m, xs = [m] ∧ f m = n := by
  constructor
  · rintro rfl
    have := List.perm_singleton.1 h.perm
    exact List.map_eq_singleton_iff.1 this
  · rintro ⟨m, rfl, rfl⟩
    exact (List.singleton_perm.1 h.perm).symm

end Frontier.IsImage

namespace Root.IsImage

variable {root image : Root} (h : root.IsImage r f image) {xs ys : List Node} {word : String}

include h

lemma image_successors {n : Node} (hn : n ∈ root.walk) :
    Frontier.IsImage r f root n.successors (f n).successors :=
  ⟨fun _ => Node.mem_walkAll_of_mem_successors hn, (h.isImage n hn).successors⟩

lemma eq_iff {m n : Node} (hm : m ∈ root.walk) (hn : n ∈ root.walk) : f m = f n ↔ m = n :=
  ⟨h.injective m hm n hn, congrArg f⟩

variable [Frontier.IsArrangement r] (hxs : Frontier.IsImage r f root xs ys)

include hxs

lemma candidates (word : String) :
    Frontier.IsImage r f root (Frontier.candidates xs word) (Frontier.candidates ys word) := by
  have hnamed : Frontier.IsImage r f root (Frontier.named xs word) (Frontier.named ys word) :=
    hxs.filter fun n hn => (h.isImage n (hxs.mem_walk n hn)).isNamedBy_eq word
  have habbreviated :
      Frontier.IsImage r f root (Frontier.abbreviated xs word) (Frontier.abbreviated ys word) :=
    hxs.filter fun n hn => (h.isImage n (hxs.mem_walk n hn)).isAbbreviatedBy_eq word
  unfold Frontier.candidates
  rw [hnamed.isEmpty_eq]
  split
  · exact habbreviated
  · exact hnamed

/-- The first positional parameter goes to the first one. -/
lemma positional?_eq : Frontier.positional? ys = (Frontier.positional? xs).map f := by
  have hpositional : ys.filter Node.isPositional = (xs.filter Node.isPositional).map f := by
    rw [← (Frontier.IsArrangement.rearranges hxs.arranged).2, List.filter_map]
    congr 1
    exact List.filter_congr fun n hn => (h.isImage n (hxs.mem_walk n hn)).isPositional_eq
  rw [Frontier.positional?, Frontier.positional?, ← List.head?_filter, ← List.head?_filter,
    hpositional, List.head?_map]

lemma topPriority?_eq : Frontier.topPriority? ys = Frontier.topPriority? xs := by
  have hpriority : (xs.map f).map Node.priority = xs.map Node.priority := by
    rw [List.map_map]
    exact List.map_congr_left fun n hn => (h.isImage n (hxs.mem_walk n hn)).priority_eq
  have hperm : (ys.map Node.priority).Perm (xs.map Node.priority) := by
    rw [← hpriority]
    exact (hxs.perm.map _).symm
  refine Option.ext fun top => ?_
  rw [Frontier.topPriority?, Frontier.topPriority?, List.max?_eq_some_iff, List.max?_eq_some_iff]
  simp only [hperm.mem_iff]

lemma atPriority (priority : Int) :
    Frontier.IsImage r f root (Frontier.atPriority xs priority)
      (Frontier.atPriority ys priority) := by
  refine hxs.filter fun n hn => ?_
  rw [(h.isImage n (hxs.mem_walk n hn)).priority_eq]

lemma any_isKindless_eq : ys.any Node.isKindless = xs.any Node.isKindless := by
  have hkindless : (xs.map f).map Node.isKindless = xs.map Node.isKindless := by
    rw [List.map_map]
    exact List.map_congr_left fun n hn => (h.isImage n (hxs.mem_walk n hn)).isKindless_eq
  have hany : ∀ nodes : List Node, nodes.any Node.isKindless = (nodes.map Node.isKindless).any id :=
    fun nodes => by rw [List.any_map, Function.id_comp]
  rw [← hxs.perm.any_eq, hany, hkindless, ← hany]

lemma selectAmong (top : Int) :
    (Frontier.selectAmong xs top).IsImage r f root (Frontier.selectAmong ys top) := by
  have hat := h.atPriority hxs top
  unfold Frontier.selectAmong
  split
  · next n hn =>
    rw [hn] at hat
    have := hat.eq_singleton_iff.2 ⟨n, rfl, rfl⟩
    rw [this]
    exact .chosen (hat.mem_walk n (List.mem_singleton_self n))
  · next hn =>
    split
    · next m hm =>
      obtain ⟨n, hn', -⟩ := hat.eq_singleton_iff.1 hm
      exact absurd hn' (hn n)
    · exact .tied hat

/-- **The same word stands for a node and for its image,** or for none of either. -/
theorem select (word : String) :
    (Frontier.select xs word).IsImage r f root (Frontier.select ys word) := by
  have hcandidates := h.candidates hxs word
  unfold Frontier.select
  rw [h.any_isKindless_eq hxs]
  split
  · next hk =>
    obtain ⟨n, hn, hkind⟩ := List.any_eq_true.1 hk
    exact .blocked (hxs.mem_walk n hn) hkind
  · dsimp only
    rw [h.positional?_eq hxs, h.topPriority?_eq hcandidates]
    cases hp : Frontier.positional? xs with
    | none =>
      cases Frontier.topPriority? (Frontier.candidates xs word) with
      | none => exact .nothing
      | some top => exact h.selectAmong hcandidates top
    | some p =>
      have hwalk : p ∈ root.walk := hxs.mem_walk p (List.mem_of_find?_eq_some hp)
      cases Frontier.topPriority? (Frontier.candidates xs word) with
      | none => exact .chosen hwalk
      | some top =>
        simp only [Option.map_some, (h.isImage p hwalk).priority_eq]
        split
        · exact .chosen hwalk
        · exact h.selectAmong hcandidates top

end Root.IsImage

/-! ### States -/

namespace Root.IsImage

variable {root image : Root} (h : root.IsImage r f image)

include h

/-- What comes first at a frontier goes to what comes first, and what stays to what stays. -/
lemma advance [Frontier.IsArrangement r] {xs ys : List Node} {p : Node}
    (hxs : Frontier.IsImage r f root xs ys) (hp : p ∈ root.walk) :
    Frontier.IsImage r f root (Frontier.advance xs p) (Frontier.advance ys (f p)) := by
  have hsuccessors := h.image_successors hp
  refine hsuccessors.append ((hxs.filter fun n hn => ?_).filter fun n hn => ?_)
  · have hn' := hxs.mem_walk n hn
    simp only [ne_eq, h.eq_iff hn' hp, (h.isImage p hp).isRepeatable_eq]
  · have hn' := hxs.mem_walk n (List.mem_of_mem_filter hn)
    have hmem : f n ∈ (f p).successors ↔ n ∈ p.successors := by
      rw [hsuccessors.mem_iff]
      constructor
      · rintro ⟨m, hm, he⟩
        rwa [← h.injective m (hsuccessors.mem_walk m hm) n hn' he]
      · exact fun hm => ⟨n, hm, rfl⟩
    simp only [hmem]

/-- Binding the image of a parameter binds the image of what binding the parameter binds. -/
lemma bind {bindings : Bindings} {p : Node} (hb : ∀ entry ∈ bindings, entry.1 ∈ root.walk)
    (hp : p ∈ root.walk) (item : Item) :
    Bindings.bind (f p) item (bindings.map (Prod.map f id)) =
      (Bindings.bind p item bindings).map (Prod.map f id) := by
  have hrepeatable := (h.isImage p hp).isRepeatable_eq
  induction bindings with
  | nil => simp [Bindings.bind, Binding.first, hrepeatable]
  | cons entry rest ih =>
    obtain ⟨n, b⟩ := entry
    obtain ⟨hn, hrest⟩ := List.forall_mem_cons.1 hb
    simp only [List.map_cons, Prod.map_apply, id_eq, Bindings.bind, h.eq_iff hn hp, ih hrest]
    split
    · simp [Binding.again, hrepeatable]
    · rfl

end Root.IsImage

lemma Bindings.mem_of_mem_bind {bindings : Bindings} {p : Node} {item : Item}
    {entry : Node × Binding} (h : entry ∈ bindings.bind p item) :
    entry.1 = p ∨ ∃ other ∈ bindings, other.1 = entry.1 := by
  induction bindings with
  | nil =>
    left
    rw [List.mem_singleton.1 h]
  | cons other rest ih =>
    obtain ⟨n, b⟩ := other
    rw [bind] at h
    split at h
    · next hn =>
      rcases List.mem_cons.1 h with rfl | h
      · exact .inl hn
      · exact .inr ⟨entry, List.mem_cons_of_mem _ h, rfl⟩
    · rcases List.mem_cons.1 h with rfl | h
      · exact .inr ⟨_, List.mem_cons_self, rfl⟩
      · rcases ih h with he | ⟨k, hk, he⟩
        · exact .inl he
        · exact .inr ⟨k, List.mem_cons_of_mem _ hk, he⟩

namespace Group

variable (g : Group)

@[simp] lemma image_words (f : Node → Node) : (g.image f).words = g.words := rfl

lemma wordsOf_image (f : Node → Node) (gs : List Group) :
    wordsOf (gs.map (image f)) = wordsOf gs := by
  induction gs with
  | nil => rfl
  | cons g gs ih => rw [List.map_cons, wordsOf_cons, wordsOf_cons, ih, image_words]

end Group

namespace State.IsImage

variable {root image : Root} {s t : State} {g : Group} {word : String}

lemma start (h : root.IsImage r f image) :
    (State.start root).IsImage r f root (State.start image) where
  frontier := ⟨fun _ hn => Node.mem_walkAll_of_mem hn, h.successors⟩
  trace_eq := rfl
  command_eq := rfl
  bindings_eq := rfl
  bindings_mem := by simp [State.start]
  tokens_eq := rfl

variable [Frontier.IsArrangement r] (hs : s.IsImage r f root t) (h : root.IsImage r f image)

include hs h

/-- A group that the state accepts goes to one that its image accepts. -/
lemma accepts (hg : s.Accepts g) : g.node ∈ root.walk ∧ t.Accepts (g.image f) := by
  have hsel := h.select hs.frontier g.word
  rw [hg.chosen] at hsel
  generalize hc : Frontier.select t.frontier g.word = selection at hsel
  cases hsel with
  | chosen hn => exact ⟨hn, hc, hg.isFull.trans (h.isImage _ hn).takesValue_eq.symm⟩

/-- **One step keeps an image.** -/
theorem after (hg : s.Accepts g) : (s.after g).IsImage r f root (t.after (g.image f)) := by
  obtain ⟨hn, -⟩ := hs.accepts h hg
  have hnode := h.isImage g.node hn
  have hitem : (g.image f).item = g.item := by
    unfold Group.item
    rw [Group.image, hnode.kind?_eq]
  have htrace : t.trace ++ [f g.node] = (s.trace ++ [g.node]).map f := by
    rw [hs.trace_eq, List.map_append, List.map_singleton]
  by_cases hc : g.node.isCommand = true
  · have hc' : (g.image f).node.isCommand = true := hnode.isCommand_eq.trans hc
    rw [after_of_isCommand hc, after_of_isCommand hc']
    exact {
      frontier := h.image_successors hn
      trace_eq := htrace
      command_eq := rfl
      bindings_eq := hs.bindings_eq
      bindings_mem := hs.bindings_mem
      tokens_eq := congrArg (· ++ [g.word]) hs.tokens_eq }
  · rw [Bool.not_eq_true] at hc
    have hc' : (g.image f).node.isCommand = false := hnode.isCommand_eq.trans hc
    rw [after_of_isParameter hc, after_of_isParameter hc', hitem]
    exact {
      frontier := h.advance hs.frontier hn
      trace_eq := htrace
      command_eq := hs.command_eq
      bindings_eq := by
        simp only [record, hs.bindings_eq]
        exact h.bind hs.bindings_mem hn g.item
      bindings_mem := by
        intro entry hentry
        rcases Bindings.mem_of_mem_bind hentry with he | ⟨other, hother, he⟩
        · exact he ▸ hn
        · exact he ▸ hs.bindings_mem other hother
      tokens_eq := congrArg (· ++ g.words) hs.tokens_eq }

/-- **A run goes to a run.** -/
theorem reaches {u : State} {gs : List Group} (hr : s.Reaches gs u) :
    ∃ v, t.Reaches (gs.map (Group.image f)) v ∧ u.IsImage r f root v := by
  induction hr generalizing t with
  | nil s => exact ⟨t, .nil t, hs⟩
  | cons hg _ ih =>
    obtain ⟨v, hv, huv⟩ := ih (hs.after h hg)
    exact ⟨v, .cons (hs.accepts h hg).2 hv, huv⟩

/-- A word that is refused is refused by the image. -/
lemma choose {e : MatchError} {position : Nat} (he : s.choose position word = .error e) :
    ∃ d, t.choose position word = .error d ∧ e.IsImage r f root d := by
  have hsel := h.select hs.frontier word
  unfold State.choose at he ⊢
  rw [hs.tokens_eq]
  generalize Frontier.select s.frontier word = selection at he hsel
  generalize Frontier.select t.frontier word = selection' at hsel
  cases hsel with
  | chosen => cases he
  | tied hn =>
    cases he
    exact ⟨_, rfl, .ambiguous word position s.tokens hn⟩
  | nothing =>
    cases he
    exact ⟨_, rfl, .noMatch word position s.tokens hs.frontier⟩
  | blocked hn hk =>
    cases he
    exact ⟨_, rfl, .blocked hn hk⟩

lemma ends {position : Nat} {rest : List String} {outcome : Except MatchError State}
    (he : s.Ends position rest outcome) :
    ∃ outcome', t.Ends position rest outcome' ∧ Outcome.IsImage r f root outcome outcome' := by
  cases he with
  | finished => exact ⟨_, .finished, .ok hs⟩
  | refused hc =>
    obtain ⟨d, hd, hed⟩ := hs.choose h hc
    exact ⟨_, .refused hd, .error hed⟩
  | @unvalued w n hc hv =>
    have hg : s.Accepts ⟨n, w, some ""⟩ := ⟨choose_eq_ok_iff.1 hc, hv.symm⟩
    obtain ⟨hn, hacc⟩ := hs.accepts h hg
    have hv' : (f n).takesValue = true := (h.isImage n hn).takesValue_eq.trans hv
    refine ⟨_, .unvalued (choose_eq_ok_iff.2 hacc.chosen) hv', .error ?_⟩
    rw [hs.tokens_eq]
    exact .missingValue w (position + 1) (s.tokens ++ [w]) hn

end State.IsImage

/-- **Matching a line over the image of a grammar** comes to the image of what matching it over the
grammar comes to. -/
theorem Root.IsImage.parse [Frontier.IsArrangement r] {root image : Root}
    (h : root.IsImage r f image) (tokens : List String) :
    Outcome.IsImage r f root (parse tokens root) (parse tokens image) := by
  obtain ⟨gs, s, rest, hr, rfl, he⟩ := (State.start root).exists_ends 1 tokens
  obtain ⟨t, hr', hs⟩ := (State.IsImage.start h).reaches h hr
  obtain ⟨outcome, he', ho⟩ := hs.ends h he
  have hrun := hr'.run_eq 1 rest
  rw [Group.wordsOf_image, he'.run_eq] at hrun
  rw [CommandGrammar.parse, CommandGrammar.parse, hrun]
  exact ho

end CommandGrammar
