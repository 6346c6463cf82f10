import CommandGrammar.Matching.State
import Mathlib.Data.List.Basic

/-!
Runs of the matching loop. A line is taken group by group: a group is a node with the words that it
takes, the word that stands for it and, where the node needs one, a value. A run leads from one
state to another by groups, each of them chosen at the frontier that the ones before it have left;
what is left of a line after its longest run says how matching ends.
-/

namespace CommandGrammar

section Except

variable {ε δ α β : Type} {e : Except ε α}

/-- What gives a value with a property has succeeded. -/
lemma exists_ok_of_any {p : α → Bool} (h : e.toOption.any p = true) :
    ∃ a, e = .ok a ∧ p a = true := by
  cases e with
  | error => cases h
  | ok a => exact ⟨a, rfl, h⟩

/-- What gives a value with a property in two steps has succeeded in both. -/
lemma exists_ok_of_any_any {f : α → Except δ β} {p : α → β → Bool}
    (h : (e.toOption.any fun a => (f a).toOption.any (p a)) = true) :
    ∃ a b, e = .ok a ∧ f a = .ok b ∧ p a b = true := by
  obtain ⟨a, ha, hp⟩ := exists_ok_of_any h
  obtain ⟨b, hb, hab⟩ := exists_ok_of_any hp
  exact ⟨a, b, ha, hb, hab⟩

end Except

/-! ### Groups -/

/-- A node with the words that it takes. -/
structure Group where
  node : Node
  /-- The word that stands for the node. -/
  word : String
  /-- The value after the word, if there is one. -/
  value? : Option String

namespace Group

variable (g : Group)

/-- The words, in order. -/
def words : List String := g.word :: g.value?.toList

/-- What the group gives its parameter: the value of a named one, the word of a positional one, and
presence alone otherwise. -/
def item : Item :=
  match g.node.kind?, g.value? with
  | some .named, some value => .word value
  | some .simple, _ => .word g.word
  | _, _ => .present

/-- A value is there exactly when the node takes one. -/
def IsFull : Prop := g.value?.isSome = g.node.takesValue

lemma words_length (h : g.IsFull) : g.words.length = if g.node.takesValue then 2 else 1 := by
  unfold IsFull at h
  rw [words, ← h]
  cases g.value? <;> rfl

end Group

/-- The words of groups, one group after another. -/
def wordsOf (gs : List Group) : List String := gs.flatMap Group.words

@[simp] lemma wordsOf_nil : wordsOf [] = [] := rfl

@[simp] lemma wordsOf_cons (g : Group) (gs : List Group) :
    wordsOf (g :: gs) = g.words ++ wordsOf gs := rfl

@[simp] lemma wordsOf_append (gs hs : List Group) :
    wordsOf (gs ++ hs) = wordsOf gs ++ wordsOf hs := List.flatMap_append

/-! ### Nodes -/

namespace Node

lemma takesValue_of_isCommand {n : Node} (h : n.isCommand = true) : n.takesValue = false := by
  unfold isCommand at h
  unfold takesValue kind? traits?
  split at h <;> simp_all

lemma isParameter_iff {n : Node} : n.isParameter = true ↔ n.isCommand = false := by
  simp [isParameter]

end Node

/-! ### Steps -/

namespace State

/-- The state after a group was matched. -/
def after (s : State) (g : Group) : State :=
  if g.node.isCommand then s.enter g.node g.word else s.record g.node g.words g.item

/-- The commands matched, in order. -/
def path (s : State) : List Node := s.trace.filter Node.isCommand

/-- The group is what a state takes next: its word stands for its node, and a value is there when
the node takes one. -/
structure Accepts (s : State) (g : Group) : Prop where
  chosen : Frontier.select s.frontier g.word = .chosen g.node
  isFull : g.IsFull

section

variable {s t : State} {g : Group} {position : Nat} {word : String} {n : Node}

lemma choose_eq_ok_iff : s.choose position word = .ok n ↔
    Frontier.select s.frontier word = .chosen n := by
  unfold choose
  split <;> simp_all

/-- A word is refused when several nodes tie for it, when nothing is found, or at a frontier that
cannot be matched at all. -/
lemma choose_eq_error_iff {e : MatchError} : s.choose position word = .error e ↔
    (∃ nodes, Frontier.select s.frontier word = .tied nodes ∧
      e = .ambiguous word position nodes s.tokens) ∨
    (Frontier.select s.frontier word = .nothing ∧
      e = .atFrontier s.frontier word position s.tokens) ∨
    Frontier.select s.frontier word = .blocked ∧ e = .blocked := by
  unfold choose
  cases Frontier.select s.frontier word with
  | chosen => simp
  | tied nodes => simp [eq_comm]
  | nothing => simp [eq_comm]
  | blocked => simp [eq_comm]

lemma after_of_isCommand (h : g.node.isCommand = true) : s.after g = s.enter g.node g.word :=
  if_pos h

lemma after_of_isParameter (h : g.node.isCommand = false) :
    s.after g = s.record g.node g.words g.item := by
  simp [after, h]

lemma take_eq_after (s : State) (n : Node) (word : String) :
    s.take n word = s.after ⟨n, word, none⟩ := by
  have hitem : (⟨n, word, none⟩ : Group).item =
      if n.isPositional then .word word else .present := by
    unfold Group.item Node.isPositional
    rcases n.kind? with _ | _ | _ | _ <;> rfl
  rw [take, after, hitem]
  rfl

lemma record_eq_after (s : State) (word value : String) (hn : n.takesValue = true) :
    s.record n [word, value] (.word value) = s.after ⟨n, word, some value⟩ := by
  have hc : n.isCommand = false := by
    by_contra h
    rw [Bool.not_eq_false] at h
    simp [Node.takesValue_of_isCommand h] at hn
  have hkind : n.kind? = some .named := by simpa [Node.takesValue] using hn
  have hitem : (⟨n, word, some value⟩ : Group).item = .word value := by
    simp [Group.item, hkind]
  rw [after_of_isParameter hc, hitem]
  rfl

lemma after_root (s : State) (g : Group) : (s.after g).root = s.root := by
  unfold after
  split <;> rfl

lemma after_trace (s : State) (g : Group) : (s.after g).trace = s.trace ++ [g.node] := by
  unfold after
  split <;> rfl

lemma after_command (s : State) (g : Group) :
    (s.after g).command = if g.node.isCommand then some g.node else s.command := by
  unfold after
  split <;> rfl

lemma after_path (s : State) (g : Group) :
    (s.after g).path = if g.node.isCommand then s.path ++ [g.node] else s.path := by
  unfold path
  rw [after_trace, List.filter_append, List.filter_singleton]
  cases g.node.isCommand <;> simp

/-- The command in force is the last one matched. -/
lemma after_command_eq (h : s.command = s.path.getLast?) (g : Group) :
    (s.after g).command = (s.after g).path.getLast? := by
  rw [after_command, after_path]
  split
  · rw [List.getLast?_concat]
  · exact h

lemma after_tokens (h : g.IsFull) : (s.after g).tokens = s.tokens ++ g.words := by
  unfold after
  split
  · next hc =>
    have hv : g.value? = none := by
      simpa [Group.IsFull, Node.takesValue_of_isCommand hc] using h
    simp [enter, Group.words, hv]
  · rfl

/-- **One round of the loop.** A group that the state accepts is taken off the words. -/
theorem run_after (h : s.Accepts g) (position : Nat) (rest : List String) :
    s.run position (g.words ++ rest) = (s.after g).run (position + g.words.length) rest := by
  obtain ⟨n, word, value?⟩ := g
  have hn : s.choose position word = .ok n := choose_eq_ok_iff.2 h.chosen
  have hv : value?.isSome = n.takesValue := h.isFull
  cases value? with
  | none =>
    have hv' : n.takesValue = false := hv.symm
    simp [Group.words, run, hn, hv', take_eq_after]
  | some value =>
    have hv' : n.takesValue = true := hv.symm
    simp [Group.words, run, hn, hv', record_eq_after]

end

/-! ### Runs -/

/-- The groups lead from one state to another, each accepted where the ones before it have led. -/
inductive Reaches : State → List Group → State → Prop
  | nil (s : State) : Reaches s [] s
  | cons {s t : State} {g : Group} {gs : List Group} :
    s.Accepts g → Reaches (s.after g) gs t → Reaches s (g :: gs) t

/-- How matching ends at a state when the words are left and the first of them has the position:
none is left, the first one is refused, or it is the last one and lacks its value. -/
inductive Ends (t : State) (position : Nat) : List String → Except MatchError State → Prop
  | finished : Ends t position [] (.ok t)
  | refused {word : String} {rest : List String} {e : MatchError} :
    t.choose position word = .error e → Ends t position (word :: rest) (.error e)
  | unvalued {word : String} {n : Node} :
    t.choose position word = .ok n → n.takesValue = true →
      Ends t position [word] (.error (.missingValue word n (position + 1) (t.tokens ++ [word])))

namespace Reaches

variable {s t u : State} {gs hs : List Group}

lemma append (h : Reaches s gs t) (h' : Reaches t hs u) : Reaches s (gs ++ hs) u := by
  induction h with
  | nil => exact h'
  | cons hg _ ih => exact .cons hg (ih h')

lemma exists_of_append (h : Reaches s (gs ++ hs) t) : ∃ u, Reaches s gs u ∧ Reaches u hs t := by
  induction gs generalizing s with
  | nil => exact ⟨s, .nil s, h⟩
  | cons g gs ih =>
    cases h with
    | cons hg hr =>
      obtain ⟨u, hu, hut⟩ := ih hr
      exact ⟨u, .cons hg hu, hut⟩

/-- What one step preserves a run preserves. -/
lemma invariant {P : State → Prop} (step : ∀ s g, P s → s.Accepts g → P (s.after g))
    (h : Reaches s gs t) (hs : P s) : P t := by
  induction h with
  | nil => exact hs
  | cons hg _ ih => exact ih (step _ _ hs hg)

/-- **The words of a run are taken off the line,** whatever follows them. -/
theorem run_eq (h : Reaches s gs t) (position : Nat) (rest : List String) :
    s.run position (wordsOf gs ++ rest) = t.run (position + (wordsOf gs).length) rest := by
  induction h generalizing position with
  | nil => simp
  | cons hg _ ih =>
    rw [wordsOf_cons, List.append_assoc, run_after hg, ih, List.length_append, Nat.add_assoc]

lemma root_eq (h : Reaches s gs t) : t.root = s.root :=
  h.invariant (P := fun u => u.root = s.root) (fun u g hu _ => by rw [after_root, hu]) rfl

lemma trace_eq (h : Reaches s gs t) : t.trace = s.trace ++ gs.map Group.node := by
  induction h with
  | nil => simp
  | cons _ _ ih => rw [ih, after_trace, List.map_cons, List.append_assoc, List.singleton_append]

lemma trace_of_start {root : Root} (h : Reaches (start root) gs t) :
    t.trace = gs.map Group.node := by
  simpa [start] using h.trace_eq

lemma tokens_eq (h : Reaches s gs t) : t.tokens = s.tokens ++ wordsOf gs := by
  induction h with
  | nil => simp
  | cons hg _ ih => rw [ih, after_tokens hg.isFull, wordsOf_cons, List.append_assoc]

lemma command_eq (h : Reaches s gs t) (hs : s.command = s.path.getLast?) :
    t.command = t.path.getLast? :=
  h.invariant (P := fun u => u.command = u.path.getLast?) (fun _ g hu _ => after_command_eq hu g) hs

lemma isFull (h : Reaches s gs t) : ∀ g ∈ gs, g.IsFull := by
  induction h with
  | nil => simp
  | cons hg _ ih => exact List.forall_mem_cons.2 ⟨hg.isFull, ih⟩

end Reaches

lemma Ends.run_eq {t : State} {position : Nat} {rest : List String} {r : Except MatchError State}
    (h : t.Ends position rest r) : t.run position rest = r := by
  cases h with
  | finished => rfl
  | refused he => simp [run, he]
  | unvalued hn hv => simp [run, hn, hv]

/-- **Every line is a run and an ending.** -/
theorem exists_ends (s : State) (position : Nat) (tokens : List String) :
    ∃ gs t rest, s.Reaches gs t ∧ wordsOf gs ++ rest = tokens ∧
      t.Ends (position + (wordsOf gs).length) rest (s.run position tokens) := by
  fun_induction State.run s position tokens with
  | case1 s position => exact ⟨[], s, [], .nil s, rfl, .finished⟩
  | case2 s position word rest e he =>
    exact ⟨[], s, word :: rest, .nil s, rfl, .refused he⟩
  | case3 s position word n hn hv => exact ⟨[], s, [word], .nil s, rfl, .unvalued hn hv⟩
  | case4 s position word n hn hv value rest ih =>
    rw [record_eq_after s word value hv] at ih
    obtain ⟨gs, t, left, hr, rfl, he⟩ := ih
    have hg : s.Accepts ⟨n, word, some value⟩ := ⟨choose_eq_ok_iff.1 hn, hv.symm⟩
    refine ⟨_ :: gs, t, left, .cons hg hr, rfl, ?_⟩
    rw [record_eq_after s word value hv]
    have hl : position + (wordsOf (⟨n, word, some value⟩ :: gs)).length =
        position + 2 + (wordsOf gs).length := by
      simp [Group.words]
      omega
    rwa [hl]
  | case5 s position word rest n hn hv ih =>
    rw [take_eq_after] at ih
    obtain ⟨gs, t, left, hr, rfl, he⟩ := ih
    have hg : s.Accepts ⟨n, word, none⟩ :=
      ⟨choose_eq_ok_iff.1 hn, ((Bool.not_eq_true _).mp hv).symm⟩
    refine ⟨_ :: gs, t, left, .cons hg hr, rfl, ?_⟩
    rw [take_eq_after]
    have hl : position + (wordsOf (⟨n, word, none⟩ :: gs)).length =
        position + 1 + (wordsOf gs).length := by
      simp [Group.words]
      omega
    rwa [hl]

/-- Matching succeeds exactly when the words are those of a run. -/
theorem run_eq_ok_iff {s t : State} {position : Nat} {tokens : List String} :
    s.run position tokens = .ok t ↔ ∃ gs, s.Reaches gs t ∧ wordsOf gs = tokens := by
  constructor
  · intro h
    obtain ⟨gs, u, rest, hr, rfl, he⟩ := s.exists_ends position tokens
    rw [h] at he
    cases he
    exact ⟨gs, hr, (List.append_nil _).symm⟩
  · rintro ⟨gs, hr, rfl⟩
    have := hr.run_eq position []
    rwa [List.append_nil] at this

end State

/-- A line matches exactly when its words are those of a run from the start. -/
theorem parse_eq_ok_iff {tokens : List String} {root : Root} {s : State} :
    parse tokens root = .ok s ↔ ∃ gs, (State.start root).Reaches gs s ∧ wordsOf gs = tokens :=
  State.run_eq_ok_iff

lemma root_of_parse {tokens : List String} {root : Root} {s : State}
    (h : parse tokens root = .ok s) : s.root = root := by
  obtain ⟨gs, hr, -⟩ := parse_eq_ok_iff.1 h
  exact hr.root_eq

end CommandGrammar
