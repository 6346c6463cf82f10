import CommandGrammar.Proofs.Run
import Mathlib.Data.List.Induction
import Mathlib.Data.List.Nodup

/-!
What a run binds. Binding one group after another comes to gathering: every parameter among the
groups is bound once, in the order of first matches, to all of its items if it is repeatable and to
the last of them if it is not.
-/

namespace CommandGrammar

/-! ### Lists without repetitions -/

section EraseDups

variable {α : Type} [BEq α] [LawfulBEq α]

lemma eraseDups_concat (l : List α) (a : α) [Decidable (a ∈ l)] :
    (l ++ [a]).eraseDups = if a ∈ l then l.eraseDups else l.eraseDups ++ [a] := by
  rw [List.eraseDups_append]
  by_cases h : a ∈ l
  · simp [h, List.removeAll, List.eraseDups_nil]
  · simp [h, List.removeAll, List.eraseDups_cons]

lemma nodup_eraseDups [DecidableEq α] (l : List α) : l.eraseDups.Nodup := by
  induction l using List.reverseRecOn with
  | nil => simp
  | append_singleton l a ih =>
    rw [eraseDups_concat]
    split
    · exact ih
    · next h =>
      rw [← List.concat_eq_append, List.nodup_concat]
      exact ⟨by simpa using h, ih⟩

end EraseDups

/-! ### Gathering -/

/-- The items that groups give to a parameter, in order. -/
def itemsOf (gs : List Group) (p : Node) : List Item :=
  (gs.filter fun g => g.node = p).map Group.item

/-- The parameters among groups, in the order of their first matches. -/
def parametersOf (gs : List Group) : List Node :=
  ((gs.map Group.node).filter Node.isParameter).eraseDups

/-- What a parameter is bound to by its items: all of them, or the last. -/
def Binding.gathered (p : Node) (items : List Item) : Binding :=
  if p.isRepeatable then .several items else .single (items.getLast?.getD .present)

/-- What groups bind. -/
def Bindings.gathered (gs : List Group) : Bindings :=
  (parametersOf gs).map fun p => (p, .gathered p (itemsOf gs p))

section Items

variable {gs : List Group} {g : Group} {p : Node}

lemma itemsOf_append (gs hs : List Group) (p : Node) :
    itemsOf (gs ++ hs) p = itemsOf gs p ++ itemsOf hs p := by
  simp [itemsOf]

lemma itemsOf_singleton (g : Group) (p : Node) :
    itemsOf [g] p = if g.node = p then [g.item] else [] := by
  unfold itemsOf
  split <;> simp_all

lemma count_map_node (gs : List Group) (p : Node) :
    (gs.map Group.node).count p = (gs.filter fun g => g.node = p).length := by
  rw [List.count_eq_countP, List.countP_map, List.countP_eq_length_filter]
  rfl

/-- A node has as many items as matches. -/
lemma itemsOf_length (gs : List Group) (p : Node) :
    (itemsOf gs p).length = (gs.map Group.node).count p := by
  rw [itemsOf, List.length_map, count_map_node]

lemma itemsOf_eq_nil (h : p ∉ gs.map Group.node) : itemsOf gs p = [] := by
  have hf : gs.filter (fun g => g.node = p) = [] := by
    rw [List.filter_eq_nil_iff]
    intro g hg hgp
    exact h (List.mem_map.2 ⟨g, hg, of_decide_eq_true hgp⟩)
  rw [itemsOf, hf, List.map_nil]

lemma mem_parametersOf : p ∈ parametersOf gs ↔ p ∈ gs.map Group.node ∧ p.isParameter = true := by
  rw [parametersOf, List.mem_eraseDups, List.mem_filter]

lemma parametersOf_nodup (gs : List Group) : (parametersOf gs).Nodup := nodup_eraseDups _

lemma parametersOf_concat_command (h : g.node.isCommand = true) :
    parametersOf (gs ++ [g]) = parametersOf gs := by
  simp [parametersOf, Node.isParameter, h]

lemma parametersOf_concat_parameter (h : g.node.isCommand = false) :
    parametersOf (gs ++ [g]) =
      if g.node ∈ parametersOf gs then parametersOf gs else parametersOf gs ++ [g.node] := by
  have hp : g.node.isParameter = true := Node.isParameter_iff.2 h
  unfold parametersOf
  rw [List.map_append, List.filter_append, List.map_singleton, List.filter_singleton, hp, cond_true,
    eraseDups_concat]
  simp only [List.mem_eraseDups]

end Items

/-! ### Binding once more -/

namespace Binding

lemma first_eq (p : Node) (item : Item) : Binding.first p item = .gathered p [item] := rfl

lemma again_gathered (p : Node) (items : List Item) (item : Item) :
    (Binding.gathered p items).again p item = .gathered p (items ++ [item]) := by
  unfold again gathered
  split <;> simp [Binding.items]

end Binding

namespace Bindings

variable {p : Node} {ps : List Node} {item : Item}

/-- A parameter that is bound has one more item, or takes the place of what it had. -/
lemma get?_bind_self (p : Node) (item : Item) (bindings : Bindings) :
    (bind p item bindings).get? p = some
      (if p.isRepeatable then
        .several (((bindings.get? p).map Binding.items).getD [] ++ [item])
      else .single item) := by
  induction bindings with
  | nil => simp [bind, get?, Binding.first]
  | cons entry rest ih =>
    obtain ⟨n, b⟩ := entry
    by_cases hn : n = p
    · subst hn
      simp [bind, get?, Binding.again]
    · have hb : (p == n) = false := by simpa using Ne.symm hn
      simpa [bind, get?, hn, List.lookup_cons, hb] using ih

lemma bind_map_of_notMem {f : Node → Binding} (h : p ∉ ps) :
    bind p item (ps.map fun q => (q, f q)) =
      ps.map (fun q => (q, f q)) ++ [(p, .first p item)] := by
  induction ps with
  | nil => rfl
  | cons q qs ih =>
    rw [List.mem_cons, not_or] at h
    obtain ⟨hq, hqs⟩ := h
    simp [bind, Ne.symm hq, ih hqs]

lemma bind_map_of_mem {f : Node → Binding} (hnd : ps.Nodup) (h : p ∈ ps) :
    bind p item (ps.map fun q => (q, f q)) =
      ps.map fun q => (q, if q = p then (f q).again p item else f q) := by
  induction ps with
  | nil => cases h
  | cons q qs ih =>
    obtain ⟨hq, hqs⟩ := List.nodup_cons.1 hnd
    by_cases hqp : q = p
    · subst hqp
      have hrest : qs.map (fun r => (r, if r = q then (f r).again q item else f r)) =
          qs.map fun r => (r, f r) := by
        refine List.map_congr_left fun r hr => ?_
        have hrq : r ≠ q := fun e => hq (e ▸ hr)
        simp [hrq]
      rw [List.map_cons, List.map_cons, hrest]
      simp [bind]
    · have hp : p ∈ qs := (List.mem_cons.1 h).resolve_left (Ne.symm hqp)
      simp [bind, hqp, ih hqs hp]

lemma gathered_concat_command {gs : List Group} {g : Group} (h : g.node.isCommand = true) :
    gathered (gs ++ [g]) = gathered gs := by
  unfold gathered
  rw [parametersOf_concat_command h]
  refine List.map_congr_left fun p hp => ?_
  have hne : g.node ≠ p := by
    rintro rfl
    have := (mem_parametersOf.1 hp).2
    simp [Node.isParameter, h] at this
  rw [itemsOf_append, itemsOf_singleton, if_neg hne, List.append_nil]

lemma get?_gathered {gs : List Group} (h : p ∈ parametersOf gs) :
    (gathered gs).get? p = some (.gathered p (itemsOf gs p)) :=
  List.lookup_graph _ h

/-- Commands bind nothing. -/
lemma gathered_append_of_isCommand {cs : List Group} (h : ∀ g ∈ cs, g.node.isCommand = true)
    (gs : List Group) : gathered (cs ++ gs) = gathered gs := by
  have hnil : (cs.map Group.node).filter Node.isParameter = [] := by
    rw [List.filter_eq_nil_iff]
    intro n hn
    obtain ⟨g, hg, rfl⟩ := List.mem_map.1 hn
    simp [Node.isParameter, h g hg]
  have hparameters : parametersOf (cs ++ gs) = parametersOf gs := by
    rw [parametersOf, List.map_append, List.filter_append, hnil, List.nil_append, ← parametersOf]
  unfold gathered
  rw [hparameters]
  refine List.map_congr_left fun p hp => ?_
  have hp' : p ∉ cs.map Group.node := fun hpc =>
    List.filter_eq_nil_iff.1 hnil p hpc (mem_parametersOf.1 hp).2
  rw [itemsOf_append, itemsOf_eq_nil hp', List.nil_append]

/-- **A match more binds what one more group gathers.** -/
theorem gathered_concat_parameter {gs : List Group} {g : Group} (h : g.node.isCommand = false) :
    gathered (gs ++ [g]) = bind g.node g.item (gathered gs) := by
  have hp : g.node.isParameter = true := Node.isParameter_iff.2 h
  have hother : ∀ q, q ≠ g.node → itemsOf (gs ++ [g]) q = itemsOf gs q := fun q hq => by
    rw [itemsOf_append, itemsOf_singleton, if_neg (Ne.symm hq), List.append_nil]
  have hself : itemsOf (gs ++ [g]) g.node = itemsOf gs g.node ++ [g.item] := by
    rw [itemsOf_append, itemsOf_singleton, if_pos rfl]
  unfold gathered
  rw [parametersOf_concat_parameter h]
  by_cases hm : g.node ∈ parametersOf gs
  · rw [if_pos hm, bind_map_of_mem (parametersOf_nodup gs) hm]
    refine List.map_congr_left fun q _ => ?_
    by_cases hq : q = g.node
    · rw [hq, hself, if_pos rfl, Binding.again_gathered]
    · rw [hother q hq, if_neg hq]
  · have hnil : itemsOf gs g.node = [] :=
      itemsOf_eq_nil fun hg => hm (mem_parametersOf.2 ⟨hg, hp⟩)
    rw [if_neg hm, bind_map_of_notMem hm, List.map_append, List.map_singleton, hself, hnil,
      List.nil_append, Binding.first_eq]
    congr 1
    refine List.map_congr_left fun q hq => ?_
    rw [hother q fun e => hm (e ▸ hq)]

end Bindings

namespace State

lemma after_bindings {s : State} {g : Group} {gs : List Group}
    (h : s.bindings = Bindings.gathered gs) :
    (s.after g).bindings = Bindings.gathered (gs ++ [g]) := by
  by_cases hc : g.node.isCommand = true
  · rw [after_of_isCommand hc, Bindings.gathered_concat_command hc]
    exact h
  · rw [Bool.not_eq_true] at hc
    rw [after_of_isParameter hc, Bindings.gathered_concat_parameter hc, ← h]
    rfl

/-- **A run from the start binds what its groups gather.** -/
theorem Reaches.bindings_eq {root : Root} {gs : List Group} {t : State}
    (h : (start root).Reaches gs t) : t.bindings = Bindings.gathered gs := by
  have key : ∀ {s t : State} {gs : List Group}, s.Reaches gs t → ∀ hs : List Group,
      s.bindings = Bindings.gathered hs → t.bindings = Bindings.gathered (hs ++ gs) := by
    intro s t gs h
    induction h with
    | nil => intro hs hb; simpa using hb
    | cons _ _ ih =>
      intro hs hb
      have := ih _ (after_bindings hb)
      rwa [List.append_assoc, List.singleton_append] at this
  simpa using key h [] rfl

end State

end CommandGrammar
