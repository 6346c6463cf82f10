import CommandGrammar.Matching.Dispatch
import CommandGrammar.Proofs.Binding

/-!
What handlers are given by name. Setting names one after another gives each the last value set for
it; the parameters of the matched command are set after those of the commands around it. When all
that is bound belongs to the matched command and no two parameters share a name, each name has the
value of its parameter.
-/

namespace CommandGrammar

/-! ### Entries -/

namespace Entries

variable {α : Type} {entries : Entries α} {m : String} {a : α}

lemma get?_cons (m n : String) (a : α) (entries : Entries α) :
    get? ((n, a) :: entries) m = if m = n then some a else get? entries m := by
  unfold get?
  rw [List.lookup_cons]
  by_cases h : m = n
  · simp [h]
  · simp [h, beq_false_of_ne h]

lemma get?_set (m n : String) (a : α) (entries : Entries α) :
    (entries.set n a).get? m = if m = n then some a else entries.get? m := by
  induction entries with
  | nil => rw [set, get?_cons]
  | cons entry rest ih =>
    obtain ⟨k, b⟩ := entry
    by_cases hk : k = n
    · subst hk
      rw [set, if_pos rfl, get?_cons, get?_cons]
      split <;> rfl
    · rw [set, if_neg hk, get?_cons, get?_cons, ih]
      by_cases hm : m = k
      · subst hm
        simp [hk]
      · rw [if_neg hm, if_neg hm]

/-- **The last value set counts,** and a name that is not set keeps its value. -/
theorem get?_setAll (entries others : Entries α) (m : String) :
    (entries.setAll others).get? m = (get? others.reverse m).or (entries.get? m) := by
  induction others generalizing entries with
  | nil => rfl
  | cons entry rest ih =>
    obtain ⟨n, a⟩ := entry
    have hcons : entries.setAll ((n, a) :: rest) = (entries.set n a).setAll rest := rfl
    have hlast : get? ((n, a) :: rest).reverse m =
        (get? rest.reverse m).or (if m = n then some a else none) := by
      rw [List.reverse_cons, get?, List.lookup_append]
      congr 1
      exact get?_cons m n a []
    rw [hcons, ih, hlast, get?_set, Option.or_assoc]
    congr 1
    split <;> rfl

/-- Where no name comes twice, the value of a name is the one that it stands with. -/
lemma get?_eq_some_iff (h : (entries.map Prod.fst).Nodup) :
    entries.get? m = some a ↔ (m, a) ∈ entries := by
  induction entries with
  | nil => simp [get?]
  | cons entry rest ih =>
    obtain ⟨n, b⟩ := entry
    rw [List.map_cons, List.nodup_cons] at h
    rw [get?_cons, List.mem_cons]
    by_cases hm : m = n
    · subst hm
      have hrest : (m, a) ∉ rest := fun hmem => h.1 (List.mem_map.2 ⟨_, hmem, rfl⟩)
      simp [hrest, eq_comm]
    · rw [if_neg hm, ih h.2]
      simp [hm]

lemma map_fst_set (entries : Entries α) (n : String) (a : α) :
    (entries.set n a).map Prod.fst =
      if n ∈ entries.map Prod.fst then entries.map Prod.fst else entries.map Prod.fst ++ [n] := by
  induction entries with
  | nil => rfl
  | cons entry rest ih =>
    obtain ⟨k, b⟩ := entry
    by_cases hk : k = n
    · simp [set, hk]
    · rw [set, if_neg hk, List.map_cons, ih, List.map_cons]
      simp only [List.mem_cons, Ne.symm hk, false_or]
      split <;> rfl

/-- Setting names keeps each of them once. -/
lemma nodup_setAll (h : (entries.map Prod.fst).Nodup) (others : Entries α) :
    ((entries.setAll others).map Prod.fst).Nodup := by
  induction others generalizing entries with
  | nil => exact h
  | cons entry rest ih =>
    refine ih ?_
    rw [map_fst_set]
    split
    · exact h
    · next hn =>
      rw [← List.concat_eq_append, List.nodup_concat]
      exact ⟨hn, h⟩

section Map

variable {β : Type}

/-- Of values by name, the one of a name is the first that stands with it. -/
lemma get?_map_find? (l : List β) (name : β → String) (f : β → α) (m : String) :
    get? (l.map fun b => (name b, f b)) m = (l.find? fun b => name b = m).map f := by
  induction l with
  | nil => rfl
  | cons b l ih =>
    rw [List.map_cons, get?_cons, ih]
    by_cases h : m = name b
    · rw [if_pos h, List.find?_cons_of_pos (by simp [h])]
      rfl
    · rw [if_neg h, List.find?_cons_of_neg (by simpa using Ne.symm h)]

lemma get?_map_values (entries : Entries α) (f : α → β) (m : String) :
    get? (entries.map fun entry => (entry.1, f entry.2)) m = (entries.get? m).map f := by
  induction entries with
  | nil => rfl
  | cons entry rest ih =>
    rw [List.map_cons, get?_cons, get?_cons, ih]
    split <;> rfl

end Map

end Entries

/-! ### Names of one command -/

namespace Bindings

variable {gs : List Group} {name : String} {b : Binding}

lemma mem_byName_gathered : (name, b) ∈ (gathered gs).byName ↔
    ∃ p ∈ parametersOf gs, p.name = name ∧ Binding.gathered p (itemsOf gs p) = b := by
  simp [byName, gathered]

lemma byName_gathered_keys (gs : List Group) :
    (gathered gs).byName.map Prod.fst = (parametersOf gs).map Node.name := by
  simp [byName, gathered, Function.comp_def]

end Bindings

/-- What the matched command declares is set last. -/
lemma State.names_eq (s : State) : s.names =
    (Entries.setAll [] (Bindings.byName (s.bindings.filter fun entry => !s.owns entry.1))).setAll
      (Bindings.byName (s.bindings.filter fun entry => s.owns entry.1)) := rfl

/-- **The names of parameters that are all the command's own** are those of the parameters. -/
theorem State.get?_names_eq_some_iff {s : State} {gs : List Group} {name : String} {b : Binding}
    (hb : s.bindings = Bindings.gathered gs) (ho : ∀ p ∈ parametersOf gs, s.owns p = true)
    (hn : ((parametersOf gs).map Node.name).Nodup) :
    s.names.get? name = some b ↔
      ∃ p ∈ parametersOf gs, p.name = name ∧ Binding.gathered p (itemsOf gs p) = b := by
  have hown : s.bindings.filter (fun entry => s.owns entry.1) = Bindings.gathered gs := by
    rw [hb, List.filter_eq_self]
    intro entry hentry
    obtain ⟨p, hp, rfl⟩ := List.mem_map.1 hentry
    exact ho p hp
  have henclosing : s.bindings.filter (fun entry => !s.owns entry.1) = [] := by
    rw [hb, List.filter_eq_nil_iff]
    intro entry hentry
    obtain ⟨p, hp, rfl⟩ := List.mem_map.1 hentry
    simp [ho p hp]
  have hkeys : ((Bindings.gathered gs).byName.reverse.map Prod.fst).Nodup := by
    rw [List.map_reverse, List.nodup_reverse, Bindings.byName_gathered_keys]
    exact hn
  rw [names_eq, henclosing, hown, Entries.get?_setAll]
  have hnone : (Entries.setAll [] (Bindings.byName [])).get? name = none := rfl
  rw [hnone, Option.or_none, Entries.get?_eq_some_iff hkeys, List.mem_reverse,
    Bindings.mem_byName_gathered]

end CommandGrammar
