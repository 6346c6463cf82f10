import CommandGrammar.Demo
import CommandGrammar.Description.Draft
import CommandGrammar.Proofs.Selection
import CommandGrammar.Proofs.Tree

/-!
Accepted descriptions: those that stand for a draft without flaws. The literals of an accepted
parameter are all different, and so are the names of an accepted command's parameters; what holds of
the nodes of accepted parameters and commands holds of every node of a grammar built from them.
-/

namespace CommandGrammar

section Except

variable {ε α β : Type} {x : Except ε α} {b : β}

lemma bind_eq_ok_iff {f : α → Except ε β} :
    x >>= f = .ok b ↔ ∃ a, x = .ok a ∧ f a = .ok b := by
  cases x with
  | error e => simp [bind, Except.bind]
  | ok a => simp [bind, Except.bind]

lemma map_eq_ok_iff {f : α → β} : x.map f = .ok b ↔ ∃ a, x = .ok a ∧ f a = b := by
  cases x with
  | error e => simp [Except.map]
  | ok a => simp [Except.map]

lemma mapError_eq_ok_iff {δ : Type} {f : ε → δ} {a : α} : x.mapError f = .ok a ↔ x = .ok a := by
  cases x with
  | error e => simp [Except.mapError]
  | ok a => simp [Except.mapError]

/-- What is gone through without failing fails for no element. -/
lemma exists_of_mapM_eq_ok {f : α → Except ε β} {xs : List α} {ys : List β}
    (h : xs.mapM f = .ok ys) : ∀ x ∈ xs, ∃ y, f x = .ok y := by
  induction xs generalizing ys with
  | nil => simp
  | cons x xs ih =>
    rw [List.mapM_cons] at h
    cases hx : f x with
    | error e =>
      rw [hx] at h
      cases h
    | ok y =>
      cases hxs : xs.mapM f with
      | error e =>
        rw [hx, hxs] at h
        cases h
      | ok ys => exact List.forall_mem_cons.2 ⟨⟨y, hx⟩, ih hxs⟩

end Except

/-! ### Descriptions -/

/-- A draft without flaws stands for the description. -/
def Parameter.IsAccepted (p : Parameter) : Prop := ∃ draft, Parameter.ofDraft draft = .ok p

/-- A draft without flaws stands for the description, and the descriptions that it holds are
accepted. -/
inductive Command.IsAccepted : Command → Prop
  | ofDraft (draft : Command.Draft) {c : Command} : Command.ofDraft draft = .ok c →
    (∀ p ∈ c.parameters, p.IsAccepted) → (∀ d ∈ c.commands, IsAccepted d) → IsAccepted c

/-- All that is registered was accepted. -/
def Registry.IsAccepted (registry : Registry) : Prop := ∀ c ∈ registry.commands, c.IsAccepted

namespace Description

lemma nodup_of_checkAliases {seen words : List String} {values : List Value}
    (h : checkAliases seen values = .ok words) : words.Nodup ∧ ∀ word ∈ words, word ∉ seen := by
  fun_induction checkAliases seen values generalizing words with
  | case1 =>
    cases h
    simp
  | case2 => cases h
  | case3 => cases h
  | case4 seen word rest _ hseen ih =>
    obtain ⟨words, hwords, rfl⟩ := map_eq_ok_iff.1 h
    obtain ⟨hnodup, hnew⟩ := ih hwords
    refine ⟨List.nodup_cons.2 ⟨fun hw => hnew word hw List.mem_cons_self, hnodup⟩, ?_⟩
    refine List.forall_mem_cons.2 ⟨by simpa using hseen, fun w hw hs => ?_⟩
    exact hnew w hw (List.mem_cons_of_mem word hs)
  | case5 => cases h

lemma nodup_of_checkParameter {draft : Parameter.Draft} {p : Parameter}
    (h : checkParameter draft = .ok p) : (p.name :: p.aliases).Nodup := by
  unfold checkParameter at h
  obtain ⟨shared, -, h⟩ := bind_eq_ok_iff.1 h
  obtain ⟨kind, -, h⟩ := bind_eq_ok_iff.1 h
  obtain ⟨values, -, h⟩ := bind_eq_ok_iff.1 h
  obtain ⟨aliases, haliases, h⟩ := bind_eq_ok_iff.1 h
  dsimp only at h
  split at h
  · cases h
  · obtain ⟨isRequired, -, h⟩ := bind_eq_ok_iff.1 h
    obtain ⟨isRepeatable, -, h⟩ := bind_eq_ok_iff.1 h
    cases h
    obtain ⟨hnodup, hnew⟩ := nodup_of_checkAliases haliases
    exact List.nodup_cons.2 ⟨fun hname => hnew _ hname List.mem_cons_self, hnodup⟩

lemma nodup_of_checkParameters {seen : List String} {values : List Value} {ps : List Parameter}
    (h : checkParameters seen values = .ok ps) :
    (ps.map Parameter.name).Nodup ∧ ∀ p ∈ ps, p.name ∉ seen := by
  fun_induction checkParameters seen values generalizing ps with
  | case1 =>
    cases h
    simp
  | case2 => cases h
  | case3 seen p rest hseen ih =>
    obtain ⟨ps, hps, rfl⟩ := map_eq_ok_iff.1 h
    obtain ⟨hnodup, hnew⟩ := ih hps
    rw [List.map_cons, List.nodup_cons]
    refine ⟨⟨fun hp => ?_, hnodup⟩, List.forall_mem_cons.2 ⟨by simpa using hseen, fun q hq hs => ?_⟩⟩
    · obtain ⟨q, hq, hname⟩ := List.mem_map.1 hp
      exact hnew q hq (hname ▸ List.mem_cons_self)
    · exact hnew q hq (List.mem_cons_of_mem p.name hs)
  | case4 => cases h

lemma nodup_of_checkCommand {draft : Command.Draft} {c : Command}
    (h : checkCommand draft = .ok c) : (c.parameters.map Parameter.name).Nodup := by
  unfold checkCommand at h
  obtain ⟨shared, -, h⟩ := bind_eq_ok_iff.1 h
  obtain ⟨parameters, hparameters, h⟩ := bind_eq_ok_iff.1 h
  obtain ⟨values, -, h⟩ := bind_eq_ok_iff.1 h
  obtain ⟨commands, -, h⟩ := bind_eq_ok_iff.1 h
  obtain ⟨handler, -, h⟩ := bind_eq_ok_iff.1 h
  obtain ⟨wraps, -, h⟩ := bind_eq_ok_iff.1 h
  cases h
  exact (nodup_of_checkParameters hparameters).1

end Description

namespace Command.IsAccepted

variable {c : Command}

lemma nodup_names (h : c.IsAccepted) : (c.parameters.map Parameter.name).Nodup := by
  obtain ⟨draft, hdraft, -, -⟩ := h
  exact Description.nodup_of_checkCommand (mapError_eq_ok_iff.1 hdraft)

end Command.IsAccepted

namespace Parameter

variable {p : Parameter}

lemma map_name_buildAll (ps : List Parameter) (number : Nat) :
    (buildAll number ps).map Node.name = ps.map Parameter.name := by
  induction ps generalizing number with
  | nil => rfl
  | cons p ps ih => rw [buildAll, List.map_cons, List.map_cons, ih]; rfl

lemma IsAccepted.nodup (h : p.IsAccepted) : (p.name :: p.aliases).Nodup := by
  obtain ⟨draft, hdraft⟩ := h
  exact Description.nodup_of_checkParameter (mapError_eq_ok_iff.1 hdraft)

lemma literals_build_sublist (p : Parameter) (number : Nat) :
    (p.build number).literals.Sublist (p.name :: p.aliases) := by
  obtain ⟨name, kind, aliases⟩ := p
  cases kind with
  | flag => exact List.Sublist.refl _
  | named => exact List.Sublist.refl _
  | simple => exact List.nil_sublist _

end Parameter

/-! ### Nodes -/

/-- The node is a command, or that of a parameter whose description was accepted. -/
def Node.IsOfAccepted (n : Node) : Prop :=
  n.isCommand = true ∨ ∃ p number, Parameter.IsAccepted p ∧ n = p.build number

/-- No literal of the node comes twice. -/
lemma Node.IsOfAccepted.nodup_literals {n : Node} (h : n.IsOfAccepted) : n.literals.Nodup := by
  rcases h with hc | ⟨p, number, hp, rfl⟩
  · rw [literals_of_isCommand hc]
    exact List.nodup_singleton _
  · exact (p.literals_build_sublist number).nodup hp.nodup

namespace Command

variable {c : Command} {cs : List Command} {next : Nat} {P : Node → Prop}

lemma forall_mem_buildAll {built : Numbered (List Node)}
    (h : ∀ c ∈ cs, ∀ next built, c.build next = .ok built → ∀ n ∈ built.value.walk, P n)
    (hb : buildAll cs next = .ok built) : ∀ n ∈ Node.walkAll built.value, P n := by
  intro n hn
  obtain ⟨m, hm, hn⟩ := Node.mem_walkAll.1 hn
  obtain ⟨c, hc, number, one, hone, rfl⟩ := exists_of_mem_buildAll hb hm
  exact h c hc number one hone n hn

/-- **A property of nodes** that accepted parameters and accepted commands give theirs is one of all
nodes that an accepted description builds. -/
theorem IsAccepted.forall_mem_build (parameter : ∀ p : Parameter, p.IsAccepted →
      ∀ number, P (p.build number))
    (command : ∀ d : Command, d.IsAccepted → ∀ next built, d.build next = .ok built →
      P built.value)
    (h : c.IsAccepted) : ∀ next built, c.build next = .ok built →
      ∀ n ∈ built.value.walk, P n := by
  induction h with
  | @ofDraft draft c hdraft hparameters hcommands ih =>
    intro next built hb n hn
    have hown := command c (.ofDraft draft hdraft hparameters hcommands) next built hb
    obtain ⟨nested, role, hnested, -, rfl⟩ := exists_of_build hb
    rw [Node.walk_eq, List.mem_cons] at hn
    -- the node of the command, that of one of its parameters, or one below a sub-command
    rcases hn with rfl | hn
    · exact hown
    · rw [Node.successors, Node.walkAll_append, List.mem_append] at hn
      rcases hn with hn | hn
      · obtain ⟨m, hm, hn⟩ := Node.mem_walkAll.1 hn
        obtain ⟨p, hp, number, rfl⟩ := Parameter.exists_of_mem_buildAll hm
        cases List.mem_singleton.1 hn
        exact parameter p (hparameters p hp) number
      · exact forall_mem_buildAll ih hnested n hn

end Command

namespace Registry

variable {registry : Registry} {isStrict : Bool} {next : Nat} {grammar : Grammar} {P : Node → Prop}

/-- A property of nodes that accepted parameters and accepted commands give theirs is one of all
nodes of a grammar that is finished from accepted descriptions. -/
lemma IsAccepted.forall_mem_finish (parameter : ∀ p : Parameter, p.IsAccepted →
      ∀ number, P (p.build number))
    (command : ∀ d : Command, d.IsAccepted → ∀ next built, d.build next = .ok built →
      P built.value)
    (h : registry.IsAccepted) (hf : registry.finish isStrict next = .ok grammar) :
    ∀ n ∈ grammar.root.walk, P n := by
  obtain ⟨nodes, hnodes, hsuccessors, -⟩ := exists_of_finish hf
  rw [Root.walk, hsuccessors]
  exact Command.forall_mem_buildAll
    (fun c hc => (h c hc).forall_mem_build parameter command) hnodes

/-- The nodes of a grammar finished from accepted descriptions are commands and accepted
parameters. -/
lemma isOfAccepted_of_finish (h : registry.IsAccepted)
    (hf : registry.finish isStrict next = .ok grammar) :
    ∀ n ∈ grammar.root.walk, n.IsOfAccepted :=
  h.forall_mem_finish (fun p hp number => .inr ⟨p, number, hp, rfl⟩)
    (fun _ _ _ _ hb => .inl (Command.isCommand_of_build hb)) hf

/-- No two parameters of a command have one name, when its description was accepted. -/
lemma nodup_names_of_finish (h : registry.IsAccepted)
    (hf : registry.finish isStrict next = .ok grammar) :
    ∀ n ∈ grammar.root.walk, (n.parameters.map Node.name).Nodup := by
  refine h.forall_mem_finish (fun p _ number => List.nodup_nil) (fun d hd next built hb => ?_) hf
  obtain ⟨nested, role, -, -, rfl⟩ := Command.exists_of_build hb
  rw [Node.parameters, Parameter.map_name_buildAll]
  exact hd.nodup_names

end Registry

/-! ### The demo grammar -/

namespace Demo

lemma isAccepted_target : target.IsAccepted :=
  ⟨{ name := .text "target", descr := .text "what to show", required := .truth true }, rfl⟩

lemma isAccepted_showCommand : showCommand.IsAccepted := by
  refine .ofDraft {
    name := .text "show", parameters := showCommand.parameters.map .parameter
    descr := .text "show a part of the demo grammar"
    handler := .callable ⟨showHandler, "show", "show", false⟩ } rfl ?_ (List.forall_mem_nil _)
  refine List.forall_mem_cons.2 ⟨⟨{
    name := .text "--verbose", kind := .text "flag", aliases := .tuple [.text "-v"]
    descr := .text "include node details" }, rfl⟩, ?_⟩
  exact List.forall_mem_singleton.2 isAccepted_target

lemma isAccepted_setCommand : setCommand.IsAccepted := by
  refine .ofDraft {
    name := .text "set", parameters := setCommand.parameters.map .parameter
    descr := .text "set the demo level"
    handler := .callable ⟨setHandler, "set_level", "set_level", false⟩ } rfl ?_
    (List.forall_mem_nil _)
  refine List.forall_mem_cons.2 ⟨⟨{
    name := .text "--level", kind := .text "named", aliases := .tuple [.text "-l"]
    descr := .text "level to set", required := .truth true }, rfl⟩, ?_⟩
  refine List.forall_mem_cons.2 ⟨⟨{
    name := .text "--tag", kind := .text "named", aliases := .tuple [.text "-t"]
    descr := .text "tag to attach", repeatable := .truth true }, rfl⟩, ?_⟩
  exact List.forall_mem_singleton.2 ⟨{
    name := .text "--debug", kind := .text "flag", hidden := .truth true }, rfl⟩

lemma isAccepted_shortCommand : shortCommand.IsAccepted :=
  .ofDraft {
    name := .text "sh", parameters := [.parameter target], descr := .text "short form of 'show'"
    wraps := .text "show", hidden := .truth true } rfl
    (List.forall_mem_singleton.2 isAccepted_target) (List.forall_mem_nil _)

/-- The commands of the demo grammar are accepted. -/
lemma isAccepted_registry : registry.IsAccepted := by
  refine List.forall_mem_cons.2 ⟨isAccepted_showCommand, ?_⟩
  refine List.forall_mem_cons.2 ⟨isAccepted_setCommand, ?_⟩
  exact List.forall_mem_singleton.2 isAccepted_shortCommand

end Demo

end CommandGrammar
