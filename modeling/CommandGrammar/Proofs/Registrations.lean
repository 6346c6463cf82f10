import CommandGrammar.Proofs.Construction

/-!
What the steps of setting a grammar up leave registered. A step registers at most one description, as
the last thing it does, so that a step that fails registers nothing, and finishing never does. After
any steps the registry holds just what the steps that succeeded have registered, in their order.
-/

namespace CommandGrammar

namespace Command.Arguments

/-- The description among the arguments. -/
def given? (arguments : Arguments) : Option Command :=
  match arguments.source with
  | .command c => some c
  | _ => none

variable {arguments : Arguments} {c : Command}

lemma given?_of_command (h : arguments.source = .command c) : arguments.given? = some c := by
  rw [given?, h]

lemma given?_of_forall_ne (h : ∀ c, arguments.source ≠ .command c) : arguments.given? = none := by
  unfold given?
  split
  · next c hc => exact absurd hc (h c)
  · rfl

end Command.Arguments

namespace Registry

/-! ### Steps one after another -/

/-- A step with how it ended. -/
structure Event where
  step : Step
  outcome : Except StepError Answer

/-- The description that the step is to register: one that is given, or that of a decorator's
arguments with the handler. -/
def Step.description? : Step → Option Command
  | command arguments => arguments.given?
  | decorate decorator handler => (decorator.arguments.describe (some handler)).toOption
  | finish _ _ => none

/-- The description that was registered, if any. -/
def Event.registered? (event : Event) : Option Command :=
  if event.outcome.isOk then event.step.description? else none

/-- The registry after steps. -/
def afterAll (registry : Registry) (steps : List Step) : Registry :=
  steps.foldl (fun registry step => (registry.perform step).2) registry

/-- The steps with how each of them ends. -/
def history (registry : Registry) : List Step → List Event
  | [] => []
  | step :: steps =>
    ⟨step, (registry.perform step).1⟩ :: history (registry.perform step).2 steps

lemma afterAll_concat (registry : Registry) (steps : List Step) (step : Step) :
    registry.afterAll (steps ++ [step]) = ((registry.afterAll steps).perform step).2 :=
  List.foldl_concat ..

/-- What a step registers is all that it changes. -/
lemma perform_eq (registry : Registry) (step : Step) :
    (registry.perform step).2 =
      (Event.mk step (registry.perform step).1).registered?.elim registry registry.register := by
  cases step with
  | command arguments =>
    have h := registry.performs_command arguments
    generalize (registry.perform (.command arguments)).1 = outcome at h ⊢
    generalize (registry.perform (.command arguments)).2 = later at h ⊢
    cases h with
    | registered hs hbare =>
      change _ = arguments.given?.elim registry registry.register
      rw [Command.Arguments.given?_of_command hs]
      rfl
    | @asked decorator name hs =>
      change _ = decorator.arguments.given?.elim registry registry.register
      rw [Command.Arguments.given?_of_forall_ne fun c hc => by cases hs.symm.trans hc]
      rfl
    | further | notACommand | refused => rfl
  | decorate decorator handler =>
    cases h : decorator.arguments.describe (some handler) with
    | error e =>
      rw [registry.perform_of_describe_eq_error h]
      rfl
    | ok c =>
      rw [registry.perform_of_describe_eq_ok h]
      change _ = (decorator.arguments.describe (some handler)).toOption.elim registry
        registry.register
      rw [h]
      rfl
  | finish isStrict next =>
    rw [(registry.performs_finish isStrict next).eq_of_finish]
    exact (congrArg (fun c : Option Command => c.elim registry registry.register)
      (ite_self none)).symm

/-- Steps add what their events registered. -/
lemma commands_afterAll_eq (registry : Registry) (steps : List Step) :
    (registry.afterAll steps).commands =
      registry.commands ++ (registry.history steps).filterMap Event.registered? := by
  induction steps generalizing registry with
  | nil => exact (List.append_nil _).symm
  | cons step steps ih =>
    have hlater := registry.perform_eq step
    change ((registry.perform step).2.afterAll steps).commands = _
    rw [ih, history]
    cases h : (Event.mk step (registry.perform step).1).registered? with
    | none =>
      rw [h] at hlater
      rw [List.filterMap_cons_none h, hlater]
      rfl
    | some c =>
      rw [h] at hlater
      rw [List.filterMap_cons_some h, hlater]
      exact List.append_assoc registry.commands [c] _

/-- **The registry is the log of its registrations.** After any steps, whatever their arguments, the
registry holds just what the steps that succeeded have registered, in their order. Whatever the next
step is, it ends in one of the ways listed; it adds the one description that it registers and else
changes nothing, neither if it fails nor if it finishes the grammar. -/
theorem commands_afterAll (steps : List Step) :
    (empty.afterAll steps).commands = (empty.history steps).filterMap Event.registered? ∧
    ∀ step, ∃ outcome later, (empty.afterAll steps).perform step = (outcome, later) ∧
      empty.afterAll (steps ++ [step]) = later ∧
      (empty.afterAll steps).Performs step outcome later ∧
      (∀ c, (Event.mk step outcome).registered? = some c →
        later.commands = (empty.afterAll steps).commands ++ [c]) ∧
      ((Event.mk step outcome).registered? = none → later = empty.afterAll steps) ∧
      (∀ e, outcome = .error e → later = empty.afterAll steps) ∧
      ∀ isStrict next, step = .finish isStrict next → later = empty.afterAll steps := by
  refine ⟨empty.commands_afterAll_eq steps, fun step => ?_⟩
  have hperforms := (empty.afterAll steps).performs_perform step
  have hlater := (empty.afterAll steps).perform_eq step
  have hconcat := empty.afterAll_concat steps step
  rcases h : (empty.afterAll steps).perform step with ⟨outcome, later⟩
  rw [h] at hperforms hlater hconcat
  refine ⟨outcome, later, rfl, hconcat, hperforms, fun c hc => ?_, fun hnone => ?_, ?_, ?_⟩
  · rw [hc] at hlater
    exact congrArg commands hlater
  · rwa [hnone] at hlater
  · rintro e rfl
    exact hperforms.eq_of_error
  · rintro isStrict next rfl
    exact hperforms.eq_of_finish

/-! ### A registry set up -/

/-- The handler of the command that lists. -/
def listHandler : Value := .callable ⟨2, "list_all", "list_all", false⟩

/-- Steps of which three register something, one of them a short form of nothing. -/
def mixedSteps : List Step := [
  .command { source := .command Demo.showCommand },
  .command { source := .integer 3 },
  .command { source := .command Demo.setCommand, options := [("descr", .text "set")] },
  .command { source := .text "list all" },
  .command { source := .text "list", options := [("help", .text "list")] },
  .command listDecorator.arguments,
  .decorate listDecorator (.integer 3),
  .finish true 0,
  .decorate listDecorator listHandler,
  .command { source := .command (shortForm "ls" ["list", "all"] []) }]

/-- Of ten steps three register something. A grammar of that cannot be finished, and trying to changes
nothing. -/
theorem commands_afterAll_mixed :
    (empty.afterAll mixedSteps).commands.map (fun c => c.signature.name) = ["show", "list", "ls"] ∧
    (∃ e, ((empty.afterAll mixedSteps).perform (.finish false 0)).1 = .error e) ∧
    empty.afterAll (mixedSteps ++ [.finish false 0]) = empty.afterAll mixedSteps := by
  obtain ⟨hlog, hnext⟩ := commands_afterAll mixedSteps
  obtain ⟨outcome, later, hperform, hafter, -, -, -, herror, -⟩ := hnext (.finish false 0)
  have hnames : ((empty.history mixedSteps).filterMap Event.registered?).map
      (fun c => c.signature.name) = ["show", "list", "ls"] := by decide +kernel
  have hfails : ((empty.afterAll mixedSteps).perform (.finish false 0)).1.toOption.isNone = true := by
    decide +kernel
  rw [hperform] at hfails ⊢
  cases outcome with
  | ok answer => cases hfails
  | error e => exact ⟨hlog ▸ hnames, ⟨e, rfl⟩, hafter.trans (herror e rfl)⟩

end Registry

end CommandGrammar
