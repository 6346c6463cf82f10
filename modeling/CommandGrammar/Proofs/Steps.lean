import CommandGrammar.Proofs.Descriptions
import CommandGrammar.Setup

/-!
What a step of setting a grammar up can do. A description is registered as it is given. Of a name a
decorator is made, if what describes its command is accepted without a handler; the decorator
describes it anew with the handler that it is called with, which is refused beside a path, and beside
another handler. What fails changes nothing, and neither does finishing.
-/

namespace CommandGrammar

/-- The description with another handler. -/
def Command.handledBy (c : Command) (handler : Handler) : Command :=
  .mk { c.signature with handler } c.parameters c.commands

/-! ### Handlers of drafts -/

namespace Description

variable {draft : Command.Draft} {c : Command} {handler : Value}

/-- With a handler given, an accepted draft is only checked anew for a path beside the handler. -/
lemma exists_checkCommand_eq (h : checkCommand draft = .ok c) :
    (∃ handler, checkWraps draft.wraps handler c.commands = .ok c.signature.wraps) ∧
      ∀ callable, checkCommand { draft with handler := .callable callable } =
        (checkWraps draft.wraps (some callable.handler) c.commands).map fun wraps =>
          .mk { c.signature with handler := some callable.handler, wraps } c.parameters
            c.commands := by
  unfold checkCommand at h
  obtain ⟨shared, hshared, h⟩ := bind_eq_ok_iff.1 h
  obtain ⟨parameters, hparameters, h⟩ := bind_eq_ok_iff.1 h
  obtain ⟨values, hvalues, h⟩ := bind_eq_ok_iff.1 h
  obtain ⟨commands, hcommands, h⟩ := bind_eq_ok_iff.1 h
  obtain ⟨handler, -, h⟩ := bind_eq_ok_iff.1 h
  obtain ⟨wraps, hwraps, h⟩ := bind_eq_ok_iff.1 h
  obtain rfl := Except.ok.inj h
  refine ⟨⟨handler, hwraps⟩, fun callable => ?_⟩
  simp only [checkCommand, hshared, hparameters, hvalues, hcommands, bind, Except.bind]
  rfl

/-- No handler is made of a value that is neither callable nor left out. -/
lemma checkHandler_eq_error (hunset : handler ≠ .unset) (hcallable : ∀ f, handler ≠ .callable f) :
    checkHandler handler = .error (.notA .handler .callable) := by
  unfold checkHandler
  split
  · exact absurd rfl hunset
  · next f => exact absurd rfl (hcallable f)
  · rfl

/-- An accepted draft is refused with a value that is no handler. -/
lemma checkCommand_eq_error {flaw : Flaw} (h : checkCommand draft = .ok c)
    (hhandler : checkHandler handler = .error flaw) :
    checkCommand { draft with handler } = .error flaw := by
  unfold checkCommand at h
  obtain ⟨shared, hshared, h⟩ := bind_eq_ok_iff.1 h
  obtain ⟨parameters, hparameters, h⟩ := bind_eq_ok_iff.1 h
  obtain ⟨values, hvalues, h⟩ := bind_eq_ok_iff.1 h
  obtain ⟨commands, hcommands, -⟩ := bind_eq_ok_iff.1 h
  simp only [checkCommand, hshared, hparameters, hvalues, hcommands, hhandler, bind, Except.bind]

section

variable {value : Value} {handler : Option Handler} {commands : List Command}

/-- What is no path is none beside any handler. -/
lemma checkWraps_none (h : checkWraps value handler commands = .ok none)
    (other : Option Handler) : checkWraps value other commands = .ok none := by
  unfold checkWraps at h ⊢
  split at h
  · rfl
  · obtain ⟨path, -, h⟩ := bind_eq_ok_iff.1 h
    dsimp only at h
    split at h
    · cases h
    · split at h
      · cases h
      · split at h
        · cases h
        · cases h

/-- A path is refused beside a handler. -/
lemma checkWraps_some {path : List String}
    (h : checkWraps value handler commands = .ok (some path)) (other : Handler) :
    checkWraps value (some other) commands = .error .wrapperHandler := by
  unfold checkWraps at h ⊢
  split at h
  · cases h
  · obtain ⟨steps, hsteps, h⟩ := bind_eq_ok_iff.1 h
    dsimp only at h
    split at h
    · cases h
    · next hempty =>
      rw [hsteps]
      change (if steps.isEmpty then _ else _) = _
      rw [if_neg hempty]
      rfl

end

end Description

namespace Command.Arguments

variable {arguments : Arguments} {c : Command} {handler : Value}

lemma describe_none_eq_ok_iff : arguments.describe none = .ok c ↔
    arguments.unknownOption? = none ∧ Command.ofDraft arguments.draft = .ok c := by
  unfold describe
  cases arguments.unknownOption? with
  | some name => simp
  | none =>
    rw [eq_self, true_and]
    exact mapError_eq_ok_iff

/-- Without a handler among the options the draft has none. -/
lemma handler_draft (h : arguments.draft.namesHandler = false) :
    arguments.draft.handler = .unset := by
  change (arguments.options.get? "handler").isSome = false at h
  change (arguments.options.get? "handler").getD .unset = .unset
  rw [Option.isSome_eq_false_iff, Option.isNone_iff_eq_none] at h
  rw [h]
  rfl

/-- A handler is refused beside one among the options. -/
lemma describe_of_namesHandler (h : arguments.draft.namesHandler = true) (handler : Value) :
    arguments.describe (some handler) = .error .handlerTwice := by
  rw [describe, h]
  rfl

section Accepted

variable (hc : arguments.describe none = .ok c) (hnone : arguments.draft.namesHandler = false)

include hc hnone

/-- Without one among the options, a handler goes into an accepted draft. -/
lemma describe_some : arguments.describe (some handler) =
    (Command.ofDraft { arguments.draft with handler }).mapError .argument := by
  obtain ⟨hknown, -⟩ := describe_none_eq_ok_iff.1 hc
  rw [describe, hnone, hknown]
  rfl

/-- What stands for no handler leaves the description as it is. -/
lemma describe_unset : arguments.describe (some .unset) = .ok c := by
  have hsame : { arguments.draft with handler := .unset } = arguments.draft := by
    rw [← handler_draft hnone]
  rw [describe_some hc hnone, hsame, (describe_none_eq_ok_iff.1 hc).2]
  rfl

/-- A callable becomes the handler, but is refused beside a path. -/
lemma describe_callable (callable : Callable) : arguments.describe (some (.callable callable)) =
    if c.signature.wraps.isSome then .error (.argument ⟨Command.typeName, .wrapperHandler⟩)
    else .ok (c.handledBy callable.handler) := by
  obtain ⟨⟨handler, hwraps⟩, hchecked⟩ := Description.exists_checkCommand_eq
    (mapError_eq_ok_iff.1 (describe_none_eq_ok_iff.1 hc).2)
  rw [describe_some hc hnone, Command.ofDraft, hchecked]
  cases hpath : c.signature.wraps with
  | none =>
    rw [hpath] at hwraps
    have hsame : Command.mk { c.signature with handler := some callable.handler, wraps := none }
        c.parameters c.commands = c.handledBy callable.handler := by
      rw [handledBy, ← hpath]
    rw [Description.checkWraps_none hwraps, ← hsame]
    rfl
  | some path =>
    rw [hpath] at hwraps
    rw [Description.checkWraps_some hwraps]
    rfl

/-- Any other value is refused. -/
lemma describe_uncallable (hunset : handler ≠ .unset) (hcallable : ∀ f, handler ≠ .callable f) :
    arguments.describe (some handler) =
      .error (.argument ⟨Command.typeName, .notA .handler .callable⟩) := by
  have hdraft := mapError_eq_ok_iff.1 (describe_none_eq_ok_iff.1 hc).2
  have hflaw := Description.checkHandler_eq_error hunset hcallable
  rw [describe_some hc hnone, Command.ofDraft, Description.checkCommand_eq_error hdraft hflaw]
  rfl

end Accepted

end Command.Arguments

namespace Registry

/-! ### One step -/

/-- How a step can end on a registry, and the registry after it. -/
inductive Performs (registry : Registry) : Step → Except StepError Answer → Registry → Prop
  | registered {arguments : Command.Arguments} {c : Command} : arguments.source = .command c →
    arguments.isBare = true →
    Performs registry (.command arguments) (.ok (.registered c)) (registry.register c)
  | further {arguments : Command.Arguments} {c : Command} : arguments.source = .command c →
    arguments.isBare = false →
    Performs registry (.command arguments) (.error (.registration .furtherArguments)) registry
  | notACommand {arguments : Command.Arguments} : (∀ c, arguments.source ≠ .command c) →
    (∀ name, arguments.source ≠ .text name) →
    Performs registry (.command arguments) (.error (.registration .notACommand)) registry
  | asked {decorator : Decorator} {name : String} : decorator.arguments.source = .text name →
    Performs registry (.command decorator.arguments) (.ok (.decorator decorator)) registry
  | refused {arguments : Command.Arguments} {name : String} {e : RegistrationError} :
    arguments.source = .text name → arguments.describe none = .error e →
    Performs registry (.command arguments) (.error (.registration e)) registry
  /-- The options of the decorator have a handler. -/
  | twice {decorator : Decorator} {handler : Value} :
    decorator.arguments.draft.namesHandler = true →
    Performs registry (.decorate decorator handler) (.error (.registration .handlerTwice)) registry
  | uncallable {decorator : Decorator} {handler : Value} :
    decorator.arguments.draft.namesHandler = false → handler ≠ .unset →
    (∀ f, handler ≠ .callable f) →
    Performs registry (.decorate decorator handler)
      (.error (.registration (.argument ⟨Command.typeName, .notA .handler .callable⟩))) registry
  /-- The options of the decorator have a path, beside which there is no handler. -/
  | wrapping {decorator : Decorator} {c : Command} (f : Callable) :
    decorator.arguments.draft.namesHandler = false →
    decorator.arguments.describe none = .ok c → c.signature.wraps.isSome = true →
    Performs registry (.decorate decorator (.callable f))
      (.error (.registration (.argument ⟨Command.typeName, .wrapperHandler⟩))) registry
  | handled {decorator : Decorator} {c : Command} (f : Callable) :
    decorator.arguments.draft.namesHandler = false →
    decorator.arguments.describe none = .ok c → c.signature.wraps.isSome = false →
    Performs registry (.decorate decorator (.callable f)) (.ok (.handler (.callable f)))
      (registry.register (c.handledBy f.handler))
  /-- The handler is what stands for one that was not given. -/
  | unhandled {decorator : Decorator} {c : Command} :
    decorator.arguments.draft.namesHandler = false →
    decorator.arguments.describe none = .ok c →
    Performs registry (.decorate decorator .unset) (.ok (.handler .unset)) (registry.register c)
  | finished {isStrict : Bool} {next : Nat} {grammar : Grammar} :
    registry.finish isStrict next = .ok grammar →
    Performs registry (.finish isStrict next) (.ok (.finished grammar)) registry
  | unfinished {isStrict : Bool} {next : Nat} {e : FinishError} :
    registry.finish isStrict next = .error e →
    Performs registry (.finish isStrict next) (.error (.finish e)) registry

variable {registry later : Registry} {arguments : Command.Arguments} {decorator : Decorator}
  {step : Step} {outcome : Except StepError Answer} {c : Command} {handler : Value}

lemma perform_of_describe_eq_ok (registry : Registry)
    (h : decorator.arguments.describe (some handler) = .ok c) :
    registry.perform (.decorate decorator handler) =
      (.ok (.handler handler), registry.register c) := by
  change (decorateAction decorator handler).run.run registry = _
  rw [decorateAction, h]
  rfl

lemma perform_of_describe_eq_error (registry : Registry) {e : RegistrationError}
    (h : decorator.arguments.describe (some handler) = .error e) :
    registry.perform (.decorate decorator handler) = (.error (.registration e), registry) := by
  change (decorateAction decorator handler).run.run registry = _
  rw [decorateAction, h]
  rfl

lemma performs_command (registry : Registry) (arguments : Command.Arguments) :
    registry.Performs (.command arguments) (registry.perform (.command arguments)).1
      (registry.perform (.command arguments)).2 := by
  change registry.Performs _ ((commandAction arguments).run.run registry).1
    ((commandAction arguments).run.run registry).2
  unfold commandAction
  split
  · next c hs =>
    cases hbare : arguments.isBare with
    | true => exact .registered hs hbare
    | false => exact .further hs hbare
  · next name hs =>
    split
    · next c hc => exact @Performs.asked registry ⟨arguments, c, hc⟩ name hs
    · next e he => exact .refused hs he
  · next hcommand htext => exact .notACommand hcommand htext

/-- A decorator whose arguments have no handler is called with what stands for no handler, with a
callable, or with something else. -/
lemma performs_decorate (registry : Registry) (decorator : Decorator) (handler : Value) :
    registry.Performs (.decorate decorator handler)
      (registry.perform (.decorate decorator handler)).1
      (registry.perform (.decorate decorator handler)).2 := by
  obtain ⟨c, hc⟩ := decorator.isAccepted
  cases hnames : decorator.arguments.draft.namesHandler with
  | true =>
    rw [registry.perform_of_describe_eq_error
      (Command.Arguments.describe_of_namesHandler hnames handler)]
    exact .twice hnames
  | false =>
    by_cases hunset : handler = .unset
    · subst hunset
      rw [registry.perform_of_describe_eq_ok (Command.Arguments.describe_unset hc hnames)]
      exact .unhandled hnames hc
    by_cases hcallable : ∃ f, handler = .callable f
    · obtain ⟨f, rfl⟩ := hcallable
      have hdescribe := Command.Arguments.describe_callable hc hnames f
      cases hwraps : c.signature.wraps.isSome with
      | true =>
        rw [hwraps, if_pos rfl] at hdescribe
        rw [registry.perform_of_describe_eq_error hdescribe]
        exact .wrapping f hnames hc hwraps
      | false =>
        rw [hwraps, if_neg Bool.false_ne_true] at hdescribe
        rw [registry.perform_of_describe_eq_ok hdescribe]
        exact .handled f hnames hc hwraps
    · rw [not_exists] at hcallable
      rw [registry.perform_of_describe_eq_error
        (Command.Arguments.describe_uncallable hc hnames hunset hcallable)]
      exact .uncallable hnames hunset hcallable

/-- Finishing is asked for with the registry as it is. -/
lemma run_finishAction (registry : Registry) (isStrict : Bool) (next : Nat) :
    (finishAction isStrict next).run.run registry =
      (((registry.finish isStrict next).mapError StepError.finish).map Answer.finished,
        registry) := by
  change (MonadExcept.ofExcept ((registry.finish isStrict next).mapError StepError.finish) >>=
    fun grammar => pure (.finished grammar) : Action Answer).run.run registry = _
  cases registry.finish isStrict next with
  | error e => rfl
  | ok grammar => rfl

lemma performs_finish (registry : Registry) (isStrict : Bool) (next : Nat) :
    registry.Performs (.finish isStrict next) (registry.perform (.finish isStrict next)).1
      (registry.perform (.finish isStrict next)).2 := by
  change registry.Performs _ ((finishAction isStrict next).run.run registry).1
    ((finishAction isStrict next).run.run registry).2
  rw [run_finishAction]
  cases h : registry.finish isStrict next with
  | error e => exact .unfinished h
  | ok grammar => exact .finished h

/-- **What a step does.** -/
theorem performs_perform (registry : Registry) (step : Step) :
    registry.Performs step (registry.perform step).1 (registry.perform step).2 := by
  cases step with
  | command arguments => exact registry.performs_command arguments
  | decorate decorator handler => exact registry.performs_decorate decorator handler
  | finish isStrict next => exact registry.performs_finish isStrict next

namespace Performs

/-- A step that fails changes nothing. -/
lemma eq_of_error {e : StepError} (h : registry.Performs step (.error e) later) :
    later = registry := by
  cases h with
  | further | notACommand | refused | twice | uncallable | wrapping | unfinished => rfl

/-- Finishing changes nothing, be there a grammar or not. -/
lemma eq_of_finish {isStrict : Bool} {next : Nat}
    (h : registry.Performs (.finish isStrict next) outcome later) : later = registry := by
  cases h with
  | finished | unfinished => rfl

end Performs

/-! ### Decorators -/

/-- A step that makes a decorator makes it of its arguments, and registers nothing. -/
lemma eq_of_perform_command
    (h : registry.perform (.command arguments) = (.ok (.decorator decorator), later)) :
    later = registry ∧ decorator.arguments = arguments := by
  have hperforms := registry.performs_perform (.command arguments)
  rw [h] at hperforms
  cases hperforms with
  | asked => exact ⟨rfl, rfl⟩

/-- **What a decorator does with a callable.** It registers the description with the callable for its
handler, and gives the callable back; with a handler among the arguments, or a path, it refuses all
callables. -/
theorem perform_decorate (registry : Registry) (hc : decorator.arguments.describe none = .ok c)
    (callable : Callable) :
    registry.perform (.decorate decorator (.callable callable)) =
      if decorator.arguments.draft.namesHandler then
        (.error (.registration .handlerTwice), registry)
      else if c.signature.wraps.isSome then
        (.error (.registration (.argument ⟨Command.typeName, .wrapperHandler⟩)), registry)
      else (.ok (.handler (.callable callable)), registry.register (c.handledBy callable.handler)) := by
  have hperforms := registry.performs_decorate decorator (.callable callable)
  rcases h : registry.perform (.decorate decorator (.callable callable)) with ⟨outcome, later⟩
  rw [h] at hperforms
  cases hperforms with
  | twice hnames => rw [if_pos hnames]
  | uncallable _ _ hcallable => exact absurd rfl (hcallable callable)
  | wrapping f hnames hd hwraps =>
    cases hc.symm.trans hd
    rw [if_neg (Bool.eq_false_iff.1 hnames), if_pos hwraps]
  | handled f hnames hd hwraps =>
    cases hc.symm.trans hd
    rw [if_neg (Bool.eq_false_iff.1 hnames), if_neg (Bool.eq_false_iff.1 hwraps)]
    rfl

end Registry

end CommandGrammar
