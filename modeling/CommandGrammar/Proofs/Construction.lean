import CommandGrammar.Node.Draft
import CommandGrammar.Proofs.Acceptance
import CommandGrammar.Proofs.Steps
import CommandGrammar.Proofs.Wrappers

/-!
What accepted descriptions build. The makers of nodes check each argument anew, and pass what a
description was accepted with, but for the words of a wrapper's path: these are checked only when
the node is made. So a grammar whose paths are words fails to be built only where a wrapper leads to
no command. The decorator that registers a command takes any handler, unless its arguments were
accepted for a wrapper, or hold a handler already.
-/

namespace CommandGrammar

/-! ### Making nodes -/

/-- Help as an argument of a node. -/
def Value.ofHelp (help : Option String) : Value := (help.map Value.text).getD .null

/-- Nodes as an argument of a node. -/
def Value.ofNodes (nodes : List Node) : Value := .list (nodes.map Value.node)

/-- The arguments of the parameter's node. -/
def Parameter.toDraft (p : Parameter) : Node.ParameterDraft where
  name := .text p.name
  descr := .ofHelp p.help
  hidden := .truth p.isHidden
  priority := (p.priority.map Value.integer).getD .unset
  kind := some p.kind
  aliases := .tuple (p.aliases.map Value.text)
  repeatable := .truth p.isRepeatable
  required := .truth p.isRequired

namespace Signature

variable (signature : Signature) (successors : List Node)

/-- The arguments of the command's node that all nodes have. -/
def toDraft : Node.SymbolDraft where
  name := .text signature.name
  descr := .ofHelp signature.help
  hidden := .truth signature.isHidden
  priority := .integer signature.priority
  successors := .ofNodes successors

/-- A procedure of the host that the handler stands for. -/
def procedure (handler : Handler) : Value := .callable ⟨handler, "", "", false⟩

/-- The command's node as the makers of nodes make it, with the parameters that it declares and what
follows these. -/
def make (number : Nat) (declared nested : List Node) : Except ArgumentError Node :=
  match signature.wraps with
  | some path =>
    Node.ofWrapperDraft number {
      toSymbolDraft := signature.toDraft (declared ++ nested)
      wrapped := .tuple (path.map Value.text), parameters := .ofNodes declared }
  | none =>
    Node.ofCommandDraft number {
      toSymbolDraft := signature.toDraft (declared ++ nested)
      handler := (signature.handler.map procedure).getD .null, parameters := .ofNodes declared }

end Signature

/-- The nodes of parameters as the makers of nodes make them. -/
def Parameter.makeAll (number : Nat) : List Parameter → Except ArgumentError (List Node)
  | [] => .ok []
  | p :: ps =>
    match Node.ofParameterDraft number p.toDraft with
    | .error e => .error e
    | .ok n => (makeAll (number + 1) ps).map (n :: ·)

namespace Command

mutual
/-- The command's node, made by the makers of nodes after those that it holds. -/
def make : Command → Nat → Except ArgumentError (Numbered Node)
  | .mk signature parameters commands, next =>
    match Parameter.makeAll next parameters with
    | .error e => .error e
    | .ok declared =>
      match makeAll commands (next + parameters.length) with
      | .error e => .error e
      | .ok nested =>
        (signature.make nested.next declared nested.value).map fun n => ⟨n, nested.next + 1⟩
/-- The nodes of commands, made in order. -/
def makeAll : List Command → Nat → Except ArgumentError (Numbered (List Node))
  | [], next => .ok ⟨[], next⟩
  | c :: cs, next =>
    match make c next with
    | .error e => .error e
    | .ok first =>
      match makeAll cs first.next with
      | .error e => .error e
      | .ok rest => .ok ⟨first.value :: rest.value, rest.next⟩
end

end Command

namespace Node

lemma checkHelp_ofHelp {help : Option String} (h : ∀ s ∈ help, Text.IsTrimmed s) :
    checkHelp (.ofHelp help) = .ok help := by
  cases help with
  | none => rfl
  | some s =>
    obtain ⟨htrim, hempty⟩ := h s rfl
    rw [Value.ofHelp, Option.map_some, Option.getD_some, checkHelp, htrim, hempty]
    rfl

lemma checkSuccessors_ofNodes (nodes : List Node) :
    checkSuccessors (.ofNodes nodes) = .ok nodes := by
  have hnodes : (nodes.map Value.node).mapM Value.node? = some nodes := by
    induction nodes with
    | nil => rfl
    | cons n ns ih =>
      rw [List.map_cons, List.mapM_cons, ih]
      rfl
  change checkNodes (nodes.map Value.node) = _
  rw [checkNodes, hnodes]
  rfl

/-- What the fields that all nodes have are accepted with makes a node. -/
lemma checkSymbol_eq (number : Nat) (role : Role) (parameters : List Node) {name : String}
    {help : Option String} (isHidden : Bool) (priority : Int) {successors : Value}
    {nodes : List Node} (hname : IsWord name) (hhelp : ∀ s ∈ help, Text.IsTrimmed s)
    (hsuccessors : checkSuccessors successors = .ok nodes) :
    checkSymbol number role parameters {
        name := .text name, descr := .ofHelp help, hidden := .truth isHidden
        priority := .integer priority, successors } =
      .ok (.mk { number, name, help, isHidden, priority, role } parameters nodes) := by
  have hword : expectWord .name (.text name) = .ok name := checkWord_of_isWord hname
  unfold checkSymbol
  rw [hword, checkHelp_ofHelp hhelp, hsuccessors]
  rfl

/-- Parameters whose names all differ are those of a command. -/
lemma checkDeclared_ofNodes {nodes : List Node} (hparameters : ∀ n ∈ nodes, n.isParameter = true)
    (hnames : (nodes.map Node.name).Nodup) : checkDeclared (.ofNodes nodes) = .ok nodes := by
  have hchecked : ∀ seen, (∀ n ∈ nodes, n.name ∉ seen) →
      checkParameters seen (nodes.map Value.node) = .ok nodes := by
    induction nodes with
    | nil => exact fun _ _ => rfl
    | cons n ns ih =>
      intro seen hseen
      obtain ⟨hn, hns⟩ := List.forall_mem_cons.1 hparameters
      obtain ⟨hnew, hseen⟩ := List.forall_mem_cons.1 hseen
      rw [List.map_cons, List.nodup_cons] at hnames
      have hcommand : n.isCommand = false := isParameter_iff.1 hn
      have hrest : ∀ m ∈ ns, m.name ∉ n.name :: seen := by
        intro m hm hmem
        rcases List.mem_cons.1 hmem with heq | hmem
        · exact hnames.1 (List.mem_map.2 ⟨m, hm, heq⟩)
        · exact hseen m hm hmem
      rw [List.map_cons, checkParameters, hcommand, if_neg Bool.false_ne_true,
        if_neg (by simpa using hnew), ih hns hnames.2 _ hrest]
      rfl
  exact hchecked [] fun _ _ => List.not_mem_nil

lemma firstRepeated?_eq_none {seen names : List String} (hnodup : names.Nodup)
    (hseen : ∀ name ∈ names, name ∉ seen) : firstRepeated? seen names = none := by
  induction names generalizing seen with
  | nil => rfl
  | cons name rest ih =>
    obtain ⟨hname, hrest⟩ := List.forall_mem_cons.1 hseen
    rw [List.nodup_cons] at hnodup
    have hnew : ∀ other ∈ rest, other ∉ name :: seen := by
      intro other hother hmem
      rcases List.mem_cons.1 hmem with rfl | hmem
      · exact hnodup.1 hother
      · exact hrest other hother hmem
    rw [firstRepeated?, if_neg (by simpa using hname), ih hnodup.2 hnew]

lemma checkAliases_eq {name : String} {aliases : List String}
    (hwords : ∀ word ∈ aliases, IsWord word) (hnodup : (name :: aliases).Nodup) :
    checkAliases (.text name) (.tuple (aliases.map Value.text)) = .ok aliases := by
  rw [List.nodup_cons] at hnodup
  have hdistinct : areDistinct (.text name) aliases = true := by
    rw [areDistinct, firstRepeated?_eq_none hnodup.2 fun _ _ => List.not_mem_nil]
    simpa using hnodup.1
  have hchecked : (aliases.map Value.text).mapM (expectWord .aliases) = .ok aliases := by
    rw [mapM_expectWord, mapM_checkWord_of_isWord hwords]
  change (do
    let aliases ← (aliases.map Value.text).mapM (expectWord .aliases)
    if !areDistinct (.text name) aliases then throw (Flaw.repeated .aliases)
    return aliases) = _
  rw [hchecked]
  change (if !areDistinct (.text name) aliases then _ else _) = _
  rw [hdistinct]
  rfl

end Node

/-- **An accepted parameter is built:** the maker of its node accepts what the description has. -/
theorem Parameter.IsSound.ofParameterDraft {p : Parameter} (h : p.IsSound) (number : Nat) :
    Node.ofParameterDraft number p.toDraft = .ok (p.build number) := by
  have hsimple : (p.toDraft.kind == some .simple && p.toDraft.aliases.isTruthy) = false := by
    by_cases hkind : p.kind = .simple
    · simp [toDraft, h.of_simple hkind, Value.isTruthy]
    · simp [toDraft, hkind]
  have haliases : Node.checkAliases p.toDraft.name p.toDraft.aliases = .ok p.aliases :=
    Node.checkAliases_eq h.aliases h.nodup
  have hpriority : p.toDraft.priority.orDefault (.integer (priorityOfKind p.toDraft.kind)) =
      .integer (p.priority.getD (priorityOfKind (some p.kind))) := by
    unfold toDraft
    cases p.priority with
    | none => rfl
    | some i => rfl
  rw [Node.ofParameterDraft, mapError_eq_ok_iff, Node.checkParameter, hsimple, haliases, hpriority]
  exact Node.checkSymbol_eq number _ [] p.isHidden _ h.name h.help rfl

namespace Signature

variable {signature : Signature} {declared nested : List Node}

/-- The node of an accepted command is made as it is built: the words of a wrapper's path are the
one thing that may be at fault. -/
theorem IsSound.make_eq (h : signature.IsSound) (hparameters : ∀ n ∈ declared, n.isParameter = true)
    (hnames : (declared.map Node.name).Nodup) (number : Nat) :
    signature.make number declared nested = (Command.roleOf signature).map fun role =>
      .mk {
        number, name := signature.name, help := signature.help, isHidden := signature.isHidden
        priority := signature.priority, role } declared (declared ++ nested) := by
  have hdeclared := Node.checkDeclared_ofNodes hparameters hnames
  have hsymbol : ∀ role, Node.checkSymbol number role declared
      ((signature.toDraft (declared ++ nested)).followedBy declared) = .ok (.mk {
        number, name := signature.name, help := signature.help, isHidden := signature.isHidden
        priority := signature.priority, role } declared (declared ++ nested)) := fun role =>
    Node.checkSymbol_eq number role declared signature.isHidden signature.priority h.name h.help
      (Node.checkSuccessors_ofNodes _)
  unfold make Command.roleOf
  cases hwraps : signature.wraps with
  | none =>
    have hhandler : Node.checkHandler ((signature.handler.map procedure).getD .null) =
        .ok signature.handler := by
      cases signature.handler with
      | none => rfl
      | some handler => rfl
    dsimp only
    rw [Node.ofCommandDraft, Node.checkCommand, hdeclared, hhandler]
    exact congrArg _ (hsymbol _)
  | some path =>
    have hpath : Node.checkWrapped (.tuple (path.map Value.text)) =
        path.mapM (checkWord .wrapped) := by
      have hne : (path.map Value.text).isEmpty = false := by
        simpa using h.wraps path hwraps
      change Node.checkSteps (path.map Value.text) = _
      rw [Node.checkSteps, hne, if_neg Bool.false_ne_true, mapM_expectWord]
    dsimp only
    rw [Node.ofWrapperDraft, Node.checkWrapper, hpath]
    cases path.mapM (checkWord .wrapped) with
    | error flaw => rfl
    | ok words =>
      rw [hdeclared]
      exact congrArg _ (hsymbol _)

end Signature

/-! ### Making commands -/

lemma Parameter.makeAll_eq {ps : List Parameter} (h : ∀ p ∈ ps, p.IsSound) (number : Nat) :
    makeAll number ps = .ok (buildAll number ps) := by
  induction ps generalizing number with
  | nil => rfl
  | cons p ps ih =>
    obtain ⟨hp, hps⟩ := List.forall_mem_cons.1 h
    rw [makeAll, hp.ofParameterDraft, buildAll]
    dsimp only
    rw [ih hps]
    rfl

namespace Command

variable {c : Command} {cs : List Command} {next : Nat}

lemma makeAll_eq (h : ∀ c ∈ cs, ∀ next, c.make next = c.build next) (next : Nat) :
    makeAll cs next = buildAll cs next := by
  induction cs generalizing next with
  | nil => rfl
  | cons c cs ih =>
    obtain ⟨hc, hcs⟩ := List.forall_mem_cons.1 h
    rw [makeAll, buildAll, hc]
    cases c.build next with
    | error e => rfl
    | ok first =>
      dsimp only
      rewrite [ih hcs]
      rfl

/-- **An accepted description is built as its nodes are made:** the makers of nodes refuse nothing
that was accepted, but for words of a wrapper's path. -/
theorem IsAccepted.make_eq (h : c.IsAccepted) : ∀ next, c.make next = c.build next := by
  induction h with
  | @ofDraft draft c hdraft hparameters hcommands ih =>
    intro next
    have haccepted : c.IsAccepted := .ofDraft draft hdraft hparameters hcommands
    obtain ⟨signature, parameters, commands⟩ := c
    have hsound : signature.IsSound := haccepted.isSound
    have hnames : (parameters.map Parameter.name).Nodup := haccepted.nodup_names
    have hdeclared : Parameter.makeAll next parameters = .ok (Parameter.buildAll next parameters) :=
      Parameter.makeAll_eq (fun p hp => (hparameters p hp).isSound) next
    have hnested : makeAll commands (next + parameters.length) =
        buildAll commands (next + parameters.length) := makeAll_eq ih _
    rw [make, build, hdeclared]
    dsimp only
    rw [hnested]
    cases buildAll commands (next + parameters.length) with
    | error e => rfl
    | ok nested =>
      dsimp only
      rw [hsound.make_eq (fun n hn => Parameter.isParameter_of_mem_buildAll hn)
        (by rwa [Parameter.map_name_buildAll])]
      cases roleOf signature with
      | error e => rfl
      | ok role => rfl

/-! ### Paths of words -/

/-- The paths of the wrappers that the description describes, itself and below, are of words. -/
inductive WrapsWords : Command → Prop
  | mk {c : Command} : (∀ path ∈ c.signature.wraps, ∀ word ∈ path, IsWord word) →
    (∀ d ∈ c.commands, WrapsWords d) → WrapsWords c

lemma wrapsWords_iff : c.WrapsWords ↔
    (∀ path ∈ c.signature.wraps, ∀ word ∈ path, IsWord word) ∧ ∀ d ∈ c.commands, d.WrapsWords :=
  ⟨fun ⟨hwords, hcommands⟩ => ⟨hwords, hcommands⟩, fun ⟨hwords, hcommands⟩ => ⟨hwords, hcommands⟩⟩

end Command

/-- The error is about a step of a wrapper's path that is no word. -/
def ArgumentError.IsOfPath (e : ArgumentError) : Prop :=
  e = ⟨"wrapper-node", .empty .wrapped⟩ ∨ e = ⟨"wrapper-node", .blank .wrapped⟩

namespace Command

variable {c : Command} {cs : List Command} {next : Nat} {signature : Signature} {e : ArgumentError}

/-- The part of a command fails only where its path has a step that is no word. -/
lemma exists_roleOf_iff : (∃ role, roleOf signature = .ok role) ↔
    ∀ path ∈ signature.wraps, ∀ word ∈ path, IsWord word := by
  unfold roleOf
  cases signature.wraps with
  | none => simp
  | some path =>
    have hall : (∀ path' ∈ some path, ∀ word ∈ path', IsWord word) ↔
        ∀ word ∈ path, IsWord word := by simp
    rw [hall, ← @exists_mapM_checkWord_iff .wrapped]
    dsimp only
    cases path.mapM (checkWord .wrapped) with
    | error flaw => simp
    | ok words => simp

lemma isOfPath_of_roleOf (h : roleOf signature = .error e) : e.IsOfPath := by
  unfold roleOf at h
  split at h
  · cases h
  · split at h
    · cases h
    · next flaw hflaw =>
      cases h
      obtain ⟨word, -, hword⟩ := exists_of_mapM_eq_error hflaw
      obtain ⟨-, rfl | rfl⟩ := flaw_of_checkWord hword
      · exact .inl rfl
      · exact .inr rfl

lemma exists_buildAll_iff
    (h : ∀ c ∈ cs, ∀ next, (∃ built, c.build next = .ok built) ↔ c.WrapsWords) (next : Nat) :
    (∃ built, buildAll cs next = .ok built) ↔ ∀ c ∈ cs, c.WrapsWords := by
  induction cs generalizing next with
  | nil => simp [buildAll]
  | cons c cs ih =>
    obtain ⟨hc, hcs⟩ := List.forall_mem_cons.1 h
    rw [List.forall_mem_cons, ← hc next, buildAll]
    cases c.build next with
    | error e => simp
    | ok first =>
      rw [← ih hcs first.next]
      dsimp only
      cases buildAll cs first.next with
      | error e => simp
      | ok rest => simp

/-- **A description builds exactly when the paths of its wrappers are of words.** -/
theorem exists_build_iff (c : Command) :
    ∀ next, (∃ built, c.build next = .ok built) ↔ c.WrapsWords := by
  induction c using Command.induction with
  | mk signature parameters commands ih =>
    intro next
    rw [wrapsWords_iff, Command.signature, Command.commands, ← exists_roleOf_iff,
      ← exists_buildAll_iff ih (next + parameters.length), build]
    cases buildAll commands (next + parameters.length) with
    | error e => simp
    | ok nested =>
      cases roleOf signature with
      | error e => simp
      | ok role => simp

lemma isOfPath_of_buildAll (h : ∀ c ∈ cs, ∀ next e, c.build next = .error e → e.IsOfPath)
    (hb : buildAll cs next = .error e) : e.IsOfPath := by
  induction cs generalizing next with
  | nil => cases hb
  | cons c cs ih =>
    obtain ⟨hc, hcs⟩ := List.forall_mem_cons.1 h
    rw [buildAll] at hb
    split at hb
    · next hfirst =>
      cases hb
      exact hc next e hfirst
    · next first _ =>
      split at hb
      · next hrest =>
        cases hb
        exact ih hcs hrest
      · cases hb

/-- What fails to build fails for a step of a wrapper's path that is no word. -/
lemma isOfPath_of_build (c : Command) : ∀ next e, c.build next = .error e → e.IsOfPath := by
  induction c using Command.induction with
  | mk signature parameters commands ih =>
    intro next e h
    rw [build] at h
    split at h
    · next hnested =>
      cases h
      exact isOfPath_of_buildAll ih hnested
    · split at h
      · next hrole =>
        cases h
        exact isOfPath_of_roleOf hrole
      · cases h

end Command

/-! ### Finishing -/

/-- The error is about what a wrapper leads to, or a warning where these count as errors. -/
inductive FinishError.IsOfTarget (isStrict : Bool) : FinishError → Prop
  | unknownTarget (wrapper : String) (path : List String) :
    IsOfTarget isStrict (.build (.unknownTarget wrapper path))
  | selfWrapping (wrapper through : String) :
    IsOfTarget isStrict (.build (.selfWrapping wrapper through))
  | warning (fault : Fault) : isStrict = true → IsOfTarget isStrict (.warning fault)

namespace Registry

variable {registry : Registry} {isStrict : Bool} {next : Nat} {e : FinishError}

/-- The maker of roots takes the nodes that descriptions build. -/
lemma exists_ofValue_of_buildAll {cs : List Command} {built : Numbered (List Node)}
    (h : Command.buildAll cs next = .ok built) :
    ∃ root, Root.ofValue (.ofNodes built.value) = .ok root ∧ root.successors = built.value := by
  have hroot : Root.ofNodes? built.value =
      some ⟨built.value, Command.isCommand_of_buildAll h⟩ := dif_pos _
  refine ⟨⟨built.value, Command.isCommand_of_buildAll h⟩, ?_, rfl⟩
  rw [Root.ofValue, mapError_eq_ok_iff, Root.checkRoot, Node.checkSuccessors_ofNodes]
  change expect (Root.ofNodes? built.value) _ _ = _
  rw [hroot]
  rfl

lemma exists_buildAll_commands_iff :
    (∃ built, Command.buildAll registry.commands next = .ok built) ↔
      ∀ c ∈ registry.commands, c.WrapsWords :=
  Command.exists_buildAll_iff (fun c _ => c.exists_build_iff) next

/-- Where all paths are of words, finishing fails for what a wrapper leads to. -/
lemma isOfTarget_of_finish (hwords : ∀ c ∈ registry.commands, c.WrapsWords)
    (h : registry.finish isStrict next = .error e) : e.IsOfTarget isStrict := by
  obtain ⟨built, hbuilt⟩ : ∃ built, Command.buildAll registry.commands next = .ok built :=
    exists_buildAll_commands_iff.2 hwords
  obtain ⟨root, -, hroot⟩ := exists_ofValue_of_buildAll hbuilt
  unfold finish at h
  split at h
  · next failure hfailure =>
    obtain rfl := Except.error.inj h
    rw [build_eq_error_iff hbuilt hroot] at hfailure
    cases failure with
    | argument a => exact absurd hfailure (root.checkWrappers_ne_argument a)
    | unknownTarget wrapper path => exact .unknownTarget wrapper path
    | selfWrapping wrapper through => exact .selfWrapping wrapper through
  · dsimp only at h
    split at h
    · obtain rfl := Except.error.inj h
      exact .warning _ rfl
    · cases h

/-- Where some path is not of words, finishing fails for one of its steps. -/
lemma exists_finish_eq_argument (hwords : ¬ ∀ c ∈ registry.commands, c.WrapsWords) :
    ∃ a : ArgumentError, a.IsOfPath ∧
      registry.finish isStrict next = .error (.build (.argument a)) := by
  cases hbuilt : Command.buildAll registry.commands next with
  | ok built => exact absurd (exists_buildAll_commands_iff.1 ⟨built, hbuilt⟩) hwords
  | error a =>
    refine ⟨a, Command.isOfPath_of_buildAll (fun c _ => c.isOfPath_of_build) hbuilt, ?_⟩
    have hbuild : registry.build next = .error (.argument a) := by
      unfold build
      split
      · next h =>
        cases hbuilt.symm.trans h
        rfl
      · next h => cases hbuilt.symm.trans h
    rw [finish, hbuild]

end Registry

/-! ### Accepted arguments -/

/-- A short form whose path has a step that is two words. -/
def spacedForm : Command := shortForm "si" ["show interface"] []

lemma isAccepted_spacedForm : spacedForm.IsAccepted :=
  .ofDraft { name := .text "si", wraps := .list [.text "show interface"] } rfl
    (List.forall_mem_nil _) (List.forall_mem_nil _)

lemma build_spacedForm : spacedForm.build 0 = .error ⟨"wrapper-node", .blank .wrapped⟩ := rfl

/-- **What is accepted is built, but for paths.** The makers of nodes give for accepted descriptions
what building gives. One builds exactly when the paths of its wrappers are of words, and fails for a
step that is no word. So a grammar is finished of paths of words, unless it fails for what a wrapper
leads to, and any other fails for a step. A decorator registers the description that was
accepted, with the callable for its handler, and gives the callable back, unless its arguments are
those of a wrapper or have a handler: then it refuses all callables. -/
theorem construct_accepted {registry : Registry} (hr : registry.IsAccepted) {c : Command}
    (hc : c.IsAccepted) (isStrict : Bool) (next : Nat) :
    (c.make next = c.build next ∧ ((∃ built, c.build next = .ok built) ↔ c.WrapsWords) ∧
      ∀ e, c.build next = .error e → e.IsOfPath) ∧
    Command.makeAll registry.commands next = Command.buildAll registry.commands next ∧
    ((∀ d ∈ registry.commands, d.WrapsWords) →
      (∃ built root, Command.buildAll registry.commands next = .ok built ∧
        Root.ofValue (.ofNodes built.value) = .ok root ∧ root.successors = built.value) ∧
      ∀ e, registry.finish isStrict next = .error e → e.IsOfTarget isStrict) ∧
    ((¬ ∀ d ∈ registry.commands, d.WrapsWords) → ∃ e : ArgumentError, e.IsOfPath ∧
      registry.finish isStrict next = .error (.build (.argument e))) ∧
    ∀ (arguments : Command.Arguments) (earlier earlier' : Registry) (decorator : Registry.Decorator),
      earlier.perform (.command arguments) = (.ok (.decorator decorator), earlier') →
      earlier' = earlier ∧ decorator.arguments = arguments ∧
        ∃ d, Command.ofDraft arguments.draft = .ok d ∧
          ∀ (later : Registry) (callable : Callable),
            later.perform (.decorate decorator (.callable callable)) =
              if arguments.draft.namesHandler then
                (.error (.registration .handlerTwice), later)
              else if d.signature.wraps.isSome then
                (.error (.registration (.argument ⟨Command.typeName, .wrapperHandler⟩)), later)
              else (.ok (.handler (.callable callable)),
                later.register (d.handledBy callable.handler)) := by
  have hmake : Command.makeAll registry.commands next = Command.buildAll registry.commands next :=
    Command.makeAll_eq (fun d hd => (hr d hd).make_eq) next
  refine ⟨⟨hc.make_eq next, c.exists_build_iff next, c.isOfPath_of_build next⟩, hmake, ?_,
    Registry.exists_finish_eq_argument, ?_⟩
  · intro hwords
    obtain ⟨built, hbuilt⟩ := Registry.exists_buildAll_commands_iff.2 hwords
    obtain ⟨root, hroot, hsuccessors⟩ := Registry.exists_ofValue_of_buildAll hbuilt
    refine ⟨⟨built, root, hbuilt, hroot, hsuccessors⟩, ?_⟩
    intro e he
    exact Registry.isOfTarget_of_finish hwords he
  · intro arguments earlier earlier' decorator h
    obtain ⟨rfl, rfl⟩ := Registry.eq_of_perform_command h
    obtain ⟨d, hd⟩ := decorator.isAccepted
    obtain ⟨-, hdraft⟩ := Command.Arguments.describe_none_eq_ok_iff.1 hd
    refine ⟨rfl, rfl, d, hdraft, ?_⟩
    intro later callable
    exact later.perform_decorate hd callable

/-- The decorator of a command that lists. -/
def Registry.listDecorator : Decorator where
  arguments := { source := .text "list" }
  isAccepted := ⟨_, rfl⟩

/-- The demo grammar is made as it is built, a command whose path has a step of two words is not
built, and a command is registered with its handler. -/
theorem construct_accepted_demo :
    Demo.registry.IsAccepted ∧ spacedForm.IsAccepted ∧
    Command.makeAll Demo.registry.commands 0 = Command.buildAll Demo.registry.commands 0 ∧
    (∀ e, Demo.registry.finish false 0 = .error e → e.IsOfTarget false) ∧
    ¬ spacedForm.WrapsWords ∧
    ∃ d : Command, d.signature.name = "list" ∧ ∀ callable,
      Demo.registry.perform (.decorate Registry.listDecorator (.callable callable)) =
        (.ok (.handler (.callable callable)),
          Demo.registry.register (d.handledBy callable.handler)) := by
  obtain ⟨⟨-, hbuilds, -⟩, hmake, hfinish, -, hdecorate⟩ :=
    construct_accepted Demo.isAccepted_registry isAccepted_spacedForm false 0
  have hwords : ∀ d ∈ Demo.registry.commands, d.WrapsWords :=
    (@Registry.exists_buildAll_commands_iff Demo.registry 0).1 ⟨_, rfl⟩
  have hspaced : ¬ spacedForm.WrapsWords := by
    intro hwords
    obtain ⟨built, hbuilt⟩ := hbuilds.2 hwords
    cases build_spacedForm.symm.trans hbuilt
  refine ⟨Demo.isAccepted_registry, isAccepted_spacedForm, hmake, (hfinish hwords).2, hspaced, ?_⟩
  obtain ⟨-, -, d, hd, hall⟩ := hdecorate Registry.listDecorator.arguments Demo.registry
    Demo.registry Registry.listDecorator rfl
  cases hd
  exact ⟨_, rfl, fun callable => hall Demo.registry callable⟩

/-- The arguments of a command that stands for another. -/
def wrappingArguments : Command.Arguments where
  source := .text "sh"
  options := [("wraps", .text "show")]

/-- A description is accepted that cannot be built, and a decorator is given back that takes no
callable. -/
theorem exists_accepted_unbuilt :
    spacedForm.IsAccepted ∧ spacedForm.build 0 = .error ⟨"wrapper-node", .blank .wrapped⟩ ∧
    ∃ decorator, Registry.empty.perform (.command wrappingArguments) =
        (.ok (.decorator decorator), .empty) ∧
      ∀ callable, Registry.empty.perform (.decorate decorator (.callable callable)) =
        (.error (.registration (.argument ⟨Command.typeName, .wrapperHandler⟩)), .empty) :=
  ⟨isAccepted_spacedForm, build_spacedForm, ⟨wrappingArguments, _, rfl⟩, rfl, fun _ => rfl⟩

end CommandGrammar
