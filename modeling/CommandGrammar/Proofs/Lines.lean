import CommandGrammar.Main
import CommandGrammar.Proofs.Accounting
import CommandGrammar.Proofs.Displays
import CommandGrammar.Proofs.Image
import CommandGrammar.Proofs.Layout
import CommandGrammar.Proofs.Listing
import CommandGrammar.Proofs.Requests
import CommandGrammar.Proofs.Wrappers

/-!
Lines of a shell. What a line comes to is settled before anything is executed: it is empty, at fault
in the first stage that fails, or ready. A fault is displayed, if it can be laid out, and nothing is
called; a line that is ready calls one handler, or none if there is none to call, and displays
nothing. No line before it has a part in this.
-/

namespace CommandGrammar

/-! ### Verdicts -/

/-- What a line comes to before anything is executed. -/
inductive Verdict where
  | empty
  | faulty (fault : Fault)
  | ready (s : State)

/-- The first stage that settles the line gives it its verdict. -/
inductive Root.Judges (root : Root) (line : String) : Verdict → Prop
  | empty : Line.split line = .ok [] → Judges root line .empty
  | unfinished {unfinished : Line.Unfinished} : Line.split line = .error unfinished →
    Judges root line (.faulty (.ofUnfinished line unfinished))
  | unmatched {words : List String} {e : MatchError} {fault : Fault} :
    Line.split line = .ok words → words ≠ [] → parse words root = .error e →
      e.fault? = some fault → Judges root line (.faulty fault)
  | lacking {words : List String} {s : State} {lack : MissingRequired} :
    Line.split line = .ok words → words ≠ [] → parse words root = .ok s →
      s.verify = .error lack → Judges root line (.faulty (.ofMissingRequired lack))
  | ready {words : List String} {s : State} : Line.split line = .ok words → words ≠ [] →
    parse words root = .ok s → s.verify = .ok () → Judges root line (.ready s)

/-- An error that has an image tells of nodes of the grammar. -/
lemma MatchError.IsImage.exists_isDisplayable {r : List Node → List Node → Prop} {f : Node → Node}
    {root : Root} {e d : MatchError} (h : e.IsImage r f root d) (hc : root.IsClosed) :
    ∃ fault nodes, e.fault? = some fault ∧ fault.IsDisplayable nodes ∧
      ∀ n ∈ nodes, n ∈ root.walk := by
  cases h with
  | noMatch word position consumed hxs =>
    refine ⟨_, _, rfl, ⟨⟨_, rfl⟩, .inl rfl, rfl⟩, fun n hn => hxs.mem_walk n ?_⟩
    exact (Node.mem_listing.1 hn).1
  | ambiguous word position consumed hxs =>
    exact ⟨_, _, rfl, ⟨⟨_, rfl⟩, .inl rfl, rfl⟩, hxs.mem_walk⟩
  | @missingValue n word position consumed hn =>
    refine ⟨_, _, rfl, ⟨⟨_, rfl⟩, .inl rfl, rfl⟩, fun m hm => ?_⟩
    split at hm
    · cases hm
    · rwa [List.mem_singleton.1 hm]
  | blocked hn hk => cases (hc _ hn).symm.trans hk

namespace Root

variable {root : Root} {line : String}

/-- There is one verdict on a line at most. -/
lemma Judges.unique {v w : Verdict} (hv : root.Judges line v) (hw : root.Judges line w) :
    w = v := by
  cases hv <;> cases hw <;> simp_all

/-- An error of matching a line tells of nodes of the grammar, and is a fault if no parameter is
without a kind. -/
lemma exists_isDisplayable (hc : root.IsClosed) {tokens : List String} {e : MatchError}
    (he : parse tokens root = .error e) :
    ∃ fault nodes, e.fault? = some fault ∧ fault.IsDisplayable nodes ∧
      ∀ n ∈ nodes, n ∈ root.walk := by
  -- matching stays within the grammar, which is an image of itself
  have hself : root.IsImage (· = ·) id root :=
    ⟨List.map_id _, fun n _ => ⟨rfl, rfl, rfl, List.map_id _⟩, fun _ _ _ _ h => h⟩
  have ho := hself.parse tokens
  rw [he] at ho
  cases ho with
  | error hi => exact hi.exists_isDisplayable hc

/-- Words that do not match put their line at fault. -/
lemma exists_judges_faulty (hc : root.IsClosed) {words : List String} {e : MatchError}
    (hsplit : Line.split line = .ok words) (hne : words ≠ []) (he : parse words root = .error e) :
    ∃ fault, root.Judges line (.faulty fault) := by
  obtain ⟨fault, -, hf, -⟩ := exists_isDisplayable hc he
  exact ⟨fault, .unmatched hsplit hne he hf⟩

lemma exists_judges (hc : root.IsClosed) (line : String) : ∃ verdict, root.Judges line verdict := by
  cases hsplit : Line.split line with
  | error unfinished => exact ⟨_, .unfinished hsplit⟩
  | ok words =>
    by_cases hne : words = []
    · exact ⟨_, .empty (hne ▸ hsplit)⟩
    · cases hp : parse words root with
      | error e =>
        obtain ⟨fault, hf⟩ := exists_judges_faulty hc hsplit hne hp
        exact ⟨_, hf⟩
      | ok s =>
        cases hv : s.verify with
        | error lack => exact ⟨_, .lacking hsplit hne hp hv⟩
        | ok => exact ⟨_, .ready hsplit hne hp hv⟩

/-- A fault of a line can be displayed, and lists nodes of the grammar. -/
lemma Judges.exists_isDisplayable {fault : Fault} (hc : root.IsClosed)
    (h : root.Judges line (.faulty fault)) :
    ∃ nodes, fault.IsDisplayable nodes ∧ ∀ n ∈ nodes, n ∈ root.walk := by
  cases h with
  | unfinished => exact ⟨[], ⟨⟨_, rfl⟩, .inr ⟨rfl, rfl⟩, rfl⟩, by simp⟩
  | unmatched _ _ hp hf =>
    obtain ⟨fault', nodes, hf', hd, hn⟩ := Root.exists_isDisplayable hc hp
    cases hf.symm.trans hf'
    exact ⟨nodes, hd, hn⟩
  | lacking => exact ⟨[], ⟨⟨_, rfl⟩, .inr ⟨rfl, rfl⟩, rfl⟩, by simp⟩

end Root

/-! ### Transcripts -/

namespace Transcript

lemma printed_append (xs ys : Transcript) : printed (xs ++ ys) = printed xs ++ printed ys :=
  List.filterMap_append

lemma calls_append (xs ys : Transcript) : calls (xs ++ ys) = calls xs ++ calls ys :=
  List.filterMap_append

lemma printed_noted (notes : List Note) : printed (notes.map Event.noted) = [] := by
  simp [printed]

lemma calls_noted (notes : List Note) : calls (notes.map Event.noted) = [] := by
  simp [calls]

end Transcript

namespace Run

variable {α : Type} (run : Run α) (notes : List Note)

/-- Notes print nothing. -/
lemma printed_after_noted :
    (run.after (notes.map .noted)).transcript.printed = run.transcript.printed := by
  rw [after, Transcript.printed_append, Transcript.printed_noted, List.nil_append]

/-- Notes call nothing. -/
lemma calls_after_noted :
    (run.after (notes.map .noted)).transcript.calls = run.transcript.calls := by
  rw [after, Transcript.calls_append, Transcript.calls_noted, List.nil_append]

end Run

/-! ### Displaying -/

namespace Shell

variable {shell : Shell} {env : Environment} {line : String} {fault : Fault}

/-- Beside the name of its program a shell has three options. -/
lemma get?_options (shell : Shell) {name : String} (h : name ≠ "prog") :
    Entries.get? shell.options.reverse name =
      Entries.get? [("colorful", .truth shell.isColorful), ("fancy", .truth shell.isFancy),
        ("shell", .truth true)] name := by
  unfold options
  cases shell.program with
  | none => rfl
  | some program =>
    change Entries.get? (("prog", Value.text program) :: _) name = _
    rw [Entries.get?_cons, if_neg h]

/-- An option of the shell goes over that of a fault. -/
lemma option_withOptions {name : String} {value : Value}
    (h : Entries.get? shell.options.reverse name = some value) :
    (fault.withOptions shell.options).option name = value := by
  rw [Fault.option, Entries.getD, Fault.withOptions, Entries.get?_setAll, h]
  rfl

lemma option_shell (shell : Shell) (fault : Fault) :
    (fault.withOptions shell.options).option "shell" = .truth true := by
  apply option_withOptions
  rw [shell.get?_options (by decide)]
  rfl

lemma option_fancy (shell : Shell) (fault : Fault) :
    (fault.withOptions shell.options).option "fancy" = .truth shell.isFancy := by
  apply option_withOptions
  rw [shell.get?_options (by decide)]
  rfl

/-- The options of a shell take nothing from a fault. -/
lemma isDisplayable_withOptions (shell : Shell) {nodes : List Node}
    (h : fault.IsDisplayable nodes) : (fault.withOptions shell.options).IsDisplayable nodes := by
  have hget : ∀ name, name ∉ ["prog", "colorful", "fancy", "shell"] →
      (fault.withOptions shell.options).options.get? name = fault.options.get? name := by
    intro name hname
    simp only [List.mem_cons, List.not_mem_nil, or_false, not_or] at hname
    obtain ⟨hprogram, hothers⟩ := hname
    have hnone : Entries.get? shell.options.reverse name = none := by
      rw [shell.get?_options hprogram]
      simp [Entries.get?, hothers]
    rw [Fault.withOptions, Entries.get?_setAll, hnone, Option.none_or]
  refine ⟨?_, ?_, ?_⟩
  · rw [hget "code" (by decide)]
    exact h.code
  · rw [hget "candidates" (by decide)]
    exact h.candidates
  · rw [hget "ratio" (by decide)]
    exact h.ratio

/-- A fault is displayed, unless its display cannot be laid out. -/
lemma displayFault_of_display {d : Display}
    (hd : (fault.withOptions shell.options).display env.hooks env.console = .ok d) :
    (env.console.check d = .ok () ∧
      shell.displayFault env fault = ⟨[.printed (.display d)], .ok false⟩) ∨
    ∃ e, env.console.check d = .error e ∧
      shell.displayFault env fault = .of (.error (.display (.layout e))) := by
  have hsurface : fault.surface shell.options env.hooks env.console =
      ((fault.withOptions shell.options).displayOn env.hooks env.console).map .displayed := by
    rw [Fault.surface, option_shell]
    rfl
  rw [displayFault, hsurface, Fault.displayOn, hd]
  cases hcheck : env.console.check d with
  | ok =>
    left
    exact ⟨rfl, by simp [hcheck, bind, Except.bind, Except.mapError, Except.map, pure, Except.pure]⟩
  | error e =>
    right
    exact ⟨e, rfl, by simp [hcheck, bind, Except.bind, Except.mapError, Except.map]⟩

/-! ### Running -/

lemma runLine_empty (h : Line.split line = .ok []) :
    shell.runLine env line = (shell, .of (.ok false)) := by
  rw [runLine, h]

lemma runLine_of_ne_nil {words : List String} (h : Line.split line = .ok words)
    (hne : words ≠ []) : shell.runLine env line = shell.runWords env line words := by
  cases words with
  | nil => exact absurd rfl hne
  | cons word rest => rw [runLine, h]

/-- After a line that was matched the parser keeps its state, whatever else came of the line. -/
lemma state_of_runLine {words : List String} {s : State} (h : Line.split line = .ok words)
    (hne : words ≠ []) (hp : parse words shell.root = .ok s) :
    (shell.runLine env line).1.parser.state = some s := by
  rw [runLine_of_ne_nil h hne]
  unfold runWords Parser.parse runParse
  unfold root at hp
  rw [hp]
  rfl

section Words

variable {words : List String}

/-- The notes on matching words over the grammar of the shell. -/
def matching (shell : Shell) (words : List String) : Transcript :=
  (matchNotes words shell.root (parse words shell.root)).map .noted

lemma runWords_unmatched {e : MatchError} (hp : parse words shell.root = .error e) :
    (shell.runWords env line words).2 =
      (shell.giveUp env line e.failure).after (shell.matching words) := by
  unfold runWords Parser.parse runParse matching
  unfold root at hp ⊢
  rw [hp]
  rfl

lemma runWords_lacking {s : State} {failure : Failure} (hp : parse words shell.root = .ok s)
    (hv : s.runVerify = .error failure) : (shell.runWords env line words).2 =
      (shell.giveUp env line failure).after (shell.matching words) := by
  unfold runWords Parser.parse runParse matching
  unfold root at hp ⊢
  rw [hp]
  simp only [Except.mapError, hv]
  rfl

lemma runWords_ready {s : State} (hp : parse words shell.root = .ok s)
    (hv : s.runVerify = .ok ()) :
    (shell.runWords env line words).2 = (finish env s).after (shell.matching words) := by
  unfold runWords Parser.parse runParse matching
  unfold root at hp ⊢
  rw [hp]
  simp only [Except.mapError, hv]

end Words

/-- A line at fault comes to the display of its fault, after notes. -/
lemma runLine_faulty (env : Environment) (h : shell.root.Judges line (.faulty fault)) :
    ∃ notes : List Note, (shell.runLine env line).2 =
      (shell.displayFault env fault).after (notes.map .noted) := by
  have hgive : ∀ failure : Failure, failure.fault? = some fault →
      shell.giveUp env line failure =
        (shell.displayFault env fault).after [.noted (.lineFailed line fault.text)] := by
    intro failure hf
    rw [giveUp, hf]
  cases h with
  | @unfinished unfinished h =>
    refine ⟨[.lineFailed line (Fault.ofUnfinished line unfinished).text], ?_⟩
    rw [runLine, h]
    exact hgive (.fault (.ofUnfinished line unfinished)) rfl
  | @unmatched words e _ h hne hp hf =>
    have hfailure : e.failure.fault? = some fault := by
      rw [MatchError.failure, hf]
      rfl
    refine ⟨matchNotes words shell.root (parse words shell.root) ++
      [.lineFailed line fault.text], ?_⟩
    rw [runLine_of_ne_nil h hne, runWords_unmatched hp, hgive _ hfailure]
    simp [Run.after, matching]
  | @lacking words s lack h hne hp hv =>
    have hv' : s.runVerify = .error (.fault (.ofMissingRequired lack)) := by
      rw [State.runVerify, hv]
      rfl
    refine ⟨matchNotes words shell.root (parse words shell.root) ++
      [.lineFailed line (Fault.ofMissingRequired lack).text], ?_⟩
    rw [runLine_of_ne_nil h hne, runWords_lacking hp hv', hgive _ rfl]
    simp [Run.after, matching]

/-- A line that is ready is executed, after notes. -/
lemma runLine_ready (env : Environment) {s : State} (h : shell.root.Judges line (.ready s)) :
    ∃ notes : List Note,
      (shell.runLine env line).2 = (finish env s).after (notes.map .noted) := by
  cases h with
  | @ready words _ h hne hp hv =>
    have hv' : s.runVerify = .ok () := by
      rw [State.runVerify, hv]
      rfl
    exact ⟨_, by rw [runLine_of_ne_nil h hne, runWords_ready hp hv']; rfl⟩

end Shell

/-! ### What is kept of tokens -/

namespace State

/-- The state is kept of tokens that were matched over the root: by a parser, which verifies and
executes it and stays as it is, and by a shell that ran them as a line, whatever came of that. -/
structure IsKept (s : State) (root : Root) (tokens : List String) : Prop where
  of_parse : ∀ parser : Parser, parser.root = root → (parser.parse tokens).1.Keeps s
  of_runLine : ∀ (shell : Shell) env line, shell.root = root → Line.split line = .ok tokens →
    tokens ≠ [] → (shell.runLine env line).1.parser.Keeps s

lemma isKept_of_parse {s : State} {root : Root} {tokens : List String}
    (hp : parse tokens root = .ok s) : s.IsKept root tokens where
  of_parse _ hroot := Parser.keeps_parse (hroot ▸ hp)
  of_runLine _ _ _ hroot hsplit hne :=
    Parser.keeps_of_state (Shell.state_of_runLine hsplit hne (hroot ▸ hp))

end State

/-! ### Earlier lines -/

namespace Shell

/-- The shell after lines, each run in an environment of its own. -/
def afterLines (shell : Shell) (lines : List (Environment × String)) : Shell :=
  lines.foldl (fun shell entry => (shell.runLine entry.1 entry.2).1) shell

/-- The shell with a parser that no line was matched with. -/
def fresh (shell : Shell) : Shell := { shell with parser := .new shell.root }

/-- A line changes nothing of the shell but the state that its parser keeps. -/
lemma runLine_fst (shell : Shell) (env : Environment) (line : String) :
    ∃ state, (shell.runLine env line).1 = { shell with parser := ⟨shell.root, state⟩ } := by
  unfold runLine
  split
  · exact ⟨shell.parser.state, rfl⟩
  · exact ⟨shell.parser.state, rfl⟩
  · exact ⟨_, rfl⟩

/-- One step: a line keeps the shell alike. -/
lemma fresh_runLine (shell : Shell) (env : Environment) (line : String) :
    (shell.runLine env line).1.fresh = shell.fresh := by
  obtain ⟨state, hstate⟩ := shell.runLine_fst env line
  rw [hstate]
  rfl

/-- **Lines keep the shell alike,** whatever came of them. -/
theorem fresh_afterLines (shell : Shell) (lines : List (Environment × String)) :
    (shell.afterLines lines).fresh = shell.fresh := by
  induction lines generalizing shell with
  | nil => rfl
  | cons entry rest ih => exact (ih _).trans (shell.fresh_runLine entry.1 entry.2)

/-- What a line comes to does not depend on the state that the parser keeps. -/
lemma runLine_fresh (shell : Shell) (env : Environment) (line : String) :
    (shell.fresh.runLine env line).2 = (shell.runLine env line).2 := by
  unfold runLine
  split
  · rfl
  · rfl
  · rfl

end Shell

/-! ### Outcomes -/

/-- The run does nothing, and nothing was executed. -/
structure Run.IsIdle (run : Run Bool) : Prop where
  result_eq : run.result = .ok false
  printed_eq : run.transcript.printed = []
  calls_eq : run.transcript.calls = []

namespace Shell

/-- The run calls no handler and displays the fault, with the options of the shell over its own; all
that it prints is that display, and if this cannot be laid out its error is raised instead. On a
console that knows the styles of the host that takes a bracket in a name or a help of the grammar. -/
structure Displays (shell : Shell) (env : Environment) (fault : Fault) (run : Run Bool)
    (d : Display) : Prop where
  display_eq : (fault.withOptions shell.options).display env.hooks env.console = .ok d
  calls_eq : run.transcript.calls = []
  shown : env.console.check d = .ok () →
    run.transcript.printed = [.display d] ∧ run.result = .ok false
  raised : ∀ e, env.console.check d = .error e →
    run.transcript.printed = [] ∧ run.result = .error (.display (.layout e))
  laidOut : ∀ known, env.console.LaysOut known → env.hooks.StyledIn known →
    (∀ n ∈ shell.root.walk, n.IsPlain) → env.console.check d = .ok ()

/-- The run prints nothing and calls the handler of the target, to which the wrappers of the matched
command lead, once and with the bindings of the line, or none if the target has none. The line is
executed unless the handler fails. -/
structure Executes (shell : Shell) (env : Environment) (s : State) (run : Run Bool)
    (c target : Node) : Prop where
  command_eq : s.command = some c
  leadsTo : shell.root.LeadsTo c target
  isWrapper_eq : target.isWrapper = false
  printed_eq : run.transcript.printed = []
  calls_eq : run.transcript.calls =
    (target.handler.map fun handler => ⟨target, handler, s.names⟩).toList
  result_eq : run.result = target.handler.elim (.ok true) fun handler =>
    (env.host handler s.names.frozen).result.map fun _ => true

section Fault

variable {shell : Shell} {env : Environment} {line : String} {fault : Fault} {run : Run Bool}
  {d : Display}

/-- Notes before a run change nothing of what it displays. -/
lemma Displays.after_noted (h : shell.Displays env fault run d) (notes : List Note) :
    shell.Displays env fault (run.after (notes.map .noted)) d := by
  have hcalls := run.calls_after_noted notes
  have hprinted := run.printed_after_noted notes
  refine ⟨h.display_eq, hcalls.trans h.calls_eq, ?_, ?_, h.laidOut⟩
  · intro hshows
    obtain ⟨hshown, hresult⟩ := h.shown hshows
    exact ⟨hprinted.trans hshown, hresult⟩
  · intro e he
    obtain ⟨hnothing, hresult⟩ := h.raised e he
    exact ⟨hprinted.trans hnothing, hresult⟩

/-- A fault that can be displayed is displayed, unless its display cannot be laid out. -/
lemma displays_displayFault {nodes : List Node} (env : Environment) (h : fault.IsDisplayable nodes)
    (hn : ∀ n ∈ nodes, n ∈ shell.root.walk) :
    ∃ d, shell.Displays env fault (shell.displayFault env fault) d := by
  obtain ⟨d, hd, hlaid⟩ :=
    (isDisplayable_withOptions shell h).exists_display env.hooks env.console
  have hlaidOut : ∀ known, env.console.LaysOut known → env.hooks.StyledIn known →
      (∀ n ∈ shell.root.walk, n.IsPlain) → env.console.check d = .ok () := by
    intro known hconsole hhooks hwalk
    apply hlaid known hconsole hhooks
    intro n hmem
    exact hwalk n (hn n hmem)
  refine ⟨d, ?_⟩
  rcases displayFault_of_display hd with ⟨hshows, hshown⟩ | ⟨e, he, hraised⟩
  · rw [hshown]
    refine ⟨hd, rfl, fun _ => ⟨rfl, rfl⟩, ?_, hlaidOut⟩
    intro e he
    cases hshows.symm.trans he
  · rw [hraised]
    refine ⟨hd, rfl, ?_, ?_, hlaidOut⟩
    · intro hshows
      cases hshows.symm.trans he
    · intro e' he'
      cases he.symm.trans he'
      exact ⟨rfl, rfl⟩

/-- A line at fault calls nothing, and its fault is displayed unless that cannot be laid out. -/
lemma outcome_faulty (env : Environment) (hc : shell.root.IsClosed)
    (h : shell.root.Judges line (.faulty fault)) :
    ∃ d, shell.Displays env fault (shell.runLine env line).2 d := by
  obtain ⟨nodes, hdisplayable, hnodes⟩ := h.exists_isDisplayable hc
  obtain ⟨d, hdisplays⟩ := displays_displayFault env hdisplayable hnodes
  obtain ⟨notes, hrun⟩ := runLine_faulty env h
  exact ⟨d, hrun ▸ hdisplays.after_noted notes⟩

/-- **A listed help that is no markup is raised.** On a terminal, a shell without a frame does not
display a fault that lists it, but ends in the error of laying it out. -/
theorem outcome_raised {width : Int} (henv : env.console = .terminal width)
    (hc : shell.root.IsClosed) (h : shell.root.Judges line (.faulty fault)) {label : String}
    {nodes : List Node} {n : Node} (hkind : fault.kind.listing? = some label)
    (hfancy : shell.isFancy = false)
    (hlisted : fault.options.get? "candidates" = some (Fault.nodes nodes)) (hn : n ∈ nodes)
    (hvisible : n.isHidden = false) (hhelp : (Markup.render n.helpText).toOption = none)
    (hwidth : width.toNat ≠ 0) :
    (shell.runLine env line).2.transcript.printed = [] ∧
      ∃ e, (shell.runLine env line).2.result = .error (.display (.layout e)) := by
  obtain ⟨d, hdisplays⟩ := outcome_faulty env hc h
  obtain ⟨others, hdisplayable, -⟩ := h.exists_isDisplayable hc
  have hothers : fault.IsDisplayable nodes := ⟨hdisplayable.code, .inl hlisted, hdisplayable.ratio⟩
  have hplain : ((fault.withOptions shell.options).option "fancy").isTruthy = false := by
    rw [option_fancy, hfancy]
    rfl
  have hne : env.console.check d ≠ .ok () := henv ▸
    (isDisplayable_withOptions shell hothers).check_ne_ok (henv ▸ hdisplays.display_eq) hkind hplain
      hn hvisible hhelp hwidth
  cases hcheck : env.console.check d with
  | ok => exact absurd hcheck hne
  | error e =>
    obtain ⟨hprinted, hresult⟩ := hdisplays.raised e hcheck
    exact ⟨hprinted, e, hresult⟩

end Fault

/-- A line that is ready prints nothing, and does what executing it does. -/
lemma outcome_ready {shell : Shell} {line : String} (env : Environment) {s : State}
    (h : shell.root.Judges line (.ready s)) :
    (shell.runLine env line).2.transcript.printed = [] ∧
      (shell.runLine env line).2.transcript.calls = (s.runExecute env.host).transcript.calls ∧
      (shell.runLine env line).2.result = (s.runExecute env.host).result.map fun _ => true := by
  have hprinted : (s.runExecute env.host).transcript.printed = [] := by
    unfold State.runExecute
    split
    · rfl
    · rfl
    · rfl
    · rfl
  obtain ⟨notes, hrun⟩ := runLine_ready env h
  rw [hrun, Run.calls_after_noted, Run.printed_after_noted]
  exact ⟨hprinted, rfl, rfl⟩

end Shell

/-- A line with words that was matched has a command, and its wrappers lead to one. -/
lemma State.exists_target {root : Root} {line : String} {s : State}
    (h : root.Judges line (.ready s)) (ht : root.IsTree) (hcheck : root.checkWrappers = .ok ()) :
    ∃ c target, s.command = some c ∧ s.root.follow c = .ok target ∧ root.LeadsTo c target ∧
      target.isWrapper = false := by
  cases h with
  | ready _ hne hp _ =>
    obtain ⟨gs, hr, rfl⟩ := parse_eq_ok_iff.1 hp
    have hroot : s.root = root := hr.root_eq
    cases hc : s.command with
    | none =>
      rw [hr.eq_nil_of_command hc] at hne
      exact absurd rfl hne
    | some c =>
      have hs := hr.isSettled (State.isSettled_start ht)
      obtain ⟨target, hfollow, hleads, -, hplain⟩ := hs.exists_follow (hroot ▸ hcheck) hc
      exact ⟨c, target, rfl, hfollow, hroot ▸ hleads, hplain⟩

namespace Shell

/-- A line that is ready is executed. -/
lemma exists_executes {shell : Shell} {line : String} {s : State} (env : Environment)
    (ht : shell.root.IsTree) (hcheck : shell.root.checkWrappers = .ok ())
    (h : shell.root.Judges line (.ready s)) :
    ∃ c target, shell.Executes env s (shell.runLine env line).2 c target := by
  obtain ⟨c, target, hcommand, hfollow, hleads, hplain⟩ := State.exists_target h ht hcheck
  obtain ⟨hcalls, hresult⟩ := State.runExecute_of_follow hcommand hfollow env.host
  obtain ⟨hprinted, hcalls', hresult'⟩ := outcome_ready env h
  refine ⟨c, target, hcommand, hleads, hplain, hprinted, hcalls'.trans hcalls, ?_⟩
  rw [hresult', hresult]
  cases target.handler with
  | none => rfl
  | some handler => rfl

/-! ### The pipeline -/

/-- What a line comes to after earlier lines: it has one verdict, and comes to what it would come to
in a fresh shell. An empty line does nothing at all, one at fault is displayed, and one that is ready
is executed. -/
structure Handles (shell : Shell) (earlier : List (Environment × String)) (env : Environment)
    (line : String) (verdict : Verdict) (last : Shell) (run : Run Bool) : Prop where
  runLine_eq : (shell.afterLines earlier).runLine env line = (last, run)
  fresh_eq : (shell.fresh.runLine env line).2 = run
  judges : shell.root.Judges line verdict
  unique : ∀ other, shell.root.Judges line other → other = verdict
  empty : verdict = .empty → run.IsIdle ∧ last = shell.afterLines earlier
  faulty : ∀ fault, verdict = .faulty fault → ∃ d, shell.Displays env fault run d
  ready : ∀ s, verdict = .ready s → ∃ c target, shell.Executes env s run c target

end Shell

/-- **The pipeline of a line.** Over a finished grammar, whatever lines came before and whatever
came of them, a line has one verdict and comes to what it would come to in a fresh shell. An empty
line does nothing at all. A line at fault calls no handler; the display of its fault, with the
options of the shell over its own, is all that is printed, and the line is not executed. Only where
the console cannot lay that display out its error is raised instead. A line that is ready prints
nothing, calls once the handler of the command that its wrappers lead to, with its own bindings, or
none if there is none, and is executed unless the handler fails, which is passed on. -/
theorem runLine_pipeline {registry : Registry} {isStrict : Bool} {next : Nat} {grammar : Grammar}
    (hf : registry.finish isStrict next = .ok grammar) (shell : Shell)
    (hroot : shell.root = grammar.root) (earlier : List (Environment × String))
    (env : Environment) (line : String) :
    ∃ verdict last run, shell.Handles earlier env line verdict last run := by
  have hc : shell.root.IsClosed := hroot ▸ Registry.isClosed_of_finish hf
  have ht : shell.root.IsTree := hroot ▸ Registry.isTree_of_finish hf
  obtain ⟨nodes, -, -, hcheck⟩ := Registry.exists_of_finish hf
  obtain ⟨verdict, hv⟩ := Root.exists_judges hc line
  have hrun : ((shell.afterLines earlier).runLine env line).2 = (shell.runLine env line).2 := by
    rw [← Shell.runLine_fresh, shell.fresh_afterLines, Shell.runLine_fresh]
  refine ⟨verdict, ((shell.afterLines earlier).runLine env line).1, (shell.runLine env line).2,
    Prod.ext rfl hrun, shell.runLine_fresh env line, hv, ?_, ?_, ?_, ?_⟩
  · intro other ho
    exact hv.unique ho
  · rintro rfl
    cases hv with
    | empty hsplit =>
      rw [Shell.runLine_empty hsplit, Shell.runLine_empty hsplit]
      exact ⟨⟨rfl, rfl, rfl⟩, rfl⟩
  · rintro fault rfl
    exact Shell.outcome_faulty env hc hv
  · rintro s rfl
    exact Shell.exists_executes env ht (hroot ▸ hcheck) hv

/-- A line is executed after lines at fault, and a word that stands for nothing is displayed. -/
theorem runLine_pipeline_show : ∃ grammar shell after s target fault d,
    Demo.registry.finish false 0 = .ok grammar ∧
    Shell.ofDraft false (Demo.draft grammar.root) = .ok shell ∧
    shell.afterLines [(Demo.env, "show 'level"), (Demo.env, "nope")] = after ∧
    grammar.root.Judges "show level" (.ready s) ∧
    (after.runLine Demo.env "show level").2.transcript.calls =
      [⟨target, Demo.showHandler, s.names⟩] ∧
    (after.runLine Demo.env "show level").2.result = .ok true ∧
    grammar.root.Judges "nope" (.faulty fault) ∧
    (after.runLine Demo.env "nope").2.transcript.printed = [.display d] ∧
    (after.runLine Demo.env "nope").2.result = .ok false := by
  obtain ⟨grammar, s, hf, hp, hall⟩ := exists_ok_of_any_any (e := Demo.registry.finish false 0)
    (f := fun grammar => parse ["show", "level"] grammar.root)
    (p := fun grammar s => decide (s.verify = .ok () ∧
      (∀ c ∈ s.command, c.isWrapper = false ∧ c.handler = some Demo.showHandler) ∧
      (Demo.host Demo.showHandler s.names.frozen).result.toOption.any (fun _ => true) = true ∧
      (parse ["nope"] grammar.root).toOption = none ∧ ∀ n ∈ grammar.root.walk, n.IsPlain))
    (by decide +kernel)
  obtain ⟨hverify, hcommand, hhost, hnope, hplain⟩ := of_decide_eq_true hall
  obtain ⟨value, hvalue, -⟩ := exists_ok_of_any hhost
  have hready : grammar.root.Judges "show level" (.ready s) :=
    .ready (by decide +kernel : Line.split "show level" = .ok ["show", "level"])
      (List.cons_ne_nil _ _) hp hverify
  obtain ⟨fault, hfaulty⟩ : ∃ fault, grammar.root.Judges "nope" (.faulty fault) := by
    cases he : parse ["nope"] grammar.root with
    | ok s =>
      rw [he] at hnope
      cases hnope
    | error e =>
      exact Root.exists_judges_faulty (Registry.isClosed_of_finish hf)
        (by decide +kernel : Line.split "nope" = .ok ["nope"]) (List.cons_ne_nil _ _) he
  obtain ⟨shell, hshell, hroot⟩ : ∃ shell,
      Shell.ofDraft false (Demo.draft grammar.root) = .ok shell ∧ shell.root = grammar.root :=
    ⟨_, rfl, rfl⟩
  have pipeline := runLine_pipeline hf shell hroot
    [(Demo.env, "show 'level"), (Demo.env, "nope")] Demo.env
  obtain ⟨verdict, _, run, hshow⟩ := pipeline "show level"
  obtain ⟨c, target, hexecutes⟩ := hshow.ready s (hshow.unique _ (hroot ▸ hready)).symm
  obtain ⟨hwrapper, hhandler⟩ := hcommand c hexecutes.command_eq
  -- the command is no wrapper, so its own handler is called
  have hself : target = c := Except.ok.inj
    ((Root.follow_eq_ok_iff.2 ⟨hexecutes.leadsTo, hexecutes.isWrapper_eq⟩).symm.trans
      (Root.follow_eq_ok_iff.2 ⟨.refl, hwrapper⟩))
  have hcalls := hexecutes.calls_eq
  have hresult := hexecutes.result_eq
  rw [hself, hhandler] at hcalls hresult
  rw [show Demo.env.host = Demo.host from rfl, Option.elim_some, hvalue] at hresult
  obtain ⟨verdict', _, other, hfault⟩ := pipeline "nope"
  obtain ⟨d, hdisplays⟩ := hfault.faulty fault (hfault.unique _ (hroot ▸ hfaulty)).symm
  obtain ⟨hprinted, hresult'⟩ := hdisplays.shown (hdisplays.laidOut _ (Console.laysOut_terminal 80)
    (Hooks.styledIn_default _) (hroot ▸ hplain))
  refine ⟨grammar, shell, _, s, c, fault, d, hf, hshell, rfl, hready, ?_, ?_, hfaulty, ?_⟩
  · rw [hshow.runLine_eq]
    exact hcalls
  · rw [hshow.runLine_eq]
    exact hresult
  · rw [hfault.runLine_eq]
    exact ⟨hprinted, hresult'⟩

namespace Demo

/-- A command whose help has a tag that closes nothing. -/
def listCommand : Command :=
  .mk {
    name := "list", help := "directory to list [/]", handler := none
    wraps := none, priority := defaultPriority, isHidden := false } [] []

end Demo

/-- A word that stands for nothing puts its line at fault, but where the fault lists that help its
error is raised, and nothing is printed. -/
theorem runLine_raised : ∃ grammar shell fault e,
    (Registry.mk [Demo.listCommand]).finish false 0 = .ok grammar ∧
    Shell.ofDraft false (Demo.draft grammar.root) = .ok shell ∧
    grammar.root.Judges "nope" (.faulty fault) ∧
    (shell.runLine Demo.env "nope").2.transcript.printed = [] ∧
    (shell.runLine Demo.env "nope").2.result = .error (.display (.layout e)) := by
  obtain ⟨grammar, hf, hall⟩ := exists_ok_of_any
    (e := (Registry.mk [Demo.listCommand]).finish false 0)
    (p := fun grammar => decide ((State.start grammar.root).choose 1 "nope" =
        .error (.noMatch "nope" 1 grammar.root.successors [] []) ∧
      ∃ n ∈ grammar.root.successors, n.isHidden = false ∧
        (Markup.render n.helpText).toOption = none))
    (by decide +kernel)
  obtain ⟨he, n, hn, hvisible, hhelp⟩ := of_decide_eq_true hall
  have hp : parse ["nope"] grammar.root =
      .error (.noMatch "nope" 1 grammar.root.successors [] []) := (State.Ends.refused he).run_eq
  have hfaulty : grammar.root.Judges "nope"
      (.faulty (.ofNoMatch "nope" 1 grammar.root.successors [] [])) :=
    .unmatched (by decide +kernel : Line.split "nope" = .ok ["nope"]) (List.cons_ne_nil _ _) hp rfl
  obtain ⟨shell, hshell, hroot, hfancy⟩ : ∃ shell,
      Shell.ofDraft false (Demo.draft grammar.root) = .ok shell ∧ shell.root = grammar.root ∧
        shell.isFancy = false := ⟨_, rfl, rfl, rfl⟩
  have hclosed : shell.root.IsClosed := hroot ▸ Registry.isClosed_of_finish hf
  have hjudges : shell.root.Judges "nope"
      (.faulty (.ofNoMatch "nope" 1 grammar.root.successors [] [])) := by
    rw [hroot]
    exact hfaulty
  obtain ⟨hprinted, e, hresult⟩ := Shell.outcome_raised
    (rfl : Demo.env.console = .terminal 80) hclosed hjudges rfl hfancy rfl hn hvisible hhelp
    (by decide)
  exact ⟨grammar, shell, _, e, hf, hshell, hfaulty, hprinted, hresult⟩

end CommandGrammar
