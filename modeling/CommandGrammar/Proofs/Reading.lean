import CommandGrammar.Proofs.Lines
import Mathlib.Data.List.Forall2

/-!
Reading lines. A shell may read again and again, each time to the first end of its input. Whatever
is entered is answered on its own: a line comes to what the untouched shell makes of it, and what
fails is noted and left behind. Only an interruption that a handler raises stops a reading early.
The history is asked for once, whether or not there is one to read.
-/

namespace CommandGrammar

/-! ### Requests -/

namespace Transcript

lemma requests_append (xs ys : Transcript) : requests (xs ++ ys) = requests xs ++ requests ys :=
  List.filterMap_append

lemma requests_noted (notes : List Note) : requests (notes.map Event.noted) = [] := by
  simp [requests]

lemma requests_requested (rs : List EditorRequest) : requests (rs.map Event.requested) = rs := by
  simp [requests]

end Transcript

/-- The call asks nothing of the line editor, and an interruption of it is one that a handler
raises. -/
structure Run.IsOrdinary {α : Type} (host : Host) (run : Run α) : Prop where
  requests_eq : run.transcript.requests = []
  interrupted : ∀ failure, run.result = .error failure → failure.isInterruption = true →
    ∃ handler names, (host handler names).result = .error failure

/-- The reply of no handler is an interruption. -/
def Host.IsUninterrupted (host : Host) : Prop :=
  ∀ handler names failure, (host handler names).result = .error failure →
    failure.isInterruption = false

namespace Run.IsOrdinary

variable {α : Type} {host : Host} {run : Run α} {events : Transcript}

lemma of_ok (a : α) : Run.IsOrdinary host ⟨[], .ok a⟩ := ⟨rfl, fun _ h => by cases h⟩

lemma of_error {failure : Failure} (h : failure.isInterruption = false) :
    Run.IsOrdinary host (.of (.error failure) : Run α) := by
  refine ⟨rfl, fun other he hi => ?_⟩
  obtain rfl := Except.error.inj he
  cases h.symm.trans hi

lemma after (h : run.IsOrdinary host) (he : events.requests = []) :
    (run.after events).IsOrdinary host := by
  refine ⟨?_, h.interrupted⟩
  rw [Run.after, Transcript.requests_append, he, h.requests_eq, List.append_nil]

end Run.IsOrdinary

lemma MatchError.isInterruption_failure (e : MatchError) : e.failure.isInterruption = false := by
  cases e <;> rfl

lemma State.isInterruption_of_runVerify {s : State} {failure : Failure}
    (h : s.runVerify = .error failure) : failure.isInterruption = false := by
  unfold runVerify at h
  cases hv : s.verify with
  | error lack =>
    rw [hv] at h
    cases h
    rfl
  | ok =>
    rw [hv] at h
    cases h

lemma State.isOrdinary_runExecute (host : Host) (s : State) :
    (s.runExecute host).IsOrdinary host := by
  unfold runExecute
  split
  · exact .of_error rfl
  · exact .of_ok _
  · exact ⟨rfl, fun _ h => by cases h⟩
  · exact ⟨rfl, fun failure h _ => ⟨_, _, h⟩⟩

namespace Shell

section Ordinary

variable (shell : Shell) (env : Environment)

lemma isOrdinary_displayFault (fault : Fault) :
    (shell.displayFault env fault).IsOrdinary env.host := by
  unfold displayFault
  split
  · exact .of_error rfl
  · exact ⟨rfl, fun _ h => by cases h⟩
  · exact .of_error rfl
  · exact .of_ok _

lemma isOrdinary_giveUp (line : String) {failure : Failure} (h : failure.isInterruption = false) :
    (shell.giveUp env line failure).IsOrdinary env.host := by
  unfold giveUp
  split
  · exact (shell.isOrdinary_displayFault env _).after rfl
  · exact .of_error h

lemma isOrdinary_finish (s : State) : (finish env s).IsOrdinary env.host := by
  have hrun := s.isOrdinary_runExecute env.host
  refine ⟨hrun.requests_eq, fun failure h => hrun.interrupted failure ?_⟩
  simp only [finish] at h
  cases he : (s.runExecute env.host).result with
  | error =>
    rw [he] at h
    cases h
    rfl
  | ok =>
    rw [he] at h
    cases h

lemma isOrdinary_runWords (line : String) (words : List String) :
    (shell.runWords env line words).2.IsOrdinary env.host := by
  cases hp : CommandGrammar.parse words shell.root with
  | error e =>
    rw [runWords_unmatched hp]
    exact (shell.isOrdinary_giveUp env line e.isInterruption_failure).after
      (Transcript.requests_noted _)
  | ok s =>
    cases hv : s.runVerify with
    | error failure =>
      rw [runWords_lacking hp hv]
      exact (shell.isOrdinary_giveUp env line (State.isInterruption_of_runVerify hv)).after
        (Transcript.requests_noted _)
    | ok =>
      rw [runWords_ready hp hv]
      exact (isOrdinary_finish env s).after (Transcript.requests_noted _)

/-- A line asks nothing of the line editor, and is interrupted only where a handler is. -/
lemma isOrdinary_runValue (line : Value) : (shell.runValue env line).2.IsOrdinary env.host := by
  unfold runValue
  split
  · unfold runLine
    split
    · exact shell.isOrdinary_giveUp env _
        (show (Failure.fault (.ofUnfinished _ _)).isInterruption = false from rfl)
    · exact .of_ok _
    · exact shell.isOrdinary_runWords env _ _
  · exact .of_error rfl

end Ordinary

/-! ### Handling lines -/

section Handling

variable {shell other : Shell}

/-- What the shell makes of lines. -/
def handling (shell : Shell) (env : Environment) (line : Value) : Run Bool :=
  (shell.runValue env line).2

/-- The shell with a parser that no line was matched with, and a history that was not asked for. -/
def untouched (shell : Shell) : Shell := { shell.fresh with isRestored := false }

/-- What a shell makes of lines depends neither on what it was used for nor on the history. -/
lemma handling_untouched (shell : Shell) (env : Environment) :
    shell.untouched.handling env = shell.handling env := by
  funext line
  unfold handling runValue
  split
  · unfold runLine
    split
    · rfl
    · rfl
    · rfl
  · rfl

lemma handling_eq (h : shell.untouched = other.untouched) (env : Environment) :
    shell.handling env = other.handling env := by
  rw [← handling_untouched shell, h, handling_untouched]

lemma prompt_eq (h : shell.untouched = other.untouched) : shell.prompt = other.prompt := by
  have hprompt := congrArg Shell.prompt h
  exact hprompt

lemma untouched_eq (h : shell.fresh = other.fresh) : shell.untouched = other.untouched :=
  congrArg (fun shell : Shell => { shell with isRestored := false }) h

lemma fresh_respond (shell : Shell) (env : Environment) (entered : Entered) :
    (shell.respond env entered).1.fresh = shell.fresh := by
  cases entered with
  | interruption => rfl
  | line line =>
    have hline : (shell.runValue env line).1.fresh = shell.fresh := by
      unfold runValue
      split
      · exact shell.fresh_runLine env _
      · rfl
    unfold respond
    dsimp only
    split
    · exact hline
    · split
      · exact hline
      · exact hline

end Handling

/-! ### One reading -/

section Responds

variable (prompt : String) (handle : Value → Run Bool)

/-- What is entered before the input first ends. -/
def entriesOf : List Input → List Entered
  | [] => []
  | .ending :: _ => []
  | .entered entered :: rest => entered :: entriesOf rest

/-- What comes after the input first ends. -/
def leftOver : List Input → List Input
  | [] => []
  | .ending :: rest => rest
  | .entered _ :: rest => leftOver rest

/-- What an entry comes to: the prompt, and then a blank line for an interruption, or all that the
line does, with a note if it fails. -/
def exchange (entered : Entered) : Transcript :=
  .prompted prompt :: match entered with
    | .interruption => [.printed (.line "")]
    | .line line =>
      match (handle line).result with
      | .ok _ => (handle line).transcript
      | .error _ => (handle line).transcript ++ [.noted (.lineCrashed line)]

/-- The entry is a line that is interrupted while it is run. -/
def Entered.IsCutShort (handle : Value → Run Bool) : Entered → Prop
  | .interruption => False
  | .line value => ∃ failure, (handle value).result = .error failure ∧ failure.isInterruption = true

/-- What reading to the first end of the input comes to: each entry in order, and the farewell. -/
def toEnd (input : List Input) : Reading :=
  ⟨⟨(entriesOf input).flatMap (exchange prompt handle) ++ .prompted prompt :: farewell, .ok ()⟩,
    leftOver input⟩

/-- How a reading ends. -/
inductive Responds (input : List Input) : Reading → Prop
  /-- The input ends, and nothing is read after that. -/
  | ended : (∀ entered ∈ entriesOf input, ¬ entered.IsCutShort handle) →
    Responds input (toEnd prompt handle input)
  /-- A line is interrupted, and nothing is read after it. -/
  | cutShort {before : List Entered} {line : Value} {unread : List Input} {failure : Failure} :
    input = before.map .entered ++ .entered (.line line) :: unread →
    (∀ entered ∈ before, ¬ entered.IsCutShort handle) →
    (handle line).result = .error failure → failure.isInterruption = true →
    Responds input ⟨⟨before.flatMap (exchange prompt handle) ++
      .prompted prompt :: (handle line).transcript, .error failure⟩, unread⟩

variable {prompt handle}

/-- One step: an entry that is not cut short comes before what the rest comes to. -/
lemma Responds.cons {entered : Entered} {rest : List Input} {reading : Reading}
    (he : ¬ entered.IsCutShort handle) (h : Responds prompt handle rest reading) :
    Responds prompt handle (.entered entered :: rest)
      (reading.after (exchange prompt handle entered)) := by
  cases h with
  | ended hrest =>
    have hended : Responds prompt handle (.entered entered :: rest)
        (toEnd prompt handle (.entered entered :: rest)) :=
      .ended (List.forall_mem_cons.2 ⟨he, hrest⟩)
    simpa only [toEnd, entriesOf, leftOver, List.flatMap_cons, List.append_assoc, Reading.after,
      Run.after] using hended
  | @cutShort before line unread failure hinput hbefore hfailure hinterruption =>
    have hcut : Responds prompt handle (.entered entered :: rest)
        ⟨⟨(entered :: before).flatMap (exchange prompt handle) ++
          .prompted prompt :: (handle line).transcript, .error failure⟩, unread⟩ :=
      .cutShort (by rw [hinput]; rfl) (List.forall_mem_cons.2 ⟨he, hbefore⟩) hfailure hinterruption
    simpa only [List.flatMap_cons, List.append_assoc, Reading.after, Run.after] using hcut

end Responds

section Loop

variable {shell : Shell} {env : Environment}

/-- What is entered and not cut short is answered. -/
lemma respond_of_not_isCutShort {entered : Entered}
    (h : ¬ entered.IsCutShort (shell.handling env)) :
    (shell.respond env entered).2.after [.prompted shell.prompt] =
      ⟨exchange shell.prompt (shell.handling env) entered, .ok ()⟩ := by
  cases entered with
  | interruption => rfl
  | line line =>
    unfold respond exchange
    cases hr : (shell.runValue env line).2.result with
    | ok => simp [handling, hr, Run.after]
    | error failure =>
      have hi : failure.isInterruption = false := by
        rw [← Bool.not_eq_true]
        exact fun hi => h ⟨failure, hr, hi⟩
      simp [handling, hr, hi, Run.after]

/-- A line that is cut short passes the interruption on. -/
lemma respond_of_interrupted {line : Value} {failure : Failure}
    (hr : (shell.handling env line).result = .error failure) (hi : failure.isInterruption = true) :
    (shell.respond env (.line line)).2 =
      ⟨(shell.handling env line).transcript, .error failure⟩ := by
  unfold handling at hr ⊢
  simp [respond, hr, hi]

/-- The loop goes on after an entry that was answered. -/
lemma loop_of_ok {entered : Entered} {rest : List Input}
    (h : (shell.respond env entered).2.result = .ok ()) :
    shell.loop env (.entered entered :: rest) =
      (((shell.respond env entered).1.loop env rest).1,
        ((shell.respond env entered).1.loop env rest).2.after
          ((shell.respond env entered).2.after [.prompted shell.prompt]).transcript) := by
  simp only [loop, h]

/-- The loop stops at an entry that was cut short. -/
lemma loop_of_error {entered : Entered} {rest : List Input} {failure : Failure}
    (h : (shell.respond env entered).2.result = .error failure) :
    shell.loop env (.entered entered :: rest) =
      ((shell.respond env entered).1,
        ⟨(shell.respond env entered).2.after [.prompted shell.prompt], rest⟩) := by
  simp only [loop, h]

/-- A loop leaves of the shell what its lines leave of it. -/
lemma fresh_loop (shell : Shell) (env : Environment) (input : List Input) :
    (shell.loop env input).1.fresh = shell.fresh := by
  induction input generalizing shell with
  | nil => rfl
  | cons first rest ih =>
    cases first with
    | ending => rfl
    | entered entered =>
      have hstep := shell.fresh_respond env entered
      cases hr : (shell.respond env entered).2.result with
      | error failure =>
        rw [loop_of_error hr]
        exact hstep
      | ok =>
        rw [loop_of_ok hr]
        exact (ih _).trans hstep

/-- **A loop responds** to what is entered as the shell would that it starts with. -/
lemma responds_loop (shell : Shell) (env : Environment) (input : List Input) :
    Responds shell.prompt (shell.handling env) input (shell.loop env input).2 := by
  induction input generalizing shell with
  | nil => exact .ended fun _ h => by cases h
  | cons first rest ih =>
    cases first with
    | ending => exact .ended fun _ h => by cases h
    | entered entered =>
      by_cases hcut : entered.IsCutShort (shell.handling env)
      · cases entered with
        | interruption => exact hcut.elim
        | line line =>
          obtain ⟨failure, hr, hi⟩ := hcut
          have hrespond := respond_of_interrupted hr hi
          rw [loop_of_error (congrArg Run.result hrespond), hrespond]
          exact @Responds.cutShort _ _ _ [] line rest failure rfl (fun _ h => by cases h) hr hi
      · have hrespond := respond_of_not_isCutShort hcut
        have hresult : (shell.respond env entered).2.result = .ok () :=
          congrArg Run.result hrespond
        rw [loop_of_ok hresult, hrespond]
        -- the shell that goes on makes of lines what this one makes of them
        have halike := untouched_eq (shell.fresh_respond env entered)
        have hrest := ih (shell.respond env entered).1
        rw [handling_eq halike, prompt_eq halike] at hrest
        exact hrest.cons hcut

end Loop

/-! ### Several readings -/

/-- What one call to read works on: where lines are run, whether there is a history to read, and
what comes at the prompts. -/
structure Session where
  env : Environment
  hasHistory : Bool
  input : List Input

/-- Reads in one call. -/
def readSession (shell : Shell) (session : Session) : Shell × Reading :=
  shell.read session.env session.hasHistory session.input

/-- The shell after it has read session after session, and what each reading came to. -/
def readAll (shell : Shell) : List Session → Shell × List Reading
  | [] => (shell, [])
  | session :: rest =>
    let (next, reading) := shell.readSession session
    let (last, readings) := readAll next rest
    (last, reading :: readings)

end Shell

/-- Asking something of the line editor, or noting that there is no history. -/
def Event.IsPreparation : Event → Prop
  | .requested _ => True
  | .noted (.noHistory _) => True
  | _ => False

/-- The request is one about the history. -/
def EditorRequest.isOfHistory : EditorRequest → Bool
  | readHistory _ | writeHistoryAtExit _ => true
  | _ => false

/-- What a reading asks of the line editor about the history. -/
def Shell.Reading.historyRequests (reading : Shell.Reading) : List EditorRequest :=
  reading.run.transcript.requests.filter EditorRequest.isOfHistory

namespace Shell

/-- A reading of the session prepares, and then responds to what is entered as the shell does. If no
handler is interrupted, it goes on to the end of the input. -/
def Reads (shell : Shell) (session : Session) (reading : Reading) : Prop :=
  ∃ setup said, reading = Reading.after setup said ∧ (∀ event ∈ setup, event.IsPreparation) ∧
    Responds shell.prompt (shell.handling session.env) session.input said ∧
    (session.env.host.IsUninterrupted →
      said = toEnd shell.prompt (shell.handling session.env) session.input)

section Readings

variable {shell other : Shell} {session : Session}

/-- Without interruptions of handlers no line is cut short. -/
lemma not_isCutShort (shell : Shell) {env : Environment} (h : env.host.IsUninterrupted)
    (entered : Entered) : ¬ entered.IsCutShort (shell.handling env) := by
  cases entered with
  | interruption => exact id
  | line line =>
    rintro ⟨failure, hr, hi⟩
    obtain ⟨handler, names, hreply⟩ :=
      (shell.isOrdinary_runValue env line).interrupted failure hr hi
    cases (h handler names failure hreply).symm.trans hi

lemma Responds.eq_toEnd {env : Environment} {input : List Input} {said : Reading}
    (h : Responds shell.prompt (shell.handling env) input said) (hu : env.host.IsUninterrupted) :
    said = toEnd shell.prompt (shell.handling env) input := by
  cases h with
  | ended => rfl
  | @cutShort before line unread failure _ _ hr hi =>
    exact absurd ⟨failure, hr, hi⟩ (shell.not_isCutShort hu (.line line))

/-- A reading starts with what is asked of the line editor, and perhaps a note on the history. -/
lemma exists_start (shell : Shell) (hasHistory : Bool) : ∃ notes : List Note,
    (shell.start hasHistory).2 = shell.requests.map .requested ++ notes.map .noted ∧
      ∀ note ∈ notes, ∃ path, note = .noHistory path := by
  unfold start
  cases shell.history with
  | none => exact ⟨[], rfl, fun _ h => by cases h⟩
  | some path =>
    cases shell.isRestored || hasHistory with
    | true => exact ⟨[], rfl, fun _ h => by cases h⟩
    | false => exact ⟨[.noHistory path], rfl, fun note h => ⟨path, List.mem_singleton.1 h⟩⟩

lemma isPreparation_start (shell : Shell) (hasHistory : Bool) :
    ∀ event ∈ (shell.start hasHistory).2, event.IsPreparation := by
  obtain ⟨notes, hstart, hnotes⟩ := shell.exists_start hasHistory
  intro event hevent
  rw [hstart] at hevent
  rcases List.mem_append.1 hevent with hrequest | hnote
  · obtain ⟨request, -, rfl⟩ := List.mem_map.1 hrequest
    trivial
  · obtain ⟨note, hmem, rfl⟩ := List.mem_map.1 hnote
    obtain ⟨path, rfl⟩ := hnotes note hmem
    trivial

lemma requests_start (shell : Shell) (hasHistory : Bool) :
    (shell.start hasHistory).2.requests = shell.requests := by
  obtain ⟨notes, hstart, -⟩ := shell.exists_start hasHistory
  rw [hstart, Transcript.requests_append, Transcript.requests_requested,
    Transcript.requests_noted, List.append_nil]

/-- What a reading is to come to is the same for shells that differ only in their use. -/
lemma reads_iff (h : shell.untouched = other.untouched) {reading : Reading} :
    shell.Reads session reading ↔ other.Reads session reading := by
  simp only [Reads, handling_eq h, prompt_eq h]

lemma reads_readSession (shell : Shell) (session : Session) :
    shell.Reads session (shell.readSession session).2 := by
  have hloop := (shell.start session.hasHistory).1.responds_loop session.env session.input
  have halike : (shell.start session.hasHistory).1.untouched = shell.untouched := rfl
  rw [handling_eq halike, prompt_eq halike] at hloop
  exact ⟨_, _, rfl, shell.isPreparation_start session.hasHistory, hloop, hloop.eq_toEnd⟩

/-- A reading leaves of the shell what its lines leave of it, and the history is asked for. -/
lemma fresh_readSession (shell : Shell) (session : Session) : (shell.readSession session).1.fresh =
    { shell.fresh with isRestored := shell.isRestored || shell.history.isSome } :=
  (shell.start session.hasHistory).1.fresh_loop session.env session.input

lemma untouched_readSession (shell : Shell) (session : Session) :
    (shell.readSession session).1.untouched = shell.untouched := by
  have hfresh := shell.fresh_readSession session
  exact congrArg (fun shell : Shell => { shell with isRestored := false }) hfresh

lemma isRestored_readSession (shell : Shell) (session : Session) :
    (shell.readSession session).1.isRestored =
      (shell.isRestored || shell.history.isSome) :=
  congrArg Shell.isRestored (shell.fresh_readSession session)

lemma history_readSession (shell : Shell) (session : Session) :
    (shell.readSession session).1.history = shell.history := by
  have hfresh := shell.fresh_readSession session
  have hhistory := congrArg Shell.history hfresh
  exact hhistory

lemma requests_exchange {prompt : String} {handle : Value → Run Bool}
    (h : ∀ line, (handle line).transcript.requests = []) (entered : Entered) :
    (exchange prompt handle entered).requests = [] := by
  cases entered with
  | interruption => rfl
  | line line =>
    cases hr : (handle line).result with
    | ok =>
      simp only [exchange, hr]
      exact h line
    | error =>
      simp only [exchange, hr]
      rw [← List.singleton_append, Transcript.requests_append, Transcript.requests_append, h line]
      rfl

/-- What is said while lines are read asks nothing of the line editor. -/
lemma Responds.requests_eq {prompt : String} {handle : Value → Run Bool} {input : List Input}
    {said : Reading} (h : Responds prompt handle input said)
    (hquiet : ∀ line, (handle line).transcript.requests = []) :
    said.run.transcript.requests = [] := by
  have hexchanges : ∀ entries : List Entered,
      Transcript.requests (entries.flatMap (exchange prompt handle)) = [] := by
    intro entries
    induction entries with
    | nil => rfl
    | cons entered rest ih =>
      rw [List.flatMap_cons, Transcript.requests_append, requests_exchange hquiet, ih]
      rfl
  cases h with
  | ended =>
    rw [toEnd, Transcript.requests_append, hexchanges]
    rfl
  | @cutShort before line =>
    rw [Transcript.requests_append, hexchanges]
    exact hquiet line

/-- A reading asks about the history if there is one to keep and it was not asked for before. -/
lemma historyRequests_readSession (shell : Shell) (session : Session) :
    (shell.readSession session).2.historyRequests =
      if shell.isRestored = true then []
      else shell.history.elim [] fun path => [.writeHistoryAtExit path, .readHistory path] := by
  have hsaid := ((shell.start session.hasHistory).1.responds_loop session.env
    session.input).requests_eq fun line =>
      ((shell.start session.hasHistory).1.isOrdinary_runValue session.env line).requests_eq
  have hread := Transcript.requests_append (shell.start session.hasHistory).2
    ((shell.start session.hasHistory).1.loop session.env session.input).2.run.transcript
  rw [hsaid, requests_start, List.append_nil] at hread
  have hrequests : (shell.readSession session).2.run.transcript.requests = shell.requests := hread
  rw [Reading.historyRequests, hrequests, requests]
  cases shell.history with
  | none => cases shell.isRestored <;> rfl
  | some path => cases shell.isRestored <;> rfl

/-- Once the history was asked for, or if none is kept, it is not asked for. -/
lemma historyRequests_readAll_eq_nil (shell : Shell) (sessions : List Session)
    (h : shell.isRestored = true ∨ shell.history = none) :
    (shell.readAll sessions).2.flatMap Reading.historyRequests = [] := by
  induction sessions generalizing shell with
  | nil => rfl
  | cons session rest ih =>
    have hnext := ih (shell.readSession session).1 (by
      rw [isRestored_readSession, history_readSession]
      exact h.imp_left fun hr => by rw [hr, Bool.true_or])
    have hfirst := shell.historyRequests_readSession session
    simp only [readAll, List.flatMap_cons]
    rw [hnext, hfirst, List.append_nil]
    rcases h with h | h <;> simp [h]

end Readings

/-- **Reading lines, again and again.** Each reading of a shell asks the line editor for what it
needs and then responds to what is entered before its input first ends, each entry once and in
order: an interruption with a blank line, a line with what the shell makes of it before it has read
anything, and the end with a blank line and a farewell. Nothing is read after that. A line that
fails is noted and changes nothing; only an interruption that a handler raises ends a reading before
its input does. The history is read, and its writing arranged, in the first reading only, and only
if a history is kept. -/
theorem readAll_reads (shell : Shell) (sessions : List Session) :
    List.Forall₂ shell.Reads sessions (shell.readAll sessions).2 ∧
    (shell.readAll sessions).2.flatMap Reading.historyRequests =
      if sessions = [] ∨ shell.isRestored = true then []
      else shell.history.elim [] fun path => [.writeHistoryAtExit path, .readHistory path] := by
  constructor
  · induction sessions generalizing shell with
    | nil => exact .nil
    | cons session rest ih =>
      refine .cons (shell.reads_readSession session) ?_
      have hnext := ih (shell.readSession session).1
      exact hnext.imp fun _ _ => (reads_iff (shell.untouched_readSession session)).1
  · cases sessions with
    | nil => rfl
    | cons session rest =>
      simp only [readAll, List.flatMap_cons]
      rw [historyRequests_readSession, historyRequests_readAll_eq_nil, List.append_nil]
      · simp
      · rw [isRestored_readSession, history_readSession]
        cases shell.history with
        | none => exact .inr rfl
        | some path => exact .inl (by simp)

end Shell

namespace Demo

/-- A host whose handlers all fail. -/
def failingHost : Host := fun _ _ => ⟨"", .error (.raised ⟨"RuntimeError", "boom", false⟩)⟩

lemma isUninterrupted_failingHost : failingHost.IsUninterrupted := by
  intro handler names failure h
  cases h
  rfl

lemma isUninterrupted_host : host.IsUninterrupted := by
  intro handler names failure h
  unfold host at h
  split at h
  · unfold showPart at h
    split at h
    · cases h
      rfl
    · split at h <;> cases h
    · cases h
    · cases h
  · unfold setLevel at h
    split at h
    · cases h
      rfl
    · cases h

/-- The shell over the root that keeps a history. -/
def draftWithHistory (root : Root) : Shell.Draft := { draft root with history := .text "lines" }

/-- An interruption, a line, the end of the input and another line, where all handlers fail and
there is no history to read. -/
def failingSession : Shell.Session :=
  ⟨{ env with host := failingHost }, false, [.entered .interruption,
    .entered (.line (.text "show x")), .ending, .entered (.line (.text "show y"))]⟩

/-- A line and the end of the input, where handlers work and there is a history to read. -/
def workingSession : Shell.Session := ⟨env, true, [.entered (.line (.text "show x")), .ending]⟩

end Demo

open Demo in
/-- A line whose handler fails is noted, and what follows the end of the input is not read. The next
reading makes of the same line what a shell makes of it that has read nothing, and the history is
asked for once, though there was none at first. -/
theorem Shell.readAll_reads_failing : ∃ root shell first second, Demo.root = .ok root ∧
    Shell.ofDraft false (draftWithHistory root) = .ok shell ∧
    (shell.readAll [failingSession, workingSession]).2 = [first, second] ∧
    .noted (.lineCrashed (.text "show x")) ∈ first.run.transcript ∧
    first.run.result = .ok () ∧ first.unread = [.entered (.line (.text "show y"))] ∧
    second.run.result = .ok () ∧ second.unread = [] ∧
    first.historyRequests ++ second.historyRequests =
      [.writeHistoryAtExit "lines", .readHistory "lines"] := by
  obtain ⟨root, hroot, hfails⟩ := exists_ok_of_any (e := Demo.root) (p := fun root =>
    (Shell.ofDraft false (draftWithHistory root)).toOption.any fun shell =>
      (shell.handling failingSession.env (.text "show x")).result.toOption.isNone)
    (by decide +kernel)
  obtain ⟨shell, hshell, hcrash⟩ := exists_ok_of_any hfails
  obtain ⟨hreads, hhistory⟩ := shell.readAll_reads [failingSession, workingSession]
  generalize hall : (shell.readAll [failingSession, workingSession]).2 = readings at hreads hhistory
  obtain _ | ⟨⟨setup, said, rfl, -, -, hsaid⟩, _ | ⟨⟨setup', said', rfl, -, -, hsaid'⟩, _ | _⟩⟩ :=
    hreads
  obtain rfl := hsaid isUninterrupted_failingHost
  obtain rfl := hsaid' isUninterrupted_host
  have hnoted : .noted (.lineCrashed (.text "show x")) ∈
      exchange shell.prompt (shell.handling failingSession.env) (.line (.text "show x")) := by
    cases hr : (shell.handling failingSession.env (.text "show x")).result with
    | ok =>
      rw [hr] at hcrash
      cases hcrash
    | error => simp [exchange, hr]
  refine ⟨root, shell, _, _, hroot, hshell, hall, ?_, rfl, rfl, rfl, rfl, ?_⟩
  · refine List.mem_append_right _ (List.mem_append_left _ (List.mem_flatMap.2 ⟨_, ?_, hnoted⟩))
    exact List.mem_cons_of_mem _ List.mem_cons_self
  · have hrestored : shell.isRestored = false ∧ shell.history = some "lines" := by
      cases hshell
      exact ⟨rfl, rfl⟩
    simpa [hrestored.1, hrestored.2] using hhistory

end CommandGrammar
