import CommandGrammar.Main
import CommandGrammar.Proofs.Run
import Mathlib.Data.List.Induction

/-!
Requests to a parser, one after another. Only matching changes what the parser keeps: whatever was
asked of it, in any order and with arguments of any type, it keeps the state of the last match, or
none if that failed or there was none. Verifying and executing ask for that state and leave it as it
is, so a line is executed again with the same bindings.
-/

namespace CommandGrammar

section Except

variable {ε α : Type} {e : Except ε α} {a : α}

lemma toOption_eq_some_iff : e.toOption = some a ↔ e = .ok a := by
  cases e with
  | error => simp [Except.toOption]
  | ok b => simp [Except.toOption]

lemma toOption_eq_none_iff : e.toOption = none ↔ ∃ d, e = .error d := by
  cases e with
  | error d => simp [Except.toOption]
  | ok b => simp [Except.toOption]

end Except

namespace Parser

/-! ### Requests and answers -/

/-- What may be asked of a parser. -/
inductive Request where
  | parse (tokens : Value)
  | verify
  | execute (host : Host)
  | complete (tokens : Value)

/-- The request is one for a match. -/
def Request.isMatch : Request → Bool
  | .parse _ => true
  | .verify | .execute _ | .complete _ => false

/-- What a parser answers to a request. -/
inductive Answer where
  | matched (run : Run State)
  | verified (result : Except Failure Unit)
  | executed (run : Run Value)
  | completed (run : Run (List String))

variable (parser : Parser)

/-- The parser after a request, and its answer. -/
def perform : Request → Parser × Answer
  | .parse tokens => ((parser.parseValue tokens).1, .matched (parser.parseValue tokens).2)
  | .verify => (parser, .verified parser.verify)
  | .execute host => (parser, .executed (parser.execute host))
  | .complete tokens => (parser, .completed (parser.completeValue tokens))

/-- The parser after requests. -/
def afterAll (requests : List Request) : Parser :=
  requests.foldl (fun parser request => (parser.perform request).1) parser

/-- The run is the answer to the last of the requests to match. -/
def IsLastMatch (requests : List Request) (run : Run State) : Prop :=
  ∃ earlier tokens later, requests = earlier ++ .parse tokens :: later ∧
    (∀ request ∈ later, request.isMatch = false) ∧
    ((parser.afterAll earlier).perform (.parse tokens)).2 = .matched run

/-! ### One request -/

variable {parser} {request : Request} {requests : List Request} {run : Run State}

lemma root_parseValue (tokens : Value) : (parser.parseValue tokens).1.root = parser.root := by
  unfold parseValue
  split
  · rfl
  · rfl

/-- A parser matches as any call does, and keeps the state if there is one. -/
lemma parseValue_eq (tokens : Value) :
    (parser.parseValue tokens).2 = CommandGrammar.parseValue tokens (.root parser.root) ∧
      (parser.parseValue tokens).1.state = (parser.parseValue tokens).2.result.toOption := by
  unfold parseValue CommandGrammar.parseValue
  cases tokensOf? tokens with
  | none => exact ⟨rfl, rfl⟩
  | some words => exact ⟨rfl, rfl⟩

/-- No request changes the root. -/
lemma root_perform (request : Request) : (parser.perform request).1.root = parser.root := by
  cases request with
  | parse tokens => exact root_parseValue tokens
  | verify => rfl
  | execute host => rfl
  | complete tokens => rfl

/-- **Only matching changes the parser.** -/
theorem perform_eq_self (h : request.isMatch = false) : (parser.perform request).1 = parser := by
  cases request with
  | parse tokens => cases h
  | verify => rfl
  | execute host => rfl
  | complete tokens => rfl

/-! ### Requests one after another -/

lemma afterAll_append (earlier later : List Request) :
    parser.afterAll (earlier ++ later) = (parser.afterAll earlier).afterAll later :=
  List.foldl_append ..

lemma afterAll_concat (requests : List Request) (request : Request) :
    parser.afterAll (requests ++ [request]) = ((parser.afterAll requests).perform request).1 :=
  parser.afterAll_append requests [request]

lemma root_afterAll (requests : List Request) : (parser.afterAll requests).root = parser.root := by
  induction requests using List.reverseRecOn with
  | nil => rfl
  | append_singleton requests request ih => rw [afterAll_concat, root_perform, ih]

/-- Requests other than to match leave the parser as it is. -/
lemma afterAll_eq_self (h : ∀ request ∈ requests, request.isMatch = false) :
    parser.afterAll requests = parser := by
  induction requests using List.reverseRecOn with
  | nil => rfl
  | append_singleton requests request ih =>
    rw [List.forall_mem_append, List.forall_mem_singleton] at h
    rw [afterAll_concat, ih h.1, perform_eq_self h.2]

namespace IsLastMatch

/-- What was matched last is still so after a request of another kind. -/
lemma concat (h : parser.IsLastMatch requests run) (hr : request.isMatch = false) :
    parser.IsLastMatch (requests ++ [request]) run := by
  obtain ⟨earlier, tokens, later, rfl, hlater, hrun⟩ := h
  refine ⟨earlier, tokens, later ++ [request], by simp, ?_, hrun⟩
  rw [List.forall_mem_append, List.forall_mem_singleton]
  exact ⟨hlater, hr⟩

/-- The last match is that of its tokens against the root, whatever was asked before. -/
lemma exists_tokens (h : parser.IsLastMatch requests run) :
    ∃ tokens, .parse tokens ∈ requests ∧
      run = CommandGrammar.parseValue tokens (.root parser.root) := by
  obtain ⟨earlier, tokens, later, rfl, -, hrun⟩ := h
  refine ⟨tokens, by simp, ?_⟩
  rw [← root_afterAll earlier, ← (parseValue_eq tokens).1]
  exact (Answer.matched.inj hrun).symm

/-- The parser keeps the state of the last match. -/
lemma state_eq (h : parser.IsLastMatch requests run) :
    (parser.afterAll requests).state = run.result.toOption := by
  obtain ⟨earlier, tokens, later, rfl, hlater, hrun⟩ := h
  rw [List.append_cons, afterAll_append, afterAll_eq_self hlater, afterAll_concat,
    ← Answer.matched.inj hrun]
  exact (parseValue_eq tokens).2

end IsLastMatch

/-- Requests hold a last one to match, or none. -/
lemma exists_isLastMatch (parser : Parser) (requests : List Request) :
    (∃ run, parser.IsLastMatch requests run) ∨
      ∀ request ∈ requests, request.isMatch = false := by
  induction requests using List.reverseRecOn with
  | nil => exact .inr (List.forall_mem_nil _)
  | append_singleton requests request ih =>
    cases hr : request.isMatch with
    | true =>
      cases request with
      | parse tokens => exact .inl ⟨_, requests, tokens, [], rfl, List.forall_mem_nil _, rfl⟩
      | verify | execute | complete => cases hr
    | false =>
      rcases ih with ⟨run, hrun⟩ | hnone
      · exact .inl ⟨run, hrun.concat hr⟩
      · refine .inr ?_
        rw [List.forall_mem_append, List.forall_mem_singleton]
        exact ⟨hnone, hr⟩

section New

variable {root : Root} {s : State}

/-- Requests of other kinds leave a new parser without a state. -/
lemma state_of_forall (h : ∀ request ∈ requests, request.isMatch = false) :
    ((new root).afterAll requests).state = none := by
  rw [afterAll_eq_self h]
  rfl

/-- The state that is kept is the result of the last match. -/
lemma state_eq_some_iff : ((new root).afterAll requests).state = some s ↔
    ∃ run, (new root).IsLastMatch requests run ∧ run.result = .ok s := by
  constructor
  · intro hs
    rcases exists_isLastMatch (new root) requests with ⟨run, hrun⟩ | hothers
    · rw [hrun.state_eq] at hs
      exact ⟨run, hrun, toOption_eq_some_iff.1 hs⟩
    · rw [state_of_forall hothers] at hs
      cases hs
  · rintro ⟨run, hrun, hok⟩
    rw [hrun.state_eq, hok]
    rfl

/-- No state is kept when the last match failed, or there was none. -/
lemma state_eq_none_iff : ((new root).afterAll requests).state = none ↔
    (∀ request ∈ requests, request.isMatch = false) ∨
      ∃ run failure, (new root).IsLastMatch requests run ∧ run.result = .error failure := by
  constructor
  · intro hs
    rcases exists_isLastMatch (new root) requests with ⟨run, hrun⟩ | hothers
    · rw [hrun.state_eq] at hs
      obtain ⟨failure, hfailure⟩ := toOption_eq_none_iff.1 hs
      exact .inr ⟨run, failure, hrun, hfailure⟩
    · exact .inl hothers
  · rintro (hothers | ⟨run, failure, hrun, hfailure⟩)
    · exact state_of_forall hothers
    · rw [hrun.state_eq, hfailure]
      rfl

end New

end Parser

/-! ### Verifying and executing a state -/

namespace State

variable (s : State)

/-- Verifying a state is never refused. -/
lemma runVerify_ne_misuse (m : Misuse) : s.runVerify ≠ .error (.misuse m) := by
  unfold runVerify
  cases s.verify with
  | ok => exact fun h => by cases h
  | error lack => exact fun h => by cases h

/-- What handlers are called with depends on the state alone. -/
lemma calls_runExecute (host other : Host) :
    (s.runExecute other).transcript.calls = (s.runExecute host).transcript.calls := by
  unfold runExecute
  split
  · rfl
  · rfl
  · rfl
  · rfl

/-- Executing a state that calls nothing is not refused. -/
lemma runExecute_ne_misuse {host : Host} (h : (s.runExecute host).transcript.calls = [])
    (m : Misuse) : (s.runExecute host).result ≠ .error (.misuse m) := by
  unfold runExecute at h ⊢
  split
  · exact fun hm => by cases hm
  · exact fun hm => by cases hm
  · exact fun hm => by cases hm
  · next call hcall =>
    rw [hcall] at h
    cases h

lemma names_eq_of_dispatch {call : Call} (h : s.dispatch = .ok (.call call)) :
    call.names = s.names := by
  unfold dispatch at h
  split at h
  · cases h
  · split at h
    · cases h
    · split at h
      · cases h
      · cases h
        rfl

/-- At most one handler is called, with the bindings of the state by name. -/
lemma calls_eq_of_mem {host : Host} {call : Call}
    (h : call ∈ (s.runExecute host).transcript.calls) :
    (s.runExecute host).transcript.calls = [call] ∧ call.names = s.names := by
  unfold runExecute at h ⊢
  cases hd : s.dispatch with
  | error e =>
    rw [hd] at h
    cases h
  | ok outcome =>
    rw [hd] at h
    cases outcome with
    | idle | unhandled => cases h
    | call made =>
      cases List.mem_singleton.1 h
      exact ⟨rfl, s.names_eq_of_dispatch hd⟩

end State

/-! ### What a parser keeps -/

namespace Parser

/-- The parser keeps the state: verifying and executing come to what they come to for it, and neither
they nor completing, asked for in any order, change the parser. -/
structure Keeps (parser : Parser) (s : State) : Prop where
  state_eq : parser.state = some s
  verify_eq : parser.verify = s.runVerify
  execute_eq : ∀ host, parser.execute host = s.runExecute host
  afterAll_eq : ∀ later, (∀ request ∈ later, request.isMatch = false) →
    parser.afterAll later = parser

section Kept

variable {parser : Parser} {s : State}

lemma verify_of_state (hs : parser.state = some s) : parser.verify = s.runVerify := by
  rw [verify, hs]

lemma execute_of_state (hs : parser.state = some s) (host : Host) :
    parser.execute host = s.runExecute host := by
  rw [execute, hs]

lemma keeps_of_state (hs : parser.state = some s) : parser.Keeps s :=
  ⟨hs, verify_of_state hs, execute_of_state hs, fun _ => afterAll_eq_self⟩

/-- After a match the parser keeps the state that was matched. -/
lemma keeps_parse {tokens : List String} (hp : CommandGrammar.parse tokens parser.root = .ok s) :
    (parser.parse tokens).1.Keeps s := by
  refine keeps_of_state ?_
  rw [parse, runParse, hp]
  rfl

lemma verify_of_state_eq_none (hs : parser.state = none) :
    parser.verify = .error (.misuse (.nothingMatched .verify)) := by
  rw [verify, hs]

lemma execute_of_state_eq_none (hs : parser.state = none) (host : Host) :
    parser.execute host = .refuse (.nothingMatched .execute) := by
  rw [execute, hs]

/-- Verifying is refused exactly when no state is kept. -/
lemma exists_verify_eq_misuse_iff :
    (∃ m, parser.verify = .error (.misuse m)) ↔ parser.state = none := by
  refine ⟨?_, fun hs => ⟨_, verify_of_state_eq_none hs⟩⟩
  rintro ⟨m, hm⟩
  cases hs : parser.state with
  | none => rfl
  | some s =>
    rw [verify_of_state hs] at hm
    exact absurd hm (s.runVerify_ne_misuse m)

/-- Executing is refused, without a handler being called, exactly when no state is kept. -/
lemma exists_execute_eq_misuse_iff (host : Host) : ((parser.execute host).transcript.calls = [] ∧
    ∃ m, (parser.execute host).result = .error (.misuse m)) ↔ parser.state = none := by
  constructor
  · rintro ⟨hcalls, m, hm⟩
    cases hs : parser.state with
    | none => rfl
    | some s =>
      rw [execute_of_state hs] at hcalls hm
      exact absurd hm (s.runExecute_ne_misuse hcalls m)
  · intro hs
    rw [execute_of_state_eq_none hs]
    exact ⟨rfl, _, rfl⟩

/-- A call that executing makes is made by every execution, and with the bindings of the state. -/
lemma calls_execute_of_mem {host : Host} {call : Call}
    (h : call ∈ (parser.execute host).transcript.calls) (other : Host) :
    (parser.execute other).transcript.calls = [call] ∧
      ∃ s, parser.state = some s ∧ call.names = s.names := by
  cases hs : parser.state with
  | none =>
    rw [execute_of_state_eq_none hs] at h
    cases h
  | some s =>
    rw [execute_of_state hs] at h ⊢
    rw [s.calls_runExecute host other]
    obtain ⟨hcalls, hnames⟩ := s.calls_eq_of_mem h
    exact ⟨hcalls, s, rfl, hnames⟩

end Kept

/-- What a new parser over the root is after the requests. -/
structure IsAfter (root : Root) (requests : List Request) (parser : Parser) : Prop where
  root_eq : parser.root = root
  state_eq_some_iff : ∀ s, parser.state = some s ↔
    ∃ run, (new root).IsLastMatch requests run ∧ run.result = .ok s
  state_eq_none_iff : parser.state = none ↔ (∀ request ∈ requests, request.isMatch = false) ∨
    ∃ run failure, (new root).IsLastMatch requests run ∧ run.result = .error failure
  exists_tokens : ∀ run, (new root).IsLastMatch requests run →
    ∃ tokens, .parse tokens ∈ requests ∧ run = CommandGrammar.parseValue tokens (.root root)
  verify_misuse_iff : (∃ m, parser.verify = .error (.misuse m)) ↔ parser.state = none
  execute_misuse_iff : ∀ host, ((parser.execute host).transcript.calls = [] ∧
    ∃ m, (parser.execute host).result = .error (.misuse m)) ↔ parser.state = none
  refused : parser.state = none → parser.verify = .error (.misuse (.nothingMatched .verify)) ∧
    ∀ host, parser.execute host = .refuse (.nothingMatched .execute)
  keeps : ∀ s, parser.state = some s → parser.Keeps s
  perform_eq : ∀ request, request.isMatch = false → (parser.perform request).1 = parser
  /-- A call that is made is made again, whatever else is asked for in between. -/
  again : ∀ later, (∀ request ∈ later, request.isMatch = false) → ∀ host other call,
    call ∈ (parser.execute host).transcript.calls →
      ((parser.afterAll later).execute other).transcript.calls = [call] ∧
        ∃ s, parser.state = some s ∧ call.names = s.names

/-- **What a parser keeps** after any requests is the state of the last match, if that succeeded; it
keeps none if it failed or nothing was to be matched. Verifying and executing are refused exactly
when none is kept, and come to what they come to for the state otherwise. No request but to match
changes the parser, so whatever else is asked in between, and whatever handlers do, executing calls
a handler again with the bindings of that state. -/
theorem state_afterAll {root : Root} {requests : List Request} {parser : Parser}
    (h : (new root).afterAll requests = parser) : IsAfter root requests parser := by
  subst h
  exact {
    root_eq := root_afterAll requests
    state_eq_some_iff := fun s => state_eq_some_iff
    state_eq_none_iff := state_eq_none_iff
    exists_tokens := fun run hrun => hrun.exists_tokens
    verify_misuse_iff := exists_verify_eq_misuse_iff
    execute_misuse_iff := exists_execute_eq_misuse_iff
    refused := fun hs => ⟨verify_of_state_eq_none hs, execute_of_state_eq_none hs⟩
    keeps := fun s => keeps_of_state
    perform_eq := fun request => perform_eq_self
    again := fun later hlater host other call hcall => by
      rw [afterAll_eq_self hlater]
      exact calls_execute_of_mem hcall other }

/-- A handler that fails. -/
def failing : Host := fun _ _ => ⟨"", .error (.raised ⟨"RuntimeError", "out of order", false⟩)⟩

/-- Tokens of the demo grammar, given as a value. -/
def levelTokens : Value := .list [.text "show", .text "level"]

/-- After a handler that fails, and a completion, the line is executed again with the same bindings;
a request to match a text, which is no collection of tokens, is refused, and leaves nothing to
execute. -/
theorem state_afterAll_level : ∃ grammar s call after last,
    Demo.registry.finish false 0 = .ok grammar ∧
    (new grammar.root).afterAll [.parse levelTokens, .execute failing,
      .complete (.tuple [.text "se"])] = after ∧
    after.state = some s ∧ (after.execute failing).transcript.calls = [call] ∧
    call.names = s.names ∧ call.names.get? "target" = some (.single (.word "level")) ∧
    ((after.afterAll [.verify, .execute failing]).execute Demo.host).transcript.calls = [call] ∧
    (new grammar.root).afterAll [.parse levelTokens, .parse (.text "show")] = last ∧
    last.state = none ∧ last.verify = .error (.misuse (.nothingMatched .verify)) ∧
    last.execute Demo.host = .refuse (.nothingMatched .execute) := by
  obtain ⟨grammar, s, hf, hp, hall⟩ := exists_ok_of_any_any (e := Demo.registry.finish false 0)
    (f := fun grammar => (CommandGrammar.parseValue levelTokens (.root grammar.root)).result)
    (p := fun _ s => decide (s.names.get? "target" = some (.single (.word "level")) ∧
      (s.runExecute failing).transcript.calls ≠ [])) (by decide +kernel)
  obtain ⟨hname, hcalls⟩ := of_decide_eq_true hall
  obtain ⟨call, rest, hcall⟩ := List.exists_cons_of_ne_nil hcalls
  have hafter := state_afterAll
    (rfl : (new grammar.root).afterAll [.parse levelTokens, .execute failing,
      .complete (.tuple [.text "se"])] = _)
  have hs := (hafter.state_eq_some_iff s).2
    ⟨_, ⟨[], levelTokens, _, rfl, by simp [Request.isMatch], rfl⟩, hp⟩
  have hmade : call ∈ (s.runExecute failing).transcript.calls := hcall ▸ List.mem_cons_self
  have hexecute := (hafter.keeps s hs).execute_eq failing
  obtain ⟨hcalls, t, ht, hnames⟩ := hafter.again [] (List.forall_mem_nil _) failing failing call
    (hexecute ▸ hmade)
  cases hs.symm.trans ht
  obtain ⟨hcalls', -⟩ := hafter.again [.verify, .execute failing] (by simp [Request.isMatch]) failing
    Demo.host call (hexecute ▸ hmade)
  have hlater := state_afterAll
    (rfl : (new grammar.root).afterAll [.parse levelTokens, .parse (.text "show")] = _)
  have hlast := hlater.state_eq_none_iff.2 (.inr ⟨_, _,
    ⟨[.parse levelTokens], .text "show", [], rfl, List.forall_mem_nil _, rfl⟩, rfl⟩)
  exact ⟨grammar, s, call, _, _, hf, rfl, hs, hcalls, hnames, hnames ▸ hname, hcalls', rfl, hlast,
    (hlater.refused hlast).1, (hlater.refused hlast).2 Demo.host⟩

end Parser

end CommandGrammar
