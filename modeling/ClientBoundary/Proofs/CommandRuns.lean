import ClientBoundary.Command
import ClientBoundary.Proofs.Outcome

/-!
# Runs of commands

A command can be described by the workspace that it starts in, the way it ends, the workspace that
it leaves and the texts that it adds to what has been printed. What a command prints never decides
what it does next, so a run can also be described without the two streams. One rule for each step of
a command composes such descriptions, and no proof about a command unfolds the steps again.

## Main definitions

* `Prints`: a command ends in a given way and prints given texts.
* `Runs`: a command started in one workspace ends in a given way in another.
* `errorText`, `failureStop`: what a failure is told with, and how it ends a command.
* `Stop.IsFailure`: an early end with status one.
* `Mirrors`: a command succeeds or fails as the operation behind it does.

## Main results

* `Prints.bind`, `Prints.bind_error`, `Runs.bind`, `Runs.bind_error`: one step after another.
* `prints_orFail`: the result of an operation, or the end of the command.
* `Runs.run_bind_eq`, `Runs.run_bind_eq_of_error`: what follows a step matters only if the step
  succeeds.
* `Prints.outcome`, `Runs.outcome`: what a run says about the whole command.
-/

namespace ClientBoundary

variable {α β : Type} {before between after : Workspace} {out out' err err' : String}

/-- Started in `before`, the command ends with `result` in `after` and adds `out` and `err` to what
has been printed on the two streams. -/
def Prints (command : CommandM α) (before : Workspace) (result : Except Stop α) (after : Workspace)
    (out err : String) : Prop :=
  ∀ earlier earlierErr, command.run.run ⟨before, earlier, earlierErr⟩ =
    (result, ⟨after, earlier ++ out, earlierErr ++ err⟩)

/-- Started in `before`, whatever has been printed, the command ends with `result` in `after`. -/
def Runs (command : CommandM α) (before : Workspace) (result : Except Stop α)
    (after : Workspace) : Prop :=
  ∀ out err, ∃ out' err', command.run.run ⟨before, out, err⟩ = (result, ⟨after, out', err'⟩)

/-- The early end of a command is a failure: it ends with status one or is not handled at all. -/
def Stop.IsFailure : Stop → Prop
  | .exit status => status = 1
  | .crash _ => True

/-- A command succeeds or fails as the operation behind it does. -/
inductive Mirrors : Except Failure α → Except Stop Unit → Prop
  | ok (a : α) : Mirrors (.ok a) (.ok ())
  | error (failure : Failure) {stop : Stop} (h : stop.IsFailure) :
    Mirrors (.error failure) (.error stop)

/-! ### Composing commands -/

theorem prints_pure (a : α) (workspace : Workspace) :
    Prints (pure a) workspace (.ok a) workspace "" "" := by
  intro earlier earlierErr
  rw [String.append_empty, String.append_empty]
  rfl

theorem prints_throw (stop : Stop) (workspace : Workspace) :
    Prints (throw stop : CommandM α) workspace (.error stop) workspace "" "" := by
  intro earlier earlierErr
  rw [String.append_empty, String.append_empty]
  rfl

/-- A step that succeeds is followed by the next one, and the texts follow each other. -/
theorem Prints.bind {first : CommandM α} {next : α → CommandM β} {a : α} {result : Except Stop β}
    (hfirst : Prints first before (.ok a) between out err)
    (hnext : Prints (next a) between result after out' err') :
    Prints (first >>= next) before result after (out ++ out') (err ++ err') := by
  intro earlier earlierErr
  rw [ExceptT.run_bind, StateT.run_bind, hfirst, ← String.append_assoc, ← String.append_assoc]
  exact hnext _ _

/-- A step that ends the command early is followed by nothing. -/
theorem Prints.bind_error {first : CommandM α} {next : α → CommandM β} {stop : Stop}
    (hfirst : Prints first before (.error stop) after out err) :
    Prints (first >>= next) before (.error stop) after out err := by
  intro earlier earlierErr
  rw [ExceptT.run_bind, StateT.run_bind, hfirst]
  rfl

/-- A step that prints nothing, followed by another one. -/
theorem Prints.silent_bind {first : CommandM α} {next : α → CommandM β} {a : α}
    {result : Except Stop β} (hfirst : Prints first before (.ok a) between "" "")
    (hnext : Prints (next a) between result after out err) :
    Prints (first >>= next) before result after out err := by
  simpa only [String.empty_append] using hfirst.bind hnext

/-- A step followed by another one that prints nothing. -/
theorem Prints.bind_silent {first : CommandM α} {next : α → CommandM β} {a : α}
    {result : Except Stop β} (hfirst : Prints first before (.ok a) between out err)
    (hnext : Prints (next a) between result after "" "") :
    Prints (first >>= next) before result after out err := by
  simpa only [String.append_empty] using hfirst.bind hnext

/-- One step after another, where it does not matter what the next one prints. -/
theorem Prints.exists_bind {first : CommandM α} {next : α → CommandM β} {a : α}
    (hfirst : Prints first before (.ok a) between out err)
    (hnext : ∃ result out' err', Prints (next a) between result after out' err') :
    ∃ result out' err', Prints (first >>= next) before result after (out ++ out') err' := by
  obtain ⟨result, out', err', hnext⟩ := hnext
  exact ⟨result, out', err ++ err', hfirst.bind hnext⟩

/-- A step that succeeds is followed by the next one. -/
theorem Runs.bind {first : CommandM α} {next : α → CommandM β} {a : α} {result : Except Stop β}
    (hfirst : Runs first before (.ok a) between) (hnext : Runs (next a) between result after) :
    Runs (first >>= next) before result after := by
  intro out err
  obtain ⟨out', err', hrun⟩ := hfirst out err
  obtain ⟨out'', err'', hrun'⟩ := hnext out' err'
  refine ⟨out'', err'', ?_⟩
  rw [ExceptT.run_bind, StateT.run_bind, hrun]
  exact hrun'

/-- A step that ends the command early is followed by nothing. -/
theorem Runs.bind_error {first : CommandM α} {next : α → CommandM β} {stop : Stop}
    (hfirst : Runs first before (.error stop) after) :
    Runs (first >>= next) before (.error stop) after := by
  intro out err
  obtain ⟨out', err', hrun⟩ := hfirst out err
  refine ⟨out', err', ?_⟩
  rw [ExceptT.run_bind, StateT.run_bind, hrun]
  rfl

/-- One step after another, where of the result only a property matters. -/
theorem Runs.exists_bind {first : CommandM α} {next : α → CommandM β} {a : α}
    {property : Except Stop β → Prop} (hfirst : Runs first before (.ok a) between)
    (hnext : ∃ result, property result ∧ Runs (next a) between result after) :
    ∃ result, property result ∧ Runs (first >>= next) before result after := by
  obtain ⟨result, hresult, hnext⟩ := hnext
  exact ⟨result, hresult, hfirst.bind hnext⟩

/-- Commands that go on alike after a step that succeeds print and do the same. -/
theorem Runs.run_bind_eq {first : CommandM α} {next next' : α → CommandM β} {a : α}
    (hfirst : Runs first before (.ok a) between)
    (hnext : ∀ out err,
      (next a).run.run ⟨between, out, err⟩ = (next' a).run.run ⟨between, out, err⟩)
    (out err : String) :
    (first >>= next).run.run ⟨before, out, err⟩ = (first >>= next').run.run ⟨before, out, err⟩ := by
  obtain ⟨out', err', hrun⟩ := hfirst out err
  rw [ExceptT.run_bind, ExceptT.run_bind, StateT.run_bind, StateT.run_bind, hrun]
  exact hnext out' err'

/-- After a step that ends the command early it does not matter what would follow. -/
theorem Runs.run_bind_eq_of_error {first : CommandM α} {stop : Stop}
    (hfirst : Runs first before (.error stop) after) (next next' : α → CommandM β)
    (out err : String) :
    (first >>= next).run.run ⟨before, out, err⟩ = (first >>= next').run.run ⟨before, out, err⟩ := by
  obtain ⟨out', err', hrun⟩ := hfirst out err
  rw [ExceptT.run_bind, ExceptT.run_bind, StateT.run_bind, StateT.run_bind, hrun]
  rfl

/-! ### Single steps -/

theorem prints_currentWorkspace (workspace : Workspace) :
    Prints currentWorkspace workspace (.ok workspace) workspace "" "" := by
  intro earlier earlierErr
  rw [String.append_empty, String.append_empty]
  rfl

theorem prints_setWorkspace (before after : Workspace) :
    Prints (modify fun progress ↦ { progress with workspace := after } : CommandM Unit) before
      (.ok ()) after "" "" := by
  intro earlier earlierErr
  rw [String.append_empty, String.append_empty]
  rfl

theorem prints_printOut (text : String) (workspace : Workspace) :
    Prints (printOut text) workspace (.ok ()) workspace text "" := by
  intro earlier earlierErr
  rw [String.append_empty]
  rfl

theorem prints_printErr (text : String) (workspace : Workspace) :
    Prints (printErr text) workspace (.ok ()) workspace "" text := by
  intro earlier earlierErr
  rw [String.append_empty]
  rfl

/-! ### Failures -/

/-- What a failure is told with: nothing if its wording cannot be printed. -/
def errorText (console : Console) (failure : Failure) : String :=
  (errorLine console failure.message).toOption.getD ""

/-- How a failure ends a command. -/
def failureStop (console : Console) (failure : Failure) : Stop :=
  match errorLine console failure.message with
  | .ok _ => .exit 1
  | .error fault => .crash (.markup fault)

/-- What an operation adds to the error stream: nothing unless it fails. -/
def toldText (console : Console) : Except Failure α → String
  | .ok _ => ""
  | .error failure => errorText console failure

/-- A failure is told of and ends the command. -/
theorem prints_fail (context : CommandContext) (failure : Failure) (workspace : Workspace) :
    Prints (fail context failure : CommandM α) workspace
      (.error (failureStop context.console failure)) workspace ""
      (errorText context.console failure) := by
  unfold fail failureStop errorText
  cases errorLine context.console failure.message with
  | ok text => exact (prints_printErr text workspace).bind_silent (prints_throw _ workspace)
  | error fault => exact (prints_throw _ workspace).bind_error

/-- The result of an operation is taken, or its failure is told of and ends the command. -/
theorem prints_orFail (context : CommandContext) (operation : Except Failure α)
    (workspace : Workspace) :
    Prints (orFail context operation) workspace
      (operation.mapError (failureStop context.console)) workspace ""
      (toldText context.console operation) := by
  cases operation with
  | ok a => exact prints_pure a workspace
  | error failure => exact prints_fail context failure workspace

/-- An operation that succeeds is followed by the next step. -/
theorem Prints.orFail_bind {context : CommandContext} {a : α} {next : α → CommandM β}
    {result : Except Stop β} (h : Prints (next a) before result after out err) :
    Prints (orFail context (.ok a) >>= next) before result after out err :=
  (prints_orFail context (.ok a) before).silent_bind h

/-- An operation that fails is followed by nothing. -/
theorem prints_orFail_error_bind (context : CommandContext) (failure : Failure)
    (next : α → CommandM β) (workspace : Workspace) :
    Prints (orFail context (.error failure) >>= next) workspace
      (.error (failureStop context.console failure)) workspace ""
      (errorText context.console failure) :=
  (prints_orFail context (.error failure) workspace).bind_error

theorem showLog_append (time : String) (threshold : Nat) (entries later : List LogEntry) :
    showLog time threshold (entries ++ later) =
      showLog time threshold entries ++ showLog time threshold later := by
  simp [showLog]

/-- Log entries are shown before what the next step prints. -/
theorem Prints.printLog_bind {context : CommandContext} {entries : List LogEntry}
    {next : Unit → CommandM α} {result : Except Stop α}
    (h : Prints (next ()) before result after out err) :
    Prints (printLog context entries >>= next) before result after out
      (showLog context.time context.threshold entries ++ err) := by
  have hlog : Prints (printLog context entries) before (.ok ()) before ""
      (showLog context.time context.threshold entries) := prints_printErr _ before
  simpa only [String.empty_append] using hlog.bind h

/-! ### Steps without what they print -/

theorem Prints.runs {command : CommandM α} {result : Except Stop α}
    (h : Prints command before result after out err) : Runs command before result after :=
  fun earlier earlierErr ↦ ⟨earlier ++ out, earlierErr ++ err, h earlier earlierErr⟩

theorem runs_pure (a : α) (workspace : Workspace) :
    Runs (pure a) workspace (.ok a) workspace :=
  (prints_pure a workspace).runs

theorem runs_throw (stop : Stop) (workspace : Workspace) :
    Runs (throw stop : CommandM α) workspace (.error stop) workspace :=
  (prints_throw stop workspace).runs

theorem runs_printOut (text : String) (workspace : Workspace) :
    Runs (printOut text) workspace (.ok ()) workspace :=
  (prints_printOut text workspace).runs

theorem runs_printLog (context : CommandContext) (entries : List LogEntry)
    (workspace : Workspace) : Runs (printLog context entries) workspace (.ok ()) workspace :=
  (prints_printErr _ workspace).runs

theorem runs_currentWorkspace (workspace : Workspace) :
    Runs currentWorkspace workspace (.ok workspace) workspace :=
  (prints_currentWorkspace workspace).runs

/-- A step that changes the workspace and prints nothing. -/
theorem runs_setWorkspace (before after : Workspace) :
    Runs (modify fun progress ↦ { progress with workspace := after } : CommandM Unit) before
      (.ok ()) after :=
  (prints_setWorkspace before after).runs

theorem runs_orFail_ok (context : CommandContext) (a : α) (workspace : Workspace) :
    Runs (orFail context (.ok a)) workspace (.ok a) workspace :=
  runs_pure a workspace

/-- Telling of a failure ends the command, if only because the words cannot be printed. -/
theorem isFailure_failureStop (console : Console) (failure : Failure) :
    (failureStop console failure).IsFailure := by
  unfold failureStop
  cases errorLine console failure.message with
  | ok text => rfl
  | error fault => trivial

theorem exists_runs_orFail_error (context : CommandContext) (failure : Failure)
    (workspace : Workspace) :
    ∃ stop : Stop, stop.IsFailure ∧
      Runs (orFail context (.error failure) : CommandM α) workspace (.error stop) workspace :=
  ⟨_, isFailure_failureStop _ failure, (prints_fail context failure workspace).runs⟩

/-! ### Whole commands -/

/-- How a command with this result ends. -/
def Ending.ofResult : Except Stop Unit → Ending
  | .ok () => .exit 0
  | .error (.exit status) => .exit status
  | .error (.crash reason) => .crash reason

/-- A run says where the command leaves its workspace and how it ends. -/
theorem Runs.outcome {command : CommandM Unit} {result : Except Stop Unit}
    (h : Runs command before result after) :
    (Outcome.ofCommand before command).workspace = after ∧
      (Outcome.ofCommand before command).ending = Ending.ofResult result := by
  obtain ⟨out, err, hrun⟩ := h "" ""
  unfold Outcome.ofCommand
  rw [hrun]
  refine ⟨rfl, ?_⟩
  match result with
  | .ok () => rfl
  | .error (.exit status) => rfl
  | .error (.crash reason) => rfl

/-- What a command prints is what its run leaves on the streams. -/
theorem Prints.outcome {command : CommandM Unit} {result : Except Stop Unit}
    (h : Prints command before result after out err) :
    (Outcome.ofCommand before command).out = out ∧
      (Outcome.ofCommand before command).err = err ∧
      (Outcome.ofCommand before command).ending = Ending.ofResult result := by
  have hrun := h "" ""
  rw [String.empty_append, String.empty_append] at hrun
  refine ⟨?_, ?_, h.runs.outcome.2⟩
  · rw [Outcome.ofCommand, hrun]
  · rw [Outcome.ofCommand, hrun]

/-- A command that fails does not end with status zero. -/
theorem Stop.IsFailure.ending_ne {stop : Stop} (h : stop.IsFailure) :
    Ending.ofResult (.error stop) ≠ .exit 0 := by
  cases stop with
  | exit status =>
    obtain rfl : status = 1 := h
    simp [Ending.ofResult]
  | crash reason => simp [Ending.ofResult]

end ClientBoundary
