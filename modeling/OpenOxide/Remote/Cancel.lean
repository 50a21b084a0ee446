import OpenOxide.Remote.Execute

/-!
# Cancelling a command

A command is run by the executor of the panel's own host or by that of a remote
server, and both take a cancellation token.  The local executor selects between
the end of its child and the token.  The remote one hands the token to
`execute`, where it only decides how the command is wrapped.

Time is counted from the start of the call.  When the child ends, when the token
is cancelled and when the waiting task is polled are inputs, and so is the
branch that `select!` looks at first, which is drawn at random.
-/

namespace OpenOxide.Remote

/-- What the local executor can see of the host it runs on. -/
structure LocalHost where
  isRoot : Bool
  pathExists : String → Bool
  path : List String

def isAbsolute (program : String) : Bool :=
  program.toList.head? == some '/'

/-- `Path::join` with a relative path. -/
def joinPath (dir program : String) : String :=
  if dir.isEmpty || dir.toList.getLast? == some '/' then dir ++ program
  else dir ++ "/" ++ program

def resolveBinaryPath (host : LocalHost) (program : String) : String :=
  if isAbsolute program then
    program
  else
    let candidates :=
      [program, "/usr/bin/" ++ program, "/usr/local/bin/" ++ program,
        "/sbin/" ++ program, "/usr/sbin/" ++ program] ++
        host.path.map fun dir => joinPath dir program
    (candidates.find? host.pathExists).getD program

structure LocalExecutor where
  nonInteractiveSudo : Bool := false

/-- The words of the command line that is spawned. -/
def LocalExecutor.command (executor : LocalExecutor) (host : LocalHost)
    (program : String) (args : List String) : List String :=
  let resolved := resolveBinaryPath host program
  let hasSudo := ["/usr/bin/sudo", "/bin/sudo", "/usr/sbin/sudo"].any
    host.pathExists
  let useSudo := executor.nonInteractiveSudo && !host.isRoot && hasSudo
  let sudoBin :=
    (["/usr/bin/sudo", "/bin/sudo"].find? host.pathExists).getD "sudo"
  (if useSudo then [sudoBin, "-n", "--", resolved] else [resolved]) ++ args

/-- A child process as the host lets it go: how spawning it and writing its
input end, when the write is over, when it exits and with what, what its pipes
carry, and how the waiting task is polled. -/
structure Child where
  spawned : List String → Except String Unit
  written : Except String Unit := .ok ()
  writeEnds : Nat := 0
  exits : Option Nat
  status : Except String (Option Int32)
  stdout : Except String Bytes := .ok []
  stderr : Except String Bytes := .ok []
  delay : Nat := 0
  tokenFirst : Bool := false

section

variable (fromUtf8Lossy : Bytes → String)

def checked (code : Option Int32) (stdout stderr : Bytes) :
    Except ExecError ExecOutput :=
  let result : ExecOutput :=
    { status := .local code
      stdout := fromUtf8Lossy stdout
      stderr := fromUtf8Lossy stderr }
  if !result.success then
    .error (.commandFailed result.status.code result.combinedOutput)
  else
    .ok result

/-- The branch of `select!` for the end of the child. -/
def Child.collect (child : Child) : Except ExecError ExecOutput := do
  let stdout ← child.stdout.mapError .io
  let stderr ← child.stderr.mapError .io
  let status ← child.status.mapError .io
  checked fromUtf8Lossy status stdout stderr

/-- The first moment at which a branch of `select!` is ready, if there is one. -/
def Child.ready (child : Child) (cancels : Option Nat) : Option Nat :=
  match child.exits, cancels with
  | some exit, some cancel => some (min exit cancel)
  | some exit, none => some exit
  | none, cancel => cancel

/-- The poll that ends `select!`: the first one after a branch is ready and the
task is waiting. -/
def Child.polled (child : Child) (entered : Nat) (cancels : Option Nat) :
    Option Nat :=
  (child.ready cancels).map fun ready => max entered ready + child.delay

/-- An event has happened by a moment. -/
def happened (event : Option Nat) (moment : Nat) : Bool :=
  event.any fun time => decide (time ≤ moment)

/-- `select!` over the end of the child and the token, entered at a moment.  A
child that never exits under a token that is never cancelled is waited for
without end. -/
def Child.select (child : Child) (entered : Nat) (cancels : Option Nat) :
    Option (Except ExecError ExecOutput) :=
  (child.polled entered cancels).map fun poll =>
    if happened cancels poll && (child.tokenFirst || !happened child.exits poll)
    then .error .streamCancelled
    else child.collect fromUtf8Lossy

def LocalExecutor.runCancelled (executor : LocalExecutor) (host : LocalHost)
    (child : Child) (program : String) (args : List String)
    (cancels : Option Nat) : Option (Except ExecError ExecOutput) :=
  match child.spawned (executor.command host program args) with
  | .error source => some (.error (.ioCommand program source))
  | .ok () => child.select fromUtf8Lossy 0 cancels

/-- The token is not looked at while the input is written. -/
def LocalExecutor.runWithStdinCancelled (executor : LocalExecutor)
    (host : LocalHost) (child : Child) (program : String) (args : List String)
    (cancels : Option Nat) : Option (Except ExecError ExecOutput) :=
  match child.spawned (executor.command host program args) with
  | .error source => some (.error (.ioCommand program source))
  | .ok () =>
    match child.written with
    | .error error => some (.error (.io error))
    | .ok () => child.select fromUtf8Lossy child.writeEnds cancels

/-- How connecting to a server can fail. -/
inductive ConnectError where
  | timeout (seconds : Nat)
  | ssh (message : String)

def ConnectError.execError : ConnectError → ExecError
  | .timeout seconds => .timeout seconds
  | .ssh message => .ssh message

def RemoteExecutor.runWithStdinCancelled (executor : RemoteExecutor)
    (session : Except ConnectError Channel) (uuid program : String)
    (args : List String) (stdin : Bytes) : Except ExecError ExecOutput :=
  executor.execute fromUtf8Lossy (session.mapError ConnectError.execError) uuid
    program args stdin false true

def RemoteExecutor.runCancelled (executor : RemoteExecutor)
    (session : Except ConnectError Channel) (uuid program : String)
    (args : List String) : Except ExecError ExecOutput :=
  executor.runWithStdinCancelled fromUtf8Lossy session uuid program args []

/-- An executor with what its host does during one call. -/
inductive CommandExecutor where
  | local (executor : LocalExecutor) (host : LocalHost) (child : Child)
      (cancels : Option Nat)
  | remote (executor : RemoteExecutor) (uuid : String)
      (session : Except ConnectError Channel) (cancels : Option Nat)

/-- A cancellable call: without input, or with one. -/
structure Command where
  program : String
  args : List String
  stdin : Option Bytes := none

def CommandExecutor.run (command : Command) :
    CommandExecutor → Option (Except ExecError ExecOutput)
  | .local executor host child cancels =>
    if command.stdin.isSome then
      executor.runWithStdinCancelled fromUtf8Lossy host child
        command.program command.args cancels
    else
      executor.runCancelled fromUtf8Lossy host child command.program
        command.args cancels
  | .remote executor uuid session _ =>
    some <|
      if command.stdin.isSome then
        executor.runWithStdinCancelled fromUtf8Lossy session uuid
          command.program command.args (command.stdin.getD [])
      else
        executor.runCancelled fromUtf8Lossy session uuid command.program
          command.args

end

/-- The remote command has reported its end within the first messages. -/
def ended (messages : List ChannelMsg) (count : Nat) : Bool :=
  (messages.take count).any fun message =>
    match message with
    | .exitStatus _ => true
    | _ => false

/-- When a call returns whose child does not start or does not take its
input. -/
def LocalExecutor.givesUp (executor : LocalExecutor) (host : LocalHost)
    (child : Child) (command : Command) : Option Nat :=
  match child.spawned (executor.command host command.program command.args) with
  | .error _ => some 0
  | .ok () =>
    if command.stdin.isSome then
      match child.written with
      | .error _ => some child.writeEnds
      | .ok () => none
    else
      none

/-- The token is cancelled before the command has finished and the call has
returned.  For a remote command the moment is the number of messages that have
arrived by then. -/
def CommandExecutor.CancelledEarly (command : Command) :
    CommandExecutor → Prop
  | .local executor host child cancels =>
    ∃ cancel ∈ cancels, (∀ exit ∈ child.exits, cancel < exit) ∧
      ∀ returned ∈ executor.givesUp host child command, cancel ≤ returned
  | .remote _ _ session cancels =>
    ∃ cancel ∈ cancels, ∀ channel, session = .ok channel →
      cancel ≤ channel.messages.length ∧
        ended channel.messages cancel = false

/-- The moment at which the select of a local call begins. -/
def Command.entered (command : Command) (child : Child) : Nat :=
  if command.stdin.isSome then child.writeEnds else 0

/-- The call runs on the panel's own host, its child starts and takes its
input, and at the poll after the cancellation the child is still running or the
token is looked at first. -/
def CommandExecutor.Observes (command : Command) : CommandExecutor → Prop
  | .local executor host child cancels =>
    child.spawned (executor.command host command.program command.args) =
        .ok () ∧
      (command.stdin.isSome = true → child.written = .ok ()) ∧
      (child.tokenFirst = true ∨ ∀ cancel ∈ cancels, ∀ exit ∈ child.exits,
        max (command.entered child) cancel + child.delay < exit)
  | .remote _ _ _ _ => False

variable {child : Child} {cancel : Nat}

section

variable (fromUtf8Lossy : Bytes → String)

theorem collect_not_cancelled (child : Child) :
    child.collect fromUtf8Lossy ≠ .error .streamCancelled := by
  obtain ⟨_, _, _, _, status, stdout, stderr, _, _⟩ := child
  cases stdout with
  | error e => simp [Child.collect, Except.mapError, bind, Except.bind]
  | ok stdout =>
    cases stderr with
    | error e => simp [Child.collect, Except.mapError, bind, Except.bind]
    | ok stderr =>
      cases status with
      | error e =>
        simp [Child.collect, Except.mapError, bind, Except.bind]
      | ok status =>
        simp only [Child.collect, Except.mapError, bind, Except.bind, checked]
        split <;> simp

theorem polled_of_early (early : ∀ exit ∈ child.exits, cancel < exit)
    (entered : Nat) :
    child.polled entered (some cancel) =
      some (max entered cancel + child.delay) := by
  unfold Child.polled Child.ready
  cases exits : child.exits with
  | none => rfl
  | some exit =>
    have before : cancel < exit := early exit (by simp [exits])
    simp [Nat.min_eq_right (Nat.le_of_lt before)]

/-- What `select!` returns when the token is cancelled before the child
exits. -/
theorem select_cancelled_iff (early : ∀ exit ∈ child.exits, cancel < exit)
    (entered : Nat) :
    child.select fromUtf8Lossy entered (some cancel) =
        some (.error .streamCancelled) ↔
      child.tokenFirst = true ∨ ∀ exit ∈ child.exits,
        max entered cancel + child.delay < exit := by
  have seen : happened (some cancel) (max entered cancel + child.delay) =
      true := by
    simp only [happened, Option.any_some, decide_eq_true_eq]
    omega
  have running : happened child.exits (max entered cancel + child.delay) =
        false ↔
      ∀ exit ∈ child.exits, max entered cancel + child.delay < exit := by
    cases child.exits with
    | none | some =>
      simp [happened]
  have collects := collect_not_cancelled fromUtf8Lossy child
  rw [Child.select, polled_of_early early, ← running, Option.map_some, seen]
  cases child.tokenFirst with
  | true => simp
  | false =>
    cases happened child.exits (max entered cancel + child.delay) with
    | false => simp
    | true => simpa using collects

theorem executeRusshCmdStream_not_cancelled (channel : Channel)
    (command : String) (stdin : Bytes) (stream : Bool) :
    executeRusshCmdStream channel command stdin stream ≠
      .error .streamCancelled := by
  obtain ⟨opened, started, written, messages⟩ := channel
  cases opened with
  | error e =>
    simp [executeRusshCmdStream, Except.mapError, bind, Except.bind]
  | ok _ =>
    cases started with
    | error e =>
      simp [executeRusshCmdStream, Except.mapError, bind, Except.bind]
    | ok _ =>
      cases written with
      | error | ok =>
        cases stdin <;>
          simp [executeRusshCmdStream, Except.mapError, bind,
            Except.bind, pure, Except.pure]

/-- No call of the remote executor returns the cancellation error. -/
theorem remote_not_cancelled (executor : RemoteExecutor)
    (session : Except ConnectError Channel) (uuid program : String)
    (args : List String) (stdin : Bytes) :
    executor.runWithStdinCancelled fromUtf8Lossy session uuid program args
      stdin ≠ .error .streamCancelled := by
  cases session with
  | error e =>
    cases e <;>
      simp [RemoteExecutor.runWithStdinCancelled, RemoteExecutor.execute,
        Except.mapError, ConnectError.execError, bind, Except.bind]
  | ok channel =>
    have runs := executeRusshCmdStream_not_cancelled channel
      (executor.fullCommand uuid program args stdin true) stdin false
    cases outcome : executeRusshCmdStream channel
        (executor.fullCommand uuid program args stdin true) stdin false with
    | error e =>
      simpa [RemoteExecutor.runWithStdinCancelled, RemoteExecutor.execute,
        Except.mapError, bind, Except.bind, outcome] using runs
    | ok received =>
      simp only [RemoteExecutor.runWithStdinCancelled,
        RemoteExecutor.execute, Except.mapError, bind, Except.bind,
        outcome, Received.verdict]
      split <;> simp

theorem local_run_cancelled_iff (command : Command) (executor : LocalExecutor)
    (host : LocalHost) (early : ∀ exit ∈ child.exits, cancel < exit) :
    (CommandExecutor.local executor host child (some cancel)).run
        fromUtf8Lossy command = some (.error .streamCancelled) ↔
      (CommandExecutor.local executor host child (some cancel)).Observes
        command := by
  have selects := select_cancelled_iff fromUtf8Lossy early
  obtain ⟨program, args, stdin⟩ := command
  cases starts : child.spawned (executor.command host program args) with
  | error source =>
    cases stdin <;>
      simp [CommandExecutor.run, LocalExecutor.runCancelled,
        LocalExecutor.runWithStdinCancelled, CommandExecutor.Observes,
        starts]
  | ok _ =>
    cases stdin with
    | none =>
      simpa [CommandExecutor.run, LocalExecutor.runCancelled,
        CommandExecutor.Observes, Command.entered, starts] using selects 0
    | some stdin =>
      cases writes : child.written with
      | error e =>
        simp [CommandExecutor.run, LocalExecutor.runWithStdinCancelled,
          CommandExecutor.Observes, starts, writes]
      | ok _ =>
        simpa [CommandExecutor.run, LocalExecutor.runWithStdinCancelled,
          CommandExecutor.Observes, Command.entered, starts, writes]
          using selects child.writeEnds

/-- A call whose token is cancelled before the command has finished returns the
cancellation error exactly when the local executor runs it and sees the token
before the end of the child. -/
theorem cancelled_command_iff (command : Command)
    (executor : CommandExecutor) :
    (executor.CancelledEarly command →
        executor.run fromUtf8Lossy command =
          some (.error .streamCancelled)) ↔
      (executor.CancelledEarly command → executor.Observes command) := by
  apply imp_congr_right
  intro cancelled
  cases executor with
  | «local» executor host child cancels =>
    obtain ⟨cancel, requested, early, _⟩ := cancelled
    obtain rfl : cancels = some cancel := requested
    exact local_run_cancelled_iff fromUtf8Lossy command executor host early
  | remote executor uuid session cancels =>
    have never := remote_not_cancelled fromUtf8Lossy executor session uuid
      command.program command.args
    refine iff_of_false ?_ id
    unfold CommandExecutor.run
    cases command.stdin with
    | none => simpa [RemoteExecutor.runCancelled] using never []
    | some stdin => simpa using never stdin

end

/-- A remote build whose token is cancelled before anything has arrived: the
build runs to its end and the call returns its output. -/
theorem cancelled_remote_build_succeeds :
    let messages : List ChannelMsg :=
      [.data [111, 107], .exitStatus 0, .eof, .close]
    let channel : Channel :=
      { opened := .ok (), started := .ok (), written := .ok (), messages }
    let executor := CommandExecutor.remote {} "" (.ok channel) (some 0)
    let command : Command := { program := "docker", args := ["build", "."] }
    executor.CancelledEarly command ∧
      executor.run asciiText command =
        some (.ok { status := .remote 0, stdout := "ok", stderr := "" }) := by
  refine ⟨⟨0, rfl, ?_⟩, by decide +kernel⟩
  intro channel connected
  exact ⟨Nat.zero_le _, rfl⟩

end OpenOxide.Remote
