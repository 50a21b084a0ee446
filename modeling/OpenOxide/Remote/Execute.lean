import Mathlib.Tactic.MkIffOfInductiveProp
import OpenOxide.Text.Strings

/-!
# Commands on a remote server

A command for a remote server is quoted, handed to a fresh SSH session and
answered by a sequence of channel messages, which `receive` folds into an exit
code and the two outputs.  What the network and the server do is an input: how
connecting, opening, starting and writing end, and which messages arrive before
the channel is closed.

The decoding of the outputs, `String::from_utf8_lossy`, is a parameter: it
reaches the texts of a result and never its verdict.
-/

namespace OpenOxide.Remote

abbrev Bytes := List UInt8

/-- How an execution fails. -/
inductive ExecError where
  | io (error : String)
  | ioCommand (program source : String)
  | commandFailed (code : Option Int32) (stderr : String)
  | ssh (message : String)
  | streamCancelled
  | timeout (seconds : Nat)
  | json (error : String)
  | invalidData (message : String)
deriving DecidableEq

/-- How a command ended. -/
inductive ExecExitStatus where
  | local (code : Option Int32)
  | remote (code : UInt32)
deriving DecidableEq

def ExecExitStatus.success : ExecExitStatus → Bool
  | .local code => code == some 0
  | .remote code => code == 0

def ExecExitStatus.code : ExecExitStatus → Option Int32
  | .local code => code
  | .remote code => some code.toInt32

structure ExecOutput where
  status : ExecExitStatus
  stdout : String
  stderr : String
deriving DecidableEq

/-- A piece of a command's output. -/
inductive ExecStreamEvent where
  | stdout (data : Bytes)
  | stderr (data : Bytes)

def ExecOutput.success (output : ExecOutput) : Bool :=
  output.status.success

def ExecOutput.combinedOutput (output : ExecOutput) : String :=
  let stdout := Text.trim output.stdout
  let stderr := Text.trim output.stderr
  match stdout.isEmpty, stderr.isEmpty with
  | true, true => ""
  | true, false => stderr
  | false, true => stdout
  | false, false => stdout ++ "\n" ++ stderr

def quote (value : String) : String :=
  if value.isEmpty then
    "''"
  else
    let escaped := value.toList.flatMap fun char =>
      if char.toNat = 39 then "'\\''".toList else [char]
    "'" ++ String.ofList escaped ++ "'"

/-- Quoted words, behind `sudo` when asked. -/
def remoteCommand (program : String) (args : List String)
    (withSudo hasPassword : Bool) : String :=
  let start :=
    if withSudo then
      if hasPassword then
        ["sudo", "-S", "-p", "", "--", program]
      else
        ["sudo", "-n", "--", program]
    else
      [program]
  " ".intercalate ((start ++ args).map quote)

/-- The script that runs a command in a session of its own, which its file
names. -/
def jobScript (command pidFile : String) : String :=
  "rm -f " ++ quote pidFile ++ "\n" ++
  "setsid sh -c " ++ quote command ++ " &\n" ++
  "child=\"$!\"\n" ++
  "printf '%s\\n' \"$child\" > " ++ quote pidFile ++ "\n" ++
  "wait \"$child\"\n" ++
  "status=\"$?\"\n" ++
  "rm -f " ++ quote pidFile ++ "\n" ++
  "exit \"$status\""

/-- A shell for the job script. -/
def cancellableRemoteCommand (command pidFile : String) : String :=
  remoteCommand "sh" ["-c", jobScript command pidFile] false false

/-- What `channel.wait` can return.  The read loop looks at the first three
only. -/
inductive ChannelMsg where
  | data (data : Bytes)
  | extendedData (data : Bytes) (ext : UInt32)
  | exitStatus (exitStatus : UInt32)
  | exitSignal (signalName : String) (coreDumped : Bool) (message : String)
  | eof
  | close
  | success
  | failure
  | windowAdjusted (newSize : UInt32)
  | other
deriving DecidableEq

/-- One session as the server lets it go: how opening the channel, starting the
command and writing its input end, and the messages that arrive before
`channel.wait` returns `None`. -/
structure Channel where
  opened : Except String Unit
  started : Except String Unit
  written : Except String Unit
  messages : List ChannelMsg

/-- The accumulators of the read loop, with the events sent to the stream. -/
structure Received where
  exitCode : UInt32 := 0
  stdout : Bytes := []
  stderr : Bytes := []
  sent : List ExecStreamEvent := []

def receive (stream : Bool) (received : Received) : ChannelMsg → Received
  | .data data =>
    { received with
      stdout := received.stdout ++ data
      sent :=
        if stream then received.sent ++ [.stdout data]
        else received.sent }
  | .extendedData data _ =>
    { received with
      stderr := received.stderr ++ data
      sent :=
        if stream then received.sent ++ [.stderr data]
        else received.sent }
  | .exitStatus exitStatus => { received with exitCode := exitStatus }
  | _ => received

def executeRusshCmdStream (channel : Channel) (command : String)
    (stdin : Bytes) (stream : Bool) : Except ExecError Received := do
  channel.opened.mapError fun e =>
    .ssh ("Failed to open SSH channel: " ++ e)
  channel.started.mapError fun e =>
    .ssh ("Failed to exec command '" ++ command ++ "': " ++ e)
  if !stdin.isEmpty then
    channel.written.mapError fun e =>
      .ssh ("Failed to write stdin to SSH channel: " ++ e)
  return channel.messages.foldl (receive stream) {}

structure RemoteExecutor where
  sudoPassword : Option String := none
  jobPidFile : Option String := none

/-- The one command line that reaches the server.  The token of a cancellable
command only decides its wrapper; `uuid` is the random part of a job's file. -/
def RemoteExecutor.fullCommand (executor : RemoteExecutor) (uuid : String)
    (program : String) (args : List String) (stdin : Bytes)
    (cancel : Bool) : String :=
  let hasPwd := executor.sudoPassword.any fun password =>
    !password.isEmpty
  let baseCommand :=
    remoteCommand program args executor.sudoPassword.isSome hasPwd
  let commandToRun :=
    if cancel && stdin.isEmpty then
      cancellableRemoteCommand baseCommand
        (executor.jobPidFile.getD
          ("/tmp/openoxide-ssh-job-" ++ uuid ++ ".pid"))
    else
      baseCommand
  "sh -c " ++ quote commandToRun

section

variable (fromUtf8Lossy : Bytes → String)

/-- The end of `execute`: an exit code other than zero is an error. -/
def Received.verdict (received : Received) : Except ExecError ExecOutput :=
  let result : ExecOutput :=
    { status := .remote received.exitCode
      stdout := fromUtf8Lossy received.stdout
      stderr := fromUtf8Lossy received.stderr }
  if !result.success then
    .error (.commandFailed result.status.code result.combinedOutput)
  else
    .ok result

/-- A run of `execute` against a session that connecting yielded. -/
def RemoteExecutor.execute (executor : RemoteExecutor)
    (session : Except ExecError Channel) (uuid program : String)
    (args : List String) (stdin : Bytes) (stream cancel : Bool) :
    Except ExecError ExecOutput := do
  let channel ← session
  let received ← executeRusshCmdStream channel
    (executor.fullCommand uuid program args stdin cancel) stdin stream
  received.verdict fromUtf8Lossy

theorem foldl_receive_exitCode (stream : Bool) (messages : List ChannelMsg)
    (received : Received) :
    .exitStatus (messages.foldl (receive stream) received).exitCode ∈
        messages ∨
      (∀ code, .exitStatus code ∉ messages) ∧
        (messages.foldl (receive stream) received).exitCode =
          received.exitCode := by
  induction messages generalizing received with
  | nil => simp
  | cons message messages ih =>
    rcases ih (receive stream received message) with reported | ⟨none, kept⟩
    · exact .inl (List.mem_cons_of_mem _ reported)
    · rw [List.foldl_cons, kept]
      cases message with
      | exitStatus code => simp [receive]
      | _ => simp [receive, none]

theorem verdict_isOk (received : Received) :
    (∃ output, received.verdict fromUtf8Lossy = .ok output) ↔
      received.exitCode = 0 := by
  by_cases zero : received.exitCode = 0
  · simp [Received.verdict, ExecOutput.success, ExecExitStatus.success, zero]
  · simp [Received.verdict, ExecOutput.success, ExecExitStatus.success, zero]

/-- The session is set up: the channel opens, the command starts and its input,
if there is any, is written. -/
@[mk_iff]
structure Channel.Accepts (channel : Channel) (stdin : Bytes) : Prop where
  opened : channel.opened = .ok ()
  started : channel.started = .ok ()
  written : stdin = [] ∨ channel.written = .ok ()

theorem executeRusshCmdStream_eq_ok (channel : Channel) (command : String)
    (stdin : Bytes) (stream : Bool) (received : Received) :
    executeRusshCmdStream channel command stdin stream = .ok received ↔
      channel.Accepts stdin ∧
        channel.messages.foldl (receive stream) {} = received := by
  obtain ⟨opened, started, written, messages⟩ := channel
  simp only [executeRusshCmdStream, Channel.accepts_iff]
  cases opened with
  | error e => simp [Except.mapError, bind, Except.bind]
  | ok _ =>
    cases started with
    | error e => simp [Except.mapError, bind, Except.bind]
    | ok _ =>
      cases stdin with
      | nil =>
        simp [Except.mapError, bind, Except.bind, pure, Except.pure]
      | cons byte stdin =>
        cases written with
        | error e => simp [Except.mapError, bind, Except.bind]
        | ok _ =>
          simp [Except.mapError, bind, Except.bind, pure, Except.pure]

theorem execute_isOk (executor : RemoteExecutor)
    (session : Except ExecError Channel) (uuid program : String)
    (args : List String) (stdin : Bytes) (stream cancel : Bool) :
    (∃ output, executor.execute fromUtf8Lossy session uuid program args stdin
        stream cancel = .ok output) ↔
      ∃ channel, session = .ok channel ∧ channel.Accepts stdin ∧
        (channel.messages.foldl (receive stream) {}).exitCode = 0 := by
  cases session with
  | error e => simp [RemoteExecutor.execute, bind, Except.bind]
  | ok channel =>
    let command := executor.fullCommand uuid program args stdin cancel
    have ends :=
      executeRusshCmdStream_eq_ok channel command stdin stream
    cases outcome : executeRusshCmdStream channel command stdin stream with
    | error e =>
      have refused : ¬ channel.Accepts stdin := by
        intro accepts
        simp [(ends _).mpr ⟨accepts, rfl⟩] at outcome
      simp [RemoteExecutor.execute, bind, Except.bind, command, outcome,
        refused]
    | ok received =>
      obtain ⟨accepts, rfl⟩ := (ends received).mp outcome
      simp [RemoteExecutor.execute, bind, Except.bind, command, outcome,
        accepts, verdict_isOk]

/-- A remote command that is reported as a success really ended with exit status
zero, unless its channel was set up and then closed without any exit status:
the loop starts from the code of a success. -/
theorem remote_success_real_iff (executor : RemoteExecutor)
    (session : Except ExecError Channel) (uuid program : String)
    (args : List String) (stdin : Bytes) (stream cancel : Bool) :
    (∀ output,
        executor.execute fromUtf8Lossy session uuid program args stdin stream
          cancel = .ok output →
        ∃ channel, session = .ok channel ∧
          .exitStatus 0 ∈ channel.messages) ↔
      ∀ channel, session = .ok channel → channel.Accepts stdin →
        ∃ code, .exitStatus code ∈ channel.messages := by
  have succeeds := execute_isOk fromUtf8Lossy executor session uuid program
    args stdin stream cancel
  constructor
  · intro real channel connected accepts
    rcases foldl_receive_exitCode stream channel.messages {} with
      reported | ⟨none, initial⟩
    · exact ⟨_, reported⟩
    · obtain ⟨output, succeeded⟩ :=
        succeeds.mpr ⟨channel, connected, accepts, initial⟩
      obtain ⟨same, sameConnected, zero⟩ := real output succeeded
      obtain rfl : channel = same :=
        Except.ok.inj (connected.symm.trans sameConnected)
      exact ⟨0, zero⟩
  · intro reports output succeeded
    obtain ⟨channel, connected, accepts, zero⟩ :=
      succeeds.mp ⟨output, succeeded⟩
    refine ⟨channel, connected, ?_⟩
    rcases foldl_receive_exitCode stream channel.messages {} with
      reported | ⟨none, _⟩
    · rwa [zero] at reported
    · obtain ⟨code, received⟩ := reports channel connected accepts
      exact absurd received (none code)

end

/-- The bytes of an ASCII text as that text. -/
def asciiText (bytes : Bytes) : String :=
  String.ofList (bytes.map fun byte => Char.ofNat byte.toNat)

/-- A build that the server's kernel kills: the channel carries some output and
an exit signal, and the executor reports a success. -/
theorem killed_command_succeeds :
    let messages : List ChannelMsg :=
      [.data [111, 107], .exitSignal "KILL" false "", .eof, .close]
    ({} : RemoteExecutor).execute asciiText
        (.ok { opened := .ok (), started := .ok (), written := .ok (),
               messages := messages })
        "" "docker" ["build", "."] [] false false =
      .ok { status := .remote 0, stdout := "ok", stderr := "" } ∧
    .exitStatus 0 ∉ messages := by
  decide +kernel

end OpenOxide.Remote
