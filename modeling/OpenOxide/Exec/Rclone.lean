import OpenOxide.Exec.Command
import OpenOxide.Text.Strings

/-!
# The rclone builder

The builder compiles to arguments and an environment; the environment holds the
configuration of the remotes.  `to_command_string` quotes the values of the
environment and joins the arguments as they are.
-/

namespace OpenOxide.Exec

open Shell

abbrev Envs := List (String × String)

def Envs.insert (envs : Envs) (key value : String) : Envs :=
  envs.filter (fun entry => entry.1 != key) ++ [(key, value)]

def Envs.extend (envs more : Envs) : Envs :=
  more.foldl (fun envs entry => envs.insert entry.1 entry.2) envs

/-- The order in which a hash map happens to give its entries. -/
structure HashOrder where
  order : Envs → Envs
  perm : ∀ envs, (order envs).Perm envs

/-- Where rclone reads or writes. -/
inductive RcloneTarget where
  | localPath (path : String)
  | s3 (provider accessKeyId secretAccessKey bucket region endpoint
      path : String) (forcePathStyle noCheckBucket : Bool)
  | sftp (host : String) (port : Option Nat) (user : String)
      (pass keyFile : Option String) (keyUseAgent : Bool) (path : String)
  | ftp (host : String) (port : Option Nat) (user pass path : String)
      (tls : Bool)
  | b2 (accountId applicationKey bucket path : String)
  | gcs (serviceAccountCredentials : Option String) (bucket path : String)
      (projectNumber : Option String)
  | azureBlob (account key container path : String)
  | webdav (url user pass : String) (vendor : Option String) (path : String)
  | dropbox (token path : String)
  | googleDrive (clientId clientSecret : Option String) (token path : String)

/-- The variable that configures a part of a remote. -/
def configKey (name part : String) : String :=
  "RCLONE_CONFIG_" ++ Text.asciiUpper name ++ "_" ++ part

/-- The environment of a remote, from the parts that are set. -/
def configure (name : String) (parts : List (String × Option String)) :
    Envs :=
  parts.foldl (fun envs part =>
    part.2.elim envs (envs.insert (configKey name part.1))) []

/-- A part that is set when a flag is. -/
def whenTrue (flag : Bool) : Option String :=
  if flag then some "true" else none

/-- The path and the environment of a target.  Passwords go through `rclone
obscure`, which is not part of the repository. -/
def RcloneTarget.compile (obscurePassword : String → String)
    (side : String) : RcloneTarget → String × Envs
  | .localPath path => (path, [])
  | .s3 provider accessKeyId secretAccessKey bucket region endpoint path
      forcePathStyle noCheckBucket =>
      let name := side ++ "_s3"
      (name ++ ":" ++ (bucket ++ "/" ++ Text.trimStartMatches "/" path),
        configure name
          [("TYPE", some "s3"), ("PROVIDER", some provider),
            ("ACCESS_KEY_ID", some accessKeyId),
            ("SECRET_ACCESS_KEY", some secretAccessKey),
            ("REGION", some region), ("ENDPOINT", some endpoint),
            ("FORCE_PATH_STYLE", whenTrue forcePathStyle),
            ("NO_CHECK_BUCKET", whenTrue noCheckBucket)])
  | .sftp host port user pass keyFile keyUseAgent path =>
    let name := side ++ "_sftp"
    (name ++ ":" ++ path,
      configure name
        [("TYPE", some "sftp"), ("HOST", some host), ("USER", some user),
          ("PORT", port.map toString), ("PASS", pass.map obscurePassword),
          ("KEY_FILE", keyFile), ("KEY_USE_AGENT", whenTrue keyUseAgent)])
  | .ftp host port user pass path tls =>
    let name := side ++ "_ftp"
    (name ++ ":" ++ path,
      configure name
        [("TYPE", some "ftp"), ("HOST", some host), ("USER", some user),
          ("PASS", some (obscurePassword pass)),
          ("PORT", port.map toString), ("TLS", whenTrue tls)])
  | .b2 accountId applicationKey bucket path =>
    let name := side ++ "_b2"
    (name ++ ":" ++ (bucket ++ "/" ++ Text.trimStartMatches "/" path),
      configure name
        [("TYPE", some "b2"), ("ACCOUNT", some accountId),
          ("KEY", some applicationKey)])
  | .gcs serviceAccountCredentials bucket path projectNumber =>
    let name := side ++ "_gcs"
    (name ++ ":" ++ (bucket ++ "/" ++ Text.trimStartMatches "/" path),
      configure name
        [("TYPE", some "google cloud storage"),
          ("SERVICE_ACCOUNT_CREDENTIALS", serviceAccountCredentials),
          ("PROJECT_NUMBER", projectNumber)])
  | .azureBlob account key container path =>
    let name := side ++ "_azureblob"
    (name ++ ":" ++ (container ++ "/" ++ Text.trimStartMatches "/" path),
      configure name
        [("TYPE", some "azureblob"), ("ACCOUNT", some account),
          ("KEY", some key)])
  | .webdav url user pass vendor path =>
    let name := side ++ "_webdav"
    (name ++ ":" ++ path,
      configure name
        [("TYPE", some "webdav"), ("URL", some url), ("USER", some user),
          ("PASS", some (obscurePassword pass)), ("VENDOR", vendor)])
  | .dropbox token path =>
    let name := side ++ "_dropbox"
    (name ++ ":" ++ path,
      configure name [("TYPE", some "dropbox"), ("TOKEN", some token)])
  | .googleDrive clientId clientSecret token path =>
    let name := side ++ "_drive"
    (name ++ ":" ++ path,
      configure name
        [("TYPE", some "drive"), ("TOKEN", some token),
          ("CLIENT_ID", clientId), ("CLIENT_SECRET", clientSecret)])

/-- The subcommands in use. -/
inductive RcloneCommand where
  | rcat
  | cat
  | lsf
  | copyto
  | sync
  | delete
  | purge
  | check

def RcloneCommand.asStr : RcloneCommand → String
  | .rcat => "rcat"
  | .cat => "cat"
  | .lsf => "lsf"
  | .copyto => "copyto"
  | .sync => "sync"
  | .delete => "delete"
  | .purge => "purge"
  | .check => "check"

/-- The formats of `lsf`. -/
inductive RcloneListFormat where
  | pathSizeModified

def RcloneListFormat.value : RcloneListFormat → String
  | .pathSizeModified => "pst"

/-- What stands between the fields of `lsf`. -/
inductive RcloneSeparator where
  | tab
  | comma
deriving DecidableEq

def RcloneSeparator.value : RcloneSeparator → String
  | .tab => "\t"
  | .comma => ","

structure RcloneBuilder where
  command : RcloneCommand
  source : Option RcloneTarget := none
  destination : Option RcloneTarget := none
  transfers : Option Nat := none
  checkers : Option Nat := none
  bufferSize : Option String := none
  bwlimit : Option String := none
  fastList : Bool := false
  useMmap : Bool := false
  retries : Option Nat := none
  lowLevelRetries : Option Nat := none
  timeout : Option String := none
  connectTimeout : Option String := none
  retryDelay : Option String := none
  dryRun : Bool := false
  checkFirst : Bool := false
  ignoreErrors : Bool := false
  ignoreExisting : Bool := false
  update : Bool := false
  inplace : Bool := false
  logFile : Option String := none
  logLevel : Option String := none
  stats : Option String := none
  recursive : Bool := false
  filesOnly : Bool := false
  listFormat : Option RcloneListFormat := none
  separator : Option RcloneSeparator := none

/-- An argument that may be there: a key with a value that is set, or a flag
that is on. -/
inductive Choice where
  | setting (key : String) (value : Option String)
  | switch (name : String) (on : Bool)

def Choice.args : Choice → List String
  | .setting key value => (value.map fun value => key ++ value).toList
  | .switch name on => if on then [name] else []

namespace RcloneBuilder

def choices (builder : RcloneBuilder) : List Choice :=
  [.setting "--transfers=" (builder.transfers.map toString),
    .setting "--checkers=" (builder.checkers.map toString),
    .setting "--buffer-size=" builder.bufferSize,
    .setting "--bwlimit=" builder.bwlimit,
    .switch "--fast-list" builder.fastList,
    .switch "--use-mmap" builder.useMmap,
    .setting "--retries=" (builder.retries.map toString),
    .setting "--low-level-retries=" (builder.lowLevelRetries.map toString),
    .setting "--timeout=" builder.timeout,
    .setting "--contimeout=" builder.connectTimeout,
    .setting "--retry-delay=" builder.retryDelay,
    .switch "--dry-run" builder.dryRun,
    .switch "--check-first" builder.checkFirst,
    .switch "--ignore-errors" builder.ignoreErrors,
    .switch "--ignore-existing" builder.ignoreExisting,
    .switch "--update" builder.update,
    .switch "--inplace" builder.inplace,
    .setting "--log-file=" builder.logFile,
    .setting "--log-level=" builder.logLevel,
    .setting "--stats=" builder.stats,
    .switch "--recursive" builder.recursive,
    .switch "--files-only" builder.filesOnly,
    .setting "--format=" (builder.listFormat.map RcloneListFormat.value),
    .setting "--separator=" (builder.separator.map RcloneSeparator.value)]

def build (obscurePassword : String → String) (builder : RcloneBuilder) :
    List String × Envs :=
  let args := builder.command.asStr :: builder.choices.flatMap Choice.args
  let source := builder.source.map (RcloneTarget.compile obscurePassword "src")
  let destination :=
    builder.destination.map (RcloneTarget.compile obscurePassword "dest")
  let args := args ++ (source.map Prod.fst).toList
  let envs := Envs.extend [] ((source.map Prod.snd).getD [])
  let args := args ++ (destination.map Prod.fst).toList
  let envs := envs.extend ((destination.map Prod.snd).getD [])
  (args, envs)

def toCommandString (obscurePassword : String → String) (hash : HashOrder)
    (builder : RcloneBuilder) : String :=
  let (args, envs) := builder.build obscurePassword
  let envString := " ".intercalate ((hash.order envs).map fun entry =>
    entry.1 ++ "=" ++ shellSingleQuote entry.2)
  if envString.isEmpty then "rclone " ++ " ".intercalate args
  else envString ++ " rclone " ++ " ".intercalate args

end RcloneBuilder

/-- Every key of the environment is a name. -/
def Envs.Named (envs : Envs) : Prop :=
  ∀ entry ∈ envs, isName entry.1.toList = true

theorem Envs.Named.insert {envs : Envs} (named : envs.Named) {key : String}
    (name : isName key.toList = true) (value : String) :
    (envs.insert key value).Named := by
  refine List.forall_mem_append.mpr ⟨?_, List.forall_mem_singleton.mpr name⟩
  intro entry old
  exact named entry (List.mem_filter.mp old).1

theorem Envs.Named.extend {envs more : Envs} (named : envs.Named)
    (others : more.Named) : (envs.extend more).Named := by
  induction more generalizing envs with
  | nil => exact named
  | cons entry more induction =>
    exact induction (named.insert (others entry (by simp)) entry.2)
      fun other member => others other (by simp [member])

/-- Letters that are letters of a name in upper case. -/
def uppersName (text : String) : Bool :=
  text.toList.all fun letter => isNameLetter letter.toUpper

theorem isName_configKey {name part : String}
    (upper : uppersName name = true)
    (parted : part.toList.all isNameLetter = true) :
    isName (configKey name part).toList = true := by
  have upperLetters : (Text.asciiUpper name).toList.all isNameLetter =
      true := by
    rw [Text.asciiUpper, String.toList_ofList, List.all_map]
    exact upper
  rw [configKey, String.toList_append, String.toList_append,
    String.toList_append]
  simp only [String.reduceToList, List.cons_append, List.nil_append, isName,
    List.all_cons, List.all_append, upperLetters, parted]
  decide

theorem configure_named {name : String} (upper : uppersName name = true)
    {parts : List (String × Option String)}
    (parted : parts.all (fun part => part.1.toList.all isNameLetter) = true) :
    (configure name parts).Named := by
  rw [List.all_eq_true] at parted
  apply List.foldlRecOn parts _ (motive := Envs.Named)
  · simp [Envs.Named]
  · rintro envs named ⟨part, value⟩ member
    cases value with
    | none => exact named
    | some value =>
      exact named.insert (isName_configKey upper (parted _ member)) value

variable (obscurePassword : String → String)

theorem compile_named {side : String} (upper : uppersName side = true)
    (target : RcloneTarget) :
    (target.compile obscurePassword side).2.Named := by
  have named : ∀ kind : String, uppersName kind = true →
      uppersName (side ++ kind) = true := by
    intro kind valid
    rw [uppersName, String.toList_append, List.all_append, Bool.and_eq_true]
    exact ⟨upper, valid⟩
  cases target with
  | localPath path =>
    intro entry member
    cases member
  | _ =>
    exact configure_named (named _ (by decide +kernel)) (by
      simp only [List.all_cons, List.all_nil, String.reduceToList]
      decide)

/-- The path of a target is an argument as it stands. -/
def RcloneTarget.isPlain : RcloneTarget → Bool
  | .localPath path => isPlainArg path
  | .s3 _ _ _ bucket _ _ path _ _ | .b2 _ _ bucket path
  | .gcs _ bucket path _ | .azureBlob _ _ bucket path =>
    isInertValue (bucket ++ "/" ++ Text.trimStartMatches "/" path)
  | .sftp _ _ _ _ _ _ path | .ftp _ _ _ _ path _ | .webdav _ _ _ _ path
  | .dropbox _ path | .googleDrive _ _ _ path => isInertValue path

variable (builder : RcloneBuilder)

/-- Every value that goes into an argument stands for itself there. -/
def RcloneBuilder.isPlain : Bool :=
  builder.bufferSize.all isInertValue && builder.bwlimit.all isInertValue &&
  builder.timeout.all isInertValue &&
  builder.connectTimeout.all isInertValue &&
  builder.retryDelay.all isInertValue && builder.logFile.all isInertValue &&
  builder.logLevel.all isInertValue && builder.stats.all isInertValue &&
  builder.separator != some .tab &&
  builder.source.all RcloneTarget.isPlain &&
  builder.destination.all RcloneTarget.isPlain

theorem isHead_append {head more : List Char} (headed : isHead head = true)
    (inner : more.all isInner = true)
    (free : more.all (fun letter =>
      letter != '*' && letter != '?' && letter != '[') = true) :
    isHead (head ++ more) = true := by
  rw [isHead, Bool.and_eq_true, Bool.and_eq_true] at headed
  obtain ⟨⟨worded, others⟩, start⟩ := headed
  cases head with
  | nil => cases worded
  | cons first rest =>
    rw [isWordText, Bool.and_eq_true] at worded
    rw [isHead, List.all_append, others, free, List.cons_append,
      isWordText, List.all_append, worded.1, worded.2, inner]
    simpa using start

theorem compile_isPlain {side : String}
    (headed : isHead side.toList = true) (target : RcloneTarget) :
    isPlainArg (target.compile obscurePassword side).1 = target.isPlain := by
  have named : ∀ kind rest : String, (kind ++ ":").toList.all isInner = true →
      (kind ++ ":").toList.all (fun letter =>
        letter != '*' && letter != '?' && letter != '[') = true →
      isPlainArg (side ++ kind ++ ":" ++ rest) = isInertValue rest := by
    intro kind rest inner free
    apply isPlainArg_append
    rw [String.append_assoc, String.toList_append]
    exact isHead_append headed inner free
  cases target with
  | localPath path => rfl
  | _ => exact named _ _ (by decide +kernel) (by decide +kernel)

def Choice.isPlain : Choice → Bool
  | .setting _ value => value.all isInertValue
  | .switch .. => true

/-- The fixed part of the argument is plain. -/
def Choice.headed : Choice → Bool
  | .setting key _ => isHead key.toList
  | .switch name _ => isPlainArg name

theorem Choice.all_args {choice : Choice} (headed : choice.headed = true) :
    choice.args.all isPlainArg = choice.isPlain := by
  cases choice with
  | setting key value =>
    cases value with
    | none => rfl
    | some value => simp [Choice.args, Choice.isPlain,
        isPlainArg_append headed]
  | switch name on =>
    rw [Choice.headed] at headed
    cases on <;> simp [Choice.args, Choice.isPlain, headed]

theorem all_choices {choices : List Choice}
    (headed : choices.all Choice.headed = true) :
    (choices.flatMap Choice.args).all isPlainArg =
      choices.all Choice.isPlain := by
  induction choices with
  | nil => rfl
  | cons choice choices induction =>
    rw [List.all_cons, Bool.and_eq_true] at headed
    rw [List.flatMap_cons, List.all_append, induction headed.2,
      Choice.all_args headed.1, List.all_cons]

theorem choices_headed : builder.choices.all Choice.headed = true := by
  simp only [RcloneBuilder.choices, List.all_cons, List.all_nil,
    Choice.headed, isPlainArg, String.reduceToList]
  decide

theorem choices_isPlain : builder.choices.all Choice.isPlain =
      (builder.bufferSize.all isInertValue &&
        builder.bwlimit.all isInertValue &&
        builder.timeout.all isInertValue &&
        builder.connectTimeout.all isInertValue &&
        builder.retryDelay.all isInertValue &&
        builder.logFile.all isInertValue &&
        builder.logLevel.all isInertValue &&
        builder.stats.all isInertValue &&
        builder.separator != some .tab) := by
  have format : (builder.listFormat.map RcloneListFormat.value).all
      isInertValue = true := by
    cases builder.listFormat with
    | none => rfl
    | some format =>
      cases format
      decide +kernel
  have separated : (builder.separator.map RcloneSeparator.value).all
      isInertValue = (builder.separator != some .tab) := by
    cases builder.separator with
    | none => rfl
    | some separator => cases separator <;> decide +kernel
  have natural : ∀ number : Option Nat,
      (number.map toString).all isInertValue = true := by
    intro number
    cases number with
    | none => rfl
    | some number => exact isInertValue_natural number
  simp only [RcloneBuilder.choices, List.all_cons, List.all_nil,
    Choice.isPlain, natural, format, separated, Bool.true_and,
    Bool.and_true, Bool.and_assoc]

theorem build_isPlain :
    (builder.build obscurePassword).1.all isPlainArg = builder.isPlain := by
  have targets : ∀ (side : String) (target : Option RcloneTarget),
      isHead side.toList = true →
      (((target.map (RcloneTarget.compile obscurePassword side)).map
        Prod.fst).toList.all isPlainArg) = target.all RcloneTarget.isPlain := by
    intro side target headed
    cases target with
    | none => rfl
    | some target => simp [compile_isPlain obscurePassword headed target]
  have command : isPlainArg builder.command.asStr = true := by
    cases builder.command <;> decide +kernel
  rw [RcloneBuilder.build, RcloneBuilder.isPlain, List.all_append,
    List.all_append, List.all_cons, command,
    all_choices (choices_headed builder), choices_isPlain,
    targets "src" _ (by decide +kernel), targets "dest" _ (by decide +kernel),
    Bool.true_and]

theorem build_named : (builder.build obscurePassword).2.Named := by
  have targets : ∀ (side : String) (target : Option RcloneTarget),
      uppersName side = true →
      Envs.Named (((target.map (RcloneTarget.compile obscurePassword
        side)).map Prod.snd).getD []) := by
    intro side target upper
    cases target with
    | none => simp [Envs.Named]
    | some target => exact compile_named obscurePassword upper target
  have none : Envs.Named [] := by simp [Envs.Named]
  exact (none.extend (targets "src" _ (by decide +kernel))).extend
    (targets "dest" _ (by decide +kernel))

theorem assembles_rclone {envs : Envs} (named : envs.Named) :
    Assembles envs "rclone" where
  names := named
  plain := by decide +kernel
  free := by decide +kernel
  word := by decide +kernel

theorem toCommandString_eq (hash : HashOrder)
    (builder : RcloneBuilder) :
    builder.toCommandString obscurePassword hash =
      if (" ".intercalate ((hash.order (builder.build obscurePassword).2).map
          fun entry => entry.1 ++ "=" ++ shellSingleQuote entry.2)).isEmpty
      then "rclone " ++ " ".intercalate (builder.build obscurePassword).1
      else " ".intercalate ((hash.order (builder.build obscurePassword).2).map
          fun entry => entry.1 ++ "=" ++ shellSingleQuote entry.2) ++
        " rclone " ++ " ".intercalate (builder.build obscurePassword).1 := rfl

theorem toCommandString_text (hash : HashOrder)
    (builder : RcloneBuilder) :
    (builder.toCommandString obscurePassword hash).toList =
      (assembled (hash.order (builder.build obscurePassword).2) "rclone").text
        ++ spaced ((builder.build obscurePassword).1.map String.toList) := by
  obtain ⟨first, rest, args⟩ : ∃ first rest,
      (builder.build obscurePassword).1 = first :: rest := ⟨_, _, rfl⟩
  have entryText : ∀ entry : String × String,
      (entry.1 ++ "=" ++ shellSingleQuote entry.2).toList =
        (assignment entry).text := by
    simp [assignment, Arg.text, Segment.text]
  rw [assembled_text, toCommandString_eq, args]
  cases hash.order (builder.build obscurePassword).2 with
  | nil =>
    rw [if_pos (by rfl), String.toList_append, toList_intercalate_blank,
      List.map_cons, spaced_cons]
    simp
  | cons entry envs =>
    have filled : (" ".intercalate ((entry :: envs).map fun entry =>
        entry.1 ++ "=" ++ shellSingleQuote entry.2)).isEmpty = false := by
      simp
    rw [filled, if_neg (by simp), String.toList_append,
      String.toList_append, toList_intercalate_blank, List.map_cons,
      toList_intercalate_blank, entryText, List.map_cons (l := rest),
      spaced_cons, List.map_cons, List.cons_append, intercalate_blank]
    simp [spaced, entryText, Function.comp_def, List.flatMap_map]

/-- An argument with a blank becomes two arguments. -/
theorem preview_splits_blank :
    soleInvocation (ArgBuilder.preview ⟨["run", "a b"]⟩) ≠
      some ⟨[], ["docker", "run", "a b"]⟩ := by
  intro sole
  have plain := plain_of_soleInvocation assembles_docker
    (preview_text ⟨["run", "a b"]⟩) sole "a b" (by simp)
  exact absurd plain (by decide +kernel)

/-- The string forms of the builders run their argument lists exactly when
every argument is plain. -/
theorem builder_command_iff_plain (docker : ArgBuilder)
    (obscurePassword : String → String) (hash : HashOrder)
    (rclone : RcloneBuilder) :
    (soleInvocation docker.preview =
        some ⟨[], "docker" :: docker.build⟩ ↔
      ∀ arg ∈ docker.build, isPlainArg arg = true) ∧
    (soleInvocation (rclone.toCommandString obscurePassword hash) =
        some ⟨hash.order (rclone.build obscurePassword).2,
          "rclone" :: (rclone.build obscurePassword).1⟩ ↔
      rclone.isPlain = true) := by
  constructor
  · exact soleInvocation_assembled assembles_docker (preview_text docker)
  · have named : Envs.Named (hash.order (rclone.build obscurePassword).2) :=
      fun entry member => build_named obscurePassword rclone entry
        ((hash.perm _).mem_iff.mp member)
    rw [soleInvocation_assembled (assembles_rclone named)
      (toCommandString_text obscurePassword hash rclone),
      ← build_isPlain obscurePassword rclone, List.all_eq_true]

end OpenOxide.Exec
