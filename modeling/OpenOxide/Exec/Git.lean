import OpenOxide.Exec.Command

/-!
# The git client

A builder of the git client is run either as a list of arguments or as a line of
a script.  Both put the options for the repository before the arguments of the
builder.
-/

namespace OpenOxide.Exec

open Shell

/-- How git authenticates. -/
inductive GitAuth where
  | token (token : String)
  | sshKey (keyPath : String)

def base64Alphabet : List Char :=
  "ABCDEFGHIJKLMNOPQRSTUVWXYZabcdefghijklmnopqrstuvwxyz0123456789+/".toList

def base64Digit (index : Nat) : Char :=
  base64Alphabet.getD (index % 64) 'A'

def base64Encode : List Nat → List Char
  | [] => []
  | [first] =>
    let n := first <<< 16
    [base64Digit (n >>> 18), base64Digit (n >>> 12), '=', '=']
  | [first, second] =>
    let n := first <<< 16 ||| second <<< 8
    [base64Digit (n >>> 18), base64Digit (n >>> 12), base64Digit (n >>> 6),
      '=']
  | first :: second :: third :: rest =>
    let n := first <<< 16 ||| second <<< 8 ||| third
    [base64Digit (n >>> 18), base64Digit (n >>> 12), base64Digit (n >>> 6),
      base64Digit n] ++ base64Encode rest

/-- The configuration that carries a credential. -/
def GitAuth.toConfig : GitAuth → String × String
  | .token value =>
    if value.toList.contains ':' then
      ("http.extraHeader", "Authorization: Basic " ++ String.ofList
        (base64Encode (value.toUTF8.toList.map UInt8.toNat)))
    else ("http.extraHeader", "Authorization: Bearer " ++ value)
  | .sshKey keyPath =>
    ("core.sshCommand", "ssh -i '" ++
      String.ofList (escapeQuotes keyPath.toList) ++
      "' -o StrictHostKeyChecking=accept-new")

structure GitCli where
  executable : String := "git"
  repository : Option String := none

namespace GitCli

def newLocal : GitCli := {}

def withRepository (cli : GitCli) (path : String) : GitCli :=
  { cli with repository := some path }

/-- The arguments that the executor gets. -/
def arguments (cli : GitCli) (args : List String) : List String :=
  cli.repository.elim [] (fun repository =>
    ["-c", "safe.directory=" ++ repository, "-C", repository]) ++ args

def compileCommand (cli : GitCli) (args : List String) : String :=
  let fullArgs := cli.repository.elim [] (fun repository =>
    ["-c", "safe.directory=" ++ repository, "-C", repository]) ++ args
  cli.executable ++ " " ++ " ".intercalate fullArgs

def compileCommandRaw (cli : GitCli) (args : List String) : String :=
  cli.executable ++ " " ++ " ".intercalate args

end GitCli

def withAuth (args : ArgBuilder) (auth : GitAuth) : ArgBuilder :=
  args.insertPair 0 "-c" (auth.toConfig.1 ++ "=" ++ auth.toConfig.2)

/-- The credentials that a builder got, if any. -/
def withAuthOpt (args : ArgBuilder) (auth : Option GitAuth) : ArgBuilder :=
  auth.elim args (withAuth args)

theorem withAuthOpt_build (args : ArgBuilder) (auth : Option GitAuth) :
    (withAuthOpt args auth).build =
      (auth.elim [] fun auth =>
        ["-c", auth.toConfig.1 ++ "=" ++ auth.toConfig.2]) ++ args.build := by
  cases auth with
  | none => rfl
  | some auth => rfl

def remoteSetUrl (name url : String) : ArgBuilder :=
  (((ArgBuilder.cmd ["remote"]).push "set-url").push name).push url

def fetchPrune (remote refspec : String) : ArgBuilder :=
  (((ArgBuilder.cmd ["fetch"]).flag "--prune").push remote).push refspec

def resetHard (commit : String) : ArgBuilder :=
  ((ArgBuilder.cmd ["reset"]).flag "--hard").push commit

def submoduleUpdate : ArgBuilder :=
  (((ArgBuilder.cmd ["submodule"]).push "update").flag "--init").flag
    "--recursive"

structure CloneBuilder where
  url : String
  args : ArgBuilder := .cmd ["clone"]
  destination : Option String := none

namespace CloneBuilder

def branch (builder : CloneBuilder) (name : String) : CloneBuilder :=
  { builder with args := builder.args.pair "--branch" name }

def singleBranch (builder : CloneBuilder) : CloneBuilder :=
  { builder with args := builder.args.flag "--single-branch" }

def finalize (builder : CloneBuilder) : ArgBuilder :=
  let args := builder.args.push builder.url
  builder.destination.elim args args.push

end CloneBuilder

/-- The quoted value, or a parameter in double quotes. -/
def escapeArg (value : String) : String :=
  if value.toList.head? = some '$' then "\"" ++ value ++ "\""
  else shellSingleQuote value

/-- A directory with its parents, as a line of a script. -/
def createDirectory (path : String) : String :=
  " ".intercalate ["mkdir", "-p", escapeArg path]

end OpenOxide.Exec
