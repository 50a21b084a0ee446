import OpenOxide.Exec.ArgToken
import OpenOxide.Text.Lines

/-!
# The script language

A script is a tree of nodes, and each node writes itself as shell text.  The
nodes of a body are written on lines of their own, set four blanks further in:
every line of their text is moved, also one that begins inside quotes.
-/

namespace OpenOxide.Exec

/-- A command of the script language. -/
structure Command where
  name : String
  args : List ArgToken

/-- A value of the script language. -/
inductive Expr where
  | literal (text : String)
  | variable (name : String)
  | envVar (name : String)
  | glob (pattern : String)
  | array (elements : List Expr)
  | word (parts : List Expr)

/-- What a redirection redirects. -/
inductive RedirectionFd where
  | stdout
  | stderr
  | both

/-- What of a command is captured. -/
inductive CaptureSource where
  | stdout
  | stderr
  | both
  | status

mutual

/-- A node of a script. -/
inductive ShellIR where
  | raw (text : String)
  | expr (expr : Expr)
  | statement (statement : Statement)
  | pipeline (commands : List Command)
  | sequence (commands : List ShellIR)
  | redirect (cmd : ShellIR) (target : String) (append : Bool)
      (fd : RedirectionFd)
  | capture (cmd : ShellIR) (source : CaptureSource)
  | command (command : Command)
  | ifNode (cond : ShellIR) (thenBranch : List ShellIR)
      (elseBranch : Option (List ShellIR))
  | loop (var : String) (iterator : ShellIR) (body : List ShellIR)
  | whileNode (cond : ShellIR) (body : List ShellIR)
  | function (name : String) (params : List String) (body : List ShellIR)
  | defer (body : List ShellIR)
  | parallel (body : List ShellIR)
  | retry (count : ShellIR) (body : List ShellIR)
  | captureBlock (body : List ShellIR)

/-- An assignment or an output. -/
inductive Statement where
  | varAssign (name : String) (val : ShellIR) (default : Option String)
  | echo (val : ShellIR)

end

def Command.toBash (command : Command) : String :=
  " ".intercalate (command.name :: command.args.map ArgToken.toBash)

/-- The letters that keep their meaning between double quotes are escaped. -/
def escapeDouble (text : String) : String :=
  String.ofList (text.toList.flatMap fun letter =>
    if ['\\', '"', '$', '\x60'].contains letter then ['\\', letter]
    else [letter])

mutual

def Expr.toBash : Expr → String
  | .literal text => shellSingleQuote text
  | .variable name | .envVar name => "\"$" ++ name ++ "\""
  | .glob pattern => pattern
  | .array elements => "(" ++ " ".intercalate (Expr.texts elements) ++ ")"
  | .word parts => "\"" ++ Expr.content parts ++ "\""

def Expr.texts : List Expr → List String
  | [] => []
  | expr :: exprs => expr.toBash :: Expr.texts exprs

/-- The parts of a word between its double quotes. -/
def Expr.content : List Expr → String
  | [] => ""
  | .literal text :: parts => escapeDouble text ++ Expr.content parts
  | .variable name :: parts | .envVar name :: parts =>
    "$\x7b" ++ name ++ "\x7d" ++ Expr.content parts
  | .glob pattern :: parts => pattern ++ Expr.content parts
  | part :: parts => part.toBash ++ Expr.content parts

end

def indent (text : String) : String :=
  "\n".intercalate ((Text.lines text.toList).map fun line =>
    if line.isEmpty then "" else "    " ++ String.ofList line)

/-- The text without its beginning, or the text when it begins otherwise. -/
def stripPrefix (start text : String) : String :=
  if start.toList.isPrefixOf text.toList then
    String.ofList (text.toList.drop start.length)
  else text

/-- The text without its end, or the text when it ends otherwise. -/
def stripSuffix (ending text : String) : String :=
  if ending.toList.isSuffixOf text.toList then
    String.ofList (text.toList.take (text.length - ending.length))
  else text

def RedirectionFd.text : RedirectionFd → String
  | .stdout => ""
  | .stderr => "2"
  | .both => "&"

/-- The lines that take the parameters of a function. -/
def paramLines (params : List String) : String :=
  "".intercalate (params.zipIdx.map fun (param, index) =>
    "local " ++ param ++ "=\"$" ++ toString (index + 1) ++ "\"\n")

/-- The capture of a block: its output goes to two files and its status to a
variable. -/
def captureText (name body : String) : String :=
  name ++ "_stdout_file=$(mktemp)\n" ++ name ++ "_stderr_file=$(mktemp)\nif (\n"
    ++ indent body ++ "\n) > \"$" ++ name ++ "_stdout_file\" 2> \"$" ++ name ++
    "_stderr_file\"; then\n" ++ name ++ "_status=true\nelse\n" ++ name ++
    "_status=false\nfi\n" ++ name ++ "_stdout=$(cat \"$" ++ name ++
    "_stdout_file\")\n" ++ name ++ "_stderr=$(cat \"$" ++ name ++
    "_stderr_file\")\nrm -f \"$" ++ name ++ "_stdout_file\" \"$" ++ name ++
    "_stderr_file\""

mutual

def ShellIR.toBash : ShellIR → String
  | .raw text => text
  | .expr expr => expr.toBash
  | .statement statement => statement.toBash
  | .pipeline commands => " | ".intercalate (commands.map Command.toBash)
  | .sequence commands => buildStr commands
  | .redirect cmd target append fd =>
    cmd.toBash ++ " " ++ fd.text ++ (if append then ">>" else ">") ++ " " ++
      target
  | .capture cmd .status =>
    "$(if " ++ cmd.toBash ++ "; then echo true; else echo false; fi)"
  | .capture cmd _ => "$(" ++ cmd.toBash ++ ")"
  | .command command => command.toBash
  | .ifNode cond thenBranch elseBranch =>
    "if " ++ cond.toBash ++ "; then\n" ++ indent (buildStr thenBranch) ++
      elseText elseBranch ++ "\nfi"
  | .loop var (.expr (.variable name)) body =>
    "for " ++ var ++ " in \"$\x7b" ++ name ++ "[@]\x7d\"; do\n" ++
      indent (buildStr body) ++ "\ndone"
  | .loop var iterator body =>
    "for " ++ var ++ " in " ++ iterator.toBash ++ "; do\n" ++
      indent (buildStr body) ++ "\ndone"
  | .whileNode cond body =>
    "while " ++ cond.toBash ++ "; do\n" ++ indent (buildStr body) ++ "\ndone"
  | .function name params body =>
    name ++ "() \x7b\n" ++ indent (paramLines params ++ buildStr body) ++
      "\n\x7d"
  | .defer body =>
    "_cleanup() \x7b\n" ++ indent (buildStr body) ++
      "\n\x7d\ntrap _cleanup EXIT"
  | .parallel body => parallelText body ++ "\nwait"
  | .retry count body =>
    "for i in $(seq 1 " ++ count.toBash ++ "); do\n" ++
      indent (buildStr body) ++ "\n    && break || sleep 1\ndone"
  | .captureBlock body => "(\n" ++ indent (buildStr body) ++ "\n)"

def Statement.toBash : Statement → String
  | .varAssign name (.captureBlock body) _ => captureText name (buildStr body)
  | .varAssign name val default =>
    name ++ "=" ++ val.toBash ++ default.elim "" fun text =>
      "\n[ -z \"$" ++ name ++ "\" ] && " ++ name ++ "=" ++
        shellSingleQuote text
  | .echo val => "echo " ++ val.toBash

/-- The texts of the nodes, each on its own line. -/
def buildStr : List ShellIR → String
  | [] => ""
  | [node] => node.toBash
  | node :: nodes => node.toBash ++ "\n" ++ buildStr nodes

/-- The nodes of a parallel block, each sent to the background. -/
def parallelText : List ShellIR → String
  | [] => ""
  | [node] => node.toBash ++ " &"
  | node :: nodes => node.toBash ++ " &\n" ++ parallelText nodes

/-- An else branch that is one more conditional goes on as `elif`, without the
keywords that the inner conditional has put on. -/
def elseText : Option (List ShellIR) → String
  | none => ""
  | some [.ifNode cond thenBranch elseBranch] =>
    "\nelif " ++ stripSuffix "\nfi" (stripPrefix "if "
      (ShellIR.ifNode cond thenBranch elseBranch).toBash)
  | some nodes => "\nelse\n" ++ indent (buildStr nodes)

end

end OpenOxide.Exec
