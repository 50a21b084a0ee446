import OpenOxide.Text.Predicates

/-!
# Routing rules

A rule of a router is a tree, written as a text that Traefik reads back.  What
each matcher matches is Traefik's own; the tree and the text agree on how the
matchers are combined.
-/

namespace OpenOxide.Traefik

open Text.Predicates

/-- A matcher of requests. -/
inductive Rule where
  | host (domain : String)
  | hostRegexp (pattern : String)
  | path (path : String)
  | pathPrefix (path : String)
  | method (method : String)
  | header (key value : String)
  | query (key value : String)
  | clientIP (cidr : String)
  | and (left right : Rule)
  | or (left right : Rule)
  | not (inner : Rule)

namespace Rule

def needsParensWithin (parentIsAnd : Bool) : Rule → Bool
  | or _ _ => true
  | and _ _ => !parentIsAnd
  | _ => false

def parens (needed : Bool) (text : List Char) : List Char :=
  if needed then '(' :: text ++ [')'] else text

def call (name : String) (args : List String) : List Char :=
  name.toList ++ '(' :: arguments (args.map String.toList) ++ [')']

/-- The text of a rule. -/
def fmt : Rule → List Char
  | host domain => call "Host" [domain]
  | hostRegexp pattern => call "HostRegexp" [pattern]
  | path text => call "Path" [text]
  | pathPrefix text => call "PathPrefix" [text]
  | method name => call "Method" [name]
  | header key value => call "Header" [key, value]
  | query key value => call "Query" [key, value]
  | clientIP cidr => call "ClientIP" [cidr]
  | not inner => '!' :: parens (inner.needsParensWithin false) inner.fmt
  | and left right =>
    parens (left.needsParensWithin true) left.fmt ++ " && ".toList ++
      parens (right.needsParensWithin true) right.fmt
  | or left right =>
    parens (left.needsParensWithin false) left.fmt ++ " || ".toList ++
      parens (right.needsParensWithin false) right.fmt

variable {Request : Type}

/-- The requests that a tree matches. -/
def holds (matcher : Matcher Request) : Rule → Request → Bool
  | host domain => matcher "Host".toList [domain.toList]
  | hostRegexp pattern => matcher "HostRegexp".toList [pattern.toList]
  | path text => matcher "Path".toList [text.toList]
  | pathPrefix text => matcher "PathPrefix".toList [text.toList]
  | method name => matcher "Method".toList [name.toList]
  | header key value => matcher "Header".toList [key.toList, value.toList]
  | query key value => matcher "Query".toList [key.toList, value.toList]
  | clientIP cidr => matcher "ClientIP".toList [cidr.toList]
  | and left right => fun request =>
    left.holds matcher request && right.holds matcher request
  | or left right => fun request =>
    left.holds matcher request || right.holds matcher request
  | not inner => fun request => !inner.holds matcher request

/-- No value of the tree has a backquote or a carriage return. -/
def isRaw : Rule → Bool
  | host value | hostRegexp value | path value | pathPrefix value
  | method value | clientIP value => Text.Predicates.isRaw value.toList
  | header key value | query key value =>
    Text.Predicates.isRaw key.toList && Text.Predicates.isRaw value.toList
  | and left right | or left right => left.isRaw && right.isRaw
  | not inner => inner.isRaw

variable {matcher : Matcher Request} {level : Level Request}

theorem reads_call {name : String} {args : List String}
    (some_args : args.map String.toList ≠ [])
    (raw : (args.map String.toList).all Text.Predicates.isRaw = true)
    (named : ∀ outer, run matcher ⟨.operand, level, outer⟩
      (name.toList ++ ['(']) = some ⟨.argument name.toList [], level, outer⟩) :
    Reads matcher level (call name args)
      (matcher name.toList (args.map String.toList)) := by
  intro outer
  have split : call name args = (name.toList ++ ['(']) ++
      (arguments (args.map String.toList) ++ [')']) := by
    simp [call]
  rw [split, run_of_append (named outer),
    run_of_append (run_arguments some_args raw [])]
  rfl

/-- How the text of a rule is read: as an expression, and without parentheses
as an operand where the rule needs none. -/
structure Written (matcher : Matcher Request) (rule : Rule) : Prop where
  whole : Complete matcher rule.fmt (rule.holds matcher)
  operand : ∀ level : Level Request, rule.needsParensWithin true = false →
    (rule.needsParensWithin false = true → level.negations = 0) →
    Reads matcher level rule.fmt (rule.holds matcher)

theorem Written.of_reads {rule : Rule}
    (reads : ∀ level, Reads matcher level rule.fmt (rule.holds matcher)) :
    Written matcher rule :=
  ⟨(reads .fresh).complete, fun level _ _ => reads level⟩

theorem Written.side {rule : Rule} (written : Written matcher rule)
    (level : Level Request) (parentIsAnd : Bool)
    (plain : parentIsAnd = true → level.negations = 0) :
    Reads matcher level (parens (rule.needsParensWithin parentIsAnd) rule.fmt)
      (rule.holds matcher) := by
  cases needed : rule.needsParensWithin parentIsAnd with
  | true => exact written.whole.parens
  | false =>
    refine written.operand level ?_ ?_ <;>
      cases rule <;> cases parentIsAnd <;> simp_all [needsParensWithin]

theorem written {rule : Rule} (raw : rule.isRaw = true) :
    Written matcher rule := by
  induction rule with
  | host value | hostRegexp value | path value | pathPrefix value
  | method value | clientIP value =>
    exact .of_reads fun level => @reads_call _ _ level _ [value] (by simp)
      (by simpa [isRaw] using raw) fun _ => rfl
  | header key value | query key value =>
    exact .of_reads fun level => @reads_call _ _ level _ [key, value]
      (by simp) (by simpa [isRaw] using raw) fun _ => rfl
  | not inner induction =>
    exact .of_reads fun level outer =>
      (induction raw).side _ false (by simp) outer
  | and left right first second =>
    rw [isRaw, Bool.and_eq_true] at raw
    have reads : ∀ level : Level Request, level.negations = 0 →
        Reads matcher level (and left right).fmt
          ((and left right).holds matcher) := fun level plain =>
      Reads.and plain ((first raw.1).side level true fun _ => plain)
        ((second raw.2).side _ true fun _ => rfl)
    exact ⟨(reads .fresh rfl).complete,
      fun level _ plain => reads level (plain rfl)⟩
  | or left right first second =>
    rw [isRaw, Bool.and_eq_true] at raw
    refine ⟨Reads.or ((first raw.1).side _ false (by simp))
      ((second raw.2).side _ false (by simp)), ?_⟩
    intro level needless
    cases needless

/-- The text of a rule means what its tree means, whatever the matchers are. -/
theorem rule_text_keeps_meaning (matcher : Matcher Request) (rule : Rule)
    (raw : rule.isRaw = true) :
    parse matcher rule.fmt = some (rule.holds matcher) :=
  (written raw).whole.parse

/-- Nested operators of every kind. -/
theorem rule_text_keeps_meaning_nested :
    let rule := or (and (host "a.org") (or (path "/x") (not (and
      (method "GET") (header "X-Y" "z"))))) (not (query "k" "v"))
    rule.isRaw = true ∧
      parse (fun _ args request => args.contains request) rule.fmt =
        some (rule.holds fun _ args request => args.contains request) :=
  ⟨by decide +kernel, rule_text_keeps_meaning _ _ (by decide +kernel)⟩

/-- A host with backquotes adds a second host to the rule. -/
theorem backquote_changes_rule :
    let rule := host "a\x60)||Host(\x60b"
    let matcher : Matcher (List Char) := fun _ args request =>
      args.contains request
    (parse matcher rule.fmt).map (fun found => found ['a']) = some true ∧
      rule.holds matcher ['a'] = false := by
  decide +kernel

end Rule

end OpenOxide.Traefik
