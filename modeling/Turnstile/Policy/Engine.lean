import Turnstile.Policy.PathMatcher
import Turnstile.Policy.Superadmin

/-!
The rule set and its decisions. A request is allowed when its role is the superadmin, or when a rule
has the same role, an action pattern that matches the whole action, and a path pattern that the path
agrees with. Rules are kept as a list, and as the rows of an enforcer that decides. They are checked
before they are taken over, so a refused rule leaves both as they were.
-/

namespace Turnstile

variable [SizeLimit]

/-- A rule: who may do what, and where. The action is `service:method`, its pattern a regular
expression. -/
structure Rule where
  role : String
  action : String
  path : String
  deriving DecidableEq, Repr

namespace Rule

/-- The expression that the whole action has to match. -/
def actionText (r : Rule) : List Char := "^(?:".toList ++ r.action.toList ++ ")$".toList

/-- The expression of the path as far as it is checked in advance: placeholders are not filled in. -/
def pathText (r : Rule) : List Char :=
  '^' :: (PathMatcher.dotStars r.path.toList ++ ['$'])

/-- Refuse a rule whose patterns cannot be used. Only the matcher with colons has paths checked. -/
def check (m : PathMatcher) (r : Rule) : Except ServiceError Unit := do
  match Regex.compile r.actionText with
  | .error e =>
    throw (.invalidPolicy ("action pattern " ++ Text.quote r.action ++ ": " ++ e.message))
  | .ok _ =>
    if m = .colon then
      match Regex.compile r.pathText with
      | .error e =>
        throw (.invalidPolicy ("path pattern " ++ Text.quote r.path ++ ": " ++ e.message))
      | .ok _ => return ()

end Rule

/-- A row of the enforcer: a rule, with the expression that the whole action has to match. -/
structure PolicyRow where
  role : String
  action : List Char
  path : String
  deriving DecidableEq, Repr

/-- The row for a rule. -/
def Rule.row (r : Rule) : PolicyRow := ⟨r.role, r.actionText, r.path⟩

/-- The row covers the request. The path is looked at only where role and action agree. -/
def PolicyRow.covers (m : PathMatcher) (r : PolicyRow) (role action path : String) :
    Except Fault Bool :=
  if r.role == role then
    match Regex.compile r.action with
    | .error _ => .error .patternUnusable
    | .ok a => if a.isMatch action.toList then m.accepts r.path path else .ok false
  else .ok false

/-- What requests are decided by: the text that the role of the superadmin is compared with, the way
paths are compared, and the rows. -/
structure Enforcer where
  superadminText : String
  matcher : PathMatcher
  rows : List PolicyRow
  deriving DecidableEq, Repr

namespace Enforcer

/-- The enforcer with one row for each rule. -/
def ofRules (s : Superadmin) (m : PathMatcher) (rules : List Rule) : Enforcer :=
  ⟨s.text, m, rules.map Rule.row⟩

/-- Build an enforcer from rules if every one can be used. -/
def build (s : Superadmin) (m : PathMatcher) (rules : List Rule) : Except ServiceError Enforcer := do
  rules.forM (Rule.check m)
  return .ofRules s m rules

/-- The first row that covers the request allows it; a fault in a row before that ends the search. -/
def anyCovers (m : PathMatcher) (role action path : String) : List PolicyRow → Except Fault Bool
  | [] => .ok false
  | r :: rest =>
    match r.covers m role action path with
    | .ok true => .ok true
    | .ok false => anyCovers m role action path rest
    | .error f => .error f

/-- The request is allowed. Without any rows one empty row is tried, which asks for the empty role and
fits every action. -/
def enforce (e : Enforcer) (role action path : String) : Except Fault Bool :=
  if role == e.superadminText then .ok true
  else if e.rows.isEmpty then
    if role == "" then e.matcher.accepts "" path else .ok false
  else anyCovers e.matcher role action path e.rows

end Enforcer

/-- Drop every element that stood in the list before, keeping the order. -/
def keepFirst {α : Type} [DecidableEq α] (xs : List α) : List α :=
  xs.foldl (fun kept x => if x ∈ kept then kept else kept ++ [x]) []

/-- The rules in force, in order, and beside them the enforcer that decides by them. Each change of
the rules builds the enforcer anew. -/
structure PolicyEngine where
  superadmin : Superadmin
  matcher : PathMatcher
  rules : List Rule
  enforcer : Enforcer
  deriving Repr

namespace PolicyEngine

/-- The configured name of the superadmin. -/
def superadminRole (e : PolicyEngine) : String := e.superadmin.role

/-- What the role of the superadmin is compared with. -/
def superadminText (e : PolicyEngine) : String := e.superadmin.text

/-- An engine without rules; there is none where the name of the superadmin cannot be written into the
matching expression. -/
def new (superadminRole : String) (m : PathMatcher) : Except ServiceError PolicyEngine :=
  match Superadmin.ofName? superadminRole with
  | some s => do
    let enforcer ← Enforcer.build s m []
    return ⟨s, m, [], enforcer⟩
  | none => .error (.internal "policy enforcer:")

/-- The enforcer alone decides. -/
def enforce (e : PolicyEngine) (role action path : String) : Except Fault Bool :=
  e.enforcer.enforce role action path

/-- Take over a list of rules without doubles if every one can be used. -/
def rebuild (e : PolicyEngine) (rules : List Rule) : Except ServiceError PolicyEngine := do
  let enforcer ← Enforcer.build e.superadmin e.matcher rules
  return { e with rules := rules, enforcer := enforcer }

/-- Replace all rules. The answer is how many are in force now. -/
def replace (e : PolicyEngine) (rules : List Rule) : Except ServiceError (Nat × PolicyEngine) := do
  let kept := keepFirst rules
  let e ← e.rebuild kept
  return (kept.length, e)

/-- Add a rule at the end. The answer says whether it was missing. -/
def add (e : PolicyEngine) (rule : Rule) : Except ServiceError (Bool × PolicyEngine) :=
  if rule ∈ e.rules then .ok (false, e)
  else do
    let e ← e.rebuild (e.rules ++ [rule])
    return (true, e)

/-- Remove all rules. -/
def clear (e : PolicyEngine) : Except ServiceError PolicyEngine := e.rebuild []

end PolicyEngine

end Turnstile
