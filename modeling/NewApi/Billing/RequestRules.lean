import Mathlib.Data.Rat.Cast.Defs
import Mathlib.Data.List.Forall2

/-!
# Tracing of request rules

`requestRulePatcher` replaces the multipliers of a billing expression that depend on the request
by calls of `_trace` and `_trace_int`, and `runProgram` marks the rules that these calls report.
The package `expr` evaluates the expression: `eval` is its evaluation.
-/

namespace NewApi.BillingExpr

/-- The operations of `float64`. One integer alone is converted to one. -/
structure Arithmetic (F : Type) where
  ofInt : ℤ → F
  neg : F → F
  (add sub mul div pow : F → F → F)
  ofInt_one : ∀ n, ofInt n = ofInt 1 → n = 1

/-- The kinds of values. -/
inductive Kind
  | int | float | bool | string | composite | nil
deriving DecidableEq

/-- The values of `expr`; of an array or an object, which `param` returns, the text is kept. -/
inductive Value (F : Type)
  | int (val : ℤ)
  | float (val : F)
  | bool (val : Bool)
  | string (val : String)
  | composite (json : String)
  | nil
deriving DecidableEq

/-- The operators on one value. -/
inductive UnaryOperator
  | minus | plus | not

/-- The operators on two values. -/
inductive BinaryOperator
  | and | or | equal | notEqual | less | lessEqual | greater | greaterEqual
  | add | subtract | multiply | divide | modulo | power
deriving DecidableEq

/-- The errors of a run. -/
inductive RunError
  | operator (op : BinaryOperator) (left right : Kind)
  | unary (op : UnaryOperator) (operand : Kind)
  | notBool (cond : Kind)
  | cast (result : Kind)
  | divideByZero
  | undefined (name : String)
  | call (message : String)

/-- The syntax trees of `expr`. -/
inductive Node (F : Type)
  | literal (val : Value F)
  | identifier (val : String)
  | unary (op : UnaryOperator) (node : Node F)
  | binary (op : BinaryOperator) (left right : Node F)
  | conditional (ternary : Bool) (cond exp1 exp2 : Node F)
  | call (callee : String) (args : List (Node F))

variable {F : Type}

def Value.kind : Value F → Kind
  | .int _ => .int
  | .float _ => .float
  | .bool _ => .bool
  | .string _ => .string
  | .composite _ => .composite
  | .nil => .nil

mutual

/-- The identifiers of a tree, in the order of a walk. -/
def Node.identifiers : Node F → List String
  | .literal _ => []
  | .identifier val => [val]
  | .unary _ node => node.identifiers
  | .binary _ left right => left.identifiers ++ right.identifiers
  | .conditional _ cond exp1 exp2 => cond.identifiers ++ (exp1.identifiers ++ exp2.identifiers)
  | .call callee args => callee :: identifiersAll args

def identifiersAll : List (Node F) → List String
  | [] => []
  | node :: rest => node.identifiers ++ identifiersAll rest

end

/-! ## The patcher -/

/-- A request rule, and whether it was met. -/
structure RequestRuleTrace (F : Type) where
  cond : String
  multiplier : F
  matched : Bool := false

/-- The rules that a walk has found, and the internal name that it has met. -/
structure RequestRulePatcher (F : Type) where
  requestRules : List (RequestRuleTrace F) := []
  restrictedIdentifier : String := ""

def requestRuleTraceFunction : String := "_trace"

def requestRuleTraceIntFunction : String := "_trace_int"

def restricted (name : String) : Bool :=
  name = requestRuleTraceFunction ∨ name = requestRuleTraceIntFunction

def requestProbe (name : String) : Bool :=
  ["param", "header", "hour", "minute", "weekday", "month", "day"].contains name

def usesRequestProbe (node : Node F) : Bool :=
  node.identifiers.any requestProbe

section Patcher

variable [DecidableEq F] (arith : Arithmetic F) (print : Node F → String)

def requestRuleNumber : Node F → Option F
  | .literal (.int val) => some (arith.ofInt val)
  | .literal (.float val) => some val
  | _ => none

/-- The multiplier of a conditional that is a request rule. -/
def requestRule (ternary : Bool) (cond exp1 exp2 : Node F) : Option F :=
  if !ternary || !usesRequestProbe cond then none
  else
    match requestRuleNumber arith exp1, requestRuleNumber arith exp2 with
    | some factor, some fallback =>
      if fallback = arith.ofInt 1 then some factor else none
    | _, _ => none

def traceCall (ruleIndex : ℕ) (cond exp1 exp2 : Node F) (factor : F) : Node F :=
  match exp1, exp2 with
  | .literal (.int _), .literal (.int _) =>
    .call requestRuleTraceIntFunction [.literal (.int ruleIndex), cond, exp1]
  | _, _ =>
    .call requestRuleTraceFunction [.literal (.int ruleIndex), cond, .literal (.float factor)]

def RequestRulePatcher.visit (pass : RequestRulePatcher F) :
    Node F → Node F × RequestRulePatcher F
  | .identifier val =>
    (.identifier val,
      if restricted val then { pass with restrictedIdentifier := val } else pass)
  | .conditional ternary cond exp1 exp2 =>
    match requestRule arith ternary cond exp1 exp2 with
    | none => (.conditional ternary cond exp1 exp2, pass)
    | some factor =>
      (traceCall pass.requestRules.length cond exp1 exp2 factor,
        { pass with
          requestRules := pass.requestRules ++ [{ cond := print cond, multiplier := factor }] })
  | node => (node, pass)

mutual

/-- `ast.Walk`: the children are visited before their parent. -/
def walk : Node F → RequestRulePatcher F → Node F × RequestRulePatcher F
  | .literal val, pass => pass.visit arith print (.literal val)
  | .identifier val, pass => pass.visit arith print (.identifier val)
  | .unary op node, pass =>
    let walked := walk node pass
    walked.2.visit arith print (.unary op walked.1)
  | .binary op left right, pass =>
    let toLeft := walk left pass
    let toRight := walk right toLeft.2
    toRight.2.visit arith print (.binary op toLeft.1 toRight.1)
  | .conditional ternary cond exp1 exp2, pass =>
    let toCond := walk cond pass
    let toExp1 := walk exp1 toCond.2
    let toExp2 := walk exp2 toExp1.2
    toExp2.2.visit arith print (.conditional ternary toCond.1 toExp1.1 toExp2.1)
  | .call callee args, pass =>
    let toCallee := pass.visit arith print (.identifier callee)
    let toArguments := walkAll args toCallee.2
    toArguments.2.visit arith print (.call callee toArguments.1)

def walkAll : List (Node F) → RequestRulePatcher F → List (Node F) × RequestRulePatcher F
  | [], pass => ([], pass)
  | node :: rest, pass =>
    let toNode := walk node pass
    let toRest := walkAll rest toNode.2
    (toNode.1 :: toRest.1, toRest.2)

end

/-- `compileEntryFromCacheByHash`: the patched tree and its rules, unless an internal name is
used. -/
def compileEntry (node : Node F) : Option (Node F × List (RequestRuleTrace F)) :=
  let walked := walk arith print node {}
  if walked.2.restrictedIdentifier ≠ "" then none else some (walked.1, walked.2.requestRules)

end Patcher

/-! ## Evaluation -/

/-- What a run returns and reports: the calls of `tier`, the rules marked by the trace functions
and, beside the code, the rules whose ternary was evaluated with a true condition. -/
structure Run (F α : Type) where
  result : Except RunError α
  tiers : List (String × F) := []
  marks : List ℕ := []
  met : List ℕ := []

namespace Run

variable {α β : Type}

def pure (val : α) : Run F α :=
  { result := .ok val }

def fail (error : RunError) : Run F α :=
  { result := .error error }

def bind (run : Run F α) (next : α → Run F β) : Run F β :=
  match run.result with
  | .error error => { run with result := .error error }
  | .ok val =>
    { result := (next val).result
      tiers := run.tiers ++ (next val).tiers
      marks := run.marks ++ (next val).marks
      met := run.met ++ (next val).met }

end Run

/-- The kinds of the results of the functions of `compileEnvPrototypeV1`. -/
def resultKinds (name : String) : List Kind :=
  if ["tier", "max", "min", "abs", "ceil", "floor"].contains name then [.float]
  else if ["hour", "minute", "weekday", "month", "day"].contains name then [.int]
  else if name = "has" then [.bool]
  else if name = "header" then [.string]
  else [.int, .float, .bool, .string, .composite, .nil]

/-- The environment of `runProgram`, and of `expr` how values are compared and how they are passed
to the parameters of Go functions. -/
structure Environment (F : Type) where
  tokens : String → Option F
  function : String → List (Value F) → Except RunError (Value F)
  function_kind : ∀ name args val, function name args = .ok val →
    val.kind ∈ resultKinds name
  compare : BinaryOperator → Value F → Value F → Except RunError Bool
  tierArguments : List (Value F) → Except RunError (String × F)
  boolArgument : Value F → Except RunError Bool
  boolArgument_bool : ∀ val, boolArgument (.bool val) = .ok val

/-- The value on which `&&` or `||` stops. -/
def BinaryOperator.stops : BinaryOperator → Option Bool
  | .and => some false
  | .or => some true
  | _ => none

def BinaryOperator.compares : BinaryOperator → Bool
  | .equal | .notEqual | .less | .lessEqual | .greater | .greaterEqual => true
  | _ => false

section Eval

variable [DecidableEq F] (arith : Arithmetic F)

def Value.toFloat : Value F → Option F
  | .int val => some (arith.ofInt val)
  | .float val => some val
  | _ => none

def unaryValue (op : UnaryOperator) (val : Value F) : Except RunError (Value F) :=
  match op, val with
  | .minus, .int val => .ok (.int ((-val).bmod (2 ^ 64)))
  | .minus, .float val => .ok (.float (arith.neg val))
  | .plus, .int val => .ok (.int val)
  | .plus, .float val => .ok (.float val)
  | .not, .bool val => .ok (.bool !val)
  | _, _ => .error (.unary op val.kind)

def intBinary (op : BinaryOperator) (left right : ℤ) : Except RunError (Value F) :=
  match op with
  | .add => .ok (.int ((left + right).bmod (2 ^ 64)))
  | .subtract => .ok (.int ((left - right).bmod (2 ^ 64)))
  | .multiply => .ok (.int ((left * right).bmod (2 ^ 64)))
  | .divide => .ok (.float (arith.div (arith.ofInt left) (arith.ofInt right)))
  | .power => .ok (.float (arith.pow (arith.ofInt left) (arith.ofInt right)))
  | .modulo => if right = 0 then .error .divideByZero else .ok (.int (left.tmod right))
  | _ => .error (.operator op .int .int)

def floatBinary (op : BinaryOperator) (left right : F) : Option F :=
  match op with
  | .add => some (arith.add left right)
  | .subtract => some (arith.sub left right)
  | .multiply => some (arith.mul left right)
  | .divide => some (arith.div left right)
  | .power => some (arith.pow left right)
  | _ => none

variable (env : Environment F)

/-- A binary operator after both of its operands: integers stay integers, a mixed pair is
converted. -/
def binaryValue (op : BinaryOperator) (left right : Value F) : Except RunError (Value F) :=
  if op.compares then (env.compare op left right).map .bool
  else
    match left, right with
    | .int left, .int right => intBinary arith op left right
    | .string left, .string right =>
      if op = .add then .ok (.string (left ++ right)) else .error (.operator op .string .string)
    | left, right =>
      match (left.toFloat arith).bind fun x =>
          (right.toFloat arith).bind (floatBinary arith op x) with
      | some reply => .ok (.float reply)
      | none => .error (.operator op left.kind right.kind)

def ruleMark (ruleIndex : ℤ) : List ℕ :=
  if 0 ≤ ruleIndex then [ruleIndex.toNat] else []

/-- The functions of the environment of `runProgram`. -/
def call (callee : String) (args : List (Value F)) : Run F (Value F) :=
  if callee = "tier" then
    match env.tierArguments args with
    | .ok (name, val) => { result := .ok (.float val), tiers := [(name, val)] }
    | .error error => .fail error
  else if callee = requestRuleTraceFunction then
    match args with
    | [.int ruleIndex, cond, .float factor] =>
      match env.boolArgument cond with
      | .error error => .fail error
      | .ok true => { result := .ok (.float factor), marks := ruleMark ruleIndex }
      | .ok false => .pure (.float (arith.ofInt 1))
    | _ => .fail (.call callee)
  else if callee = requestRuleTraceIntFunction then
    match args with
    | [.int ruleIndex, cond, .int factor] =>
      match env.boolArgument cond with
      | .error error => .fail error
      | .ok true => { result := .ok (.int factor), marks := ruleMark ruleIndex }
      | .ok false => .pure (.int 1)
    | _ => .fail (.call callee)
  else { result := env.function callee args }

mutual

/-- The request rules of a tree: conditions and multipliers, in the order of a walk. -/
def Node.rules : Node F → List (Node F × F)
  | .literal _ => []
  | .identifier _ => []
  | .unary _ node => node.rules
  | .binary _ left right => left.rules ++ right.rules
  | .conditional ternary cond exp1 exp2 =>
    cond.rules ++ (exp1.rules ++ (exp2.rules ++
      ((requestRule arith ternary cond exp1 exp2).map (cond, ·)).toList))
  | .call _ args => rulesAll args

def rulesAll : List (Node F) → List (Node F × F)
  | [] => []
  | node :: rest => node.rules ++ rulesAll rest

end

mutual

/-- The evaluation of a tree whose rules are numbered from `start`. -/
def eval (start : ℕ) : Node F → Run F (Value F)
  | .literal val => .pure val
  | .identifier name =>
    match env.tokens name with
    | some val => .pure (.float val)
    | none => .fail (.undefined name)
  | .unary op node =>
    (eval start node).bind fun val => { result := unaryValue arith op val }
  | .binary op left right =>
    (eval start left).bind fun val =>
      let two := eval (start + (left.rules arith).length) right
      match op.stops, val with
      | none, _ => two.bind fun other => { result := binaryValue arith env op val other }
      | some stop, .bool reply => if reply = stop then .pure (.bool reply) else two
      | some _, val => .fail (.notBool val.kind)
  | .conditional ternary cond exp1 exp2 =>
    (eval start cond).bind fun val =>
      let afterCond := start + (cond.rules arith).length
      match val with
      | .bool true =>
        let met := (requestRule arith ternary cond exp1 exp2).map fun _ => afterCond
        ({ result := .ok (), met := met.toList } : Run F Unit).bind fun _ => eval afterCond exp1
      | .bool false => eval (afterCond + (exp1.rules arith).length) exp2
      | val => .fail (.notBool val.kind)
  | .call callee args =>
    (evalAll start args).bind (call arith env callee)

def evalAll (start : ℕ) : List (Node F) → Run F (List (Value F))
  | [] => .pure []
  | node :: rest =>
    (eval start node).bind fun val =>
      (evalAll (start + (node.rules arith).length) rest).bind fun vals =>
        .pure (val :: vals)

end

/-- What a run reports. -/
structure TraceResult (F : Type) where
  matchedTier : String := ""
  requestRules : List (RequestRuleTrace F)
  cost : Option F := none

/-- `expr.AsFloat64`. -/
def asFloat64 (val : Value F) : Except RunError F :=
  match val.toFloat arith with
  | some result => .ok result
  | none => .error (.cast val.kind)

def runProgram (node : Node F) (requestRules : List (RequestRuleTrace F)) :
    Except RunError F × TraceResult F :=
  let run := eval arith env 0 node
  (run.result.bind (asFloat64 arith),
    { matchedTier := (run.tiers.getLast?.map Prod.fst).getD ""
      requestRules := requestRules.mapIdx fun i rule =>
        if i ∈ run.marks then { rule with matched := true } else rule
      cost := run.tiers.getLast?.map Prod.snd })

end Eval

/-! ## What the patched tree is -/

section Patched

variable {arith : Arithmetic F} {print : Node F → String}

theorem traceCall_identifiers (ruleIndex : ℕ) (cond exp1 exp2 : Node F) (factor : F) :
    (traceCall ruleIndex cond exp1 exp2 factor).identifiers.any requestProbe =
      cond.identifiers.any requestProbe := by
  unfold traceCall
  split <;> simp [Node.identifiers, identifiersAll, requestProbe, requestRuleTraceFunction,
    requestRuleTraceIntFunction]

theorem requestRuleNumber_some {node : Node F} {number : F}
    (isNumber : requestRuleNumber arith node = some number) :
    ∃ val, node = .literal val ∧ val.toFloat arith = some number := by
  unfold requestRuleNumber at isNumber
  split at isNumber
  · exact ⟨_, rfl, isNumber⟩
  · exact ⟨_, rfl, isNumber⟩
  · cases isNumber

variable [DecidableEq F]

theorem requestRule_some {ternary : Bool} {cond exp1 exp2 : Node F} {factor : F}
    (isRule : requestRule arith ternary cond exp1 exp2 = some factor) :
    ∃ val fallback, exp1 = .literal val ∧ exp2 = .literal fallback ∧
      val.toFloat arith = some factor ∧ fallback.toFloat arith = some (arith.ofInt 1) := by
  unfold requestRule at isRule
  split at isRule
  · cases isRule
  split at isRule
  next found fallbackFound =>
    split at isRule
    next isOne =>
      cases isRule
      subst isOne
      rcases requestRuleNumber_some found with ⟨val, isExp1, isFactor⟩
      rcases requestRuleNumber_some fallbackFound with ⟨fallback, isExp2, last⟩
      exact ⟨val, fallback, isExp1, isExp2, isFactor, last⟩
    · cases isRule
  · cases isRule

theorem visit_conditional (pass : RequestRulePatcher F) (ternary : Bool) (cond exp1 exp2 : Node F) :
    pass.visit arith print (.conditional ternary cond exp1 exp2) =
      match requestRule arith ternary cond exp1 exp2 with
      | none => (.conditional ternary cond exp1 exp2, pass)
      | some factor =>
        (traceCall pass.requestRules.length cond exp1 exp2 factor,
          { pass with
            requestRules :=
              pass.requestRules ++ [{ cond := print cond, multiplier := factor }] }) :=
  rfl

theorem requestRuleNumber_walk (node : Node F) (pass : RequestRulePatcher F) :
    requestRuleNumber arith (walk arith print node pass).1 = requestRuleNumber arith node := by
  cases node with
  | literal _ | identifier _ | unary _ _ | binary _ _ _ | call _ _ =>
    simp [walk, RequestRulePatcher.visit, requestRuleNumber]
  | conditional ternary cond exp1 exp2 =>
    simp only [walk, visit_conditional]
    split
    · rfl
    · simp only [traceCall]
      split <;> rfl

mutual

theorem identifiers_walk (node : Node F) (pass : RequestRulePatcher F) :
    (walk arith print node pass).1.identifiers.any requestProbe =
      node.identifiers.any requestProbe := by
  match node with
  | .literal _ | .identifier _ => rfl
  | .unary _ node => exact identifiers_walk node pass
  | .binary _ left right =>
    simp only [walk, RequestRulePatcher.visit, Node.identifiers, List.any_append,
      identifiers_walk left, identifiers_walk right]
  | .conditional ternary cond exp1 exp2 =>
    simp only [walk, visit_conditional]
    split
    · simp only [Node.identifiers, List.any_append, identifiers_walk cond,
        identifiers_walk exp1, identifiers_walk exp2]
    next isRule =>
      rcases requestRule_some isRule with ⟨val, fallback, isValue, last, _, _⟩
      have literals : exp1.identifiers.any requestProbe = false ∧
          exp2.identifiers.any requestProbe = false := by
        rw [← identifiers_walk exp1, isValue, ← identifiers_walk exp2, last]
        exact ⟨rfl, rfl⟩
      rw [traceCall_identifiers, identifiers_walk cond]
      simp only [Node.identifiers, List.any_append, literals, Bool.or_false]
  | .call callee args =>
    simp only [walk, RequestRulePatcher.visit, Node.identifiers, List.any_cons,
      identifiers_walkAll args]

theorem identifiers_walkAll (nodes : List (Node F)) (pass : RequestRulePatcher F) :
    (identifiersAll (walkAll arith print nodes pass).1).any requestProbe =
      (identifiersAll nodes).any requestProbe := by
  match nodes with
  | [] => rfl
  | node :: rest =>
    simp only [walkAll, identifiersAll, List.any_append, identifiers_walk node,
      identifiers_walkAll rest]

end

theorem requestRule_walk (ternary : Bool) (cond exp1 exp2 : Node F)
    (first two third : RequestRulePatcher F) :
    requestRule arith ternary (walk arith print cond first).1
        (walk arith print exp1 two).1 (walk arith print exp2 third).1 =
      requestRule arith ternary cond exp1 exp2 := by
  unfold requestRule usesRequestProbe
  rw [identifiers_walk, requestRuleNumber_walk, requestRuleNumber_walk]

theorem walk_conditional (ternary : Bool) (cond exp1 exp2 : Node F) (pass : RequestRulePatcher F) :
    walk arith print (.conditional ternary cond exp1 exp2) pass =
      let toCond := walk arith print cond pass
      match requestRule arith ternary cond exp1 exp2 with
      | none =>
        let toExp1 := walk arith print exp1 toCond.2
        let toExp2 := walk arith print exp2 toExp1.2
        (.conditional ternary toCond.1 toExp1.1 toExp2.1, toExp2.2)
      | some factor =>
        (traceCall toCond.2.requestRules.length toCond.1 exp1 exp2 factor,
          { toCond.2 with
            requestRules := toCond.2.requestRules ++
              [{ cond := print toCond.1, multiplier := factor }] }) := by
  simp only [walk, visit_conditional, requestRule_walk]
  split
  · rfl
  next isRule =>
    rcases requestRule_some isRule with ⟨val, fallback, rfl, rfl, _, _⟩
    rfl

/-- A trace records a rule with the text of its patched condition. -/
def Records (arith : Arithmetic F) (print : Node F → String) (trace : RequestRuleTrace F)
    (rule : Node F × F) : Prop :=
  trace.multiplier = rule.2 ∧ trace.matched = false ∧
    ∃ pass, trace.cond = print (walk arith print rule.1 pass).1

/-- The patcher that visited a tree with the given rules. -/
structure Visited (arith : Arithmetic F) (print : Node F → String)
    (rules : List (Node F × F)) (identifiers : List String)
    (pass after : RequestRulePatcher F) : Prop where
  recorded : ∃ traces, after.requestRules = pass.requestRules ++ traces ∧
    List.Forall₂ (Records arith print) traces rules
  restricts : after.restrictedIdentifier = "" →
    pass.restrictedIdentifier = "" ∧ ∀ name ∈ identifiers, restricted name = false

namespace Visited

variable {pass middle after : RequestRulePatcher F} {rules more : List (Node F × F)}
  {identifiers names : List String}

theorem refl (pass : RequestRulePatcher F) : Visited arith print [] [] pass pass where
  recorded := ⟨[], (List.append_nil _).symm, .nil⟩
  restricts isFree := ⟨isFree, by simp⟩

theorem trans (first : Visited arith print rules identifiers pass middle)
    (two : Visited arith print more names middle after) :
    Visited arith print (rules ++ more) (identifiers ++ names) pass after where
  recorded := by
    rcases first.recorded with ⟨traces, isMiddle, recorded⟩
    rcases two.recorded with ⟨others, isAfter, recordedMore⟩
    refine ⟨traces ++ others, ?_, List.rel_append recorded recordedMore⟩
    rw [isAfter, isMiddle, List.append_assoc]
  restricts isFree := by
    rcases two.restricts isFree with ⟨freeMiddle, freeNames⟩
    rcases first.restricts freeMiddle with ⟨freeBefore, freeIdentifiers⟩
    exact ⟨freeBefore, fun name isName =>
      (List.mem_append.mp isName).elim (freeIdentifiers name) (freeNames name)⟩

theorem length (seen : Visited arith print rules identifiers pass after) :
    after.requestRules.length = pass.requestRules.length + rules.length := by
  rcases seen.recorded with ⟨traces, isAfter, recorded⟩
  rw [isAfter, List.length_append, recorded.length_eq]

theorem identifier (name : String) (pass : RequestRulePatcher F) :
    Visited arith print [] [name] pass (pass.visit arith print (.identifier name)).2 where
  recorded := by
    refine ⟨[], ?_, .nil⟩
    simp only [RequestRulePatcher.visit, List.append_nil]
    split <;> rfl
  restricts isFree := by
    simp only [RequestRulePatcher.visit] at isFree
    split at isFree
    next isRestricted =>
      subst isFree
      cases isRestricted
    next isPlain => exact ⟨isFree, by simpa using isPlain⟩

end Visited

mutual

theorem walk_visited (node : Node F) (pass : RequestRulePatcher F) :
    Visited arith print (node.rules arith) node.identifiers pass
      (walk arith print node pass).2 := by
  match node with
  | .literal _ => exact .refl pass
  | .identifier name => exact .identifier name pass
  | .unary _ node => exact walk_visited node pass
  | .binary _ left right => exact (walk_visited left pass).trans (walk_visited right _)
  | .conditional ternary cond exp1 exp2 =>
    rw [walk_conditional]
    simp only [Node.rules, Node.identifiers]
    cases isRule : requestRule arith ternary cond exp1 exp2 with
    | none =>
      refine (walk_visited cond pass).trans ((walk_visited exp1 _).trans ?_)
      simpa using walk_visited exp2 _
    | some factor =>
      rcases requestRule_some isRule with ⟨val, fallback, rfl, rfl, _, _⟩
      refine (walk_visited cond pass).trans ⟨⟨_, rfl, ?_⟩, fun isFree => ⟨isFree, ?_⟩⟩
      · exact .cons ⟨rfl, rfl, pass, rfl⟩ .nil
      · simp [Node.identifiers]
  | .call callee args =>
    exact (Visited.identifier callee pass).trans (walkAll_visited args _)

theorem walkAll_visited (nodes : List (Node F)) (pass : RequestRulePatcher F) :
    Visited arith print (rulesAll arith nodes) (identifiersAll nodes) pass
      (walkAll arith print nodes pass).2 := by
  match nodes with
  | [] => exact .refl pass
  | node :: rest => exact (walk_visited node pass).trans (walkAll_visited rest _)

end

mutual

theorem walk_rules (node : Node F) (pass : RequestRulePatcher F) :
    (walk arith print node pass).1.rules arith = [] := by
  match node with
  | .literal _ | .identifier _ => rfl
  | .unary _ node => exact walk_rules node pass
  | .binary _ left right =>
    simp only [walk, RequestRulePatcher.visit, Node.rules, walk_rules left, walk_rules right,
      List.append_nil]
  | .conditional ternary cond exp1 exp2 =>
    rw [walk_conditional]
    cases isRule : requestRule arith ternary cond exp1 exp2 with
    | none =>
      simp only [Node.rules, requestRule_walk, isRule, walk_rules cond, walk_rules exp1,
        walk_rules exp2, Option.map_none, Option.toList_none, List.append_nil]
    | some factor =>
      rcases requestRule_some isRule with ⟨val, fallback, rfl, rfl, _, _⟩
      simp only [traceCall]
      split <;> simp [Node.rules, rulesAll, walk_rules cond]
  | .call _ args =>
    simp only [walk, RequestRulePatcher.visit, Node.rules, walkAll_rules args]

theorem walkAll_rules (nodes : List (Node F)) (pass : RequestRulePatcher F) :
    rulesAll arith (walkAll arith print nodes pass).1 = [] := by
  match nodes with
  | [] => rfl
  | node :: rest =>
    simp only [walkAll, rulesAll, walk_rules node, walkAll_rules rest, List.append_nil]

end

end Patched

/-! ## The kinds of values -/

def isFloat (kinds : List Kind) : Bool :=
  kinds.all fun kind => kind = .float

def isNumber (kinds : List Kind) : Bool :=
  kinds.all fun kind => kind = .int ∨ kind = .float

def BinaryOperator.resultKinds (op : BinaryOperator) (left right : List Kind) : List Kind :=
  match op with
  | .and | .or => .bool :: right
  | .add | .subtract | .multiply =>
    if isFloat left || isFloat right then [.float] else [.int, .float, .string]
  | .divide | .power => [.float]
  | .modulo => [.int]
  | _ => [.bool]

/-- The kinds that the value of a tree can have by its form. -/
def Node.kinds : Node F → List Kind
  | .literal val => [val.kind]
  | .identifier _ => [.float]
  | .unary .not _ => [.bool]
  | .unary _ node => node.kinds
  | .binary op left right => op.resultKinds left.kinds right.kinds
  | .conditional _ _ exp1 exp2 => exp1.kinds ++ exp2.kinds
  | .call callee _ => BillingExpr.resultKinds callee

/-- An operand of the operator counts as a float, whatever number it is, next to one of the
kinds. -/
def BinaryOperator.absorbs (op : BinaryOperator) (other : List Kind) : Bool :=
  match op with
  | .divide | .power => isNumber other
  | .add | .subtract | .multiply => isFloat other
  | _ => false

section Kinds

variable {arith : Arithmetic F} {env : Environment F}

theorem isFloat_false {kinds : List Kind} {kind : Kind} (inKinds : kind ∈ kinds)
    (other : kind ≠ .float) : isFloat kinds = false :=
  List.all_eq_false.mpr ⟨kind, inKinds, by simpa using other⟩

theorem Run.bind_ok {α β : Type} {run : Run F α} {next : α → Run F β} {reply : β} :
    (run.bind next).result = .ok reply ↔
      ∃ val, run.result = .ok val ∧ (next val).result = .ok reply := by
  unfold Run.bind
  cases run.result with
  | error _ => simp
  | ok val => simp

/-- The kind of what an operator gives. -/
theorem binaryValue_kind {op : BinaryOperator} {first two reply : Value F} {left right : List Kind}
    (plain : op.stops = none) (inLeft : first.kind ∈ left) (inRight : two.kind ∈ right)
    (gives : binaryValue arith env op first two = .ok reply) :
    reply.kind ∈ op.resultKinds left right := by
  unfold binaryValue at gives
  split at gives
  next compares =>
    cases isCompared : env.compare op first two with
    | error _ =>
      rw [isCompared] at gives
      cases gives
    | ok _ =>
      rw [isCompared] at gives
      cases gives
      cases op <;> first | exact List.mem_singleton.mpr rfl | cases compares
  split at gives
  · have notLeft := isFloat_false inLeft (by simp [Value.kind])
    have notRight := isFloat_false inRight (by simp [Value.kind])
    cases op <;> simp only [intBinary, reduceCtorEq] at gives
    case modulo =>
      split at gives
      · cases gives
      · cases gives
        exact List.mem_singleton.mpr rfl
    all_goals
      cases gives
      simp [BinaryOperator.resultKinds, notLeft, notRight, Value.kind]
  · have notLeft := isFloat_false inLeft (by simp [Value.kind])
    have notRight := isFloat_false inRight (by simp [Value.kind])
    split at gives
    next isAdd =>
      cases gives
      simp [isAdd, BinaryOperator.resultKinds, notLeft, notRight, Value.kind]
    · cases gives
  · split at gives
    next isFloat =>
      cases gives
      rcases Option.bind_eq_some_iff.mp isFloat with ⟨x, _, isRight⟩
      rcases Option.bind_eq_some_iff.mp isRight with ⟨y, _, isFloat⟩
      cases op <;> simp only [floatBinary, reduceCtorEq] at isFloat
      all_goals
        simp only [BinaryOperator.resultKinds]
        try split
        all_goals simp [Value.kind]
    · cases gives

theorem call_kind {callee : String} {args : List (Value F)} {reply : Value F}
    (gives : (call arith env callee args).result = .ok reply) :
    reply.kind ∈ resultKinds callee := by
  have others : ∀ {name : String}, restricted name = true → ∀ kind, kind ∈ resultKinds name := by
    intro name isRestricted kind
    rcases of_decide_eq_true isRestricted with rfl | rfl
    · cases kind <;> decide
    · cases kind <;> decide
  unfold call at gives
  split at gives
  next isTier =>
    split at gives
    · cases gives
      subst isTier
      exact (by decide : Kind.float ∈ resultKinds "tier")
    · cases gives
  split at gives
  next isTrace => exact others (by simp [restricted, isTrace]) _
  split at gives
  next isTrace => exact others (by simp [restricted, isTrace]) _
  · exact env.function_kind _ _ _ gives

theorem kind_mem [DecidableEq F] (node : Node F) (start : ℕ) {reply : Value F}
    (gives : (eval arith env start node).result = .ok reply) :
    reply.kind ∈ node.kinds := by
  match node with
  | .literal _ =>
    cases gives
    exact List.mem_singleton.mpr rfl
  | .identifier _ =>
    simp only [eval] at gives
    split at gives
    · cases gives
      exact List.mem_singleton.mpr rfl
    · cases gives
  | .unary op node =>
    rcases Run.bind_ok.mp gives with ⟨val, isValue, gives⟩
    have inKinds := kind_mem node start isValue
    simp only [unaryValue] at gives
    split at gives
    all_goals first
      | cases gives; exact inKinds
      | cases gives; exact List.mem_singleton.mpr rfl
      | cases gives
  | .binary op left right =>
    rcases Run.bind_ok.mp gives with ⟨val, isValue, gives⟩
    have inLeft := kind_mem left start isValue
    simp only at gives
    split at gives
    next plain =>
      rcases Run.bind_ok.mp gives with ⟨other, isOther, gives⟩
      exact binaryValue_kind plain inLeft (kind_mem right _ isOther) gives
    next stops =>
      have inResult : ∀ kind, kind ∈ Kind.bool :: right.kinds →
          kind ∈ (Node.binary op left right).kinds := by
        intro kind inKinds
        cases op <;> first | exact inKinds | cases stops
      split at gives
      · cases gives
        exact inResult _ List.mem_cons_self
      · exact inResult _ (List.mem_cons_of_mem _ (kind_mem right _ gives))
    · cases gives
  | .conditional _ cond exp1 exp2 =>
    rcases Run.bind_ok.mp gives with ⟨val, _, gives⟩
    simp only at gives
    split at gives
    · rcases Run.bind_ok.mp gives with ⟨_, _, gives⟩
      exact List.mem_append_left _ (kind_mem exp1 _ gives)
    · exact List.mem_append_right _ (kind_mem exp2 _ gives)
    · cases gives
  | .call callee args =>
    rcases Run.bind_ok.mp gives with ⟨vals, _, gives⟩
    exact call_kind gives

end Kinds

/-! ## The patched tree has the same run -/

mutual

/-- The rules of the tree have conditions of type `bool` by their form. A rule of an integer and a
float stands where only its number counts: `absorbed`, as the price, or next to an operand that
makes a float of it. -/
def keepsPrice [DecidableEq F] (arith : Arithmetic F) (absorbed : Bool) : Node F → Bool
  | .literal _ => true
  | .identifier _ => true
  | .unary _ node => keepsPrice arith false node
  | .binary op left right =>
    keepsPrice arith (op.absorbs right.kinds) left && keepsPrice arith (op.absorbs left.kinds) right
  | .conditional ternary cond exp1 exp2 =>
    keepsPrice arith false cond && keepsPrice arith absorbed exp1 &&
      keepsPrice arith absorbed exp2 &&
      ((requestRule arith ternary cond exp1 exp2).isNone ||
        cond.kinds.all (· = .bool) && (absorbed || exp1.kinds = exp2.kinds))
  | .call _ args => keepsPriceAll arith args

def keepsPriceAll [DecidableEq F] (arith : Arithmetic F) : List (Node F) → Bool
  | [] => true
  | node :: rest => keepsPrice arith false node && keepsPriceAll arith rest

end

/-- The value of the patched tree: where it is absorbed, an integer may have become a float. -/
def Promotes (arith : Arithmetic F) (absorbed : Bool) (val patched : Value F) : Prop :=
  patched = val ∨ absorbed = true ∧
    ∃ n, val = .int n ∧ patched = .float (arith.ofInt n)

/-- Two results are errors alike or values that are related. -/
inductive Agrees {α : Type} (related : α → α → Prop) :
    Except RunError α → Except RunError α → Prop
  | ok {val patched : α} (agree : related val patched) :
      Agrees related (.ok val) (.ok patched)
  | error (error : RunError) : Agrees related (.error error) (.error error)

theorem Agrees.mono {α : Type} {related other : α → α → Prop} {run patched : Except RunError α}
    (agrees : Agrees related run patched) (implies : ∀ val patched, related val patched →
      other val patched) : Agrees other run patched := by
  cases agrees with
  | ok agree => exact .ok (implies _ _ agree)
  | error error => exact .error error

/-- The run of a tree and the one of its patched tree, which marks the rules that were met. -/
structure Traces {α : Type} (related : α → α → Prop) (run patched : Run F α) : Prop where
  result : Agrees related run.result patched.result
  tiers : patched.tiers = run.tiers
  marks : patched.marks = run.met

section Traces

variable {arith : Arithmetic F} {env : Environment F}

theorem Traces.bind {α β : Type} {related : α → α → Prop} {other : β → β → Prop}
    {run patched : Run F α} {next patchedNext : α → Run F β} (first : Traces related run patched)
    (two : ∀ val reply, run.result = .ok val → related val reply →
      Traces other (next val) (patchedNext reply)) :
    Traces other (run.bind next) (patched.bind patchedNext) := by
  rcases run with ⟨result, tiers, marks, met⟩
  rcases patched with ⟨patchedResult, patchedTiers, patchedMarks, patchedMet⟩
  rcases first with ⟨agrees, isTiers, isMarks⟩
  simp only at agrees isTiers isMarks
  cases agrees with
  | error error => exact ⟨.error error, isTiers, isMarks⟩
  | ok agree =>
    have traces := two _ _ rfl agree
    refine ⟨traces.result, ?_, ?_⟩
    · simp only [Run.bind, isTiers, traces.tiers]
    · simp only [Run.bind, isMarks, traces.marks]

theorem Traces.same {absorbed : Bool} (result : Except RunError (Value F)) :
    Traces (F := F) (Promotes arith absorbed) { result } { result } := by
  refine ⟨?_, rfl, rfl⟩
  cases result with
  | error error => exact .error error
  | ok val => exact .ok (.inl rfl)

theorem absorbs_kind {op : BinaryOperator} {kinds : List Kind} {kind : Kind}
    (absorbs : op.absorbs kinds = true) (inKinds : kind ∈ kinds) :
    op.absorbs [kind] = true := by
  have single : ∀ {select : Kind → Bool}, kinds.all select = true →
      [kind].all select = true := by
    intro select all
    simpa using List.all_eq_true.mp all kind inKinds
  cases op <;> first | exact single absorbs | cases absorbs

theorem binaryValue_left {op : BinaryOperator} {n : ℤ} {right : Value F}
    (absorbs : op.absorbs [right.kind] = true) :
    binaryValue arith env op (.float (arith.ofInt n)) right =
      binaryValue arith env op (.int n) right := by
  cases op <;> cases right <;> first | rfl | cases absorbs

theorem binaryValue_right {op : BinaryOperator} {n : ℤ} {left : Value F}
    (absorbs : op.absorbs [left.kind] = true) :
    binaryValue arith env op left (.float (arith.ofInt n)) =
      binaryValue arith env op left (.int n) := by
  cases op <;> cases left <;> first | rfl | cases absorbs

theorem binaryValue_promoted {op : BinaryOperator} {first two left right : Value F}
    {leftKinds rightKinds : List Kind} (inLeft : first.kind ∈ leftKinds)
    (inRight : two.kind ∈ rightKinds)
    (promotesLeft : Promotes arith (op.absorbs rightKinds) first left)
    (promotesRight : Promotes arith (op.absorbs leftKinds) two right) :
    binaryValue arith env op left right = binaryValue arith env op first two := by
  rcases promotesRight with rfl | ⟨absorbs, n, rfl, rfl⟩
  · rcases promotesLeft with rfl | ⟨absorbs, m, rfl, rfl⟩
    · rfl
    · exact binaryValue_left (absorbs_kind absorbs inRight)
  · have absorbsInt := absorbs_kind absorbs inLeft
    rcases promotesLeft with rfl | ⟨absorbsLeft, m, rfl, rfl⟩
    · exact binaryValue_right absorbsInt
    · have absorbsFloat : op.absorbs [.float] = true := by
        cases op <;> first | rfl | cases absorbs
      rw [binaryValue_left absorbsFloat, binaryValue_right absorbsInt]

theorem call_traces {callee : String} {absorbed : Bool} (free : restricted callee = false)
    (args : List (Value F)) :
    Traces (Promotes arith absorbed) (call arith env callee args) (call arith env callee args) := by
  have plain : callee ≠ requestRuleTraceFunction ∧ callee ≠ requestRuleTraceIntFunction := by
    simpa [restricted] using free
  unfold call
  rw [if_neg plain.1, if_neg plain.2]
  split
  · split
    · exact ⟨.ok (.inl rfl), rfl, rfl⟩
    · exact .same _
  · exact .same _

/-- The run of the call that replaces a rule, after its condition. -/
def traceRun (arith : Arithmetic F) (env : Environment F) (ruleIndex : ℕ)
    (exp1 exp2 : Node F) (factor : F) (cond : Value F) : Run F (Value F) :=
  match exp1, exp2 with
  | .literal (.int val), .literal (.int _) =>
    call arith env requestRuleTraceIntFunction [.int ruleIndex, cond, .int val]
  | _, _ =>
    call arith env requestRuleTraceFunction [.int ruleIndex, cond, .float factor]

theorem call_trace (ruleIndex : ℕ) (cond : Bool) (factor : F) :
    call arith env requestRuleTraceFunction [.int ruleIndex, .bool cond, .float factor] =
      if cond then { result := .ok (.float factor), marks := [ruleIndex] }
      else .pure (.float (arith.ofInt 1)) := by
  unfold call
  rw [if_neg (by decide), if_pos rfl]
  simp only [env.boolArgument_bool, ruleMark, Int.natCast_nonneg, if_true, Int.toNat_natCast]
  cases cond <;> rfl

theorem call_traceInt (ruleIndex : ℕ) (cond : Bool) (factor : ℤ) :
    call arith env requestRuleTraceIntFunction [.int ruleIndex, .bool cond, .int factor] =
      if cond then { result := .ok (.int factor), marks := [ruleIndex] }
      else .pure (.int 1) := by
  unfold call
  rw [if_neg (by decide), if_neg (by decide), if_pos rfl]
  simp only [env.boolArgument_bool, ruleMark, Int.natCast_nonneg, if_true, Int.toNat_natCast]
  cases cond <;> rfl

/-- The call returns what the ternary returns, but a float where the two differ in type. -/
theorem traceRun_traces {absorbed cond : Bool} {val fallback : Value F} {factor : F}
    (isFactor : val.toFloat arith = some factor)
    (last : fallback.toFloat arith = some (arith.ofInt 1))
    (kept : (absorbed || decide ([val.kind] = [fallback.kind])) = true) (i : ℕ) :
    Traces (Promotes arith absorbed)
      (if cond then { result := .ok val, met := [i] } else .pure fallback)
      (traceRun arith env i (.literal val) (.literal fallback) factor (.bool cond)) := by
  have mixed : val.kind ≠ fallback.kind → absorbed = true := by
    intro differ
    simpa [differ] using kept
  have equal : ∀ {result : Value F} {met : List ℕ}, Traces (F := F) (Promotes arith absorbed)
      { result := .ok result, met } { result := .ok result, marks := met } :=
    ⟨.ok (.inl rfl), rfl, rfl⟩
  have promoted : ∀ {n : ℤ} {met : List ℕ}, absorbed = true →
      Traces (F := F) (Promotes arith absorbed) { result := .ok (.int n), met }
        { result := .ok (.float (arith.ofInt n)), marks := met } := fun isAbsorbed =>
    ⟨.ok (.inr ⟨isAbsorbed, _, rfl, rfl⟩), rfl, rfl⟩
  cases val with
  | bool _ | string _ | composite _ | nil => cases isFactor
  | int n =>
    cases isFactor
    cases fallback with
    | bool _ | string _ | composite _ | nil => cases last
    | int one =>
      rw [arith.ofInt_one one (Option.some.inj last), traceRun, call_traceInt]
      cases cond
      · exact equal
      · exact equal
    | float one =>
      cases last
      rw [traceRun, call_trace]
      · cases cond
        · exact equal
        · exact promoted (mixed (by simp [Value.kind]))
      · simp
  | float x =>
    cases isFactor
    rw [traceRun, call_trace]
    · cases fallback with
      | bool _ | string _ | composite _ | nil => cases last
      | int one =>
        rw [arith.ofInt_one one (Option.some.inj last)]
        cases cond
        · exact promoted (mixed (by simp [Value.kind]))
        · exact equal
      | float one =>
        cases last
        cases cond
        · exact equal
        · exact equal
    · simp

theorem Run.bind_assoc {α β γ : Type} (run : Run F α) (next : α → Run F β) (last : β → Run F γ) :
    (run.bind next).bind last = run.bind fun val => (next val).bind last := by
  unfold Run.bind
  cases run.result with
  | error _ => rfl
  | ok val =>
    cases isNext : (next val).result with
    | error _ => simp only [isNext]
    | ok _ => simp only [isNext, List.append_assoc]

theorem eval_traceCall [DecidableEq F] (start ruleIndex : ℕ) (cond exp1 exp2 : Node F)
    (factor : F) :
    eval arith env start (traceCall ruleIndex cond exp1 exp2 factor) =
      (eval arith env start cond).bind (traceRun arith env ruleIndex exp1 exp2 factor) := by
  have calls : ∀ (callee : String) (last : Node F) (val : Value F), last = .literal val →
      eval arith env start (.call callee [.literal (.int ruleIndex), cond, last]) =
        (eval arith env start cond).bind fun condition =>
          call arith env callee [.int ruleIndex, condition, val] := by
    rintro callee _ val rfl
    simp only [eval, evalAll, Run.bind_assoc, Node.rules, List.length_nil, Nat.add_zero]
    rfl
  unfold traceCall
  split
  · exact calls _ _ _ rfl
  next apart =>
    rw [calls _ _ _ rfl]
    congr 1
    funext condition
    unfold traceRun
    split
    · exact absurd rfl (apart _ _ rfl)
    · rfl

theorem Promotes.eq {val patched : Value F} (promotes : Promotes arith false val patched) :
    patched = val := by
  rcases promotes with isValue | ⟨absorbed, _⟩
  · exact isValue
  · cases absorbed

theorem Agrees.price {run patched : Except RunError (Value F)}
    (agrees : Agrees (Promotes arith true) run patched) :
    patched.bind (asFloat64 arith) = run.bind (asFloat64 arith) := by
  cases agrees with
  | error _ => rfl
  | ok promotes =>
    rcases promotes with rfl | ⟨_, n, rfl, rfl⟩
    · rfl
    · rfl

variable [DecidableEq F] {print : Node F → String}

theorem binary_traces {op : BinaryOperator} {left right patchedLeft patchedRight : Node F}
    {start middle other after : ℕ} (first : Traces (Promotes arith (op.absorbs right.kinds))
      (eval arith env start left) (eval arith env other patchedLeft))
    (two : Traces (Promotes arith (op.absorbs left.kinds))
      (eval arith env middle right) (eval arith env after patchedRight))
    (isMiddle : middle = start + (left.rules arith).length)
    (isAfter : after = other + (patchedLeft.rules arith).length) (absorbed : Bool) :
    Traces (Promotes arith absorbed) (eval arith env start (.binary op left right))
      (eval arith env other (.binary op patchedLeft patchedRight)) := by
  subst isMiddle isAfter
  refine first.bind ?_
  intro val patched isValue promotes
  cases stops : op.stops with
  | none =>
    refine two.bind ?_
    intro reply patchedAnswer gives promotesAnswer
    rw [binaryValue_promoted (kind_mem left _ isValue) (kind_mem right _ gives) promotes
      promotesAnswer]
    exact .same _
  | some stop =>
    have strict : ∀ kinds, op.absorbs kinds = false := by
      intro kinds
      cases op <;> first | rfl | cases stops
    rw [strict] at promotes two
    rw [promotes.eq]
    cases val with
    | bool reply =>
      simp only
      split
      · exact .same _
      · exact ⟨two.result.mono fun _ _ same => .inl same.eq, two.tiers, two.marks⟩
    | int _ | float _ | string _ | composite _ | nil => exact .same _

mutual

/-- A walked tree runs like the tree, and marks the rules that were met. -/
theorem walk_traces (node : Node F) (absorbed : Bool) (pass : RequestRulePatcher F) (other : ℕ)
    (free : ∀ name ∈ node.identifiers, restricted name = false)
    (kept : keepsPrice arith absorbed node = true) :
    Traces (Promotes arith absorbed) (eval arith env pass.requestRules.length node)
      (eval arith env other (walk arith print node pass).1) := by
  match node with
  | .literal val => exact .same _
  | .identifier name =>
    simp only [walk, RequestRulePatcher.visit, eval]
    split
    · exact .same _
    · exact .same _
  | .unary op node =>
    refine (walk_traces node false pass other free kept).bind ?_
    intro val patched _ promotes
    rw [promotes.eq]
    exact .same _
  | .binary op left right =>
    simp only [keepsPrice, Bool.and_eq_true] at kept
    simp only [Node.identifiers, List.mem_append] at free
    have seen : Visited arith print _ _ pass _ := walk_visited left pass
    exact binary_traces
      (walk_traces left _ pass other (fun name inLeft => free name (.inl inLeft)) kept.1)
      (walk_traces right _ _ _ (fun name inRight => free name (.inr inRight)) kept.2)
      seen.length rfl absorbed
  | .conditional ternary cond exp1 exp2 =>
    simp only [keepsPrice, Bool.and_eq_true] at kept
    simp only [Node.identifiers, List.mem_append] at free
    rcases kept with ⟨⟨⟨keptCond, keptExp1⟩, keptExp2⟩, keptRule⟩
    have seen : Visited arith print _ _ pass _ := walk_visited cond pass
    have condTraces := walk_traces cond false pass other
      (fun name inCond => free name (.inl inCond)) keptCond
    rw [walk_conditional]
    cases isRule : requestRule arith ternary cond exp1 exp2 with
    | none =>
      have visitedExp1 : Visited arith print _ _ (walk arith print cond pass).2 _ :=
        walk_visited exp1 _
      have exp1Traces := fun other => walk_traces exp1 absorbed (walk arith print cond pass).2 other
        (fun name inExp1 => free name (.inr (.inl inExp1))) keptExp1
      have exp2Traces := fun other => walk_traces exp2 absorbed
        (walk arith print exp1 (walk arith print cond pass).2).2 other
        (fun name inExp2 => free name (.inr (.inr inExp2))) keptExp2
      rw [visitedExp1.length] at exp2Traces
      rw [seen.length] at exp1Traces exp2Traces
      refine condTraces.bind ?_
      intro val patched _ promotes
      rw [promotes.eq]
      cases val with
      | bool condition =>
        cases condition with
        | true =>
          simp only [isRule, requestRule_walk]
          have unmet : Traces (fun _ _ => True) ({ result := .ok () } : Run F Unit)
            { result := .ok () } := ⟨.ok trivial, rfl, rfl⟩
          exact unmet.bind fun _ _ _ _ => exp1Traces _
        | false => exact exp2Traces _
      | int _ | float _ | string _ | composite _ | nil => exact .same _
    | some factor =>
      rcases requestRule_some isRule with ⟨val, fallback, rfl, rfl, isFactor, last⟩
      simp only [isRule, Option.isNone_some, Bool.false_or, Bool.and_eq_true] at keptRule
      simp only [eval_traceCall]
      refine condTraces.bind ?_
      intro reply patched gives promotes
      rw [promotes.eq]
      have isBool : reply.kind = .bool :=
        of_decide_eq_true (List.all_eq_true.mp keptRule.1 _ (kind_mem cond _ gives))
      cases reply with
      | int _ | float _ | string _ | composite _ | nil => cases isBool
      | bool condition =>
        have traces : Traces (Promotes arith absorbed)
            (if condition then { result := .ok val, met := [_] } else .pure fallback)
            (traceRun arith env _ _ _ factor (.bool condition)) :=
          traceRun_traces isFactor last keptRule.2
            (walk arith print cond pass).2.requestRules.length
        rw [seen.length] at traces ⊢
        simp only [isRule]
        cases condition with
        | true => exact traces
        | false => exact traces
  | .call callee args =>
    simp only [Node.identifiers, List.mem_cons] at free
    have unchanged : (pass.visit arith print (.identifier callee)).2 = pass := by
      simp only [RequestRulePatcher.visit, free callee (.inl rfl)]
      rfl
    simp only [walk, unchanged]
    refine (walkAll_traces args pass other (fun name inArguments => free name
      (.inr inArguments)) kept).bind ?_
    rintro _ vals _ rfl
    exact call_traces (free callee (.inl rfl)) vals

theorem walkAll_traces (nodes : List (Node F)) (pass : RequestRulePatcher F) (other : ℕ)
    (free : ∀ name ∈ identifiersAll nodes, restricted name = false)
    (kept : keepsPriceAll arith nodes = true) :
    Traces (fun vals patched => patched = vals) (evalAll arith env pass.requestRules.length nodes)
      (evalAll arith env other (walkAll arith print nodes pass).1) := by
  match nodes with
  | [] => exact ⟨.ok rfl, rfl, rfl⟩
  | node :: rest =>
    simp only [keepsPriceAll, Bool.and_eq_true] at kept
    simp only [identifiersAll, List.mem_append] at free
    have seen : Visited arith print _ _ pass _ := walk_visited node pass
    have restTraces := walkAll_traces rest (walk arith print node pass).2
      (other + ((walk arith print node pass).1.rules arith).length)
      (fun name isIn => free name (.inr isIn)) kept.2
    rw [seen.length] at restTraces
    refine (walk_traces node false pass other (fun name inNode => free name (.inl inNode))
      kept.1).bind ?_
    intro val patched _ promotes
    rw [promotes.eq]
    refine restTraces.bind ?_
    rintro vals _ _ rfl
    exact ⟨.ok rfl, rfl, rfl⟩

end

end Traces

/-! ## Tracing keeps the price -/

section Price

variable [DecidableEq F] (arith : Arithmetic F) (env : Environment F) (print : Node F → String)

/-- What tracing promises of a tree and its compiled entry. -/
structure TracingKeepsPrice (node : Node F) (entry : Node F × List (RequestRuleTrace F)) :
    Prop where
  price : (runProgram arith env entry.1 entry.2).1 = (runProgram arith env node []).1
  recorded : List.Forall₂ (Records arith print) entry.2 (node.rules arith)
  replaced : entry.1.rules arith = []
  tier : (runProgram arith env entry.1 entry.2).2.matchedTier =
    (runProgram arith env node []).2.matchedTier
  cost : (runProgram arith env entry.1 entry.2).2.cost = (runProgram arith env node []).2.cost
  matched : ∀ i rule, (runProgram arith env entry.1 entry.2).2.requestRules[i]? = some rule →
      (rule.matched = true ↔ i ∈ (eval arith env 0 node).met)

variable {arith env print}

theorem unmatched_of_records {traces : List (RequestRuleTrace F)} {rules : List (Node F × F)}
    (recorded : List.Forall₂ (Records arith print) traces rules) :
    ∀ trace ∈ traces, trace.matched = false := by
  induction recorded with
  | nil => simp
  | cons records _ ih =>
    intro trace inTraces
    rcases List.mem_cons.mp inTraces with rfl | isIn
    · exact records.2.1
    · exact ih trace isIn

/-- A tree that keeps its price costs the same with its rules traced. -/
theorem tracing_keeps_price {node : Node F} {entry : Node F × List (RequestRuleTrace F)}
    (compiled : compileEntry arith print node = some entry)
    (kept : keepsPrice arith true node = true) :
    TracingKeepsPrice arith env print node entry := by
  have visited : Visited arith print _ _ {} _ := walk_visited node {}
  simp only [compileEntry] at compiled
  split at compiled
  · cases compiled
  next free =>
    cases compiled
    have traces : Traces (Promotes arith true) (eval arith env 0 node)
        (eval arith env 0 (walk arith print node {}).1) :=
      walk_traces node true {} 0 (visited.restricts (not_not.mp free)).2 kept
    have recorded : List.Forall₂ (Records arith print)
        (walk arith print node {}).2.requestRules (node.rules arith) := by
      rcases visited.recorded with ⟨_, isAfter, recorded⟩
      rw [isAfter]
      exact recorded
    refine ⟨traces.result.price, recorded, walk_rules node {}, ?_, ?_, ?_⟩
    · simp only [runProgram, traces.tiers]
    · simp only [runProgram, traces.tiers]
    · intro i rule isRule
      simp only [runProgram, List.getElem?_mapIdx, Option.map_eq_some_iff, traces.marks] at isRule
      rcases isRule with ⟨trace, isTrace, rfl⟩
      have unmatched := unmatched_of_records recorded trace (List.mem_of_getElem? isTrace)
      split
      next met => simp [met]
      next unmet => simp [unmet, unmatched]

end Price

/-! ## A rule of an integer and a float -/

/-- The exact arithmetic, with integral exponents. -/
def ratArithmetic : Arithmetic ℚ where
  ofInt n := n
  neg x := -x
  add x y := x + y
  sub x y := x - y
  mul x y := x * y
  div x y := x / y
  pow x y := x ^ y.num.toNat
  ofInt_one _ same := Int.cast_injective same

/-- A request of a service tier. -/
def tierEnvironment (serviceTier : String) : Environment ℚ where
  tokens name := if name = "p" then some 10 else none
  function name args :=
    if name = "param" ∧ args = [.string "service_tier"] then .ok (.string serviceTier)
    else .error (.call name)
  function_kind name args val isValue := by
    split at isValue
    next isParam =>
      cases isValue
      rw [isParam.1]
      exact (by decide : Kind.string ∈ resultKinds "param")
    · cases isValue
  compare op left right :=
    match op with
    | .equal => .ok (left = right)
    | _ => .error (.operator op left.kind right.kind)
  tierArguments
    | [.string name, .float val] => .ok (name, val)
    | _ => .error (.call "tier")
  boolArgument
    | .bool val => .ok val
    | val => .error (.notBool val.kind)
  boolArgument_bool _ := rfl

/-- `param("service_tier") == "fast" ? 2.5 : 1`. -/
def fastRule : Node ℚ :=
  .conditional true (.binary .equal (.call "param" [.literal (.string "service_tier")])
      (.literal (.string "fast")))
    (.literal (.float (5 / 2))) (.literal (.int 1))

theorem tracing_keeps_price_fast : ∃ entry,
    compileEntry ratArithmetic (fun _ => "") (.binary .multiply (.identifier "p") fastRule) =
        some entry ∧
      TracingKeepsPrice ratArithmetic (tierEnvironment "fast") (fun _ => "")
        (.binary .multiply (.identifier "p") fastRule) entry :=
  ⟨_, rfl, tracing_keeps_price rfl (by decide)⟩

/-- `5 % (param("service_tier") == "fast" ? 2.5 : 1)` has no price when it is traced. -/
theorem modulo_price_lost : ¬∀ node entry,
    compileEntry ratArithmetic (fun _ => "") node = some entry →
      TracingKeepsPrice ratArithmetic (tierEnvironment "standard") (fun _ => "") node entry := by
  intro keeps
  have price :=
    (keeps (.binary .modulo (.literal (.int 5)) fastRule) _ rfl).price
  have traced : (runProgram ratArithmetic (tierEnvironment "standard")
      (walk ratArithmetic (fun _ => "") (.binary .modulo (.literal (.int 5)) fastRule) {}).1
      []).1 = .error (.operator .modulo .int .float) := rfl
  have plain : (runProgram ratArithmetic (tierEnvironment "standard")
      (.binary .modulo (.literal (.int 5)) fastRule) []).1 = .ok 0 := rfl
  rw [plain] at price
  exact absurd (traced.symm.trans price) (by simp)

end NewApi.BillingExpr
