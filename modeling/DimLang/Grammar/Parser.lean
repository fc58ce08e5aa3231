import DimLang.Grammar.Assembly
import DimLang.Grammar.Rule

/-!
# Parsing

The parser works on two stacks. The pending stack holds the symbols that are still to be parsed
and, below the symbols of an expanded production, the order to assemble it; the finished stack
holds the nodes of what is parsed. Nothing is read ahead of the window of two tokens.

- `ParseState.step` is one action of the parser
- `ParseState.run` acts until nothing is pending; it ends because every action consumes a token,
  consumes the end of the input, or brings the next leaf closer
- `parseAs` parses a token list as a symbol, and `parse` as a program
-/

namespace DimLang

/-- What is still to be done. -/
inductive Pending
  | symbol (symbol : Symbol)
  /-- The children of the production are on top of the finished stack. -/
  | reduce (production : Production)
deriving DecidableEq, Repr

/-- The tokens that are left and the two stacks, tops first. -/
structure ParseState where
  rest : List Token
  pending : List Pending
  finished : List Node

/-- The tokens under the cursor; behind the last token, and only there, stands the end of the
input on the given line. -/
def windowAt (endLine : Nat) : List Token → Window
  | [] => ⟨.atEnd endLine, .atEnd endLine⟩
  | [last] => ⟨last, .atEnd endLine⟩
  | current :: next :: _ => ⟨current, next⟩

/-- The line of the end of the input: that of the last token. -/
def endLine (tokens : List Token) : Nat :=
  match tokens.getLast? with
  | some token => token.line
  | none => 1

namespace ParseState

/-- Parses the symbol on top of the pending stack, or expands it. -/
def feed (endLine : Nat) (rest : List Token) (symbol : Symbol) (pending : List Pending)
    (finished : List Node) : Except ParseError ParseState :=
  let window := windowAt endLine rest
  match symbol.rule.feed symbol window with
  | .error error => .error error
  | .ok .consumed => .ok ⟨rest.tail, pending, .ofToken window.current :: finished⟩
  | .ok (.expand production) =>
    .ok ⟨rest, production.rhs.map .symbol ++ .reduce production :: pending, finished⟩

/-- Assembles the children on top of the finished stack. -/
def reduce (endLine : Nat) (rest : List Token) (production : Production) (pending : List Pending)
    (finished : List Node) : Except ParseError ParseState :=
  let line := (windowAt endLine rest).current.line
  let arity := production.rhs.length
  let children := (finished.take arity).reverse
  if children.length < arity then .error (.malformed production "too few children" line)
  else
    match production.assemble children with
    | .error mismatch => .error (.malformed production mismatch.found line)
    | .ok node => .ok ⟨rest, pending, node :: finished.drop arity⟩

/-- Does what is on top of the pending stack. -/
def step (endLine : Nat) (rest : List Token) (finished : List Node) (pending : List Pending) :
    Pending → Except ParseError ParseState
  | .symbol symbol => feed endLine rest symbol pending finished
  | .reduce production => reduce endLine rest production pending finished

end ParseState

/-! ## Termination -/

/-- An upper bound for the actions between a symbol and its first leaf. -/
def Symbol.rank : Symbol → Nat
  | leaf _ => 0
  | number => 2
  | factor => 4
  | addend => 8
  | operand => 12
  | expression => 16
  | expressionList => 20
  | declaration => 4
  | statement => 4
  | statementList => 8
  | programItem => 6
  | program => 10
  | _ => 2

namespace Pending

/-- Whether the entry waits for the end of the input. -/
def awaitsEnd (pending : Pending) : Bool :=
  pending = symbol (.leaf .eof)

/-- An upper bound for the actions up to the first pending leaf. -/
def distance : List Pending → Nat
  | [] => 0
  | symbol (.leaf _) :: _ => 0
  | symbol notion :: rest => notion.rank + distance rest
  | reduce _ :: rest => 1 + distance rest

/-- The distance of an agenda is at most that of its parts together. -/
theorem distance_append_le (front back : List Pending) :
    distance (front ++ back) ≤ distance front + distance back := by
  induction front with
  | nil => exact Nat.le_add_left _ _
  | cons head front ih =>
    cases head with
    | symbol symbol => cases symbol <;> simp only [List.cons_append, distance] <;> omega
    | reduce production => simp only [List.cons_append, distance]; omega

end Pending

/-- Expanding a symbol brings the next leaf closer, whichever production is chosen. -/
theorem Symbol.distance_rhs_lt_rank {symbol : Symbol} {production : Production}
    (h : production ∈ symbol.rule.productions) :
    Pending.distance (production.rhs.map .symbol ++ [.reduce production]) < symbol.rank := by
  have bound : ∀ production ∈ symbol.rule.productions,
      Pending.distance (production.rhs.map .symbol ++ [.reduce production]) < symbol.rank := by
    cases symbol with
    | leaf kind => simp [Symbol.rule, Rule.productions]
    | _ => decide
  exact bound production h

/-- No production waits for the end of the input. -/
theorem Production.not_awaitsEnd_rhs (production : Production) :
    (production.rhs.map Pending.symbol).countP Pending.awaitsEnd = 0 := by
  cases production <;> decide

/-- Only the symbol of the current kind consumes the current token. -/
theorem Symbol.eq_leaf_of_consumed {symbol : Symbol} {window : Window}
    (h : symbol.rule.feed symbol window = .ok .consumed) : symbol = .leaf window.current.kind := by
  have leaf := Rule.eq_leaf_of_feed_consumed h
  cases symbol with
  | leaf kind => rw [Rule.leaf.inj leaf]
  | _ => cases leaf

namespace ParseState

/-- Expanding a symbol brings the agenda closer to the next token. -/
theorem distance_expand_lt {endLine : Nat} {rest : List Token} {symbol : Symbol}
    {production : Production} (pending : List Pending)
    (h : symbol.rule.feed symbol (windowAt endLine rest) = .ok (.expand production)) :
    Pending.distance (production.rhs.map .symbol ++ .reduce production :: pending)
      < Pending.distance (.symbol symbol :: pending) := by
  have closer := Symbol.distance_rhs_lt_rank (Rule.mem_productions_of_feed h)
  have split := Pending.distance_append_le
    (production.rhs.map .symbol ++ [.reduce production]) pending
  rw [List.append_assoc, List.singleton_append] at split
  cases symbol with
  | leaf kind => exact absurd closer (Nat.not_lt_zero _)
  | _ => simp only [Pending.distance]; omega

/-- Every action decreases the tokens that are left, or else the ends of the input that are
awaited, or else the distance to the next leaf. -/
theorem step_decreases {endLine : Nat} {rest : List Token} {finished : List Node}
    {pending : List Pending} {work : Pending} {next : ParseState}
    (h : step endLine rest finished pending work = .ok next) :
    Prod.Lex (· < ·) (Prod.Lex (· < ·) (· < ·))
      (next.rest.length, next.pending.countP Pending.awaitsEnd, Pending.distance next.pending)
      (rest.length, (work :: pending).countP Pending.awaitsEnd,
        Pending.distance (work :: pending)) := by
  cases work with
  | reduce production =>
    rw [step, reduce] at h
    split at h
    · cases h
    · split at h
      · cases h
      · cases h
        rw [List.countP_cons_of_neg (by simp [Pending.awaitsEnd])]
        exact .right _ (.right _ (by simp only [Pending.distance]; omega))
  | symbol symbol =>
    rw [step, feed] at h
    split at h
    · cases h
    · rename_i consumed
      cases h
      cases rest with
      | nil =>
        have awaited : symbol = .leaf .eof := Symbol.eq_leaf_of_consumed consumed
        subst awaited
        exact .right _ (.left _ _ (by simp [Pending.awaitsEnd]))
      | cons token rest => exact .left _ _ (Nat.lt_succ_self _)
    · rename_i production expanded
      cases h
      have closer := distance_expand_lt pending expanded
      have same : (production.rhs.map Pending.symbol ++ .reduce production :: pending).countP
          Pending.awaitsEnd = pending.countP Pending.awaitsEnd := by
        rw [List.countP_append, production.not_awaitsEnd_rhs,
          List.countP_cons_of_neg (by simp [Pending.awaitsEnd]), Nat.zero_add]
      rw [same]
      by_cases awaits : Pending.awaitsEnd (.symbol symbol) = true
      · rw [List.countP_cons_of_pos awaits]
        exact .right _ (.left _ _ (Nat.lt_succ_self _))
      · rw [List.countP_cons_of_neg awaits]
        exact .right _ (.right _ closer)

/-- Acts until nothing is pending. -/
def run (endLine : Nat) (rest : List Token) (finished : List Node) :
    List Pending → Except ParseError ParseState
  | [] => .ok ⟨rest, [], finished⟩
  | work :: pending =>
    match _ : step endLine rest finished pending work with
    | .error error => .error error
    | .ok next => run endLine next.rest next.finished next.pending
termination_by pending =>
  (rest.length, pending.countP Pending.awaitsEnd, Pending.distance pending)
decreasing_by exact step_decreases (by assumption)

end ParseState

/-- The node of the whole token list, parsed as the symbol. -/
def parseAs (root : Symbol) (tokens : List Token) : Except ParseError Node :=
  match ParseState.run (endLine tokens) tokens [] [.symbol root] with
  | .error error => .error error
  | .ok last =>
    let current := (windowAt (endLine tokens) last.rest).current
    if current.kind ≠ .eof then .error (.trailingInput current.shown current.line)
    else
      match last.finished with
      | [node] => .ok node
      | _ => .error (.malformed .program "a detached subtree" current.line)

/-- The program of the token list. -/
def parse (tokens : List Token) : Except ParseError Program :=
  match parseAs .program tokens with
  | .error error => .error error
  | .ok (.program program) => .ok program
  | .ok other => .error (.malformed .program other.name (endLine tokens))

end DimLang
