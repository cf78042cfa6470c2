import RowGuard.Proofs.Sql.Token

/-!
# Expressions of a statement

An expression is read from its tokens with the operators bound as a database binds them: `OR`
loosest, then `AND`, `NOT`, `IS DISTINCT FROM`, `=` and `->`, and a cast tightest. Operators of one
strength group to the left, but `=` and `IS DISTINCT FROM` do not chain at all.

* `read`: the expression of a row of tokens
* `readFrom_congr`: before a token that ends an expression, only what the token leaves counts
-/

set_option autoImplicit false

namespace RowGuard.Sql

/-- **An expression.** -/
inductive Expr where
  | const (b : Bool)
  | column (name : String)
  /-- The value bound to a placeholder. -/
  | param (n : Nat)
  | cast (e : Expr) (type : String)
  | binary (op : Operator) (left right : Expr)
  | not (e : Expr)
  | call (f : String) (args : List Expr)

/-- How strongly an operator binds. -/
def Operator.strength : Operator → Nat
  | or => 1
  | and => 2
  | distinct => 4
  | equal => 5
  | arrow => 6

/-- How strongly `NOT` binds. -/
def notStrength : Nat := 3

/-- Whether operators of one kind may follow one another without parentheses. -/
def Operator.chains : Operator → Bool
  | equal | distinct => false
  | _ => true

/-- What is open to the left of an operand. -/
inductive Frame where
  /-- An operator with its left operand. -/
  | left (op : Operator) (e : Expr)
  | not
  | paren
  /-- A call with the arguments before. -/
  | call (f : String) (args : List Expr)

/-- **An operand with the frames that bind it** more strongly than strength `p` does; none if an
operator would have to chain that does not. -/
def reduce (p : Nat) (e : Expr) : List Frame → Option (Expr × List Frame)
  | .left op l :: fs =>
    if p < op.strength ∨ (p = op.strength ∧ op.chains = true) then reduce p (.binary op l e) fs
    -- as in `a = b = c`, which says nothing
    else if p = op.strength then none
    else some (e, .left op l :: fs)
  | .not :: fs => if p < notStrength then reduce p (.not e) fs else some (e, .not :: fs)
  | fs => some (e, fs)

/-- **The expression of a row of tokens**, read with frames to the left and perhaps an operand just
before. -/
def readFrom : List Token → Option Expr → List Frame → Option Expr
  | .not :: ts, none, fs => readFrom ts none (.not :: fs)
  | .lparen :: ts, none, fs => readFrom ts none (.paren :: fs)
  -- a name before a parenthesis is that of a function
  | .name f :: .lparen :: ts, none, fs => readFrom ts none (.call f [] :: fs)
  | .name c :: ts, none, fs => readFrom ts (some (.column c)) fs
  | .param n :: ts, none, fs => readFrom ts (some (.param n)) fs
  | .const b :: ts, none, fs => readFrom ts (some (.const b)) fs
  -- a cast takes the operand before any operator to the left can
  | .cast :: .name t :: ts, some e, fs => readFrom ts (some (.cast e t)) fs
  | .operator op :: ts, some e, fs =>
    match reduce op.strength e fs with
    | some (l, fs') => readFrom ts none (.left op l :: fs')
    | none => none
  | .is :: .distinct :: .from :: ts, some e, fs =>
    match reduce Operator.distinct.strength e fs with
    | some (l, fs') => readFrom ts none (.left .distinct l :: fs')
    | none => none
  | .comma :: ts, some e, fs =>
    match reduce 0 e fs with
    | some (a, .call f args :: fs') => readFrom ts none (.call f (args ++ [a]) :: fs')
    | _ => none
  | .rparen :: ts, some e, fs =>
    match reduce 0 e fs with
    | some (a, .paren :: fs') => readFrom ts (some a) fs'
    | some (a, .call f args :: fs') => readFrom ts (some (.call f (args ++ [a]))) fs'
    | _ => none
  | [], some e, fs =>
    match reduce 0 e fs with
    | some (a, []) => some a
    | _ => none
  | _, _, _ => none

/-- The expression of a row of tokens. -/
def read (ts : List Token) : Option Expr := readFrom ts none []

-- a disjunction without parentheses takes apart what stands before it
example : read (lex "model = $1 AND a OR NOT b = $2".toList) =
    some (.binary .or
      (.binary .and (.binary .equal (.column "model") (.param 1)) (.column "a"))
      (.not (.binary .equal (.column "b") (.param 2)))) := rfl

/-! ## What ends an expression -/

/-- How strongly the next token binds what stands before it, if it is one that may follow a
condition. -/
def level : List Token → Option Nat
  | [] | .rparen :: _ | .comma :: _ => some 0
  | .operator .or :: _ => some Operator.or.strength
  | .operator .and :: _ => some Operator.and.strength
  | _ => none

theorem readFrom_distinct {e l : Expr} {fs fs' : List Frame}
    (h : reduce Operator.distinct.strength e fs = some (l, fs')) (ts : List Token) :
    readFrom (.is :: .distinct :: .from :: ts) (some e) fs =
      readFrom ts none (.left .distinct l :: fs') := by
  rw [readFrom, h]

theorem level_le {ts : List Token} {p : Nat} (h : level ts = some p) :
    p ≤ Operator.and.strength := by
  unfold level at h
  split at h <;> cases h <;> decide

/-- **What a token sees of the text before it** is what is left when all that binds more strongly is
put together. -/
theorem readFrom_congr {ts : List Token} {p : Nat} (hts : level ts = some p) {e e' : Expr}
    {fs fs' : List Frame} (h : reduce p e fs = reduce p e' fs') :
    readFrom ts (some e) fs = readFrom ts (some e') fs' := by
  unfold level at hts
  split at hts
  · cases hts; rw [readFrom, readFrom, h]
  · cases hts; rw [readFrom, readFrom, h]
  · cases hts; rw [readFrom, readFrom, h]
  · cases hts; rw [readFrom, readFrom, h]
  · cases hts; rw [readFrom, readFrom, h]
  · cases hts

/-- Whether the next frame leaves an operand alone before everything stronger than `AND`. -/
def Loose : List Frame → Prop
  | .left op _ :: _ => op.strength ≤ Operator.and.strength
  | .not :: _ => False
  | _ => True

theorem reduce_of_loose {p : Nat} (hp : Operator.and.strength < p) {fs : List Frame} (h : Loose fs)
    (e : Expr) : reduce p e fs = some (e, fs) := by
  unfold Loose at h
  unfold reduce
  split
  · have h : _ ≤ Operator.and.strength := h
    rw [if_neg (by omega), if_neg (by omega)]
  · exact h.elim
  · rfl

end RowGuard.Sql
