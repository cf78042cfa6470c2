import RowGuard.Proofs.Sql.Expression
import RowGuard.Sql.Clause

/-!
# Conditions are read as they are meant

The text of a condition has parentheses around every combination and after every negation, so
nothing around it can take it apart: between `AND`, `OR` and parentheses it is one operand.

* `Clause.lex_text`: the text of a condition, as tokens
* `Clause.readFrom_tokens`: the tokens of a condition, as an expression
-/

set_option autoImplicit false

namespace RowGuard

open Sql

/-- The operator between the parts of a condition. -/
def Connective.operator : Connective → Operator
  | all => .and
  | any => .or

/-- The tokens of an operand. -/
def Operand.tokens : Operand → List Token
  | id => [.name "to_jsonb", .lparen, .name "id", .rparen]
  | field name =>
    [.lparen, .name "data", .operator .arrow, .param name, .cast, .name "text", .rparen]

/-- The expression of an operand. -/
def Operand.expr : Operand → Expr
  | id => .call "to_jsonb" [.column "id"]
  | field name => .binary .arrow (.column "data") (.cast (.param name) "text")

namespace Clause

/-- The tokens of a comparison. -/
def compareTokens (op : Comparison) (left : Operand) (value : Nat) : List Token :=
  match op with
  | .eq =>
    [.name "coalesce", .lparen] ++ left.tokens ++
      [.operator .equal, .param value, .cast, .name "jsonb", .comma, .const false, .rparen]
  | .ne => left.tokens ++ [.is, .distinct, .from, .param value, .cast, .name "jsonb"]

/-- The expression of a comparison. -/
def compareExpr (op : Comparison) (left : Operand) (value : Nat) : Expr :=
  let right := .cast (.param value) "jsonb"
  match op with
  | .eq => .call "coalesce" [.binary .equal left.expr right, .const false]
  | .ne => .binary .distinct left.expr right

mutual

/-- **The tokens of a condition.** -/
def tokens : Clause → List Token
  | const b => [.const b]
  | compare op left value => compareTokens op left value
  | join _ [] => [.lparen, .rparen]
  | join c (p :: rest) => .lparen :: (tokens p ++ tailTokens c.operator rest ++ [.rparen])
  | negate inner => .not :: .lparen :: (tokens inner ++ [.rparen])

/-- The tokens of the parts after the first, each with the operator before it. -/
def tailTokens (op : Operator) : List Clause → List Token
  | [] => []
  | p :: rest => .operator op :: (tokens p ++ tailTokens op rest)

end

mutual

/-- **The expression of a condition.** -/
def expr : Clause → Expr
  | const b => .const b
  | compare op left value => compareExpr op left value
  | join c [] => .const c.neutral
  | join c (p :: rest) => tailExpr c.operator (expr p) rest
  | negate inner => .not (expr inner)

/-- An expression with parts after it, grouped to the left. -/
def tailExpr (op : Operator) (e : Expr) : List Clause → Expr
  | [] => e
  | p :: rest => tailExpr op (.binary op e (expr p)) rest

end

mutual

/-- Whether every combination in a condition has a part: what an empty pair of parentheses would
mean is nobody's to say. -/
def Proper : Clause → Prop
  | const _ | compare _ _ _ => True
  | join _ [] => False
  | join _ (p :: rest) => Proper p ∧ ProperList rest
  | negate inner => Proper inner

/-- `Proper`, part by part. -/
def ProperList : List Clause → Prop
  | [] => True
  | p :: rest => Proper p ∧ ProperList rest

end

end Clause

/-! ## From text to tokens -/

theorem toList_append_append (a b c : String) :
    (a ++ b ++ c).toList = a.toList ++ (b.toList ++ c.toList) := by
  rw [String.toList_append, String.toList_append, List.append_assoc]

theorem toList_intercalate_cons (sep s : String) (ss : List String) :
    (sep.intercalate (s :: ss)).toList =
      s.toList ++ ss.flatMap fun t => sep.toList ++ t.toList := by
  rw [String.toList_intercalate, List.map_cons]
  induction ss generalizing s with
  | nil => rw [List.map_nil, List.intercalate_singleton, List.flatMap_nil, List.append_nil]
  | cons t rest ih =>
    rw [List.map_cons, List.intercalate_cons_cons, ih, List.flatMap_cons, List.append_assoc,
      List.append_assoc]

/-- **A placeholder** is the bound value it names. -/
theorem lex_placeholder (n : Nat) {rest : List Char} (h : Apart rest) :
    lex ((placeholder n).toList ++ rest) = .param n :: lex rest := by
  have hread : lex ((placeholder n).toList ++ rest) =
      lexFrom (.param []) (Nat.toDigits 10 n ++ rest) := by
    rw [placeholder, String.toList_append, toList_toString_nat]
    rfl
  have hdigits : (Nat.toDigits 10 n).all Char.isDigit = true :=
    List.all_eq_true.2 fun c hc => isDigit_of_mem_toDigits hc
  rw [hread, lexFrom_param h [] hdigits, List.nil_append, digitsValue_toDigits]

theorem Operand.lex_text (left : Operand) (rest : List Char) :
    lex (left.text.toList ++ rest) = left.tokens ++ lex rest := by
  cases left with
  | id => rfl
  | field name =>
    have hopen : ∀ more, lex ("(data -> ".toList ++ more) =
        .lparen :: .name "data" :: .operator .arrow :: lex more := fun _ => rfl
    simp only [text, String.toList_append, List.append_assoc]
    have hcast : Apart ("::text)".toList ++ rest) := apart_cons rfl _
    rw [hopen, lex_placeholder name hcast]
    rfl

namespace Clause

theorem lex_compareText (op : Comparison) (left : Operand) (value : Nat) {rest : List Char}
    (h : Apart rest) :
    lex ((compareText op left value).toList ++ rest) = compareTokens op left value ++ lex rest := by
  cases op with
  | eq =>
    have hopen : ∀ more, lex ("COALESCE(".toList ++ more) =
        .name "coalesce" :: .lparen :: lex more := fun _ => rfl
    have hsign : ∀ more, lex (" = ".toList ++ more) = .operator .equal :: lex more := fun _ => rfl
    simp only [compareText, compareTokens, String.toList_append, List.append_assoc]
    have hcast : Apart ("::jsonb".toList ++ (", FALSE)".toList ++ rest)) := apart_cons rfl _
    rw [hopen, left.lex_text, hsign, lex_placeholder value hcast]
    rfl
  | ne =>
    have hsign : ∀ more, lex (" IS DISTINCT FROM ".toList ++ more) =
        .is :: .distinct :: .from :: lex more := fun _ => rfl
    simp only [compareText, compareTokens, String.toList_append, List.append_assoc]
    have hcast : Apart ("::jsonb".toList ++ rest) := apart_cons rfl _
    rw [left.lex_text, hsign, lex_placeholder value hcast]
    -- the last word of the comparison ends where the rest begins
    have hlast : lex ("::jsonb".toList ++ rest) = .cast :: .name "jsonb" :: lex rest :=
      congrArg (Token.cast :: ·) (lexFrom_word h)
    rw [hlast]
    rfl

/-- The text of the parts after the first, each with the word before it. -/
def tailText (c : Connective) (parts : List Clause) : List Char :=
  (textList parts).flatMap fun s => c.word.toList ++ s.toList

theorem toList_text_join (c : Connective) (p : Clause) (parts : List Clause) :
    (text (join c (p :: parts))).toList =
      '(' :: (p.text.toList ++ (tailText c parts ++ [')'])) := by
  rw [text, textList, toList_append_append, toList_intercalate_cons, List.append_assoc]
  rfl

theorem apart_tailText (c : Connective) (parts : List Clause) {rest : List Char} (h : Apart rest) :
    Apart (tailText c parts ++ rest) := by
  cases parts with
  | nil => exact h
  | cons p parts => cases c <;> exact apart_cons rfl _

mutual

/-- **The text of a condition** has the tokens of the condition, before anything that does not go on
with its last word. -/
theorem lex_text (cl : Clause) {rest : List Char} (h : Apart rest) :
    lex (cl.text.toList ++ rest) = cl.tokens ++ lex rest := by
  match cl with
  | const true => exact lexFrom_word h
  | const false => exact lexFrom_word h
  | compare op left value => exact lex_compareText op left value h
  | join c [] => rw [text, textList, String.intercalate_nil]; rfl
  | join c (p :: parts) =>
    have hclose : Apart (')' :: rest) := apart_cons rfl rest
    rw [toList_text_join, tokens]
    simp only [List.cons_append, List.append_assoc, List.nil_append]
    show Token.lparen :: lex (p.text.toList ++ (tailText c parts ++ ')' :: rest)) = _
    rw [lex_text p (apart_tailText c parts hclose), lex_tailText c parts hclose]
    rfl
  | negate inner =>
    have hopen : ∀ more, lex ("NOT (".toList ++ more) = .not :: .lparen :: lex more := fun _ => rfl
    simp only [text, tokens, String.toList_append, List.append_assoc, List.cons_append,
      List.nil_append]
    have hclose : Apart (")".toList ++ rest) := apart_cons rfl _
    rw [hopen, lex_text inner hclose]
    rfl

/-- `lex_text`, for the parts after the first. -/
theorem lex_tailText (c : Connective) (parts : List Clause) {rest : List Char} (h : Apart rest) :
    lex (tailText c parts ++ rest) = tailTokens c.operator parts ++ lex rest := by
  match parts with
  | [] => rfl
  | p :: parts =>
    have hword : ∀ more, lex (c.word.toList ++ more) = .operator c.operator :: lex more := by
      cases c <;> exact fun _ => rfl
    have hcons : tailText c (p :: parts) =
        c.word.toList ++ (p.text.toList ++ tailText c parts) := by
      rw [tailText, textList, List.flatMap_cons, List.append_assoc]
      rfl
    rw [hcons, tailTokens]
    simp only [List.append_assoc, List.cons_append]
    rw [hword, lex_text p (apart_tailText c parts h), lex_tailText c parts h]

end

end Clause

/-! ## From tokens to expressions -/

theorem Operand.readFrom_tokens (left : Operand) (rest : List Token) (fs : List Frame) :
    readFrom (left.tokens ++ rest) none fs = readFrom rest (some left.expr) fs := by
  cases left <;> rfl

namespace Clause

theorem readFrom_compareTokens (op : Comparison) (left : Operand) (value : Nat)
    {rest : List Token} {p : Nat} (hrest : level rest = some p) {fs : List Frame} (hfs : Loose fs) :
    readFrom (compareTokens op left value ++ rest) none fs =
      readFrom rest (some (compareExpr op left value)) fs := by
  cases op with
  | eq =>
    simp only [compareTokens, List.append_assoc]
    show readFrom (left.tokens ++ _) none (.call "coalesce" [] :: fs) = _
    rw [left.readFrom_tokens]
    rfl
  | ne =>
    have hstrong : Operator.and.strength < Operator.distinct.strength := by decide
    have hp := level_le hrest
    simp only [compareTokens, List.append_assoc]
    rw [left.readFrom_tokens]
    refine (readFrom_distinct (reduce_of_loose hstrong hfs _) _).trans ?_
    -- no parentheses close the comparison: what follows it does
    refine readFrom_congr hrest ?_
    rw [reduce, if_pos (.inl (by omega))]
    rfl

/-- What follows a part binds no more strongly than the connective does, so the part is put together
with the parts before it. -/
theorem level_tailTokens (c : Connective) (parts : List Clause) (rest : List Token) :
    ∃ p, level (tailTokens c.operator parts ++ .rparen :: rest) = some p ∧
      ∀ l e fs, reduce p e (.left c.operator l :: fs) = reduce p (.binary c.operator l e) fs := by
  cases parts with
  | nil => cases c <;> exact ⟨0, rfl, fun _ _ _ => rfl⟩
  | cons p parts => cases c <;> exact ⟨_, rfl, fun _ _ _ => rfl⟩

mutual

/-- **The tokens of a condition** are read as its expression, whatever is open to the left that
binds no more strongly than `AND`. -/
theorem readFrom_tokens (cl : Clause) (hcl : cl.Proper) {rest : List Token} {p : Nat}
    (hrest : level rest = some p) {fs : List Frame} (hfs : Loose fs) :
    readFrom (cl.tokens ++ rest) none fs = readFrom rest (some cl.expr) fs := by
  match cl, hcl with
  | const b, _ => rfl
  | compare op left value, _ => exact readFrom_compareTokens op left value hrest hfs
  | join c (q :: parts), hcl =>
    obtain ⟨hq, hparts⟩ := hcl
    obtain ⟨p', hlevel, -⟩ := level_tailTokens c parts rest
    rw [tokens]
    simp only [List.cons_append, List.append_assoc, List.nil_append]
    show readFrom (q.tokens ++ _) none (.paren :: fs) = _
    rw [readFrom_tokens q hq hlevel (show Loose (.paren :: fs) from trivial),
      readFrom_tailTokens c parts hparts]
    rfl
  | negate inner, hcl =>
    have hp := level_le hrest
    have hstrong : Operator.and.strength < notStrength := by decide
    rw [tokens]
    simp only [List.cons_append, List.append_assoc, List.nil_append]
    show readFrom (inner.tokens ++ _) none (.paren :: .not :: fs) = _
    rw [readFrom_tokens inner hcl (show level (.rparen :: rest) = some 0 from rfl)
      (show Loose (.paren :: .not :: fs) from trivial)]
    -- `NOT` waits for what follows, which binds less strongly
    refine readFrom_congr hrest ?_
    rw [reduce, if_pos (by omega)]
    rfl

/-- `readFrom_tokens`, for the parts after the first. -/
theorem readFrom_tailTokens (c : Connective) (parts : List Clause) (hparts : ProperList parts)
    {rest : List Token} {fs : List Frame} {e : Expr} :
    readFrom (tailTokens c.operator parts ++ .rparen :: rest) (some e) (.paren :: fs) =
      readFrom (.rparen :: rest) (some (tailExpr c.operator e parts)) (.paren :: fs) := by
  match parts, hparts with
  | [], _ => rfl
  | q :: parts, hparts =>
    obtain ⟨hq, hparts⟩ := hparts
    obtain ⟨p', hlevel, hreduce⟩ := level_tailTokens c parts rest
    have hweak : c.operator.strength ≤ Operator.and.strength := by cases c <;> decide
    have hloose : Loose (.left c.operator e :: .paren :: fs) := hweak
    rw [tailTokens, List.cons_append, List.append_assoc, tailExpr]
    show readFrom (q.tokens ++ _) none (.left c.operator e :: .paren :: fs) = _
    -- the part is read behind the parts before it and joins them when the next token comes
    rw [readFrom_tokens q hq hlevel hloose, readFrom_congr hlevel (hreduce _ _ _),
      readFrom_tailTokens c parts hparts]

end

/-- **The text of a condition** is read as its expression. -/
theorem read_text (cl : Clause) (h : cl.Proper) : read (lex cl.text.toList) = some cl.expr := by
  have hlex := cl.lex_text apart_nil
  rw [List.append_nil] at hlex
  rw [hlex]
  exact cl.readFrom_tokens h (show level [] = some 0 from rfl) (show Loose [] from trivial)

end Clause

end RowGuard
