import RowGuard.Proofs.Sql.Statement

/-!
# Statements are read as they are meant

A database reads a statement from its text: which kind of statement it is, the condition between
`WHERE` and whatever may follow one, and the placeholders of values to be written.

* `Sentence.read`: what the tokens of a text say
* `Selection.readCondition_tokens`: a selection is the condition, up to what follows it
* `Statement.read_select` and its like: the statements for the operations on records
-/

set_option autoImplicit false

namespace RowGuard

namespace Sql

/-- **What a statement about the table of records says.** -/
inductive Sentence where
  /-- The rows that meet a condition in order of their identifiers, perhaps the first one only. -/
  | select (condition : Expr) (first : Bool)
  /-- The number of rows that meet a condition. -/
  | count (condition : Expr)
  /-- A new row with the model and the data bound to two placeholders, which is returned. -/
  | insert (model data : Nat)
  /-- The object bound to a placeholder, written over the data of the rows that meet a condition,
  which are returned. -/
  | update (changes : Nat) (condition : Expr)
  /-- Removal of the rows that meet a condition, which may be returned. -/
  | delete (condition : Expr) (returning : Bool)

/-- What is left of some tokens after the ones they start with. -/
def after : List Token → List Token → Option (List Token)
  | [], ts => some ts
  | _ :: _, [] => none
  | w :: ws, t :: ts => if w = t then after ws ts else none

theorem after_append (ws ts : List Token) : after ws (ws ++ ts) = some ts := by
  induction ws with
  | nil => rfl
  | cons w ws ih => rw [List.cons_append, after, if_pos rfl, ih]

/-- Whether a token is the first one after a condition. -/
def endsCondition (t : Token) : Bool := t == .name "order" || t == .name "returning"

/-- The condition that some tokens start with, and what follows it. -/
def readCondition (ts : List Token) : Option (Expr × List Token) :=
  (read (ts.takeWhile (!endsCondition ·))).map fun e => (e, ts.dropWhile (!endsCondition ·))

namespace Sentence

/-- What a statement says that starts with `SELECT`. -/
def readSelect (ts : List Token) : Option Sentence :=
  match after (words "id, data FROM records WHERE") ts with
  | some rest =>
    match readCondition rest with
    | some (e, tail) =>
      if tail = words "ORDER BY id" then some (.select e false)
      else if tail = words "ORDER BY id LIMIT 1" then some (.select e true)
      else none
    | none => none
  | none =>
    match (after (words "COUNT(*) AS n FROM records WHERE") ts).bind readCondition with
    | some (e, []) => some (.count e)
    | _ => none

/-- What a statement says that starts with `INSERT`. -/
def readInsert (ts : List Token) : Option Sentence :=
  match after (words "INTO records (model, data) VALUES (") ts with
  | some (.param m :: .comma :: .param d :: tail) =>
    if tail = words ") RETURNING id, data" then some (.insert m d) else none
  | _ => none

/-- What a statement says that starts with `UPDATE`. -/
def readUpdate (ts : List Token) : Option Sentence :=
  match after (words "records SET data = data ||") ts with
  | some (.param n :: rest) =>
    match (after (words "::jsonb WHERE") rest).bind readCondition with
    | some (e, tail) => if tail = words "RETURNING id, data" then some (.update n e) else none
    | none => none
  | _ => none

/-- What a statement says that starts with `DELETE`. -/
def readDelete (ts : List Token) : Option Sentence :=
  match (after (words "FROM records WHERE") ts).bind readCondition with
  | some (e, tail) =>
    if tail = [] then some (.delete e false)
    else if tail = words "RETURNING id, data" then some (.delete e true)
    else none
  | none => none

/-- **What the tokens of a text say.** -/
def read : List Token → Option Sentence
  | .name verb :: rest =>
    if verb = "select" then readSelect rest
    else if verb = "insert" then readInsert rest
    else if verb = "update" then readUpdate rest
    else if verb = "delete" then readDelete rest
    else none
  | _ => none

end Sentence

end Sql

open Sql

/-! ## Conditions in a statement -/

namespace Clause

theorem compareTokens_within (op : Comparison) (left : Operand) (value : Nat) :
    (compareTokens op left value).all (!endsCondition ·) = true := by
  cases op <;> cases left <;> rfl

mutual

/-- Nothing in a condition looks like its end. -/
theorem tokens_within (cl : Clause) : cl.tokens.all (!endsCondition ·) = true := by
  match cl with
  | const b => rfl
  | compare op left value => exact compareTokens_within op left value
  | join c [] => rfl
  | join c (p :: rest) =>
    rw [tokens, List.all_cons, List.all_append, List.all_append, tokens_within p,
      tailTokens_within c rest]
    rfl
  | negate inner =>
    rw [tokens, List.all_cons, List.all_cons, List.all_append, tokens_within inner]
    rfl

/-- `tokens_within`, for the parts after the first. -/
theorem tailTokens_within (c : Connective) (parts : List Clause) :
    (tailTokens c.operator parts).all (!endsCondition ·) = true := by
  match parts with
  | [] => rfl
  | p :: rest =>
    rw [tailTokens, List.all_cons, List.all_append, tokens_within p, tailTokens_within c rest]
    cases c <;> rfl

end

end Clause

namespace Selection

theorem tokens_within (s : Selection) : s.tokens.all (!endsCondition ·) = true := by
  have hmodel : (words "model = $1 AND ").all (!endsCondition ·) = true := by decide +kernel
  have hid : (idTokens s.id).all (!endsCondition ·) = true := by
    cases s.id with
    | none => rfl
    | some n =>
      have hopen : (words "AND id = (").all (!endsCondition ·) = true := by decide +kernel
      have hclose : (words "::jsonb)::bigint").all (!endsCondition ·) = true := by decide +kernel
      rw [idTokens, List.all_append, List.all_cons, hopen, hclose]
      rfl
  rw [tokens, List.all_append, List.all_append, hmodel, s.condition.tokens_within, hid]
  rfl

/-- **A selection in a statement** is read as its expression, up to what follows it. -/
theorem readCondition_tokens (s : Selection) (h : s.condition.Proper) {tail : List Token}
    (htail : ∀ t, tail.head? = some t → endsCondition t = true) :
    readCondition (s.tokens ++ tail) = some (s.expr, tail) := by
  have hwithin := List.all_eq_true.1 s.tokens_within
  have hstop : tail.takeWhile (!endsCondition ·) = [] ∧
      tail.dropWhile (!endsCondition ·) = tail := by
    cases tail with
    | nil => exact ⟨rfl, rfl⟩
    | cons t rest =>
      rw [List.takeWhile_cons, List.dropWhile_cons, htail t rfl]
      exact ⟨rfl, rfl⟩
  rw [readCondition, List.takeWhile_append_of_pos hwithin, List.dropWhile_append_of_pos hwithin,
    hstop.1, hstop.2, List.append_nil, s.read_tokens h]
  rfl

end Selection

/-! ## Statements -/

namespace Statement

/-- **A `SELECT` is read** with the condition that it was made with. So are the others. -/
theorem read_select (rows : Selection) (first : Bool) (h : rows.condition.Proper) :
    Sentence.read (select rows first).tokens = some (.select rows.expr first) := by
  have hwords : words "SELECT id, data FROM records WHERE " =
      .name "select" :: words "id, data FROM records WHERE" := by decide +kernel
  have htail : ∀ t, (words (" ORDER BY id" ++ if first then " LIMIT 1" else "")).head? = some t →
      endsCondition t = true := by cases first <;> decide +kernel
  rw [tokens, hwords, List.cons_append, Sentence.read, if_pos rfl, Sentence.readSelect,
    after_append]
  simp only [rows.readCondition_tokens h htail]
  cases first with
  | true => rw [if_neg (by decide +kernel), if_pos (by decide +kernel)]
  | false => rw [if_pos (by decide +kernel)]

theorem read_count (rows : Selection) (h : rows.condition.Proper) :
    Sentence.read (count rows).tokens = some (.count rows.expr) := by
  have hwords : words "SELECT COUNT(*) AS n FROM records WHERE " =
      .name "select" :: words "COUNT(*) AS n FROM records WHERE" := by decide +kernel
  have hother : ∀ more, after (words "id, data FROM records WHERE")
      (words "COUNT(*) AS n FROM records WHERE" ++ more) = none := by
    have hid : words "id, data FROM records WHERE" =
      .name "id" :: (words "id, data FROM records WHERE").tail := by decide +kernel
    have hcount : words "COUNT(*) AS n FROM records WHERE" =
      .name "count" :: (words "COUNT(*) AS n FROM records WHERE").tail := by decide +kernel
    intro more
    rw [hid, hcount]
    rfl
  have htail : ∀ t, (words "").head? = some t → endsCondition t = true := nofun
  rw [tokens, hwords, List.cons_append, Sentence.read, if_pos rfl, Sentence.readSelect, hother]
  simp only [after_append, Option.bind_some, rows.readCondition_tokens h htail]
  rfl

theorem read_insert : Sentence.read insert.tokens = some (.insert 1 2) := by
  have hwords : insert.tokens = .name "insert" :: (words "INTO records (model, data) VALUES (" ++
      .param 1 :: .comma :: .param 2 :: words ") RETURNING id, data") := by decide +kernel
  rw [hwords, Sentence.read, if_neg (by decide), if_pos rfl, Sentence.readInsert, after_append]
  simp only [if_true]

theorem read_update (changes : Nat) (rows : Selection) (h : rows.condition.Proper) :
    Sentence.read (update changes rows).tokens = some (.update changes rows.expr) := by
  have hupdate : words "UPDATE records SET data = data || " =
      .name "update" :: words "records SET data = data ||" := by decide +kernel
  have hwhere : words "::jsonb WHERE " = words "::jsonb WHERE" := by decide +kernel
  have hreturning : words " RETURNING id, data" = words "RETURNING id, data" := by decide +kernel
  have htail : ∀ t, (words "RETURNING id, data").head? = some t → endsCondition t = true := by
    decide +kernel
  rw [tokens, hupdate, hwhere, hreturning, List.append_assoc, List.cons_append, Sentence.read,
    if_neg (by decide), if_neg (by decide), if_pos rfl, Sentence.readUpdate, after_append]
  simp only [List.cons_append, after_append, Option.bind_some, rows.readCondition_tokens h htail,
    if_true]

theorem read_delete (rows : Selection) (returning : Bool) (h : rows.condition.Proper) :
    Sentence.read (delete rows returning).tokens = some (.delete rows.expr returning) := by
  have hdelete : words "DELETE FROM records WHERE " =
      .name "delete" :: words "FROM records WHERE" := by decide +kernel
  have htail : ∀ t, (words (if returning then " RETURNING id, data" else "")).head? = some t →
      endsCondition t = true := by cases returning <;> decide +kernel
  rw [tokens, hdelete, List.cons_append, Sentence.read, if_neg (by decide), if_neg (by decide),
    if_neg (by decide), if_pos rfl, Sentence.readDelete, after_append]
  simp only [Option.bind_some, rows.readCondition_tokens h htail]
  cases returning with
  | true => rw [if_neg (by decide +kernel), if_pos (by decide +kernel)]
  | false => rw [if_pos (by decide +kernel)]

end Statement

end RowGuard
