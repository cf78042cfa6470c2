import RowGuard.Proofs.Text.Numeral

/-!
# Words and signs of a statement

A database reads the text of a statement as a row of tokens. Blanks part them; a run of letters,
digits and underscores is one word, a run of operator characters is one sign, and `$` with digits
names a bound value. Words are read in either case.

* `lex`: the tokens of a text
* `lexFrom_of_extend_none`: where a token ends, reading starts afresh
* `lexFrom_param`: the digits of a placeholder are read to their end
-/

set_option autoImplicit false

namespace RowGuard.Sql

/-- An operator between two operands. -/
inductive Operator where
  | or
  | and
  /-- `IS DISTINCT FROM`. -/
  | distinct
  | equal
  /-- `->`, the field of an object. -/
  | arrow
  deriving DecidableEq

/-- **A token** of a statement. Of the operators only `distinct` is written in several tokens. -/
inductive Token where
  | operator (op : Operator)
  | not
  | is
  | distinct
  | from
  | const (b : Bool)
  | name (s : String)
  | param (n : Nat)
  /-- `::`. -/
  | cast
  | lparen
  | rparen
  | comma
  /-- Anything else. -/
  | other (s : String)
  deriving DecidableEq

namespace Token

/-- What a word stands for, in small letters. -/
def ofWord : String → Token
  | "and" => operator .and
  | "or" => operator .or
  | "not" => not
  | "is" => is
  | "distinct" => distinct
  | "from" => .from
  | "true" => const true
  | "false" => const false
  | s => name s

/-- What a run of operator characters stands for. -/
def ofSign : String → Token
  | "=" => operator .equal
  | "->" => operator .arrow
  | "::" => cast
  | s => other s

end Token

/-- Whether a character may start a word. -/
def startsWord (c : Char) : Bool := c.isAlpha || c == '_'

/-- Whether a character goes on with a word. -/
def continuesWord (c : Char) : Bool := c.isAlphanum || c == '_' || c == '$'

/-- Whether a character is part of a sign. -/
def isSignChar (c : Char) : Bool := "+-*/<>=~!@#%^&|?:".toList.contains c

/-- The token that is being read, with the characters of it so far. -/
inductive Pending where
  /-- None. -/
  | blank
  | word (cs : List Char)
  | param (ds : List Char)
  | sign (cs : List Char)

namespace Pending

/-- The pending token with one more character, if the character belongs to it. -/
def extend : Pending → Char → Option Pending
  | blank, _ => none
  | word cs, c => if continuesWord c then some (word (cs ++ [c])) else none
  | param ds, c => if c.isDigit then some (param (ds ++ [c])) else none
  | sign cs, c => if isSignChar c then some (sign (cs ++ [c])) else none

/-- The pending token as it stands. -/
def tokens : Pending → List Token
  | blank => []
  | word cs => [.ofWord (String.ofList (cs.map Char.toLower))]
  | param ds => [.param (digitsValue 0 ds)]
  | sign cs => [.ofSign (String.ofList cs)]

end Pending

/-- A character that no pending token takes: the token that it is, and the one that it starts. -/
def start (c : Char) : List Token × Pending :=
  if c.isWhitespace then ([], .blank)
  else if startsWord c then ([], .word [c])
  else if isSignChar c then ([], .sign [c])
  else match c with
    | '$' => ([], .param [])
    | '(' => ([.lparen], .blank)
    | ')' => ([.rparen], .blank)
    | ',' => ([.comma], .blank)
    | _ => ([.other (String.ofList [c])], .blank)

/-- The tokens of a text in the middle of one. -/
def lexFrom (p : Pending) : List Char → List Token
  | [] => p.tokens
  | c :: rest =>
    match p.extend c with
    | some p' => lexFrom p' rest
    | none => p.tokens ++ (start c).1 ++ lexFrom (start c).2 rest

/-- **The tokens of a text.** -/
def lex (text : List Char) : List Token := lexFrom .blank text

/-! ## Where tokens end -/

/-- **A token that does not go on** is done, and reading starts afresh. -/
theorem lexFrom_of_extend_none {p : Pending} {c : Char} (h : p.extend c = none)
    (rest : List Char) : lexFrom p (c :: rest) = p.tokens ++ lex (c :: rest) := by
  rw [lex, lexFrom, lexFrom, h, List.append_assoc]
  rfl

/-- A text that no word goes on with: what follows a word is apart from it. -/
def Apart (rest : List Char) : Prop := ∀ c, rest.head? = some c → continuesWord c = false

theorem apart_nil : Apart [] := nofun

/-- A character that continues no word keeps words apart. -/
theorem apart_cons {c : Char} (h : continuesWord c = false) (rest : List Char) :
    Apart (c :: rest) := by
  intro d hd
  rw [← Option.some.inj hd]
  exact h

/-- A word ends before what is apart from it. -/
theorem lexFrom_word {cs rest : List Char} (h : Apart rest) :
    lexFrom (.word cs) rest = (Pending.word cs).tokens ++ lex rest := by
  cases rest with
  | nil => exact (List.append_nil _).symm
  | cons c rest =>
    refine lexFrom_of_extend_none ?_ rest
    rw [Pending.extend, h c rfl]
    rfl

theorem lexFrom_param {rest : List Char} (h : Apart rest) : ∀ {ds : List Char} (read : List Char),
    ds.all Char.isDigit = true →
      lexFrom (.param read) (ds ++ rest) = .param (digitsValue 0 (read ++ ds)) :: lex rest
  | [], read, _ => by
    rw [List.append_nil]
    cases rest with
    | nil => rfl
    | cons c rest =>
      refine lexFrom_of_extend_none ?_ rest
      have hc := h c rfl
      simp only [continuesWord, Char.isAlphanum, Bool.or_eq_false_iff] at hc
      rw [Pending.extend, hc.1.1.2]
      rfl
  | d :: ds, read, hds => by
    obtain ⟨hd, hds⟩ := Bool.and_eq_true_iff.1 (List.all_cons ▸ hds)
    have hstep : (Pending.param read).extend d = some (.param (read ++ [d])) := by
      rw [Pending.extend, hd]
      rfl
    rw [List.cons_append, lexFrom, hstep]
    rw [List.append_cons read d ds]
    exact lexFrom_param h (read ++ [d]) hds

end RowGuard.Sql
