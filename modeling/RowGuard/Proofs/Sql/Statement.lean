import RowGuard.Proofs.Sql.Selection

/-!
# The words of a statement

A statement is a few fixed words with a selection and placeholders among them. Blanks stand between
the parts, so the tokens of a statement are those of its parts.

* `Reads`: a text with the same tokens before every other
* `Selection.lex_text`, `Statement.lex_text`: the texts, as tokens
* `Selection.read_tokens`: the tokens of a selection, as an expression
-/

set_option autoImplicit false

namespace RowGuard

namespace Sql

/-! ## Fixed words -/

/-- The tokens of fixed words. -/
def words (s : String) : List Token := lex s.toList

/-- Nothing, or a text after a blank. -/
def Parted (rest : List Char) : Prop := ∀ c, rest.head? = some c → c = ' '

theorem parted_nil : Parted [] := nofun

theorem parted_blank (rest : List Char) : Parted (' ' :: rest) := by
  intro c hc
  exact (Option.some.inj hc).symm

theorem Parted.apart {rest : List Char} (h : Parted rest) : Apart rest := by
  intro c hc
  rw [h c hc]
  rfl

/-- **A blank ends every token.** -/
theorem lexFrom_append {rest : List Char} (h : Parted rest) (cs : List Char) (p : Pending) :
    lexFrom p (cs ++ rest) = lexFrom p cs ++ lex rest := by
  induction cs generalizing p with
  | nil =>
    cases rest with
    | nil => exact (List.append_nil _).symm
    | cons c rest =>
      rw [h c rfl]
      refine lexFrom_of_extend_none ?_ rest
      cases p <;> rfl
  | cons c cs ih =>
    rw [List.cons_append, lexFrom, lexFrom]
    split
    · exact ih _
    · rw [ih, List.append_assoc, List.append_assoc, List.append_assoc]

/-- The words on both sides of a blank. -/
theorem words_append (s t : String) : words (s ++ (" " ++ t)) = words s ++ words t := by
  rw [words, String.toList_append, String.toList_append]
  exact lexFrom_append (parted_blank t.toList) s.toList .blank

/-- A blank at the end is no word. -/
theorem words_append_blank (s : String) : words (s ++ " ") = words s :=
  (words_append s "").trans (List.append_nil _)

/-- **A text with these tokens**, whatever comes after it. -/
def Reads (s : String) (ts : List Token) : Prop :=
  ∀ rest, lex (s.toList ++ rest) = ts ++ lex rest

/-- Fixed words with a blank at the end have the same tokens before every text. -/
theorem reads_words {s : String} (h : s.toList.getLast? = some ' ') : Reads s (words s) := by
  intro rest
  obtain ⟨cs, hcs⟩ := List.getLast?_eq_some_iff.1 h
  have hblank : lex (cs ++ [' ']) = lex cs :=
    (lexFrom_append (parted_blank []) cs .blank).trans (List.append_nil _)
  rw [words, hcs, hblank, List.append_assoc]
  exact lexFrom_append (parted_blank rest) cs .blank

theorem Reads.append {s t : String} {ts us : List Token} (hs : Reads s ts) (ht : Reads t us) :
    Reads (s ++ t) (ts ++ us) := by
  intro rest
  rw [String.toList_append, List.append_assoc, hs, ht, List.append_assoc]

/-- A placeholder before a cast. -/
theorem Reads.placeholder {s : String} {ts : List Token} (n : Nat) (hs : Reads s ts)
    (hcast : s.toList.head? = some ':') : Reads (placeholder n ++ s) (.param n :: ts) := by
  intro rest
  have happart : Apart (s.toList ++ rest) := by
    rw [Apart, List.head?_append, hcast]
    intro c hc
    rw [← Option.some.inj hc]
    rfl
  rw [String.toList_append, List.append_assoc, lex_placeholder n happart, hs, List.cons_append]

end Sql

open Sql

/-! ## Selections -/

namespace Selection

/-- The tokens of the comparison of the identifier, if there is one. -/
def idTokens : Option Nat → List Token
  | some n => words "AND id = (" ++ .param n :: words "::jsonb)::bigint"
  | none => []

/-- **The tokens of a selection.** -/
def tokens (s : Selection) : List Token :=
  words "model = $1 AND " ++ (s.condition.tokens ++ idTokens s.id)

/-- **The text of a selection** has the tokens of the selection. -/
theorem lex_text (s : Selection) {rest : List Char} (h : Parted rest) :
    lex (s.text.toList ++ rest) = s.tokens ++ lex rest := by
  have hmodel : Reads "model = $1 AND " _ := reads_words (by decide)
  obtain ⟨cl, id⟩ := s
  cases id with
  | none =>
    have htext : text ⟨cl, none⟩ = "model = $1 AND " ++ cl.text ++ "" := rfl
    rw [htext, String.append_empty, String.toList_append, List.append_assoc, hmodel,
      cl.lex_text h.apart, tokens, idTokens, List.append_nil, List.append_assoc]
  | some n =>
    have hid : Reads " AND id = (" (words "AND id = (") := fun _ => rfl
    have hcast : Apart ("::jsonb)::bigint".toList ++ rest) := apart_cons (by decide) _
    have hlast : lex ("::jsonb)::bigint".toList ++ rest) = words "::jsonb)::bigint" ++ lex rest :=
      lexFrom_append h _ .blank
    have hplace : lex ((" AND id = (" ++ placeholder n ++ "::jsonb)::bigint").toList ++ rest) =
        idTokens (some n) ++ lex rest := by
      rw [toList_append_append, List.append_assoc, List.append_assoc, hid,
        lex_placeholder n hcast, hlast, idTokens, List.append_assoc, List.cons_append]
    have hapart : Apart ((" AND id = (" ++ placeholder n ++ "::jsonb)::bigint").toList ++
        rest) := by
      rw [toList_append_append]
      exact apart_cons (by decide) _
    have htext : text ⟨cl, some n⟩ = "model = $1 AND " ++ cl.text ++
      (" AND id = (" ++ placeholder n ++ "::jsonb)::bigint") := rfl
    rw [htext, toList_append_append, List.append_assoc, hmodel, List.append_assoc,
      cl.lex_text hapart, hplace, tokens, List.append_assoc, List.append_assoc]

/-- The tokens of a selection are read as its expression. -/
theorem read_tokens (s : Selection) (h : s.condition.Proper) : read s.tokens = some s.expr := by
  have hlex := s.lex_text parted_nil
  rw [show lex [] = [] from rfl, List.append_nil, List.append_nil] at hlex
  rw [← hlex, s.read_text h]

/-- A selection in a statement. -/
theorem lex_within (s : Selection) {before after : String} {ts : List Token}
    (hbefore : Reads before ts) (hafter : Parted after.toList) :
    lex (before ++ s.text ++ after).toList = ts ++ (s.tokens ++ words after) := by
  rw [toList_append_append, hbefore, s.lex_text hafter, words]

end Selection

/-! ## Statements -/

/-- The tokens of an aggregate over the numbers in a field, with the table it is about. -/
def aggregateTokens (kind : AggregateKind) (field : Nat) : List Token :=
  words ("to_jsonb(" ++ kind.function ++ "((data ->> ") ++ .param field ::
    (words "::text)::float8) FILTER (WHERE jsonb_typeof(data -> " ++ .param field ::
      words "::text) = 'number')) AS v FROM records WHERE ")

theorem reads_aggregateText (kind : AggregateKind) (field : Nat) :
    Reads (aggregateText kind field ++ " FROM records WHERE ") (aggregateTokens kind field) := by
  have hfunction : Reads ("to_jsonb(" ++ kind.function ++ "((data ->> ") _ :=
    reads_words (by cases kind <;> decide)
  have hfilter : Reads ("::text" ++ ")::float8) FILTER (WHERE jsonb_typeof(data -> ") _ :=
    reads_words (by decide)
  have hnumbers : Reads ("::text" ++ ") = 'number')) AS v" ++ " FROM records WHERE ") _ :=
    reads_words (by decide)
  have hparts := (hfunction.append (hfilter.placeholder field rfl)).append
    (hnumbers.placeholder field rfl)
  have htext : aggregateText kind field ++ " FROM records WHERE " =
      "to_jsonb(" ++ kind.function ++ "((data ->> " ++ (placeholder field ++ "::text") ++
        ")::float8) FILTER (WHERE jsonb_typeof(data -> " ++ (placeholder field ++ "::text") ++
          ") = 'number')) AS v" ++ " FROM records WHERE " := rfl
  rw [htext]
  simp only [String.append_assoc, List.append_assoc] at hparts ⊢
  exact hparts

namespace Statement

/-- **The tokens of a statement.** -/
def tokens : Statement → List Token
  | select rows first =>
    words "SELECT id, data FROM records WHERE " ++ (rows.tokens ++
      words (" ORDER BY id" ++ if first then " LIMIT 1" else ""))
  | count rows => words "SELECT COUNT(*) AS n FROM records WHERE " ++ (rows.tokens ++ words "")
  | aggregate kind field rows =>
    words "SELECT " ++ aggregateTokens kind field ++ (rows.tokens ++ words "")
  | insert => words "INSERT INTO records (model, data) VALUES ($1, $2) RETURNING id, data"
  | update changes rows =>
    words "UPDATE records SET data = data || " ++ .param changes :: words "::jsonb WHERE " ++
      (rows.tokens ++ words " RETURNING id, data")
  | delete rows returning =>
    words "DELETE FROM records WHERE " ++
      (rows.tokens ++ words (if returning then " RETURNING id, data" else ""))

/-- **The text of a statement** has the tokens of the statement. -/
theorem lex_text (stmt : Statement) : lex stmt.text.toList = stmt.tokens := by
  cases stmt with
  | select rows first =>
    have hselect : Reads "SELECT id, data FROM records WHERE " _ := reads_words (by decide)
    have horder : Parted (" ORDER BY id" ++ if first then " LIMIT 1" else "").toList := by
      rw [String.toList_append]
      exact parted_blank _
    have htext : (select rows first).text = "SELECT id, data FROM records WHERE " ++ rows.text ++
      (" ORDER BY id" ++ if first then " LIMIT 1" else "") := String.append_assoc
    rw [htext]
    exact rows.lex_within hselect horder
  | count rows =>
    have hselect : Reads "SELECT COUNT(*) AS n FROM records WHERE " _ := reads_words (by decide)
    have htext : (count rows).text =
      "SELECT COUNT(*) AS n FROM records WHERE " ++ rows.text ++ "" := String.append_empty.symm
    rw [htext]
    exact rows.lex_within hselect parted_nil
  | aggregate kind field rows =>
    have hselect : Reads "SELECT " _ := reads_words (by decide)
    have hfrom := hselect.append (reads_aggregateText kind field)
    have htext : (aggregate kind field rows).text = "SELECT " ++
      (aggregateText kind field ++ " FROM records WHERE ") ++ rows.text ++ "" := by
      rw [String.append_empty, ← String.append_assoc]
      rfl
    rw [htext]
    exact rows.lex_within hfrom parted_nil
  | insert => rfl
  | update changes rows =>
    have hupdate : Reads "UPDATE records SET data = data || " _ := reads_words (by decide)
    have hwhere : Reads "::jsonb WHERE " _ := reads_words (by decide)
    have hset := hupdate.append (hwhere.placeholder changes rfl)
    have hreturning : Parted " RETURNING id, data".toList := parted_blank _
    have htext : (update changes rows).text = "UPDATE records SET data = data || " ++
      (placeholder changes ++ "::jsonb WHERE ") ++ rows.text ++ " RETURNING id, data" := by
      rw [← String.append_assoc]
      rfl
    rw [htext]
    exact rows.lex_within hset hreturning
  | delete rows returning =>
    have hdelete : Reads "DELETE FROM records WHERE " _ := reads_words (by decide)
    have hreturning : Parted (if returning then " RETURNING id, data" else "").toList := by
      cases returning with
      | true => exact parted_blank _
      | false => exact parted_nil
    exact rows.lex_within hdelete hreturning

end Statement

end RowGuard
