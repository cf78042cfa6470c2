import RowGuard.Proofs.Filter.Compared
import RowGuard.Proofs.Sql.Statement

/-!
# Every value in its place

The text of a condition has a placeholder wherever a name or a value belongs. With the bound values
put in for the placeholders, each at a place of its own type, it is the condition that the filter
means.

* `fill`: the tokens of a text with bound values in place of the placeholders
* `wordsOnly_lexFrom`: a text without `$` has no placeholder
* `Binds.append`: parts of a text that bind their values one after the other
* `Filter.render_binds`: the condition of a filter binds the names and values of the filter
-/

set_option autoImplicit false

namespace RowGuard

/-- The type of a bound value. -/
def Param.type : Param → String
  | text _ => "text"
  | json _ => "jsonb"

namespace Sql

/-! ## Statements with their values -/

/-- A part of a statement whose values are in their places. -/
inductive Piece where
  | token (t : Token)
  | value (p : Param)

/-- The type of a column that holds a caller's values. -/
def columnType (name : String) : Option String :=
  if name = "model" then some "text" else if name = "data" then some "jsonb" else none

/-- **The type of a place** in a statement: what it is cast to, or else the type of the column that
it is compared with or inserted into. The tokens before it are given from last to first. -/
def placeType (before after : List Token) : Option String :=
  match after with
  | .cast :: .name type :: _ => some type
  | _ =>
    match before with
    | .operator .equal :: .name column :: _ => columnType column
    | .lparen :: .name "values" :: .rparen :: .name _ :: .comma :: .name first :: _ =>
      columnType first
    | .comma :: .param _ :: .lparen :: .name "values" :: .rparen :: .name second :: _ =>
      columnType second
    | _ => none

/-- The value bound to a placeholder. The first one has number one. -/
def bound? (params : List Param) : Nat → Option Param
  | 0 => none
  | n + 1 => params[n]?

/-- **A row of tokens with bound values in place of the placeholders**; none if a placeholder has no
value or one that is not of its place's type. -/
def fill (params : List Param) (before : List Token) : List Token → Option (List Piece)
  | [] => some []
  | .param n :: rest =>
    match bound? params n with
    | some p =>
      if placeType before rest = some p.type then
        (fill params (.param n :: before) rest).map (.value p :: ·)
      else none
    | none => none
  | t :: rest => (fill params (t :: before) rest).map (.token t :: ·)

/-- Fixed words. -/
def plain (s : String) : List Piece := (words s).map .token

end Sql

open Sql

/-- The operand of a comparison, with the name of its field. -/
def Sql.operandWritten (name : String) : List Piece :=
  if name = "id" then plain "to_jsonb(id)"
  else plain "(data -> " ++ .value (.text name) :: plain "::text)"

/-- A comparison with its value. -/
def Sql.testWritten (op : Comparison) (name : String) (v : Json) : List Piece :=
  match op with
  | .eq => plain "COALESCE(" ++ (operandWritten name ++ (plain " = " ++ .value (.json v) ::
      plain "::jsonb, FALSE)"))
  | .ne => operandWritten name ++
      (plain " IS DISTINCT FROM " ++ .value (.json v) :: plain "::jsonb")

namespace Filter

mutual

/-- **The condition that a filter means**, with its names and values. -/
def written : Filter → List Piece
  | const b => [.token (.const b)]
  | test op name v => testWritten op name v
  | join c [] => [.token (.const c.neutral)]
  | join c (f :: rest) => .token .lparen :: (written f ++ (writtenTail c rest ++ [.token .rparen]))
  | negate f => .token .not :: .token .lparen :: (written f ++ [.token .rparen])

/-- The parts after the first, each with the connective before it. -/
def writtenTail (c : Connective) : List Filter → List Piece
  | [] => []
  | f :: rest => .token (.operator c.operator) :: (written f ++ writtenTail c rest)

end

end Filter

/-! ## Words without a placeholder -/

namespace Sql

/-- Whether a token is a placeholder. -/
def Token.isParam : Token → Bool
  | .param _ => true
  | _ => false

/-- Whether no token is a placeholder. -/
def wordsOnly (ts : List Token) : Bool := ts.all fun t => !t.isParam

/-- Whether a token that is being read is a placeholder. -/
def Pending.isParam : Pending → Bool
  | .param _ => true
  | _ => false

theorem Pending.wordsOnly_tokens {p : Pending} (h : p.isParam = false) :
    wordsOnly p.tokens = true := by
  cases p with
  | blank => rfl
  | param ds => cases h
  | word cs =>
    rw [tokens]
    unfold Token.ofWord
    split <;> rfl
  | sign cs =>
    rw [tokens]
    unfold Token.ofSign
    split <;> rfl

theorem Pending.isParam_extend {p p' : Pending} {c : Char} (h : p.extend c = some p') :
    p'.isParam = p.isParam := by
  cases p with
  | blank => cases h
  | word cs | param ds | sign cs =>
    rw [extend, Option.ite_none_right_eq_some] at h
    rw [← Option.some.inj h.2]
    rfl

theorem wordsOnly_start {c : Char} (h : c ≠ '$') :
    wordsOnly (start c).1 = true ∧ (start c).2.isParam = false := by
  unfold start
  split
  · exact ⟨rfl, rfl⟩
  · split
    · exact ⟨rfl, rfl⟩
    · split
      · exact ⟨rfl, rfl⟩
      · split
        · exact absurd rfl h
        all_goals exact ⟨rfl, rfl⟩

/-- **Only `$` starts a placeholder.** -/
theorem wordsOnly_lexFrom {cs : List Char} (h : '$' ∉ cs) {p : Pending} (hp : p.isParam = false) :
    wordsOnly (lexFrom p cs) = true := by
  induction cs generalizing p with
  | nil => exact Pending.wordsOnly_tokens hp
  | cons c cs ih =>
    obtain ⟨hc, hcs⟩ := List.ne_and_not_mem_of_not_mem_cons h
    rw [lexFrom]
    split
    · next p' hp' => exact ih hcs ((Pending.isParam_extend hp').trans hp)
    · obtain ⟨hfirst, hnext⟩ := wordsOnly_start hc.symm
      have htokens := Pending.wordsOnly_tokens hp
      have hrest := ih hcs hnext
      unfold wordsOnly at *
      rw [List.all_append, List.all_append, htokens, hfirst, hrest]
      rfl

theorem wordsOnly_words {s : String} (h : '$' ∉ s.toList) : wordsOnly (words s) = true :=
  wordsOnly_lexFrom h rfl

/-! ## Parts that bind their values -/

variable {params start more more' later : List Param} {ts ts' : List Token} {ps ps' : List Piece}

/-- A row of tokens whose placeholders have their values and places, whatever stands around it. -/
def Fills (params : List Param) (ts : List Token) (ps : List Piece) : Prop :=
  ∀ before rest, fill params before (ts ++ rest) =
    (fill params (ts.reverse ++ before) rest).map (ps ++ ·)

theorem Fills.append (h : Fills params ts ps) (h' : Fills params ts' ps') :
    Fills params (ts ++ ts') (ps ++ ps') := by
  intro before rest
  rw [List.append_assoc, h, h', Option.map_map, List.reverse_append, List.append_assoc]
  refine congrArg (Option.map · _) (funext fun qs => ?_)
  exact (List.append_assoc ps ps' qs).symm

theorem fills_plain (params : List Param) (ts : List Token)
    (h : wordsOnly ts = true) : Fills params ts (ts.map .token) := by
  induction ts with
  | nil => exact fun before rest => (congrFun Option.map_id _).symm
  | cons t ts ih =>
    obtain ⟨ht, hts⟩ := Bool.and_eq_true_iff.1 (show (!t.isParam && wordsOnly ts) = true from h)
    have hone : Fills params [t] [.token t] := by
      cases t
      case param n => exact nomatch ht
      all_goals exact fun _ _ => rfl
    exact hone.append (ih hts)

theorem fills_cast {n : Nat} {p : Param} (h : bound? params n = some p) :
    Fills params [.param n, .cast, .name p.type]
      [.value p, .token .cast, .token (.name p.type)] := by
  intro before rest
  have hplace : placeType before (.cast :: .name p.type :: rest) = some p.type := rfl
  have hcast := fills_plain params [.cast, .name p.type] rfl (.param n :: before) rest
  show fill params before (.param n :: ([.cast, .name p.type] ++ rest)) = _
  rw [fill, h]
  show (if placeType before (.cast :: .name p.type :: rest) = some p.type then _ else none) = _
  rw [if_pos hplace, hcast, Option.map_map]
  rfl

/-- **Tokens that bind some values**, with others bound before: their placeholders are exactly those
of the values, and each has its value and its place, whatever is bound later. -/
structure Binds (start more : List Param) (ts : List Token) (ps : List Piece) : Prop where
  used : ∀ n, Token.param n ∈ ts ↔ start.length < n ∧ n ≤ start.length + more.length
  fills : ∀ later, Fills (start ++ (more ++ later)) ts ps

/-- **Parts that bind their values one after the other.** -/
theorem Binds.append (h : Binds start more ts ps) (h' : Binds (start ++ more) more' ts' ps') :
    Binds start (more ++ more') (ts ++ ts') (ps ++ ps') where
  used n := by
    have hn := h.used n
    have hn' := h'.used n
    rw [List.length_append] at hn'
    rw [List.mem_append, hn, hn', List.length_append]
    omega
  fills later := by
    have hfirst := h.fills (more' ++ later)
    have hsecond := h'.fills later
    rw [List.append_assoc] at hsecond
    rw [List.append_assoc]
    exact hfirst.append hsecond

/-- Parts the second of which binds its values before the first. -/
theorem Binds.append_of_later (h : Binds (start ++ more) more' ts ps)
    (h' : Binds start more ts' ps') : Binds start (more ++ more') (ts ++ ts') (ps ++ ps') where
  used n := by
    have hn := h.used n
    have hn' := h'.used n
    rw [List.length_append] at hn
    rw [List.mem_append, hn, hn', List.length_append]
    omega
  fills later := by
    have hfirst := h.fills later
    have hsecond := h'.fills (more' ++ later)
    rw [List.append_assoc] at hfirst
    rw [List.append_assoc]
    exact hfirst.append hsecond

/-- Parts with the same values. -/
theorem Binds.append_of_same (h : Binds start more ts ps) (h' : Binds start more ts' ps') :
    Binds start more (ts ++ ts') (ps ++ ps') where
  used n := by rw [List.mem_append, h.used, h'.used, or_self]
  fills later := (h.fills later).append (h'.fills later)

theorem param_not_mem (h : wordsOnly ts = true) (n : Nat) : Token.param n ∉ ts :=
  fun hn => nomatch List.all_eq_true.1 h _ hn

/-- Tokens without a placeholder bind nothing. -/
theorem binds_nothing (start : List Param) (h : wordsOnly ts = true) :
    Binds start [] ts (ts.map .token) where
  used n := by
    rw [List.length_nil, iff_false_left (param_not_mem h n)]
    omega
  fills later := fills_plain _ ts h

theorem Binds.after (hts : wordsOnly ts = true) (h : Binds start more ts' ps') :
    Binds start more (ts ++ ts') (ts.map .token ++ ps') where
  used n := by rw [List.mem_append, h.used n, or_iff_right (param_not_mem hts n)]
  fills later := (fills_plain _ ts hts).append (h.fills later)

theorem Binds.before (h : Binds start more ts ps) (hts' : wordsOnly ts' = true) :
    Binds start more (ts ++ ts') (ps ++ ts'.map .token) where
  used n := by rw [List.mem_append, h.used n, or_iff_left (param_not_mem hts' n)]
  fills later := (h.fills later).append (fills_plain _ ts' hts')

/-- Fixed words before a part. -/
theorem Binds.after_words (h : Binds start more ts ps) {s : String} (hs : '$' ∉ s.toList) :
    Binds start more (words s ++ ts) (plain s ++ ps) :=
  h.after (wordsOnly_words hs)

/-- Fixed words after a part. -/
theorem Binds.before_words (h : Binds start more ts ps) {s : String} (hs : '$' ∉ s.toList) :
    Binds start more (ts ++ words s) (ps ++ plain s) :=
  h.before (wordsOnly_words hs)

theorem bound?_append (start : List Param) (p : Param) (later : List Param) :
    bound? (start ++ p :: later) (start.length + 1) = some p := by
  rw [bound?, List.getElem?_append_right (Nat.le_refl _), Nat.sub_self]
  rfl

/-- **A placeholder with a cast** binds a value of the type that it is cast to. -/
theorem binds_cast (start : List Param) (p : Param) :
    Binds start [p] [.param (start.length + 1), .cast, .name p.type]
      [.value p, .token .cast, .token (.name p.type)] where
  used n := by
    have hmem : Token.param n ∈ [.param (start.length + 1), .cast, .name p.type] ↔
        n = start.length + 1 := by simp
    rw [hmem, List.length_singleton]
    omega
  fills later := fills_cast (bound?_append start p later)

end Sql

/-! ## Conditions -/

theorem Operand.binds_field (start : List Param) {name : String} (hname : name ≠ "id") :
    Binds start [.text name] (Operand.field (start.length + 1)).tokens (operandWritten name) := by
  have hopen : wordsOnly [Token.lparen, .name "data", .operator .arrow] = true := rfl
  have hclose : wordsOnly [Token.rparen] = true := rfl
  rw [operandWritten, if_neg hname]
  exact ((binds_cast start (.text name)).after hopen).before hclose

namespace Filter

/-- **A comparison** binds its value after what its operand binds. -/
theorem binds_compare (op : Comparison) {start more : List Param} {left : Operand} {name : String}
    (h : Binds start more left.tokens (operandWritten name)) (v : Json) :
    Binds start (more ++ [.json v])
      (Clause.compareTokens op left (start.length + more.length + 1)) (testWritten op name v) := by
  have hvalue := binds_cast (start ++ more) (.json v)
  rw [List.length_append] at hvalue
  cases op with
  | eq =>
    have hopen : wordsOnly [Token.name "coalesce", .lparen] = true := rfl
    have hsign : wordsOnly [Token.operator .equal] = true := rfl
    have hclose : wordsOnly [Token.comma, .const false, .rparen] = true := rfl
    have hall := (h.append ((hvalue.after hsign).before hclose)).after hopen
    rw [Clause.compareTokens, List.append_assoc]
    exact hall
  | ne =>
    have hsign : wordsOnly [Token.is, .distinct, .from] = true := rfl
    exact h.append (hvalue.after hsign)

theorem renderTest_binds (op : Comparison) {name : String} (hname : isIdentifier name = true)
    (v : Json) (params : List Param) : ∃ cl more,
      renderTest op name v params = (.ok cl, params ++ more) ∧
        Binds params more cl.tokens (testWritten op name v) := by
  have hbad : ¬ (!isIdentifier name) = true := by rw [hname]; decide
  rw [renderTest, if_neg hbad]
  by_cases hid : name = "id"
  · have hleft : Binds params [] Operand.id.tokens (operandWritten name) := by
      rw [operandWritten, if_pos hid]
      exact binds_nothing params rfl
    rw [if_pos hid]
    exact ⟨_, _, rfl, binds_compare op hleft v⟩
  · rw [if_neg hid]
    exact ⟨_, _, rfl, binds_compare op (Operand.binds_field params hid) v⟩

mutual

/-- **The condition of a filter** binds the names and values of the filter, each at its comparison,
if every compared field is an identifier. -/
theorem render_binds (f : Filter) (hf : ∀ name ∈ f.compared, isIdentifier name = true)
    (params : List Param) : ∃ cl more,
      f.render params = (.ok cl, params ++ more) ∧ Binds params more cl.tokens f.written := by
  match f with
  | const b =>
    refine ⟨.const b, [], ?_, binds_nothing params rfl⟩
    rw [render, List.append_nil]
  | test op name v =>
    exact renderTest_binds op (hf name (List.mem_singleton.2 rfl)) v params
  | join c [] =>
    refine ⟨.const c.neutral, [], ?_, binds_nothing params rfl⟩
    rw [render, List.append_nil]
  | join c (g :: rest) =>
    rw [compared, comparedList, List.forall_mem_append] at hf
    obtain ⟨cl, more, hrender, hbinds⟩ := render_binds g hf.1 params
    obtain ⟨cls, more', hrest, hbinds'⟩ := renderList_binds c rest hf.2 (params ++ more)
    refine ⟨.join c (cl :: cls), more ++ more', ?_, ?_⟩
    · rw [render, renderList, hrender]
      simp only [hrest, List.append_assoc]
    · have hclose : wordsOnly [Token.rparen] = true := rfl
      have hopen : wordsOnly [Token.lparen] = true := rfl
      have hall := ((hbinds.append hbinds').before hclose).after hopen
      rw [Clause.tokens, written, ← List.append_assoc]
      exact hall
  | negate g =>
    obtain ⟨cl, more, hrender, hbinds⟩ := render_binds g hf params
    have hclose : wordsOnly [Token.rparen] = true := rfl
    have hopen : wordsOnly [Token.not, .lparen] = true := rfl
    rw [render, hrender]
    exact ⟨.negate cl, more, rfl, (hbinds.before hclose).after hopen⟩

/-- `render_binds`, for the parts after the first. -/
theorem renderList_binds (c : Connective) (fs : List Filter)
    (hfs : ∀ name ∈ comparedList fs, isIdentifier name = true) (params : List Param) :
    ∃ cls more, renderList fs params = (.ok cls, params ++ more) ∧
      Binds params more (Clause.tailTokens c.operator cls) (writtenTail c fs) := by
  match fs with
  | [] =>
    refine ⟨[], [], ?_, binds_nothing params rfl⟩
    rw [renderList, List.append_nil]
  | f :: rest =>
    rw [comparedList, List.forall_mem_append] at hfs
    obtain ⟨cl, more, hrender, hbinds⟩ := render_binds f hfs.1 params
    obtain ⟨cls, more', hrest, hbinds'⟩ := renderList_binds c rest hfs.2 (params ++ more)
    have hword : wordsOnly [Token.operator c.operator] = true := rfl
    refine ⟨cl :: cls, more ++ more', ?_, (hbinds.append hbinds').after hword⟩
    rw [renderList, hrender]
    simp only [hrest, List.append_assoc]

end

mutual

/-- **A filter that compares a field by no identifier** has no condition. -/
theorem render_fails (f : Filter) (hf : ∃ name ∈ f.compared, isIdentifier name = false)
    (params : List Param) : ∃ reason params',
      f.render params = (.error (.invalidInput reason), params') := by
  obtain ⟨name, hmem, hname⟩ := hf
  match f with
  | const b => exact nomatch hmem
  | test op name' v =>
    have hbad : (!isIdentifier name') = true := by rw [← List.mem_singleton.1 hmem, hname]; rfl
    rw [render, renderTest, if_pos hbad]
    exact ⟨_, _, rfl⟩
  | join c [] => exact nomatch hmem
  | join c (g :: rest) =>
    obtain ⟨reason, params', hrender⟩ := renderList_fails (g :: rest) ⟨name, hmem, hname⟩ params
    rw [render, hrender]
    exact ⟨reason, params', rfl⟩
  | negate g =>
    obtain ⟨reason, params', hrender⟩ := render_fails g ⟨name, hmem, hname⟩ params
    rw [render, hrender]
    exact ⟨reason, params', rfl⟩

/-- `render_fails`, part by part. -/
theorem renderList_fails (fs : List Filter)
    (hfs : ∃ name ∈ comparedList fs, isIdentifier name = false) (params : List Param) :
    ∃ reason params', renderList fs params = (.error (.invalidInput reason), params') := by
  obtain ⟨name, hmem, hname⟩ := hfs
  match fs with
  | [] => exact nomatch hmem
  | f :: rest =>
    by_cases hf : ∀ name ∈ f.compared, isIdentifier name = true
    · obtain ⟨cl, more, hrender, -⟩ := render_binds f hf params
      have hrest : name ∈ comparedList rest := by
        refine (List.mem_append.1 hmem).resolve_left fun hmem => ?_
        exact absurd (hf name hmem) (hname ▸ Bool.false_ne_true)
      obtain ⟨reason, params', hrender'⟩ :=
        renderList_fails rest ⟨name, hrest, hname⟩ (params ++ more)
      refine ⟨reason, params', ?_⟩
      rw [renderList, hrender]
      simp only [hrender']
    · have hbad : ∃ name ∈ f.compared, isIdentifier name = false := by simpa using hf
      obtain ⟨reason, params', hrender⟩ := render_fails f hbad params
      rw [renderList, hrender]
      exact ⟨reason, params', rfl⟩

end

end Filter

end RowGuard
