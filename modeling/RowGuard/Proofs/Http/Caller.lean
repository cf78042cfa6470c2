import RowGuard.Proofs.Except
import RowGuard.Proofs.Http.Header
import RowGuard.Proofs.Text.Numeral

/-!
# Headers that name a caller

Which headers name a caller is told by the bytes in them: an identifier, spelled by the first header
for it, a role, if one is given, and an address that is readable, if there is one (`Names`). These
are the headers that identify a caller (`names_iff`).

* `Names`: headers that name a caller
* `SentBy`: who sent a request
-/

set_option autoImplicit false

namespace RowGuard

/-! ## Names of roles -/

theorem Role.ofName?_eq_some_iff {name : String} {role : Role} :
    ofName? name = some role ↔ name = role.name := by
  constructor
  · intro h
    unfold ofName? at h
    split at h <;> cases h <;> rfl
  · rintro rfl
    cases role <;> rfl

/-- **A role's name** in any case of its letters. -/
theorem Role.parse_eq_ok_iff {text : List Char} {role : Role} : parse (String.ofList text) =
    .ok role ↔ text.map Char.toLower = role.name.toList.map Char.toLower := by
  have hupper : role.name.toList.map Char.toUpper = role.name.toList := by cases role <;> rfl
  have hparse : parse (String.ofList text) = .ok role ↔
      text.map Char.toUpper = role.name.toList := by
    rw [← String.ofList_inj, String.ofList_toList, ← ofName?_eq_some_iff]
    unfold parse
    rw [String.toList_ofList]
    dsimp only
    cases ofName? (String.ofList (text.map Char.toUpper)) with
    | none => exact iff_of_false nofun nofun
    | some r => simp
  rw [hparse]
  -- either case can be made of the other
  constructor
  · intro h
    rw [← h, List.map_map]
    exact List.map_congr_left fun c _ => (toLower_toUpper c).symm
  · intro h
    have hagain := congrArg (List.map Char.toUpper) h
    rw [List.map_map, List.map_map] at hagain
    simpa [Function.comp_def, toUpper_toLower, hupper] using hagain

namespace Http

/-! ## What the text spells -/

/-- An identifier may have blanks around it. -/
theorem readUserId_eq_ok_iff {text : List Char} {id : Int64} :
    readUserId text = .ok id ↔ Spells (trimBlanks text) id.toInt := by
  rw [← idOfText?_eq_some_iff]
  unfold readUserId
  cases idOfText? (trimBlanks text) with
  | none => exact iff_of_false nofun nofun
  | some id' => simp

/-- **The role that is given** by a text, or by none. -/
inductive SpellsRole : Option (List Char) → Role → Prop
  | unsaid : SpellsRole none .user
  | said {text core : List Char} {role : Role} (htrim : Trims IsPad text core)
      (hname : core.map Char.toLower = role.name.toList.map Char.toLower) :
      SpellsRole (some text) role

/-- **The role that is read** is the one that the header spells. -/
theorem readRole_eq_ok_iff {headers : Headers} {text : Option (List Char)} {role : Role}
    (h : Brings headers userRoleHeader text) : readRole text = .ok role ↔ SpellsRole text role := by
  cases text with
  | none =>
    constructor
    · intro hrole
      cases hrole
      exact .unsaid
    · rintro ⟨⟩
      rfl
  | some text =>
    have hread : readRole (some text) = .ok role ↔
        (trimBlanks text).map Char.toLower = role.name.toList.map Char.toLower := by
      rw [← Role.parse_eq_ok_iff]
      unfold readRole
      dsimp only
      cases Role.parse (String.ofList (trimBlanks text)) <;> simp
    rw [hread]
    constructor
    · intro hname
      exact .said (h.trimBlanks_eq_iff.1 rfl) hname
    · rintro ⟨⟩
      rename_i htrim hname
      rwa [h.trimBlanks_eq_iff.2 htrim]

/-! ## Headers that name a caller -/

/-- **Headers that name a caller**, by an identifier and a role. -/
structure Names (headers : Headers) (id : Int64) (role : Role) : Prop where
  identifier : ∃ text core, Brings headers userIdHeader (some text) ∧ Trims IsPad text core ∧
    Spells core id.toInt
  role : ∃ text, Brings headers userRoleHeader text ∧ SpellsRole text role
  address : ∃ text, Brings headers userEmailHeader text

/-- The caller that the headers name; whoever cannot be identified is anonymous. -/
def callerOf (headers : Headers) : Option Caller := (identify headers).toOption.join

/-- Everything that goes into a caller who is identified. -/
theorem identify_eq_some_iff {headers : Headers} {c : Caller} : identify headers = .ok (some c) ↔
    ∃ text role address, headerText userIdHeader headers = .ok (some text) ∧
      readUserId text = .ok c.id ∧ headerText userRoleHeader headers = .ok role ∧
      readRole role = .ok c.role ∧ headerText userEmailHeader headers = .ok address ∧
      c = { Caller.new c.id c.role with email := address.map String.ofList } := by
  unfold identify
  rw [bind_eq_ok_iff]
  constructor
  · rintro ⟨text, htext, h⟩
    cases text with
    | none => cases h
    | some text =>
      obtain ⟨id, hid, h⟩ := bind_eq_ok_iff.1 h
      obtain ⟨role, hrole, h⟩ := bind_eq_ok_iff.1 h
      obtain ⟨r, hr, h⟩ := bind_eq_ok_iff.1 h
      obtain ⟨address, haddress, h⟩ := bind_eq_ok_iff.1 h
      cases h
      exact ⟨text, role, address, htext, hid, hrole, hr, haddress, rfl⟩
  · rintro ⟨text, role, address, htext, hid, hrole, hr, haddress, hc⟩
    refine ⟨some text, htext, bind_eq_ok_iff.2 ⟨_, hid, bind_eq_ok_iff.2 ⟨_, hrole, ?_⟩⟩⟩
    refine bind_eq_ok_iff.2 ⟨_, hr, bind_eq_ok_iff.2 ⟨_, haddress, ?_⟩⟩
    rw [hc]
    rfl

theorem callerOf_eq_some_iff {headers : Headers} {c : Caller} :
    callerOf headers = some c ↔ identify headers = .ok (some c) := by
  unfold callerOf
  cases identify headers with
  | error e => exact iff_of_false nofun nofun
  | ok caller => simp [Except.toOption]

/-- **Headers identify the caller whom they name.** -/
theorem names_iff {headers : Headers} {id : Int64} {role : Role} :
    Names headers id role ↔ ∃ c, callerOf headers = some c ∧ c.id = id ∧ c.role = role := by
  constructor
  · rintro ⟨⟨text, core, htext, htrim, hspells⟩, ⟨roleText, hrole, hname⟩, ⟨address, haddress⟩⟩
    refine ⟨{ Caller.new id role with email := address.map String.ofList }, ?_, rfl, rfl⟩
    rw [← htext.trimBlanks_eq_iff.2 htrim] at hspells
    rw [callerOf_eq_some_iff, identify_eq_some_iff]
    exact ⟨text, roleText, address, headerText_eq_ok_iff.2 htext, readUserId_eq_ok_iff.2 hspells,
      headerText_eq_ok_iff.2 hrole, (readRole_eq_ok_iff hrole).2 hname,
      headerText_eq_ok_iff.2 haddress, rfl⟩
  · rintro ⟨c, hc, rfl, rfl⟩
    rw [callerOf_eq_some_iff, identify_eq_some_iff] at hc
    obtain ⟨text, roleText, address, htext, hid, hrole, hr, haddress, -⟩ := hc
    have hbrings := headerText_eq_ok_iff.1 htext
    have hrings := headerText_eq_ok_iff.1 hrole
    refine ⟨⟨text, trimBlanks text, hbrings, hbrings.trimBlanks_eq_iff.1 rfl,
      readUserId_eq_ok_iff.1 hid⟩, ⟨roleText, hrings, (readRole_eq_ok_iff hrings).1 hr⟩,
      ⟨address, headerText_eq_ok_iff.1 haddress⟩⟩

/-- Headers that name nobody identify nobody. -/
theorem callerOf_eq_none_iff {headers : Headers} :
    callerOf headers = none ↔ ¬ ∃ id role, Names headers id role := by
  rw [Option.eq_none_iff_forall_ne_some]
  constructor
  · rintro h ⟨id, role, hnames⟩
    obtain ⟨c, hc, -⟩ := names_iff.1 hnames
    exact h c hc
  · intro h c hc
    exact h ⟨c.id, c.role, names_iff.2 ⟨c, hc, rfl, rfl⟩⟩

/-- **Who sent a request**, by its headers: the caller whom they name, or nobody. -/
def SentBy (headers : Headers) : Option Caller → Prop
  | some c => Names headers c.id c.role
  | none => ¬ ∃ id role, Names headers id role

/-- The sender is the caller who is identified, as far as identifier and role go. -/
theorem SentBy.id_role_eq {headers : Headers} {caller : Option Caller}
    (h : SentBy headers caller) : caller.map (fun c => (c.id, c.role)) =
      (callerOf headers).map fun c => (c.id, c.role) := by
  cases caller with
  | none =>
    rw [callerOf_eq_none_iff.2 h]
  | some c =>
    obtain ⟨c', hc', hid, hrole⟩ := names_iff.1 h
    rw [hc', Option.map_some, Option.map_some, hid, hrole]

end Http

end RowGuard
