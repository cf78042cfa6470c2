import RowGuard.Proofs.Json.Identifier
import RowGuard.Proofs.Rule.Policy

/-!
# Who may edit one post

A user may edit the posts whose author agrees with the user's identifier. A signed whole number
agrees with one identifier only, but any other number is compared as a double, and far from zero
several identifiers round to one double.

* `RuleSet.owner_can_edit`: the posts that a user may edit
* `RuleSet.edited_by_both_iff`: the posts that two users may edit
-/

set_option autoImplicit false

namespace RowGuard

namespace RuleSet

/-- **An owner may edit a post** whose author agrees with the owner's identifier. -/
theorem owner_can_edit {action : Action} (h : action = .update ∨ action = .delete) (id : Int64)
    {post : Record} (hpost : post.model = .post) : (owner id).can action post = true ↔
      ∃ v, post.data.get? authorField = some v ∧ v.agrees (.ofId id) = true := by
  have hread : (action == .read) = false := by rcases h with rfl | rfl <;> rfl
  have hcreate : (action == .create) = false := by rcases h with rfl | rfl <;> rfl
  have htype : (Subject.subjectType post == .post) = true := beq_iff_eq.2 hpost
  rw [can_owner, hread, hcreate, htype, Bool.false_or, Bool.false_or, Bool.true_and]
  show Comparison.eq.holds (post.data.get? authorField) (.ofId id) = true ↔ _
  cases post.data.get? authorField with
  | none => simp [Comparison.holds]
  | some v => simp [Comparison.holds]

/-- **The posts that two users may edit** are those whose author is a number other than a signed
whole one that both identifiers round to. There are none if one of the identifiers is below
`2 ^ 53`. -/
theorem edited_by_both_iff (c c' : Caller) (hrole : c.role = .user) (hrole' : c'.role = .user)
    (hid : 0 < c.id) (hid' : 0 < c'.id) (hne : c.id ≠ c'.id) :
    ∃ rules rules', forCaller (some c) = .ok rules ∧ forCaller (some c') = .ok rules' ∧
      ∀ action, action = .update ∨ action = .delete → ∀ post : Record, post.model = .post →
        (rules.can action post = true ∧ rules'.can action post = true ↔
          ∃ author, post.data.get? authorField = some (.number author) ∧ author.signed? = none ∧
            author.units = intUnits c.id.toInt ∧ author.units = intUnits c'.id.toInt) ∧
        (c.id.toInt < 2 ^ 53 ∨ c'.id.toInt < 2 ^ 53 →
          ¬ (rules.can action post = true ∧ rules'.can action post = true)) := by
  refine ⟨_, _, forCaller_user hid hrole, forCaller_user hid' hrole', fun action h post hpost => ?_⟩
  have hboth : (owner c.id).can action post = true ∧ (owner c'.id).can action post = true ↔
      ∃ author, post.data.get? authorField = some (.number author) ∧ author.signed? = none ∧
        author.units = intUnits c.id.toInt ∧ author.units = intUnits c'.id.toInt := by
    rw [owner_can_edit h c.id hpost, owner_can_edit h c'.id hpost]
    constructor
    · rintro ⟨⟨v, hv, ha⟩, ⟨w, hw, hb⟩⟩
      cases hv.symm.trans hw
      obtain ⟨author, rfl, hauthor⟩ := (Json.agrees_two_iff hne v).1 ⟨ha, hb⟩
      exact ⟨author, hv, hauthor⟩
    · rintro ⟨author, hv, hauthor⟩
      obtain ⟨ha, hb⟩ := (Json.agrees_two_iff hne (.number author)).2 ⟨author, rfl, hauthor⟩
      exact ⟨⟨_, hv, ha⟩, ⟨_, hv, hb⟩⟩
  refine ⟨hboth, fun hlow hcan => ?_⟩
  obtain ⟨author, -, -, hua, hub⟩ := hboth.1 hcan
  have hunits := hua.symm.trans hub
  rcases hlow with hlow | hlow
  · exact hne (Json.id_eq_of_units hid hid' hlow hunits)
  · exact hne (Json.id_eq_of_units hid' hid hlow hunits.symm).symm

/-- The last two identifiers round to `2 ^ 63`, which is no signed number: a post with this author
may be edited by both users. -/
theorem last_two_share_a_post :
    let c := Caller.user 0x7FFFFFFFFFFFFFFE
    let c' := Caller.user 0x7FFFFFFFFFFFFFFF
    let post := Record.new .post 1 [(authorField, .int 0x8000000000000000)]
    ∃ rules rules', forCaller (some c) = .ok rules ∧ forCaller (some c') = .ok rules' ∧
      rules.can .update post = true ∧ rules'.can .update post = true := by
  intro c c' post
  obtain ⟨rules, rules', hrules, hrules', hboth⟩ := edited_by_both_iff c c' rfl rfl (by decide)
    (by decide) (by decide)
  refine ⟨rules, rules', hrules, hrules', ?_⟩
  refine ((hboth .update (.inl rfl) post rfl).1).2 ⟨.int 0x8000000000000000, rfl, rfl, ?_, ?_⟩
  · decide +kernel
  · decide +kernel

/-- The double `2 ^ 53`. -/
def doubleTwoPow53 : Double := ⟨false, 1 <<< 52, 1075, by decide⟩

/-- **A post may have two owners.** An author that is the double `2 ^ 53` agrees with the user of
that identifier and with the next one, who may update and delete the post too. -/
theorem post_of_two_users :
    let post := Record.new .post 1 [(authorField, .number (.double doubleTwoPow53))]
    ∃ rules rules', forCaller (some (.user 9007199254740992)) = .ok rules ∧
      forCaller (some (.user 9007199254740993)) = .ok rules' ∧
      rules.can .update post = true ∧ rules'.can .update post = true ∧
      rules.can .delete post = true ∧ rules'.can .delete post = true := by
  refine ⟨_, _, rfl, rfl, ?_⟩
  decide +kernel

end RuleSet

end RowGuard
