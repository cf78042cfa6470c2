import RowGuard.Proofs.Json.ByValue
import RowGuard.Proofs.Sql.Condition

/-!
# Conditions under equality by value

A database compares values by value at every depth. A filter does so with two numbers, but inside
arrays and objects it tells whole numbers from doubles. Both select the same rows as long as the
numbers inside of values that are equal by value are of the same kinds.

* `Database.ByValue`: what such a database does
* `Database.ByValue.compared_alike_iff`: where it agrees with filters, on values and on rows
* `nested_double_missed`: a row that it selects and the filter does not pass
-/

set_option autoImplicit false

namespace RowGuard

open Sql

/-- **A value as a database keeps it**: objects have one field of a name, numbers have doubles. -/
structure Json.Regular (v : Json) : Prop where
  ascending : v.Ascending
  doubles : v.Exact

namespace Sql

/-- **What a database does that compares values by value.** -/
structure Database.ByValue (db : Database) : Prop where
  equal : ∀ v w, db.equal v w = v.equal w
  field : db.ReadsFields

/-- A database that compares values by value. -/
def Database.byValue : Database := { Database.ordinary with equal := Json.equal }

theorem Database.byValue_byValue : byValue.ByValue := ⟨fun _ _ => rfl, fun _ _ => rfl⟩

end Sql

/-- Whether the field that a comparison reads, if equal by value, has numbers of the same kinds
inside. -/
def Predicate.Alike (t : Predicate) (r : Record) : Prop :=
  ∀ v, Subject.field r t.field = some v → v.equal t.value = true → v.Alike t.value

namespace Json

variable {a b : Json}

/-- The two comparisons of values come to the same when numbers inside of equal values are of the
same kinds. -/
theorem agrees_eq_equal_iff (ha : a.Regular) (hb : b.Regular) :
    a.agrees b = a.equal b ↔ (a.equal b = true → a.Alike b) := by
  have hagrees := agrees_iff_equal ha.ascending hb.ascending ha.doubles hb.doubles
  constructor
  · intro h hequal
    exact (hagrees.1 (h.trans hequal)).2
  · intro h
    rw [Bool.eq_iff_iff, hagrees]
    exact ⟨And.left, fun hequal => ⟨hequal, h hequal⟩⟩

end Json

namespace Sql.Database.ByValue

variable {db : Database}

section Read

variable (hdb : db.ByValue) {r : Record}
  (hr : ∀ name v, Subject.field r name = some v → v.Regular)
include hdb hr

/-- A filter means the same to the database if its comparisons read values alike. -/
theorem holdsBy_of_alike {f : Filter} (hf : ∀ t ∈ f.tests, t.value.Regular)
    (h : ∀ t ∈ f.tests, t.Alike r) : f.holdsBy db.equal (Subject.field r) = f.admits r := by
  refine Filter.ComparesBy.holdsBy_eq fun t ht v hv => ?_
  rw [hdb.equal]
  exact ((Json.agrees_eq_equal_iff (hr _ v hv) (hf t ht)).2 (h t ht v hv)).symm

/-- A comparison means the same to the database only if it reads values alike. -/
theorem alike_of_holdsBy {t : Predicate} (ht : t.value.Regular)
    (h : t.toFilter.holdsBy db.equal (Subject.field r) = t.toFilter.admits r) : t.Alike r := by
  intro v hv
  refine (Json.agrees_eq_equal_iff (hr _ v hv) ht).1 ?_
  rw [Filter.admits, ← Filter.holdsBy_agrees, Predicate.toFilter, Filter.holdsBy, Filter.holdsBy,
    hv] at h
  rw [← hdb.equal]
  exact (Comparison.equal_of_holdsBy h).symm

end Read

/-- **Where a database that compares by value agrees with filters.** Two values agree when they are
equal by value and either are numbers or have numbers of the same kinds inside. So the condition of
a filter selects the rows whose records pass the filter if each comparison reads values alike, and a
filter of one comparison does only then. -/
theorem compared_alike_iff (hdb : db.ByValue) :
    (∀ a b : Json, a.Regular → b.Regular →
      (a.agrees b = true ↔ db.equal a b = true ∧ a.Alike b)) ∧
    ∀ (model : SubjectType) (f : Filter), (∀ name ∈ f.compared, isIdentifier name = true) →
      (∀ t ∈ f.tests, t.value.Regular) → ∃ cl params, f.render [] = (.ok cl, params) ∧
        ∀ row : Row,
          (∀ name v, Subject.field (row.record model) name = some v → v.Regular) →
          ∃ selected, db.value row params cl.text = some (.bool selected) ∧
            ((∀ t ∈ f.tests, t.Alike (row.record model)) →
              selected = f.admits (row.record model)) ∧
            ∀ t : Predicate, f = t.toFilter →
              (selected = f.admits (row.record model) ↔ t.Alike (row.record model)) := by
  refine ⟨fun a b ha hb => ?_, fun model f hnames hf => ?_⟩
  · rw [hdb.equal]
    exact Json.agrees_iff_equal ha.ascending hb.ascending ha.doubles hb.doubles
  · obtain ⟨cl, params, hrender, hsettles⟩ := f.render_settles model hdb.field hnames []
    refine ⟨cl, params, hrender, fun row hrow => ?_⟩
    have hcl := hsettles row []
    rw [List.nil_append, List.append_nil] at hcl
    rw [Database.value, cl.read_text hcl.proper]
    refine ⟨_, hcl.eval, hdb.holdsBy_of_alike hrow hf, fun t ht => ?_⟩
    subst ht
    have htest : ∀ t' ∈ t.toFilter.tests, t' = t := fun t' => List.mem_singleton.1
    refine ⟨hdb.alike_of_holdsBy hrow (hf t (List.mem_singleton_self t)), fun h => ?_⟩
    exact hdb.holdsBy_of_alike hrow hf fun t' ht' => htest t' ht' ▸ h

/-- The double `1`. -/
def doubleOne : Double := ⟨false, 1 <<< 52, 1022, by decide⟩

/-- A post with one view and one tag. -/
def taggedPost : Row := ⟨1, "Post", [("tags", .array [.int 1]), ("views", .int 1)]⟩

theorem taggedPost_regular (name : String) (v : Json)
    (hv : Subject.field (taggedPost.record .post) name = some v) : v.Regular := by
  have hone : (Number.int 1).Exact := by decide +kernel
  rw [Row.field_record] at hv
  split at hv
  · obtain rfl := Option.some.inj hv
    exact ⟨trivial, List.forall_mem_singleton.2 hone⟩
  · have hmem := Keyed.mem_of_get? hv
    obtain hp | hp := List.mem_pair.1 hmem
    · obtain ⟨-, rfl⟩ := Prod.mk.inj hp
      exact ⟨⟨trivial, trivial⟩, List.forall_mem_singleton.2 hone⟩
    · obtain ⟨-, rfl⟩ := Prod.mk.inj hp
      exact ⟨trivial, List.forall_mem_singleton.2 hone⟩

/-- One view as a double and other tags: the post is selected, and passes the filter. -/
theorem one_view_as_double :
    let f := Filter.join .all
      [.eq "views" (.number (.double doubleOne)), .ne "tags" (.array [.int 2])]
    ∃ cl params, f.render [] = (.ok cl, params) ∧
      byValue.value taggedPost params cl.text = some (.bool true) ∧
      f.admits (taggedPost.record .post) = true := by
  intro f
  have htests : ∀ t ∈ f.tests, t.value.Regular ∧ t.Alike (taggedPost.record .post) := by
    refine List.forall_mem_cons.2 ⟨⟨⟨trivial, by decide +kernel⟩, ?_⟩,
      List.forall_mem_singleton.2 ⟨⟨⟨trivial, trivial⟩, by decide +kernel⟩, ?_⟩⟩
    · intro v hv _
      exact .inl ⟨.int 1, .double doubleOne, (Option.some.inj hv).symm, rfl⟩
    · intro v hv _
      rw [← Option.some.inj hv]
      exact .inr rfl
  obtain ⟨cl, params, hrender, hselected⟩ := (compared_alike_iff byValue_byValue).2 .post f
    (by decide) fun t ht => (htests t ht).1
  obtain ⟨selected, hvalue, halike, -⟩ := hselected taggedPost taggedPost_regular
  have hadmits : f.admits (taggedPost.record .post) = true := by decide +kernel
  rw [halike fun t ht => (htests t ht).2, hadmits] at hvalue
  exact ⟨cl, params, hrender, hvalue, hadmits⟩

/-- **A double in an array is not found.** The tags `[1]` equal `[1.0]` by value and do not agree
with them, so the database selects a post that the filter does not pass. -/
theorem nested_double_missed :
    let tags := Json.array [.number (.double doubleOne)]
    tags.Regular ∧ (Json.array [.int 1]).Regular ∧ (Json.array [.int 1]).equal tags = true ∧
      (Json.array [.int 1]).agrees tags = false ∧
      ∃ cl params, (Filter.eq "tags" tags).render [] = (.ok cl, params) ∧
        byValue.value taggedPost params cl.text = some (.bool true) ∧
        (Filter.eq "tags" tags).admits (taggedPost.record .post) = false := by
  refine ⟨⟨⟨trivial, trivial⟩, by decide +kernel⟩, ⟨⟨trivial, trivial⟩, by decide +kernel⟩,
    by decide +kernel, by decide +kernel, _, _, rfl, ?_, by decide +kernel⟩
  have hequal : (Json.array [.int 1]).equal (.array [.number (.double doubleOne)]) = true := by
    decide +kernel
  have hread := (Clause.compare .eq (.field 1) 2).read_text trivial
  exact (congrArg (Option.bind · _) hread).trans (congrArg (some ∘ Value.bool) hequal)

end Sql.Database.ByValue

end RowGuard
