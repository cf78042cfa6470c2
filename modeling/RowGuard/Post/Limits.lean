import RowGuard.Post.Basic

/-!
# Limits on posts

A title has 1 to 200 characters and a content at most 10000. Lengths count characters, not bytes. A
field that is left out of a change is within its limits.
-/

set_option autoImplicit false

namespace RowGuard

/-- Bounds on the length of a text. -/
structure LengthBounds where
  min : Option Nat
  max : Nat
  deriving DecidableEq

/-- Whether a length is within bounds. -/
def LengthBounds.admits (b : LengthBounds) (n : Nat) : Bool :=
  (match b.min with
    | some m => decide (m ≤ n)
    | none => true) && decide (n ≤ b.max)

/-- The bounds of a title. -/
def titleBounds : LengthBounds := ⟨some 1, 200⟩

/-- The bounds of a content. -/
def contentBounds : LengthBounds := ⟨none, 10000⟩

/-- A text whose length is out of bounds. -/
structure Violation where
  field : String
  bounds : LengthBounds
  value : String
  deriving DecidableEq

/-- The violation of a field, if there is one. -/
def LengthBounds.check (b : LengthBounds) (field : String) : Option String → List Violation
  | some s => if b.admits s.length then [] else [⟨field, b, s⟩]
  | none => []

/-- The violations of a title and a content, in order of their names. -/
def textViolations (title content : Option String) : List Violation :=
  contentBounds.check "content" content ++ titleBounds.check "title" title

/-- **What is out of bounds in a new post.** -/
def NewPost.violations (p : NewPost) : List Violation := textViolations (some p.title) p.content

/-- **What is out of bounds in changes.** -/
def PostChanges.violations (c : PostChanges) : List Violation := textViolations c.title c.content

/-- What is said of violations. -/
def Violation.message (vs : List Violation) : String :=
  "; ".intercalate (vs.map fun v => v.field ++ ": Validation error: length")

end RowGuard
