import RowGuard.Guard
import RowGuard.Post.Basic

/-!
# The post service

Each call is a dialogue of one question and a reading of its answer. The service never sees rules:
put through `guarded` its questions are judged, put straight to a backend they are not.
-/

set_option autoImplicit false

namespace RowGuard.PostService

/-- The post in an answer about one record. -/
def onePost (id : Int64) (answer : Result Output) : Result Post :=
  match answer.bind Output.toRecord with
  | .error e => .error e
  | .ok none => .error (Guard.missing .post id)
  | .ok (some r) => Post.ofRecord r

/-- **A new post** by an author. -/
def create (input : NewPost) (author : Int64) : Dialogue (Result Post) :=
  .ask (.create .post (input.toFields.insert authorField (.ofId author))) fun answer =>
    .done (match answer.bind Output.toRecord with
      | .error e => .error e
      | .ok none => .error (.internal "create returned no record")
      | .ok (some r) => Post.ofRecord r)

/-- The posts that pass a filter. One row that is no post spoils the whole list. -/
def findWhere (filter : Filter) : Dialogue (Result (List Post)) :=
  .ask (.findMany .post filter) fun answer =>
    .done ((answer.bind Output.toRecords).bind fun rs => rs.mapM Post.ofRecord)

/-- Every post. -/
def findAll : Dialogue (Result (List Post)) := findWhere .pass

/-- The number of posts that pass a filter. -/
def count (filter : Filter) : Dialogue (Result Nat) :=
  .ask (.count .post filter) fun answer => .done (answer.bind Output.toCount)

/-- The post with an identifier. -/
def findOne (id : Int64) : Dialogue (Result Post) :=
  .ask (.findUnique .post id) fun answer => .done (onePost id answer)

/-- Changes a post. -/
def update (id : Int64) (changes : PostChanges) : Dialogue (Result Post) :=
  .ask (.update .post id changes.toFields) fun answer => .done (onePost id answer)

/-- Removes a post and returns it. -/
def remove (id : Int64) : Dialogue (Result Post) :=
  .ask (.delete .post id) fun answer => .done (onePost id answer)

/-- Removes the posts that pass a filter and returns their number. -/
def removeWhere (filter : Filter) : Dialogue (Result Nat) :=
  .ask (.deleteMany .post filter) fun answer => .done (answer.bind Output.toCount)

end RowGuard.PostService
