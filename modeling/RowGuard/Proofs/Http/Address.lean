import RowGuard.Http.Route
import RowGuard.Proofs.Text.CodePoint
import RowGuard.Proofs.Text.Numeral
import RowGuard.Proofs.Text.Run

/-!
# Addresses

An address has a path, which stands at its start or after a scheme and a host, and ends before a
query or a fragment (`PathOf`). The path of a post is `/posts/` followed by an identifier, in which
characters may be given by their codes (`Decodes`), so the identifier of a post is known from its
address (`Addresses`).

* `pathOf?_eq_some_iff`: the path that is found in an address
* `addresses_iff`: the addresses that lead to a post
* `addresses_postUri`: the plain address of a post is one of them
-/

set_option autoImplicit false

namespace RowGuard.Http

/-! ## Paths -/

/-- A character of a scheme. -/
def SchemeChar (c : Char) : Prop := c.isAlphanum = true ∨ c ∈ "+-.~".toList

/-- What comes after a path: nothing, a query or a fragment. -/
def EndsPath (tail : List Char) : Prop := ∀ c ∈ tail.head?, c = '?' ∨ c = '#'

/-- A character of a path. -/
def PathChar (c : Char) : Prop := c ≠ '?' ∧ c ≠ '#'

/-- A character of a host. -/
def HostChar (c : Char) : Prop := c ≠ '/' ∧ c ≠ '?' ∧ c ≠ '#'

/-- **The path after a host.** Without one it is the root. -/
inductive HostPath : List Char → List Char → Prop
  | path {host path tail : List Char} (hhost : ∀ c ∈ host, HostChar c)
      (hpath : ∀ c ∈ path, PathChar c) (htail : EndsPath tail) :
      HostPath (host ++ '/' :: (path ++ tail)) ('/' :: path)
  | root {host tail : List Char} (hhost : ∀ c ∈ host, HostChar c) (htail : EndsPath tail) :
      HostPath (host ++ tail) ['/']

/-- **The path of an address**, which starts with it or with a scheme and a host. -/
inductive PathOf : List Char → List Char → Prop
  | bare {path tail : List Char} (hpath : ∀ c ∈ path, PathChar c) (htail : EndsPath tail) :
      PathOf ('/' :: (path ++ tail)) ('/' :: path)
  | full {scheme cs path : List Char} (hscheme : ∀ c ∈ scheme, SchemeChar c)
      (h : HostPath cs path) : PathOf (scheme ++ ':' :: '/' :: '/' :: cs) path

/-- Whether a character may stand in a path. -/
def inPath (c : Char) : Bool := c != '?' && c != '#'

/-- Whether a character may stand in a host. -/
def inHost (c : Char) : Bool := c != '/' && c != '?' && c != '#'

theorem inPath_iff {c : Char} : inPath c = true ↔ PathChar c := by
  simp only [inPath, PathChar, Bool.and_eq_true, bne_iff_ne]

theorem inHost_iff {c : Char} : inHost c = true ↔ HostChar c := by
  simp only [inHost, HostChar, Bool.and_eq_true, bne_iff_ne, and_assoc]

theorem isSchemeChar_iff {c : Char} : isSchemeChar c = true ↔ SchemeChar c := by
  simp only [isSchemeChar, SchemeChar, Bool.or_eq_true, List.contains_iff_mem]

theorem endsPath_iff {tail : List Char} : EndsPath tail ↔ ∀ c ∈ tail.head?, inPath c = false := by
  refine forall₂_congr fun c _ => ?_
  rw [← Bool.not_eq_true, inPath_iff, PathChar]
  grind

/-- The path after a host. -/
def pathAfter (cs : List Char) : List Char :=
  match cs.takeWhile inPath with
  | [] => ['/']
  | path => path

/-- An address that starts with a slash starts with its path. -/
theorem pathOf?_slash {uri : String} {cs : List Char} (h : uri.toList = '/' :: cs) :
    pathOf? uri = some ('/' :: cs.takeWhile inPath) := by
  unfold pathOf?
  rw [h]
  rfl

/-- The path after a scheme and a host. -/
theorem pathOf?_scheme {uri : String} {scheme cs : List Char}
    (h : uri.toList = scheme ++ ':' :: '/' :: '/' :: cs) (hscheme : ∀ c ∈ scheme, SchemeChar c) :
    pathOf? uri = some (pathAfter (cs.dropWhile inHost)) := by
  have hdrop : uri.toList.dropWhile isSchemeChar = ':' :: '/' :: '/' :: cs := by
    rw [h]
    exact dropWhile_of_run (fun c hc => isSchemeChar_iff.2 (hscheme c hc)) (by rintro c ⟨⟩; rfl)
  unfold pathOf?
  dsimp only
  split
  · rename_i rest hslash
    rw [h] at hslash
    cases scheme with
    | nil => exact absurd (List.cons.inj hslash).1 (by decide)
    | cons c scheme =>
      have hc := hscheme c List.mem_cons_self
      rw [(List.cons.inj hslash).1, ← isSchemeChar_iff] at hc
      exact absurd hc (by decide)
  · rw [hdrop, pathAfter]
    change (match (cs.dropWhile inHost).takeWhile inPath with
      | [] => some ['/']
      | path => some path) = _
    cases (cs.dropWhile inHost).takeWhile inPath <;> rfl

/-- What starts with a slash after the host is a path up to a query or a fragment. -/
theorem pathAfter_slash {path tail : List Char} (hpath : ∀ c ∈ path, PathChar c)
    (htail : EndsPath tail) : pathAfter ('/' :: (path ++ tail)) = '/' :: path := by
  have htake : (path ++ tail).takeWhile inPath = path :=
    takeWhile_of_run (fun c hc => inPath_iff.2 (hpath c hc)) (endsPath_iff.1 htail)
  rw [pathAfter, List.takeWhile_cons_of_pos rfl, htake]

/-- Where a query or a fragment comes right after the host, the path is the root. -/
theorem pathAfter_tail {tail : List Char} (htail : EndsPath tail) : pathAfter tail = ['/'] := by
  have hempty : ∀ c ∈ ([] : List Char), inPath c = true := nofun
  have htake : tail.takeWhile inPath = [] := takeWhile_of_run hempty (endsPath_iff.1 htail)
  rw [pathAfter, htake]

/-- The characters of a path, up to a query or a fragment. -/
theorem exists_path (cs : List Char) : ∃ path tail, cs.takeWhile inPath = path ∧
    cs = path ++ tail ∧ (∀ c ∈ path, PathChar c) ∧ EndsPath tail := by
  obtain ⟨path, tail, htake, -, hcs, hpath, htail⟩ := exists_run inPath cs
  exact ⟨path, tail, htake, hcs, fun c hc => inPath_iff.1 (hpath c hc), endsPath_iff.2 htail⟩

/-- What is taken after a host is its path. -/
theorem hostPath_pathAfter (cs : List Char) : HostPath cs (pathAfter (cs.dropWhile inHost)) := by
  obtain ⟨host, after, -, hdrop, rfl, hhost, hafter⟩ := exists_run inHost cs
  have hhost' : ∀ c ∈ host, HostChar c := fun c hc => inHost_iff.1 (hhost c hc)
  rw [hdrop]
  by_cases hslash : ∃ rest, after = '/' :: rest
  · obtain ⟨rest, rfl⟩ := hslash
    obtain ⟨path, tail, -, rfl, hpath, htail⟩ := exists_path rest
    rw [pathAfter_slash hpath htail]
    exact .path hhost' hpath htail
  · have htail : EndsPath after := by
      intro c hc
      have hmark := hafter c hc
      rw [← Bool.not_eq_true, inHost_iff, HostChar] at hmark
      -- the host ends at a slash, a query or a fragment, and a slash it is not
      have hne : c ≠ '/' := by
        rintro rfl
        obtain ⟨rest, hrest⟩ := List.head?_eq_some_iff.1 hc
        exact hslash ⟨rest, hrest⟩
      grind
    rw [pathAfter_tail htail]
    exact .root hhost' htail

/-- The path after a host is what is taken. -/
theorem HostPath.pathAfter_eq {cs path : List Char} (h : HostPath cs path) :
    pathAfter (cs.dropWhile inHost) = path := by
  cases h with
  | path hhost hpath htail =>
    rw [dropWhile_of_run (fun c hc => inHost_iff.2 (hhost c hc)) (by rintro c ⟨⟩; rfl),
      pathAfter_slash hpath htail]
  | root hhost htail =>
    have hmark : ∀ c, c = '?' ∨ c = '#' → inHost c = false := by
      rintro c (rfl | rfl) <;> rfl
    rw [dropWhile_of_run (fun c hc => inHost_iff.2 (hhost c hc)) fun c hc => hmark c (htail c hc),
      pathAfter_tail htail]

/-- **The path that is found in an address.** -/
theorem pathOf?_eq_some_iff {uri : String} {path : List Char} :
    pathOf? uri = some path ↔ PathOf uri.toList path := by
  constructor
  · intro h
    by_cases hslash : ∃ cs, uri.toList = '/' :: cs
    · obtain ⟨cs, hcs⟩ := hslash
      obtain ⟨after, tail, htake, rfl, hpath, htail⟩ := exists_path cs
      rw [pathOf?_slash hcs, htake, Option.some_inj] at h
      rw [hcs, ← h]
      exact .bare hpath htail
    · obtain ⟨scheme, rest, -, hdrop, hcs, hscheme, -⟩ := exists_run isSchemeChar uri.toList
      have hscheme' : ∀ c ∈ scheme, SchemeChar c := fun c hc => isSchemeChar_iff.1 (hscheme c hc)
      by_cases hmark : ∃ cs, rest = ':' :: '/' :: '/' :: cs
      · obtain ⟨cs, rfl⟩ := hmark
        rw [pathOf?_scheme hcs hscheme', Option.some_inj] at h
        rw [hcs, ← h]
        exact .full hscheme' (hostPath_pathAfter cs)
      -- without a slash or a scheme in front there is no path
      · unfold pathOf? at h
        dsimp only at h
        split at h
        · rename_i cs hcs'
          exact absurd ⟨cs, hcs'⟩ hslash
        · rw [hdrop] at h
          split at h
          · exact absurd ⟨_, rfl⟩ hmark
          · cases h
  · intro h
    generalize huri : uri.toList = cs at h
    cases h with
    | bare hpath htail =>
      rw [pathOf?_slash huri, takeWhile_of_run (fun c hc => inPath_iff.2 (hpath c hc))
        (endsPath_iff.1 htail)]
    | full hscheme h => rw [pathOf?_scheme huri hscheme, h.pathAfter_eq]

/-! ## Characters by their codes -/

/-- **Characters that may be given by their codes**: two hexadecimal digits after a percent sign
stand for one, and any other stands for itself. -/
inductive Decodes : List Char → List Char → Prop
  | nil : Decodes [] []
  | code {a b c : Char} {h l : Nat} {cs ds : List Char} (ha : HexDigit a h) (hb : HexDigit b l)
      (hc : c.toNat = 16 * h + l) (hrest : Decodes cs ds) : Decodes ('%' :: a :: b :: cs) (c :: ds)
  | plain {c : Char} {cs ds : List Char}
      (hno : ∀ a b after h l, c :: cs = '%' :: a :: b :: after → HexDigit a h → ¬ HexDigit b l)
      (hrest : Decodes cs ds) : Decodes (c :: cs) (c :: ds)

/-- What is decoded stands for the text. -/
theorem decodes_percentDecoded (cs : List Char) : Decodes cs (percentDecoded cs) := by
  fun_induction percentDecoded cs with
  | case1 a b rest h l hb ha ih =>
    rw [hexValue?_eq_some_iff] at ha hb
    refine .code ha hb (toNat_ofNat ?_) ih
    have hlow := ha.1
    have hlow' := hb.1
    omega
  | case2 a b rest hnone ih =>
    refine .plain (fun a' b' after h l heq ha hb => ?_) ih
    cases heq
    exact hnone h l (hexValue?_eq_some_iff.2 ha) (hexValue?_eq_some_iff.2 hb)
  | case3 c rest hother ih =>
    refine .plain (fun a b after h l heq _ _ => ?_) ih
    cases heq
    exact hother a b after rfl rfl
  | case4 => exact .nil

/-- **Decoding** has one result. -/
theorem percentDecoded_eq_iff {cs ds : List Char} : percentDecoded cs = ds ↔ Decodes cs ds := by
  constructor
  · rintro rfl
    exact decodes_percentDecoded cs
  · intro h
    induction h with
    | nil => rfl
    | @code a b c h l cs ds ha hb hc hrest ih =>
      rw [percentDecoded, hexValue?_eq_some_iff.2 ha, hexValue?_eq_some_iff.2 hb]
      dsimp only
      rw [← hc, Char.ofNat_toNat, ih]
    | @plain c cs ds hno hrest ih =>
      rw [percentDecoded.eq_def]
      split
      · rename_i a b after heq
        cases heq
        split
        · rename_i h l ha hb
          exact absurd (hexValue?_eq_some_iff.1 hb)
            (hno a b after h l rfl (hexValue?_eq_some_iff.1 ha))
        · rw [ih]
      · rename_i heq
        cases heq
        rw [ih]
      · rename_i heq
        cases heq

/-! ## Addresses of posts -/

/-- **What a path leads to.** -/
inductive Leads : List Char → Resource → Prop
  | health : Leads "/health".toList .health
  | posts : Leads "/posts".toList .posts
  | post {text : List Char} (hne : text ≠ []) (hslash : '/' ∉ text) :
      Leads ("/posts/".toList ++ text) (.post text)

/-- **What is found at a path** is what the path leads to. -/
theorem ofPath?_eq_some_iff {path : List Char} {resource : Resource} :
    Resource.ofPath? path = some resource ↔ Leads path resource := by
  constructor
  · intro h
    unfold Resource.ofPath? at h
    dsimp only at h
    split at h
    · rename_i hpath
      cases h
      exact hpath ▸ .health
    split at h
    · rename_i hpath
      cases h
      exact hpath ▸ .posts
    split at h
    · rename_i hpath
      split at h
      · cases h
      · rename_i htext
        cases h
        rw [not_or, List.isEmpty_iff, List.contains_iff_mem] at htext
        have hsplit := List.take_append_drop 7 path
        rw [hpath] at hsplit
        rw [← hsplit]
        exact .post htext.1 htext.2
    · cases h
  · intro h
    cases h with
    | health | posts => rfl
    | @post text hne hslash =>
      have hnil : text.isEmpty = false := by simpa using hne
      have hno : text.contains '/' = false := by simpa using hslash
      change (if text.isEmpty = true ∨ text.contains '/' = true then none
        else some (Resource.post text)) = _
      rw [hnil, hno]
      rfl

/-- What is found at an address is what its path leads to. -/
theorem ofUri?_eq_some_iff {uri : String} {resource : Resource} :
    Resource.ofUri? uri = some resource ↔ ∃ path, PathOf uri.toList path ∧ Leads path resource := by
  simp only [Resource.ofUri?, Option.bind_eq_some_iff, pathOf?_eq_some_iff, ofPath?_eq_some_iff]

/-- **An address of one post**: its path is `/posts/` and a text without slashes that spells the
identifier, perhaps with characters given by their codes. -/
def Addresses (uri : String) (id : Int64) : Prop :=
  ∃ text digits, PathOf uri.toList ("/posts/".toList ++ text) ∧ '/' ∉ text ∧ Decodes text digits ∧
    Spells digits id.toInt

theorem pathId?_eq_some_iff {text : List Char} {id : Int64} :
    pathId? text = some id ↔ ∃ digits, Decodes text digits ∧ Spells digits id.toInt := by
  unfold pathId?
  rw [idOfText?_eq_some_iff]
  constructor
  · intro h
    exact ⟨_, decodes_percentDecoded text, h⟩
  · rintro ⟨digits, hdecodes, h⟩
    rwa [percentDecoded_eq_iff.2 hdecodes]

/-- **The addresses of posts** are those that lead to one. -/
theorem addresses_iff {uri : String} {id : Int64} : Addresses uri id ↔
    ∃ text, Resource.ofUri? uri = some (.post text) ∧ pathId? text = some id := by
  simp only [ofUri?_eq_some_iff, pathId?_eq_some_iff]
  constructor
  · rintro ⟨text, digits, hpath, hslash, hdecodes, hspells⟩
    refine ⟨text, ⟨_, hpath, .post ?_ hslash⟩, digits, hdecodes, hspells⟩
    rintro rfl
    cases hdecodes
    exact hspells.ne_nil rfl
  · rintro ⟨text, ⟨path, hpath, hleads⟩, digits, hdecodes, hspells⟩
    cases hleads with
    | post hne hslash => exact ⟨text, digits, hpath, hslash, hdecodes, hspells⟩

/-! ## The plain address of a post -/

/-- The address of a post. -/
def postUri (id : Int64) : String := "/posts/" ++ toString id.toInt

/-- A written number has digits and perhaps a sign. -/
theorem digit_or_sign {z : Int} {c : Char} (h : c ∈ (toString z).toList) :
    c.isDigit = true ∨ c = '-' := by
  cases z with
  | ofNat n =>
    have htext : toString (Int.ofNat n) = toString n := rfl
    rw [htext, toList_toString_nat] at h
    exact .inl (isDigit_of_mem_toDigits h)
  | negSucc n =>
    have htext : toString (Int.negSucc n) = "-" ++ toString (n + 1) := rfl
    rw [htext, String.toList_append, toList_toString_nat] at h
    rcases List.mem_cons.1 h with rfl | h
    · exact .inr rfl
    · exact .inl (isDigit_of_mem_toDigits h)

/-- So it has none of the marks that mean something in an address. -/
theorem ne_of_digit_or_sign {z : Int} {c mark : Char} (h : c ∈ (toString z).toList)
    (hdigit : mark.isDigit = false) (hsign : mark ≠ '-') : c ≠ mark := by
  rintro rfl
  rcases digit_or_sign h with hd | rfl
  · rw [hdigit] at hd; cases hd
  · exact hsign rfl

/-- A text without percent signs stands for itself. -/
theorem decodes_self {cs : List Char} (h : ∀ c ∈ cs, c ≠ '%') : Decodes cs cs := by
  induction cs with
  | nil => exact .nil
  | cons c cs ih =>
    have hrest := ih fun c hc => h c (List.mem_cons_of_mem _ hc)
    refine .plain (fun a b after h' l heq _ _ => ?_) hrest
    exact h c List.mem_cons_self (List.cons.inj heq).1

/-- **The address of a post leads to it.** -/
theorem addresses_postUri (id : Int64) : Addresses (postUri id) id := by
  have hmark : ∀ mark : Char, mark.isDigit = false → mark ≠ '-' →
      ∀ c ∈ (toString id.toInt).toList, c ≠ mark := fun mark hdigit hsign c hc =>
    ne_of_digit_or_sign hc hdigit hsign
  have hpath : PathOf ('/' :: ("posts/".toList ++ (toString id.toInt).toList ++ []))
      ('/' :: ("posts/".toList ++ (toString id.toInt).toList)) := by
    refine .bare (fun c hc => ?_) nofun
    rcases List.mem_append.1 hc with hc | hc
    · have hname : ∀ c ∈ "posts/".toList, PathChar c := by simp [PathChar]
      exact hname c hc
    · exact ⟨hmark '?' rfl (by decide) c hc, hmark '#' rfl (by decide) c hc⟩
  rw [List.append_nil] at hpath
  have huri : (postUri id).toList = '/' :: ("posts/".toList ++ (toString id.toInt).toList) := by
    rw [postUri, String.toList_append]
    rfl
  refine ⟨(toString id.toInt).toList, _, huri ▸ hpath, ?_, decodes_self (hmark '%' rfl (by decide)),
    idOfText?_eq_some_iff.1 (idOfText?_toString id)⟩
  intro hslash
  exact hmark '/' rfl (by decide) '/' hslash rfl

end RowGuard.Http
