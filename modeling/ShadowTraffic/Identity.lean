import ShadowTraffic.Text.Blank
import ShadowTraffic.Text.Quoted

/-! # Identities of external resources

A descriptor is the middleware-neutral view of a resource: where it lives and who speaks to it.
Resolving one gives an identity of five texts, absent fields reading as empty ones, and the
identity renders to a key of exactly five segments. Separators and escape characters inside a
segment are escaped, so `split` reads back what `join` wrote and two keys agree exactly when all
five texts do. The redacted form stands in for the key wherever a person may read it: a token
that is there shows as three stars.
-/

namespace ShadowTraffic

/-! ## Segments -/

namespace Segment

def separator : Char := '|'

/-- Stands before a separator or an escape character that belongs to a segment. -/
def escapeMark : Char := '\\'

def needsEscape (c : Char) : Bool :=
  c == separator || c == escapeMark

def escape : List Char → List Char
  | [] => []
  | c :: rest => if needsEscape c then escapeMark :: c :: escape rest else c :: escape rest

def join : List (List Char) → List Char
  | [] => []
  | [segment] => escape segment
  | segment :: more => escape segment ++ separator :: join more

/-- Segments of a key: it is cut at separators that are not escaped, and escapes are undone. -/
def split : List Char → List (List Char)
  | [] => [[]]
  | [c] => if c == separator then [[], []] else [[c]]
  | c :: d :: rest =>
    if c == separator then [] :: split (d :: rest)
    else if c == escapeMark then push d (split rest)
    else push c (split (d :: rest))
where
  push (c : Char) : List (List Char) → List (List Char)
    | [] => [[c]]
    | segment :: more => (c :: segment) :: more

end Segment

/-! ## Descriptors and identities -/

/-- What a resource configuration says about the resource. The space is its namespace, database,
virtual host or path. -/
structure Descriptor where
  endpoint : Option String := none
  port : Option String := none
  space : Option String := none
  credentialToken : Option String := none
  principal : Option String := none
deriving DecidableEq, Inhabited

/-- A resolved resource: the five texts of its descriptor, absent ones empty. -/
structure Identity where
  endpoint : String
  port : String
  space : String
  credentialToken : String
  principal : String
deriving DecidableEq, Inhabited

inductive IdentityError where
  | missingField (name : String)
deriving DecidableEq

def IdentityError.message : IdentityError → String
  | .missingField name => "Resource configuration is missing required field: " ++ name

namespace Identity

def stars : String := "***"

/-- The five texts in the order of the key. -/
def segments (i : Identity) : List String :=
  [i.endpoint, i.port, i.space, i.credentialToken, i.principal]

def render (segments : List String) : String :=
  String.ofList (Segment.join (segments.map String.toList))

/-- The canonical key, the token included. -/
def key (i : Identity) : String :=
  render i.segments

/-- The identity with its token, if it has one, behind the stars. -/
def masked (i : Identity) : Identity :=
  { i with credentialToken := if i.credentialToken.isEmpty then "" else stars }

/-- The loggable form: the key of the masked identity. -/
def redacted (i : Identity) : String :=
  i.masked.key

def description (i : Identity) : String :=
  "ResourceIdentity(" ++ Text.quoted i.redacted ++ ")"

/-- Two identities are one resource when their keys agree. -/
def same (a b : Identity) : Bool :=
  a.key == b.key

end Identity

/-- An endpoint is required and must not be blank; the other fields may be absent. -/
def Descriptor.resolve (d : Descriptor) :
    Except IdentityError Identity :=
  match d.endpoint with
  | none => .error (.missingField "endpoint")
  | some endpoint =>
    if Text.isBlank endpoint then .error (.missingField "endpoint")
    else .ok {
      endpoint
      port := d.port.getD ""
      space := d.space.getD ""
      credentialToken := d.credentialToken.getD ""
      principal := d.principal.getD "" }

/-! ## Reading a key back -/

namespace Segment

@[simp] theorem split_nil : split [] = [[]] := rfl

theorem split_singleton (c : Char) :
    split [c] = if c == separator then [[], []] else [[c]] := rfl

theorem split_cons_cons (c d : Char) (rest : List Char) :
    split (c :: d :: rest) =
      if c == separator then [] :: split (d :: rest)
      else if c == escapeMark then split.push d (split rest)
      else split.push c (split (d :: rest)) := rfl

theorem split_separator (rest : List Char) : split (separator :: rest) = [] :: split rest := by
  cases rest <;> simp [split_singleton, split_cons_cons]

theorem split_escaped (d : Char) (rest : List Char) :
    split (escapeMark :: d :: rest) = split.push d (split rest) := by
  simp [split_cons_cons, separator, escapeMark]

theorem split_plain {c : Char} (rest : List Char) (h : needsEscape c = false) :
    split (c :: rest) = split.push c (split rest) := by
  simp only [needsEscape, Bool.or_eq_false_iff] at h
  cases rest with
  | nil => simp [split_singleton, split.push, h.1]
  | cons d rest => simp [split_cons_cons, h.1, h.2]

/-- An escaped segment is read back in front of whatever follows. -/
theorem split_escape_append (segment rest : List Char) :
    split (escape segment ++ rest) = segment.foldr split.push (split rest) := by
  induction segment with
  | nil => rfl
  | cons c more ih =>
    by_cases h : needsEscape c = true
    · simp [escape, h, split_escaped, ih]
    · simp only [Bool.not_eq_true] at h
      simp [escape, h, split_plain, ih]

theorem foldr_push (segment head : List Char) (tail : List (List Char)) :
    segment.foldr split.push (head :: tail) = (segment ++ head) :: tail := by
  induction segment with
  | nil => rfl
  | cons c more ih => simp [ih, split.push]

/-- Splitting undoes joining. -/
theorem split_join {segments : List (List Char)} (h : segments ≠ []) :
    split (join segments) = segments := by
  induction segments with
  | nil => exact absurd rfl h
  | cons segment more ih =>
    cases more with
    | nil =>
      have := split_escape_append segment []
      simpa [join, foldr_push] using this
    | cons next more =>
      rw [join, split_escape_append, split_separator, ih (by simp), foldr_push]
      · simp
      · simp

end Segment

/-- Identities with one key are one. -/
theorem Identity.key_injective {a b : Identity} (h : a.key = b.key) : a = b := by
  have hjoin : Segment.join (a.segments.map String.toList) =
      Segment.join (b.segments.map String.toList) := by
    simpa [Identity.key, Identity.render] using congrArg String.toList h
  have hsplit := congrArg Segment.split hjoin
  rw [Segment.split_join (by simp [Identity.segments]),
    Segment.split_join (by simp [Identity.segments])] at hsplit
  cases a
  cases b
  simpa [Identity.segments, String.toList_inj] using hsplit

end ShadowTraffic
