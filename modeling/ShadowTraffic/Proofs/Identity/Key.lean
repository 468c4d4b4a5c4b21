import ShadowTraffic.Identity

/-! # What a key says

A key says everything about the resource that it was rendered for. Cut at the separators that are
not escaped and freed of its escapes, it gives back the five texts of the descriptor, whatever
characters they hold. So two descriptors have one identity exactly when their texts agree.
-/

namespace ShadowTraffic

namespace Segment

/-- The pieces of a key between the separators that are not escaped. Escape characters stay where
they are, and whether the next character is an escaped one is carried along. -/
def cut : (escaped : Bool) → List Char → List (List Char)
  | _, [] => [[]]
  | true, c :: rest => split.push c (cut false rest)
  | false, c :: rest =>
    if c == separator then [] :: cut false rest
    else split.push c (cut (c == escapeMark) rest)

/-- A piece without its escape characters. -/
def unescape : List Char → List Char
  | [] => []
  | [c] => [c]
  | c :: d :: rest => if c == escapeMark then d :: unescape rest else c :: unescape (d :: rest)

theorem cut_separator {c : Char} (h : (c == separator) = true) (rest : List Char) :
    cut false (c :: rest) = [] :: cut false rest := by
  rw [cut, if_pos h]

theorem cut_inside {c : Char} (h : ¬ (c == separator) = true) (rest : List Char) :
    cut false (c :: rest) = split.push c (cut (c == escapeMark) rest) := by
  rw [cut, if_neg h]

theorem unescape_plain {c : Char} (h : (c == escapeMark) = false) (rest : List Char) :
    unescape (c :: rest) = c :: unescape rest := by
  cases rest with
  | nil => rfl
  | cons d rest => simp [unescape, h]

theorem map_unescape_plain {c : Char} (h : (c == escapeMark) = false)
    (pieces : List (List Char)) :
    (split.push c pieces).map unescape = split.push c (pieces.map unescape) := by
  cases pieces with
  | nil => rfl
  | cons piece more => simp [split.push, unescape_plain h]

theorem map_unescape_escaped {c : Char} (h : (c == escapeMark) = true) (d : Char)
    (pieces : List (List Char)) :
    (split.push c (split.push d pieces)).map unescape = split.push d (pieces.map unescape) := by
  cases pieces with
  | nil => simp [split.push, unescape, h]
  | cons piece more => simp [split.push, unescape, h]

theorem split_eq (key : List Char) : split key = (cut false key).map unescape := by
  -- the cases of `split`: an escape takes two characters at once, which `cut` takes one by one
  fun_induction split key with
  | case1 => rfl
  | case2 c h => simp [cut, h, unescape]
  | case3 c h => simp [cut, h, split.push, unescape]
  | case4 c d rest h ih =>
    rw [cut_separator h, List.map_cons, ← ih]
    rfl
  | case5 c d rest h hmark ih =>
    rw [cut_inside h, hmark, cut, map_unescape_escaped hmark, ih]
  | case6 c d rest h hmark ih =>
    have hplain : (c == escapeMark) = false := by simpa using hmark
    rw [cut_inside h, hplain, map_unescape_plain hplain, ih]

end Segment

namespace Identity

/-- The texts that a key was rendered from. -/
def textsOfKey (key : String) : List String :=
  ((Segment.cut false key.toList).map Segment.unescape).map String.ofList

theorem textsOfKey_key (i : Identity) : textsOfKey i.key = i.segments := by
  have hjoin : i.key.toList = Segment.join (i.segments.map String.toList) := by
    simp [key, render]
  have hsplit : Segment.split i.key.toList = i.segments.map String.toList := by
    rw [hjoin, Segment.split_join (by simp [segments])]
  rw [textsOfKey, ← Segment.split_eq, hsplit]
  simp [segments]

theorem same_iff {a b : Identity} : a.same b = true ↔ a = b := by
  rw [same, beq_iff_eq]
  exact ⟨key_injective, congrArg key⟩

theorem segments_injective {a b : Identity} (h : a.segments = b.segments) : a = b := by
  cases a
  cases b
  simpa [segments] using h

end Identity

namespace Descriptor

/-- The endpoint is absent, or there is nothing but white space in it. -/
def LacksEndpoint (d : Descriptor) : Prop :=
  d.endpoint = none ∨ ∃ endpoint, d.endpoint = some endpoint ∧
    ∀ c ∈ endpoint.toList, Text.isWhite c = true

/-- The five texts of a descriptor in the order of the key, absent ones empty. -/
def texts (d : Descriptor) : List String :=
  [d.endpoint.getD "", d.port.getD "", d.space.getD "", d.credentialToken.getD "",
    d.principal.getD ""]

theorem resolve_of_lacksEndpoint {d : Descriptor} (h : d.LacksEndpoint) :
    d.resolve = .error (.missingField "endpoint") := by
  rcases h with h | ⟨endpoint, h, hwhite⟩
  · simp [resolve, h]
  · have hblank : Text.isBlank endpoint = true := by simpa [Text.isBlank] using hwhite
    simp [resolve, h, hblank]

theorem resolve_of_not_lacksEndpoint {d : Descriptor} (h : ¬ d.LacksEndpoint) :
    ∃ i, d.resolve = .ok i ∧ i.segments = d.texts := by
  cases hendpoint : d.endpoint with
  | none => exact absurd (.inl hendpoint) h
  | some endpoint =>
    have hblank : Text.isBlank endpoint = false := by
      rw [← Bool.not_eq_true]
      intro hblank
      have hwhite : ∀ c ∈ endpoint.toList, Text.isWhite c = true := by
        simpa [Text.isBlank] using hblank
      exact h (.inr ⟨endpoint, hendpoint, hwhite⟩)
    refine ⟨⟨endpoint, _, _, _, _⟩, by simp only [resolve, hendpoint, hblank]; rfl, ?_⟩
    simp [Identity.segments, texts, hendpoint]

theorem lacksEndpoint_of_error {d : Descriptor} {e : IdentityError} (h : d.resolve = .error e) :
    d.LacksEndpoint := by
  by_cases hlacks : d.LacksEndpoint
  · exact hlacks
  · obtain ⟨i, hi, -⟩ := resolve_of_not_lacksEndpoint hlacks
    rw [hi] at h
    cases h

theorem segments_of_resolve {d : Descriptor} {i : Identity} (h : d.resolve = .ok i) :
    i.segments = d.texts := by
  by_cases hlacks : d.LacksEndpoint
  · rw [resolve_of_lacksEndpoint hlacks] at h
    cases h
  · obtain ⟨j, hj, htexts⟩ := resolve_of_not_lacksEndpoint hlacks
    rw [hj] at h
    cases h
    exact htexts

/-- A descriptor is refused exactly when it lacks an endpoint. The key of one that resolves reads
back as its five texts, and two that resolve are one resource exactly when their texts agree. -/
theorem resolve_faithful (d e : Descriptor) :
    (d.resolve = .error (.missingField "endpoint") ↔ d.LacksEndpoint) ∧
      ((∃ i, d.resolve = .ok i) ↔ ¬ d.LacksEndpoint) ∧
      (∀ i, d.resolve = .ok i → Identity.textsOfKey i.key = d.texts) ∧
      ∀ i j, d.resolve = .ok i → e.resolve = .ok j → (i.same j = true ↔ d.texts = e.texts) := by
  refine ⟨⟨lacksEndpoint_of_error, resolve_of_lacksEndpoint⟩, ⟨?_, fun hlacks => ?_⟩, ?_, ?_⟩
  · rintro ⟨i, hi⟩ hlacks
    rw [resolve_of_lacksEndpoint hlacks] at hi
    cases hi
  · obtain ⟨i, hi, -⟩ := resolve_of_not_lacksEndpoint hlacks
    exact ⟨i, hi⟩
  · intro i hi
    rw [Identity.textsOfKey_key, segments_of_resolve hi]
  · intro i j hi hj
    rw [Identity.same_iff, ← segments_of_resolve hi, ← segments_of_resolve hj]
    exact ⟨congrArg Identity.segments, Identity.segments_injective⟩

/-- A backslash at the end of one text against an escaped separator at the start of the next. -/
theorem resolve_faithful_shifted :
    let d : Descriptor := { endpoint := some " h\\", port := some "|", space := some "" }
    let e : Descriptor := { endpoint := some " h\\|", credentialToken := some "" }
    d.resolve = .ok ⟨" h\\", "|", "", "", ""⟩ ∧ e.resolve = .ok ⟨" h\\|", "", "", "", ""⟩ ∧
      Identity.textsOfKey (Identity.key ⟨" h\\", "|", "", "", ""⟩) = [" h\\", "|", "", "", ""] ∧
      Identity.same ⟨" h\\", "|", "", "", ""⟩ ⟨" h\\|", "", "", "", ""⟩ = false := by
  intro d e
  have hd : d.resolve = .ok ⟨" h\\", "|", "", "", ""⟩ := rfl
  have he : e.resolve = .ok ⟨" h\\|", "", "", "", ""⟩ := rfl
  obtain ⟨-, -, hkey, hsame⟩ := resolve_faithful d e
  refine ⟨hd, he, hkey _ hd, ?_⟩
  rw [← Bool.not_eq_true, hsame _ _ hd he]
  decide

end Descriptor

end ShadowTraffic
