import Mathlib.Logic.Basic
import ShadowTraffic.Proofs.Identity.Key

/-! # What a redacted identity says

The redacted form is the key of the masked identity, and a key says everything about the identity
that it was rendered for. So it tells the four texts beside the token, whatever characters they
hold, and of the token only whether there is one.
-/

namespace ShadowTraffic

namespace Identity

variable {i j : Identity}

/-- What stands for a token. -/
def mask (token : String) : String :=
  if token.isEmpty then "" else stars

theorem mask_eq_iff {s t : String} : mask s = mask t ↔ (s = "" ↔ t = "") := by
  have hstars : stars ≠ "" := by decide
  by_cases hs : s = "" <;> by_cases ht : t = "" <;> simp [mask, hs, ht, hstars, hstars.symm]

theorem masked_eq (i : Identity) :
    i.masked = ⟨i.endpoint, i.port, i.space, mask i.credentialToken, i.principal⟩ := rfl

/-- Redacted forms agree when the visible texts do, and the tokens are both there or both not. -/
theorem redacted_eq_iff : i.redacted = j.redacted ↔
    i.endpoint = j.endpoint ∧ i.port = j.port ∧ i.space = j.space ∧ i.principal = j.principal ∧
      (i.credentialToken = "" ↔ j.credentialToken = "") := by
  have hmasked : i.redacted = j.redacted ↔ i.masked = j.masked :=
    ⟨fun h => key_injective h, fun h => congrArg key h⟩
  rw [hmasked, masked_eq, masked_eq, mk.injEq, mask_eq_iff]
  constructor
  · rintro ⟨hendpoint, hport, hspace, htoken, hprincipal⟩
    exact ⟨hendpoint, hport, hspace, hprincipal, htoken⟩
  · rintro ⟨hendpoint, hport, hspace, hprincipal, htoken⟩
    exact ⟨hendpoint, hport, hspace, htoken, hprincipal⟩

theorem textsOfKey_redacted (i : Identity) : textsOfKey i.redacted =
    [i.endpoint, i.port, i.space, mask i.credentialToken, i.principal] :=
  textsOfKey_key i.masked

end Identity

namespace Descriptor

/-- There is a token, and it is not empty. -/
def HasToken (d : Descriptor) : Prop :=
  ∃ token, d.credentialToken = some token ∧ token ≠ ""

theorem not_hasToken_iff {d : Descriptor} : ¬ d.HasToken ↔ d.credentialToken.getD "" = "" := by
  cases h : d.credentialToken <;> simp [HasToken, h]

/-- The texts of an identity are those of its descriptor. -/
theorem identity_of_resolve {d : Descriptor} {i : Identity} (h : d.resolve = .ok i) :
    i = ⟨d.endpoint.getD "", d.port.getD "", d.space.getD "", d.credentialToken.getD "",
      d.principal.getD ""⟩ :=
  Identity.segments_injective (segments_of_resolve h)

/-- A descriptor that resolves does so with any token. -/
theorem resolve_withToken {d : Descriptor} {i : Identity} (h : d.resolve = .ok i)
    (token : String) : { d with credentialToken := some token }.resolve =
      .ok { i with credentialToken := token } := by
  have hendpoint : ¬ d.LacksEndpoint := by
    intro hlacks
    rw [resolve_of_lacksEndpoint hlacks] at h
    cases h
  have hother : ¬ { d with credentialToken := some token }.LacksEndpoint := hendpoint
  obtain ⟨k, hk, -⟩ := resolve_of_not_lacksEndpoint hother
  rw [hk, identity_of_resolve hk, identity_of_resolve h]
  rfl

/-- The redacted form of a descriptor that resolves reads back as its texts with stars for a token,
so two of them agree exactly when the visible texts agree and there are two tokens or none. One key
has one redacted form, and another token in the place of a token leaves it as it is. -/
theorem redaction_exact {d e : Descriptor} {i j : Identity} (hi : d.resolve = .ok i)
    (hj : e.resolve = .ok j) :
    (i.redacted = j.redacted ↔
      d.endpoint.getD "" = e.endpoint.getD "" ∧ d.port.getD "" = e.port.getD "" ∧
        d.space.getD "" = e.space.getD "" ∧ d.principal.getD "" = e.principal.getD "" ∧
        (d.HasToken ↔ e.HasToken)) ∧
      (i.same j = true → i.redacted = j.redacted) ∧
      (d.HasToken → ∀ token, token ≠ "" →
        ∃ k, { d with credentialToken := some token }.resolve = .ok k ∧
          k.redacted = i.redacted) ∧
      ∃ token, Identity.textsOfKey i.redacted =
          [d.endpoint.getD "", d.port.getD "", d.space.getD "", token, d.principal.getD ""] ∧
        (d.HasToken ∧ token = "***" ∨ ¬ d.HasToken ∧ token = "") := by
  have hitexts := identity_of_resolve hi
  have hjtexts := identity_of_resolve hj
  refine ⟨?_, fun hsame => ?_, fun hheld token hother => ?_, ?_⟩
  · rw [Identity.redacted_eq_iff, hitexts, hjtexts, ← not_hasToken_iff, ← not_hasToken_iff,
      not_iff_not]
  · rw [Identity.same_iff.1 hsame]
  · refine ⟨_, resolve_withToken hi token, Identity.redacted_eq_iff.2 ⟨rfl, rfl, rfl, rfl, ?_⟩⟩
    have hfilled : i.credentialToken ≠ "" := by
      rw [hitexts]
      exact mt not_hasToken_iff.2 (not_not_intro hheld)
    exact iff_of_false hother hfilled
  · rw [Identity.textsOfKey_redacted, hitexts]
    refine ⟨_, rfl, ?_⟩
    by_cases hheld : d.HasToken
    · refine .inl ⟨hheld, if_neg ?_⟩
      simpa [← not_hasToken_iff] using hheld
    · refine .inr ⟨hheld, if_pos ?_⟩
      simpa [← not_hasToken_iff] using hheld

/-- Stars where the token would stand, and separators and escape characters beside it. -/
theorem redaction_exact_starred :
    let d : Descriptor := { endpoint := some "h|\\", port := some "***", credentialToken := some "k" }
    let e : Descriptor := { endpoint := some "h|\\", space := some "***", principal := some "***" }
    let i : Identity := ⟨"h|\\", "***", "", "k", ""⟩
    let j : Identity := ⟨"h|\\", "", "***", "", "***"⟩
    d.resolve = .ok i ∧ e.resolve = .ok j ∧ i.redacted ≠ j.redacted ∧
      ∃ k, { d with credentialToken := some "***" }.resolve = .ok k ∧ k.redacted = i.redacted := by
  intro d e i j
  have hi : d.resolve = .ok i := rfl
  have hj : e.resolve = .ok j := rfl
  obtain ⟨hagree, -, hother, -⟩ := redaction_exact hi hj
  refine ⟨hi, hj, fun h => ?_, hother ⟨"k", rfl, by decide⟩ "***" (by decide)⟩
  exact absurd (hagree.1 h).2.1 (by decide)

end Descriptor

end ShadowTraffic
