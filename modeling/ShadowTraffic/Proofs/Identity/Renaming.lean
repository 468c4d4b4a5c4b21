import ShadowTraffic.Identity

/-! # Other tokens in the place of tokens

Tokens that are there may be replaced by others, different ones by different ones. Which identities
are one and which configurations agree stays the same, and so does everything that a person may
read.
-/

namespace ShadowTraffic

/-- Another token for every token that is there, and never one for two. -/
structure TokenRenaming where
  apply : String → String
  nonempty : ∀ t, t ≠ "" → apply t ≠ ""
  injective : ∀ s t, s ≠ "" → t ≠ "" → apply s = apply t → s = t

namespace TokenRenaming

/-- Every token with a text before it. -/
def prefixed (start : String) : TokenRenaming where
  apply t := start ++ t
  nonempty _ ht happend := ht (String.append_eq_empty_iff.mp happend).2
  injective _ _ _ _ happend := (String.append_right_inj start).mp happend

variable (ρ : TokenRenaming)

/-- What stands in the place of a text; the empty one is no token. -/
def token (t : String) : String :=
  if t = "" then "" else ρ.apply t

@[simp] theorem token_eq_empty {t : String} : ρ.token t = "" ↔ t = "" := by
  unfold token
  split
  next h => exact iff_of_true rfl h
  next h => exact iff_of_false (ρ.nonempty t h) h

theorem token_injective {s t : String} (h : ρ.token s = ρ.token t) : s = t := by
  by_cases hs : s = ""
  · have ht : t = "" := by
      rw [← ρ.token_eq_empty, ← h, ρ.token_eq_empty]
      exact hs
    rw [hs, ht]
  · have ht : t ≠ "" := by
      rw [ne_eq, ← ρ.token_eq_empty, ← h, ρ.token_eq_empty]
      exact hs
    rw [token, token, if_neg hs, if_neg ht] at h
    exact ρ.injective s t hs ht h

end TokenRenaming

variable {ρ : TokenRenaming}

/-! ## Identities -/

namespace Identity

variable {i j : Identity}

def rename (ρ : TokenRenaming) (i : Identity) : Identity :=
  { i with credentialToken := ρ.token i.credentialToken }

theorem rename_injective (h : i.rename ρ = j.rename ρ) : i = j := by
  have htoken : ρ.token i.credentialToken = ρ.token j.credentialToken :=
    congrArg Identity.credentialToken h
  cases i
  cases j
  simp only [rename, mk.injEq] at h ⊢
  exact ⟨h.1, h.2.1, h.2.2.1, ρ.token_injective htoken, h.2.2.2.2⟩

/-- Renamed identities have one key when the identities have. -/
theorem key_rename_eq_iff : (i.rename ρ).key = (j.rename ρ).key ↔ i = j :=
  ⟨fun h => rename_injective (key_injective h), fun h => by rw [h]⟩

theorem key_eq_iff : i.key = j.key ↔ i = j :=
  ⟨key_injective, fun h => by rw [h]⟩

@[simp] theorem masked_rename (i : Identity) : (i.rename ρ).masked = i.masked := by
  have hempty : (ρ.token i.credentialToken).isEmpty = i.credentialToken.isEmpty := by
    rw [Bool.eq_iff_iff, String.isEmpty_iff, String.isEmpty_iff, ρ.token_eq_empty]
  simp only [masked, rename, hempty]

@[simp] theorem masked_masked (i : Identity) : i.masked.masked = i.masked := by
  have hempty : (if i.credentialToken.isEmpty then "" else stars).isEmpty =
      i.credentialToken.isEmpty := by
    cases i.credentialToken.isEmpty <;> rfl
  simp only [masked, hempty]

theorem redacted_masked (i : Identity) : i.masked.redacted = i.redacted := by
  rw [redacted, masked_masked, redacted]

/-- What is reported of an identity does not tell its token. -/
@[simp] theorem redacted_rename (i : Identity) : (i.rename ρ).redacted = i.redacted := by
  rw [redacted, masked_rename, redacted]

end Identity

/-! ## Configurations -/

namespace Descriptor

variable {d e : Descriptor}

def rename (ρ : TokenRenaming) (d : Descriptor) : Descriptor :=
  { d with credentialToken := d.credentialToken.map ρ.token }

/-- The configuration with its token, if it has one, behind the stars. -/
def masked (d : Descriptor) : Descriptor :=
  { d with credentialToken := d.credentialToken.map fun t =>
      if t.isEmpty then "" else Identity.stars }

theorem rename_injective (h : d.rename ρ = e.rename ρ) : d = e := by
  have htoken : d.credentialToken.map ρ.token = e.credentialToken.map ρ.token :=
    congrArg Descriptor.credentialToken h
  have hsame := Option.map_injective (fun _ _ => ρ.token_injective) htoken
  cases d
  cases e
  simp only [rename, mk.injEq] at h ⊢
  exact ⟨h.1, h.2.1, h.2.2.1, hsame, h.2.2.2.2⟩

@[simp] theorem rename_beq (d e : Descriptor) : (d.rename ρ == e.rename ρ) = (d == e) := by
  rw [Bool.eq_iff_iff, beq_iff_eq, beq_iff_eq]
  exact ⟨rename_injective, congrArg (rename ρ)⟩

@[simp] theorem masked_rename (d : Descriptor) : (d.rename ρ).masked = d.masked := by
  have hempty (t : String) : (ρ.token t).isEmpty = t.isEmpty := by
    rw [Bool.eq_iff_iff, String.isEmpty_iff, String.isEmpty_iff, ρ.token_eq_empty]
  simp only [masked, rename, Option.map_map, Function.comp_def, hempty]

/-- A renamed configuration resolves to the renamed identity, or fails as it did. -/
theorem resolve_rename (d : Descriptor) :
    (d.rename ρ).resolve = d.resolve.map (Identity.rename ρ) := by
  have htoken : (d.credentialToken.map ρ.token).getD "" = ρ.token (d.credentialToken.getD "") := by
    cases d.credentialToken with
    | none => exact (ρ.token_eq_empty.mpr rfl).symm
    | some t => rfl
  unfold resolve
  dsimp only [rename]
  cases d.endpoint with
  | none => rfl
  | some endpoint =>
    dsimp only
    split
    · rfl
    · simp only [Except.map, Identity.rename, htoken]

end Descriptor

end ShadowTraffic
