import ShadowTraffic.Number.Reading

/-! # Whole numbers written and read

A whole number that fits sixty-four bits is read back from its decimal digits, and nothing is read
from a text that begins with neither a sign nor a digit.
-/

namespace ShadowTraffic.Number

/-! ## Digits -/

theorem digitValue?_digitChar {d : Nat} (h : d < 10) : digitValue? d.digitChar = some d := by
  revert d
  decide

/-- One digit behind others. -/
theorem natural?_concat {n d : Nat} {cs : List Char} (h : natural? 10 cs = some n) (hd : d < 10) :
    natural? 10 (cs ++ [d.digitChar]) = some (n * 10 + d) := by
  cases cs with
  | nil => cases h
  | cons c cs =>
    rw [natural?, List.isEmpty_cons, if_neg Bool.false_ne_true] at h
    rw [natural?, List.cons_append, List.isEmpty_cons, if_neg Bool.false_ne_true,
      ← List.cons_append, List.foldlM_append, h]
    simp [digitValue?_digitChar hd, hd]

theorem natural?_toDigits (n : Nat) : natural? 10 (Nat.toDigits 10 n) = some n := by
  induction n using Nat.strongRecOn with
  | ind n ih =>
    by_cases hn : n < 10
    · rw [Nat.toDigits_of_lt_base hn]
      simp [natural?, digitValue?_digitChar hn, hn]
    · have hrest := natural?_concat (ih (n / 10) (by omega)) (Nat.mod_lt n (by decide))
      rw [Nat.toDigits_of_base_le (by decide) (by omega), hrest]
      exact congrArg some (by omega)

theorem isDigit_of_head? {n : Nat} {c : Char} {cs : List Char}
    (h : Nat.toDigits 10 n = c :: cs) : c.isDigit = true :=
  Nat.isDigit_of_mem_toDigits (b := 10) (n := n) (by decide) (by decide) (by simp [h])

/-! ## Signs -/

theorem integerIn?_unsigned (base : Nat) {c : Char} {cs : List Char} (hminus : c ≠ '-')
    (hplus : c ≠ '+') : integerIn? base (c :: cs) =
      ((natural? base (c :: cs)).map Int.ofNat).bind fun n =>
        if fits64 n then some n else none := by
  unfold integerIn?
  split
  next heq =>
    cases heq
    exact absurd rfl hminus
  next heq =>
    cases heq
    exact absurd rfl hplus
  next => rfl

theorem integerIn?_toDigits {n : Nat} (h : fits64 n = true) :
    integerIn? 10 (Nat.toDigits 10 n) = some (n : Int) := by
  have hnat := natural?_toDigits n
  cases hdigits : Nat.toDigits 10 n with
  | nil => exact absurd hdigits Nat.toDigits_ne_nil
  | cons c cs =>
    have hdigit := isDigit_of_head? hdigits
    have hminus : c ≠ '-' := by
      rintro rfl
      exact absurd hdigit (by decide)
    have hplus : c ≠ '+' := by
      rintro rfl
      exact absurd hdigit (by decide)
    rw [hdigits] at hnat
    rw [integerIn?_unsigned 10 hminus hplus, hnat, Option.map_some, Option.bind_some]
    exact if_pos h

theorem integerIn?_neg_toDigits {n : Nat} (h : fits64 (-(n : Int)) = true) :
    integerIn? 10 ('-' :: Nat.toDigits 10 n) = some (-(n : Int)) := by
  simp [integerIn?, natural?_toDigits, h]

/-- A whole number is read from its decimal digits. -/
theorem integer?_toString {n : Int} (h : fits64 n = true) : integer? (toString n) = some n := by
  cases n with
  | ofNat n =>
    have hlist : (toString (Int.ofNat n)).toList = Nat.toDigits 10 n := Nat.toList_repr
    rw [integer?, hlist]
    exact integerIn?_toDigits h
  | negSucc n =>
    have hlist : (toString (Int.negSucc n)).toList = '-' :: Nat.toDigits 10 (n + 1) := by
      change ("-" ++ (n + 1).repr).toList = _
      rw [String.toList_append, Nat.toList_repr]
      rfl
    rw [integer?, hlist]
    exact integerIn?_neg_toDigits h

theorem fits64_of_integer? {s : String} {n : Int} (h : integer? s = some n) : fits64 n = true := by
  unfold integer? integerIn? at h
  dsimp only at h
  split at h
  all_goals
    obtain ⟨m, -, hm⟩ := Option.bind_eq_some_iff.mp h
    split at hm
    next hfits =>
      cases hm
      exact hfits
    next => cases hm

/-! ## Texts that begin otherwise -/

theorem natural?_eq_none {c : Char} {cs : List Char} (h : c.isDigit = false) :
    natural? 10 (c :: cs) = none := by
  have hc : (do
      let d ← digitValue? c
      if d < 10 then pure (0 * 10 + d) else none : Option Nat) = none := by
    unfold digitValue?
    split
    next hdigit => simp [h] at hdigit
    next =>
      split
      · simp
      · split <;> simp
  rw [natural?, List.isEmpty_cons, if_neg Bool.false_ne_true, List.foldlM_cons, hc]
  rfl

theorem integer?_eq_none {s : String}
    (h : ∀ c ∈ s.toList.head?, c.isDigit = false ∧ c ≠ '+' ∧ c ≠ '-') : integer? s = none := by
  unfold integer?
  cases hs : s.toList with
  | nil => rfl
  | cons c cs =>
    obtain ⟨hdigit, hplus, hminus⟩ := h c (by rw [hs]; rfl)
    rw [integerIn?_unsigned 10 hminus hplus, natural?_eq_none hdigit]
    rfl

theorem literal?_eq_none {c : Char} {cs : List Char} (hdigit : c.isDigit = false)
    (hpoint : c ≠ '.') : literal? (c :: cs) = none := by
  unfold literal?
  simp only [List.takeWhile_cons, List.dropWhile_cons, hdigit, Bool.false_eq_true, if_false]
  -- without a digit in front there could only be a fraction, which a point begins
  split
  next heq =>
    cases heq
    exact absurd rfl hpoint
  next => rfl

theorem magnitude?_eq_none {cs : List Char}
    (h : ∀ c ∈ cs.head?, c.isDigit = false ∧ c ≠ '.')
    (hwords : String.ofList (cs.map Char.toLower) ∉ ["inf", "infinity", "nan"]) :
    magnitude? cs = none := by
  simp only [List.mem_cons, List.not_mem_nil, or_false, not_or] at hwords
  unfold magnitude?
  split
  next heq => exact absurd heq hwords.1
  next heq => exact absurd heq hwords.2.1
  next heq => exact absurd heq hwords.2.2
  next =>
    cases cs with
    | nil => rfl
    | cons c cs =>
      obtain ⟨hdigit, hpoint⟩ := h c rfl
      rw [literal?_eq_none hdigit hpoint]
      rfl

theorem float?_eq_none {s : String}
    (h : ∀ c ∈ s.toList.head?, c.isDigit = false ∧ c ≠ '+' ∧ c ≠ '-' ∧ c ≠ '.')
    (hwords : String.ofList (s.toList.map Char.toLower) ∉ ["inf", "infinity", "nan"]) :
    float? s = none := by
  unfold float?
  split
  next heq => exact absurd rfl (h '-' (by rw [heq]; rfl)).2.2.1
  next heq => exact absurd rfl (h '+' (by rw [heq]; rfl)).2.1
  next => exact magnitude?_eq_none (fun c hc => ⟨(h c hc).1, (h c hc).2.2.2⟩) hwords

end ShadowTraffic.Number
