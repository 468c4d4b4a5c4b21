import ShadowTraffic.Proofs.Config.Overrides
import ShadowTraffic.Proofs.Number.Integers

/-! # Variables for settings that are texts

The value of a variable is read as a truth value, a whole number or another number before it is
read as a text, and a setting that is a text gets the printed form of what was read. So it gets the
text of the variable as it stands, unless that is a truth value not in small letters, a whole
number not in its usual digits, or another number not in its shortest form.
-/

namespace ShadowTraffic

open Document

/-! ## What a variable is read as -/

namespace Environment

/-- A truth value, in any ASCII case. -/
def Word (v : String) : Prop :=
  Text.asciiLower v = "true" ∨ Text.asciiLower v = "false"

/-- The text of a variable, printed from what it is read as. -/
def printed (v : String) : String :=
  (Decoding.coercedText? (value v)).getD v

theorem value_of_true {v : String} (h : Text.asciiLower v = "true") : value v = .bool true := by
  simp [value, h]

theorem value_of_false {v : String} (h : Text.asciiLower v = "false") : value v = .bool false := by
  simp [value, h]

theorem value_of_not_word {v : String} (h : ¬ Word v) :
    value v = match Number.integer? v, Number.float? v with
      | some n, _ => .int n
      | none, some x => .real x
      | none, none => .text v := by
  obtain ⟨htrue, hfalse⟩ := not_or.mp h
  unfold value
  split
  next heq => exact absurd heq htrue
  next heq => exact absurd heq hfalse
  next => rfl

/-- A variable is a scalar, for which a text stands. -/
theorem read_value (v : String) :
    Decoding.coercedText? (value v) = some (printed v) ∧
      Decoding.coercing.optionalText? (value v) = some (some (printed v)) := by
  unfold printed value
  split
  · exact ⟨rfl, rfl⟩
  · exact ⟨rfl, rfl⟩
  · split <;> exact ⟨rfl, rfl⟩

theorem isDigit_toLower (c : Char) : c.toLower.isDigit = c.isDigit := by
  delta Char.isDigit Char.toLower
  split <;> grind [UInt32.toNat_add, Char.toNat_val]

/-- A truth value does not begin like a number. -/
theorem Word.head {v : String} (h : Word v) :
    ∀ c ∈ v.toList.head?, c.isDigit = false ∧ c ≠ '+' ∧ c ≠ '-' ∧ c ≠ '.' := by
  intro c hc
  have hlower : c.toLower = 't' ∨ c.toLower = 'f' := by
    have hhead : (Text.asciiLower v).toList.head? = some c.toLower := by
      simp [Text.asciiLower, Option.mem_def.mp hc]
    rcases h with h | h
    · exact .inl (Option.some.inj (hhead.symm.trans (by rw [h]; rfl)))
    · exact .inr (Option.some.inj (hhead.symm.trans (by rw [h]; rfl)))
  refine ⟨?_, ?_, ?_, ?_⟩
  · rw [← isDigit_toLower]
    rcases hlower with hlower | hlower <;> rw [hlower] <;> rfl
  all_goals
    rintro rfl
    exact absurd hlower (by decide)

theorem Word.integer? {v : String} (h : Word v) : Number.integer? v = none :=
  Number.integer?_eq_none fun c hc => ⟨(h.head c hc).1, (h.head c hc).2.1, (h.head c hc).2.2.1⟩

theorem Word.float? {v : String} (h : Word v) : Number.float? v = none := by
  refine Number.float?_eq_none h.head ?_
  change Text.asciiLower v ∉ _
  rcases h with h | h <;> rw [h] <;> decide

end Environment

/-! ## What a setting gets -/

/-- What a variable makes of a setting that is a text. -/
structure Written (v t : String) : Prop where
  word : Environment.Word v → t = Text.asciiLower v
  whole : ∀ n, Number.integer? v = some n → t = toString n
  real : ∀ x, Number.integer? v = none → Number.float? v = some x → t = Number.floatText x
  /-- Where the variable is taken as it stands. -/
  kept : t = v ↔ (v = "true" ∨ v = "false") ∨ (∃ n, Number.fits64 n = true ∧ v = toString n) ∨
    (¬ Environment.Word v ∧ Number.integer? v = none ∧
      ∀ x, Number.float? v = some x → Number.floatText x = v)
  /-- Most texts are no literals. -/
  ordinary : (∀ c ∈ v.toList.head?, c.isDigit = false ∧ c ≠ '+' ∧ c ≠ '-' ∧ c ≠ '.') →
    Text.asciiLower v ∉ ["true", "false", "inf", "infinity", "nan"] → t = v

namespace Environment

theorem printed_of_word {v : String} (h : Word v) : printed v = Text.asciiLower v := by
  rcases h with h | h
  · rw [printed, value_of_true h, h]
    rfl
  · rw [printed, value_of_false h, h]
    rfl

theorem printed_of_integer {v : String} {n : Int} (h : Number.integer? v = some n) :
    printed v = toString n := by
  have hword : ¬ Word v := fun hword => by simp [hword.integer?] at h
  rw [printed, value_of_not_word hword, h]
  rfl

theorem printed_of_real {v : String} {x : Float} (hint : Number.integer? v = none)
    (h : Number.float? v = some x) : printed v = Number.floatText x := by
  have hword : ¬ Word v := fun hword => by simp [hword.float?] at h
  rw [printed, value_of_not_word hword, hint, h]
  rfl

theorem printed_of_text {v : String} (hword : ¬ Word v) (hint : Number.integer? v = none)
    (h : Number.float? v = none) : printed v = v := by
  rw [printed, value_of_not_word hword, hint, h]
  rfl

/-- A text that begins like no number and is no word is no literal. -/
theorem printed_of_ordinary {v : String}
    (hhead : ∀ c ∈ v.toList.head?, c.isDigit = false ∧ c ≠ '+' ∧ c ≠ '-' ∧ c ≠ '.')
    (hwords : Text.asciiLower v ∉ ["true", "false", "inf", "infinity", "nan"]) :
    printed v = v := by
  simp only [List.mem_cons, List.not_mem_nil, or_false, not_or] at hwords
  obtain ⟨htrue, hfalse, hinf, hinfinity, hnan⟩ := hwords
  have hint : Number.integer? v = none :=
    Number.integer?_eq_none fun c hc =>
      ⟨(hhead c hc).1, (hhead c hc).2.1, (hhead c hc).2.2.1⟩
  have hreal : Number.float? v = none := by
    refine Number.float?_eq_none hhead ?_
    change Text.asciiLower v ∉ _
    simp [hinf, hinfinity, hnan]
  exact printed_of_text (not_or.mpr ⟨htrue, hfalse⟩) hint hreal

/-- The digits of a whole number are read as that number, and no truth value is. -/
theorem printed_toString {n : Int} (h : Number.fits64 n = true) :
    printed (toString n) = toString n :=
  printed_of_integer (Number.integer?_toString h)

theorem printed_eq_iff (v : String) :
    printed v = v ↔ (v = "true" ∨ v = "false") ∨
      (∃ n, Number.fits64 n = true ∧ v = toString n) ∨
      (¬ Word v ∧ Number.integer? v = none ∧
        ∀ x, Number.float? v = some x → Number.floatText x = v) := by
  constructor
  · intro h
    by_cases hword : Word v
    · rw [printed_of_word hword] at h
      rw [Word, h] at hword
      exact .inl hword
    · cases hint : Number.integer? v with
      | some n =>
        rw [printed_of_integer hint] at h
        exact .inr (.inl ⟨n, Number.fits64_of_integer? hint, h.symm⟩)
      | none =>
        refine .inr (.inr ⟨hword, rfl, fun x hx => ?_⟩)
        rw [← printed_of_real hint hx]
        exact h
  · rintro (hsmall | ⟨n, hfits, rfl⟩ | ⟨hword, hint, hreal⟩)
    · rcases hsmall with rfl | rfl
      · exact printed_of_word (.inl rfl)
      · exact printed_of_word (.inr rfl)
    · exact printed_toString hfits
    · cases hx : Number.float? v with
      | some x => exact (printed_of_real hint hx).trans (hreal x hx)
      | none => exact printed_of_text hword hint hx

theorem written_printed (v : String) : Written v (printed v) where
  word := printed_of_word
  whole _ := printed_of_integer
  real _ := printed_of_real
  kept := printed_eq_iff v
  ordinary := printed_of_ordinary

end Environment

/-! ## Loading -/

/-- The settings that are a text. -/
inductive TextSetting where
  | markerKey
  | traceIdKey
  | testPrefix
  | level
deriving DecidableEq

namespace TextSetting

def setting : TextSetting → Setting
  | markerKey => .markerKey
  | traceIdKey => .traceIdKey
  | testPrefix => .testPrefix
  | level => .level

def get? (s : Settings) : TextSetting → Option String
  | markerKey => some s.marker.markerKey
  | traceIdKey => some s.marker.traceIdKey
  | testPrefix => s.marker.testPrefix
  | level => some s.logging.level

/-- The setting is read as the text that stands for the variable. -/
theorem read_value (f : TextSetting) (v : String) :
    ∃ w, f.setting.read Decoding.coercing (Environment.value v) = some w ∧
      ∀ s, f.setting.get s = w → f.get? s = some (Environment.printed v) := by
  obtain ⟨htext, hoptional⟩ := Environment.read_value v
  cases f with
  | testPrefix =>
    refine ⟨_, congrArg (Option.map SettingValue.optionalText) hoptional, fun s hs => ?_⟩
    exact SettingValue.optionalText.inj hs
  | markerKey =>
    refine ⟨_, congrArg (Option.map SettingValue.text) htext, fun s hs => ?_⟩
    exact congrArg some (SettingValue.text.inj hs)
  | traceIdKey =>
    refine ⟨_, congrArg (Option.map SettingValue.text) htext, fun s hs => ?_⟩
    exact congrArg some (SettingValue.text.inj hs)
  | level =>
    refine ⟨_, congrArg (Option.map SettingValue.text) htext, fun s hs => ?_⟩
    exact congrArg some (SettingValue.text.inj hs)

end TextSetting

namespace Setting

variable {root : Document}

theorem overlaid_variable (f : Setting) (v : String) :
    Environment.overlaid [(f.variableName, v)] root = setAt (Environment.value v) f.path root :=
  Environment.overlaid_cons_some (v := (f.variableName, v)) f.path?_variableName root

/-- The variable of a setting is found in the place of the setting. -/
theorem found_variable (hroot : root.Tidy) (f : Setting) (v : String) :
    f.found (f.home.part (Environment.overlaid [(f.variableName, v)] root)) =
      some (Environment.value v) := by
  have htouches : Environment.Touches [(f.variableName, v)] f.home.name :=
    ⟨f.name, _, List.mem_singleton_self _, f.path?_variableName⟩
  rw [found_overlaid_of_touched (f.ofFields_variableName v) hroot htouches, overlaid_variable, path,
    inner?_setAt, if_pos ⟨rfl, rfl⟩, Environment.overlay_value]

/-- A variable of a setting sets no other. -/
theorem eq_of_sets {f g : Setting} {v : String}
    (h : Environment.Sets [(f.variableName, v)] g.path) : g = f := by
  obtain ⟨u, hu, hpath⟩ := h
  rw [List.mem_singleton.mp hu, path?_variableName] at hpath
  exact (path_injective (Option.some.inj hpath)).symm

end Setting

namespace Settings

variable {view : FileView} {env : Environment} {path : String} {s : Settings}

end Settings

end ShadowTraffic
