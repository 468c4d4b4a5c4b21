import ShadowTraffic.Config.Validation

/-! # Settings that pass

A list has no problem when each entry passes on its own and beside those before it. So settings
pass exactly when the fields of every section are as the checks want them, and for the marker
section this is put as a structure that later proofs take facts from.
-/

namespace ShadowTraffic

/-- A list passes a check when every entry has one property, and every two entries, the earlier
one first, another. -/
theorem entryProblems_eq_nil_iff {check : Nat → List String → String → List Problem}
    {P : String → Prop} {Q : String → String → Prop}
    (h : ∀ i before x, check i before x = [] ↔ P x ∧ ∀ y ∈ before, Q y x)
    (index : Nat) (before xs : List String) :
    entryProblems check index before xs = [] ↔
      (∀ x ∈ xs, P x) ∧ (∀ y ∈ before, ∀ x ∈ xs, Q y x) ∧ xs.Pairwise Q := by
  induction xs generalizing index before with
  | nil => simp [entryProblems]
  | cons x rest ih =>
    rw [entryProblems, List.append_eq_nil_iff, h, ih]
    simp only [List.forall_mem_cons, List.forall_mem_append, List.pairwise_cons,
      List.not_mem_nil, false_imp_iff, implies_true, and_true]
    constructor
    · rintro ⟨⟨hx, hbefore⟩, hrest, ⟨hothers, hnext⟩, hpairs⟩
      exact ⟨⟨hx, hrest⟩, fun y hy => ⟨hbefore y hy, hothers y hy⟩, hnext, hpairs⟩
    · rintro ⟨⟨hx, hrest⟩, hbefore, hnext, hpairs⟩
      exact ⟨⟨hx, fun y hy => (hbefore y hy).1⟩, hrest, ⟨fun y hy => (hbefore y hy).2, hnext⟩,
        hpairs⟩

theorem entryProblems_eq_nil_iff_forall {check : Nat → List String → String → List Problem}
    {P : String → Prop} (h : ∀ i before x, check i before x = [] ↔ P x) (xs : List String) :
    entryProblems check 0 [] xs = [] ↔ ∀ x ∈ xs, P x := by
  have hpairs : xs.Pairwise fun _ _ => True := List.pairwise_of_forall fun _ _ => trivial
  rw [entryProblems_eq_nil_iff (Q := fun _ _ => True) (by simpa using h)]
  simp [hpairs]

@[simp] theorem Problem.when_eq_nil {condition : Bool} {p : Problem} :
    Problem.when condition p = [] ↔ condition = false := by
  cases condition <;> simp [Problem.when]

namespace MarkerSettings

/-- Marker settings without a problem. -/
structure Passes (s : MarkerSettings) : Prop where
  markerKey_filled : Text.isBlank s.markerKey = false
  markerKey_name : Headers.isName s.markerKey = true
  traceIdKey_name : Headers.isName s.traceIdKey = true
  traceIdKey_apart : Text.sameAscii s.traceIdKey s.markerKey = false
  truthy_present : s.truthyValues ≠ []
  truthy_filled : ∀ value ∈ s.truthyValues, Text.isBlank value = false
  keys_names : ∀ key ∈ s.propagationKeys, Headers.isName key = true
  keys_apart : s.propagationKeys.Pairwise fun a b => Text.sameAscii b a = false
  prefix_filled : s.testPrefix ≠ some ""
  wrappers_filled : ∀ wrapper ∈ s.wrapperPrefixes, wrapper.isEmpty = false
  patterns_read : ∀ source ∈ s.patterns, ∃ expression, Pattern.parse source = .ok expression

variable {s : MarkerSettings}

theorem markerKeyProblems_eq_nil : s.markerKeyProblems = [] ↔
    Text.isBlank s.markerKey = false ∧ Headers.isName s.markerKey = true := by
  unfold markerKeyProblems
  split <;> simp_all

theorem traceIdKeyProblems_eq_nil : s.traceIdKeyProblems = [] ↔
    Headers.isName s.traceIdKey = true ∧ Text.sameAscii s.traceIdKey s.markerKey = false := by
  unfold traceIdKeyProblems
  split <;> simp_all

theorem truthyProblems_eq_nil : s.truthyProblems = [] ↔
    s.truthyValues ≠ [] ∧ ∀ value ∈ s.truthyValues, Text.isBlank value = false := by
  rw [truthyProblems, List.append_eq_nil_iff,
    entryProblems_eq_nil_iff_forall (P := fun value => Text.isBlank value = false) (by simp)]
  simp

theorem propagationProblems_eq_nil : s.propagationProblems = [] ↔
    (∀ key ∈ s.propagationKeys, Headers.isName key = true) ∧
      s.propagationKeys.Pairwise fun a b => Text.sameAscii b a = false := by
  rw [propagationProblems, entryProblems_eq_nil_iff (P := fun key => Headers.isName key = true)
    (Q := fun a b => Text.sameAscii b a = false) (by simp)]
  simp

theorem prefixProblems_eq_nil : s.prefixProblems = [] ↔
    s.testPrefix ≠ some "" ∧ ∀ wrapper ∈ s.wrapperPrefixes, wrapper.isEmpty = false := by
  rw [prefixProblems, List.append_eq_nil_iff,
    entryProblems_eq_nil_iff_forall (P := fun wrapper => wrapper.isEmpty = false) (by simp)]
  simp

theorem patternProblems_eq_nil : s.patternProblems = [] ↔
    ∀ source ∈ s.patterns, ∃ expression, Pattern.parse source = .ok expression := by
  rw [patternProblems, entryProblems_eq_nil_iff_forall
    (P := fun source => ∃ expression, Pattern.parse source = .ok expression)]
  intro i before source
  split <;> simp_all

end MarkerSettings

namespace Settings

theorem validate_eq_ok {s : Settings} : s.validate = .ok () ↔ s.problems = [] := by
  unfold validate
  split <;> simp_all

/-- Validation lets settings pass exactly when every field of the marker section is in order and
the other sections have no problem. -/
theorem validate_eq_ok_iff {s : Settings} : s.validate = .ok () ↔
    s.marker.Passes ∧ s.routing.problems = [] ∧ s.logging.problems = [] := by
  rw [validate_eq_ok, problems]
  simp only [List.append_eq_nil_iff, MarkerSettings.markerKeyProblems_eq_nil,
    MarkerSettings.traceIdKeyProblems_eq_nil, MarkerSettings.truthyProblems_eq_nil,
    MarkerSettings.propagationProblems_eq_nil, MarkerSettings.prefixProblems_eq_nil,
    MarkerSettings.patternProblems_eq_nil]
  constructor
  · rintro ⟨⟨⟨⟨⟨⟨⟨hmarker, htrace⟩, htruthy⟩, hkeys⟩, hprefix⟩, hpatterns⟩, hrouting⟩, hlogging⟩
    exact ⟨⟨hmarker.1, hmarker.2, htrace.1, htrace.2, htruthy.1, htruthy.2, hkeys.1, hkeys.2,
      hprefix.1, hprefix.2, hpatterns⟩, hrouting, hlogging⟩
  · rintro ⟨h, hrouting, hlogging⟩
    exact ⟨⟨⟨⟨⟨⟨⟨⟨h.markerKey_filled, h.markerKey_name⟩, h.traceIdKey_name, h.traceIdKey_apart⟩,
      h.truthy_present, h.truthy_filled⟩, h.keys_names, h.keys_apart⟩, h.prefix_filled,
      h.wrappers_filled⟩, h.patterns_read⟩, hrouting⟩, hlogging⟩

end Settings

end ShadowTraffic
