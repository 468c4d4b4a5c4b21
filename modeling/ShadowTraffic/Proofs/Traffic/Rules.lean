import ShadowTraffic.Proofs.Config.Validation
import ShadowTraffic.Proofs.Writes

/-! # How rule sets are made

A rule set comes from settings or is the default one, and may then be extended by one detector or
one propagation key at a time. Only explicit keys are read from a context, so contexts that agree
there are judged alike; and the explicit key that a rule set begins with always travels.
-/

namespace ShadowTraffic

namespace Detector

theorem evaluate_congr {d : Detector} {t u : TrafficContext} (resource : Option String)
    (h : ∀ key truthy, d = .explicitKey key truthy → t.get? key = u.get? key) :
    d.evaluate t resource = d.evaluate u resource := by
  cases d with
  | explicitKey key truthy => rw [evaluate, evaluate, h key truthy rfl]
  | resourcePrefix start wrappers => rfl
  | pattern source expression => rfl
  | predicate recognises => rfl

end Detector

namespace Rules

variable {r : Rules} {t u : TrafficContext}

/-! ## Detection -/

theorem firstDecision_congr {detectors : List Detector} {resource : Option String}
    (h : ∀ d ∈ detectors, d.evaluate t resource = d.evaluate u resource) :
    firstDecision t resource detectors = firstDecision u resource detectors := by
  induction detectors with
  | nil => rfl
  | cons d rest ih =>
    rw [firstDecision, firstDecision, h d List.mem_cons_self,
      ih fun e he => h e (List.mem_cons_of_mem _ he)]

theorem firstDecision_undecided {detectors : List Detector} {resource : Option String} :
    (firstDecision t resource detectors).decidedBy = none ↔
      ∀ d ∈ detectors, d.evaluate t resource = none := by
  induction detectors with
  | nil => simp [firstDecision]
  | cons d rest ih => cases h : d.evaluate t resource <;> simp [firstDecision, h, ih]

/-- Contexts that agree at every explicit key are judged alike. -/
theorem detect_congr (resource : Option String)
    (h : ∀ key truthy, .explicitKey key truthy ∈ r.detectors → t.get? key = u.get? key) :
    r.detect t resource = r.detect u resource :=
  firstDecision_congr fun _ hd =>
    Detector.evaluate_congr resource fun key truthy hkey => h key truthy (hkey ▸ hd)

/-! ## Rules from settings -/

theorem contains_keySet {keys : List String} {key : String} :
    (keySet keys).contains key = true ↔ key ∈ keys := by
  rw [keySet, Dictionary.contains_ofList]
  simp

theorem patternDetectors_of_read {sources : List String}
    (h : ∀ source ∈ sources, ∃ expression, Pattern.parse source = .ok expression) :
    ∃ detectors, patternDetectors sources = .ok detectors := by
  induction sources with
  | nil => exact ⟨[], rfl⟩
  | cons source rest ih =>
    obtain ⟨expression, hsource⟩ := h source List.mem_cons_self
    obtain ⟨detectors, hrest⟩ := ih fun other hother => h other (List.mem_cons_of_mem _ hother)
    refine ⟨.pattern source expression :: detectors, ?_⟩
    rw [patternDetectors, hsource, hrest]
    rfl

theorem kind_of_patternDetectors {sources : List String} {detectors : List Detector}
    (h : patternDetectors sources = .ok detectors) : ∀ d ∈ detectors, d.kind = .pattern := by
  induction sources generalizing detectors with
  | nil =>
    cases h
    simp
  | cons source rest ih =>
    rw [patternDetectors] at h
    split at h
    next fault hfault => cases h
    next expression hexpression =>
      cases hrest : patternDetectors rest with
      | error e =>
        rw [hrest] at h
        cases h
      | ok later =>
        rw [hrest] at h
        cases h
        simpa [Detector.kind] using ih hrest

theorem kind_of_prefixDetectors {s : MarkerSettings} {d : Detector} (h : d ∈ prefixDetectors s) :
    d.kind = .resourcePrefix := by
  unfold prefixDetectors at h
  split at h
  · split at h
    · cases h
    · rw [List.mem_singleton] at h
      rw [h]
      rfl
  · cases h

/-- What a rule set is that comes from settings. -/
structure From (s : MarkerSettings) (r : Rules) : Prop where
  markerKey : r.markerKey = s.markerKey
  traceIdKey : r.traceIdKey = s.traceIdKey
  propagationKeys : r.propagationKeys = keySet (s.propagationKeys ++ [s.markerKey, s.traceIdKey])
  detectors : ∃ later, r.detectors = .explicitKey s.markerKey s.truthyValues :: later ∧
    ∀ d ∈ later, d.kind ≠ .explicitKey

theorem from_of_ofSettings {s : MarkerSettings} (h : ofSettings s = .ok r) : From s r := by
  unfold ofSettings at h
  split at h
  · cases h
  · cases hpatterns : patternDetectors s.patterns with
    | error e =>
      rw [hpatterns] at h
      cases h
    | ok patterns =>
      rw [hpatterns] at h
      cases h
      refine ⟨rfl, rfl, rfl, prefixDetectors s ++ patterns, rfl, fun d hd => ?_⟩
      rcases List.mem_append.1 hd with hd | hd
      · simp [kind_of_prefixDetectors hd]
      · simp [kind_of_patternDetectors hpatterns d hd]

theorem from_default : From {} default := by
  refine ⟨rfl, rfl, rfl, prefixDetectors {}, rfl, fun d hd => ?_⟩
  simp [kind_of_prefixDetectors hd]

theorem exists_from {s : MarkerSettings} (h : s.Passes) :
    ∃ r, ofSettings s = .ok r ∧ From s r := by
  obtain ⟨patterns, hpatterns⟩ := patternDetectors_of_read h.patterns_read
  have hok : ofSettings s = .ok {
      markerKey := s.markerKey
      traceIdKey := s.traceIdKey
      propagationKeys := keySet (s.propagationKeys ++ [s.markerKey, s.traceIdKey])
      detectors := .explicitKey s.markerKey s.truthyValues :: (prefixDetectors s ++ patterns) } := by
    rw [ofSettings, h.markerKey_filled, hpatterns]
    rfl
  exact ⟨_, hok, from_of_ofSettings hok⟩

/-- A key that a rule set carries across boundaries. -/
def Travels (r : Rules) (key : String) : Prop :=
  r.propagationKeys.contains key = true

instance (r : Rules) (key : String) : Decidable (r.Travels key) :=
  inferInstanceAs (Decidable (_ = true))

theorem From.travels_iff {s : MarkerSettings} (h : From s r) {key : String} :
    r.Travels key ↔ key ∈ s.propagationKeys ∨ key = s.markerKey ∨ key = s.traceIdKey := by
  rw [Travels, h.propagationKeys, contains_keySet]
  simp

theorem From.eq_markerKey {s : MarkerSettings} (h : From s r) {key : String}
    {truthy : List String} (hd : .explicitKey key truthy ∈ r.detectors) : key = s.markerKey := by
  obtain ⟨later, hdetectors, hlater⟩ := h.detectors
  rw [hdetectors] at hd
  rcases List.mem_cons.1 hd with hd | hd
  · cases hd
    rfl
  · exact absurd rfl (hlater _ hd)

theorem From.detect_of_markerKey {s : MarkerSettings} (h : From s r) {value : String}
    (hvalue : t.get? s.markerKey = some value) (resource : Option String) :
    r.detect t resource = ⟨Detector.isTruthy s.truthyValues value, some .explicitKey⟩ := by
  obtain ⟨later, hdetectors, -⟩ := h.detectors
  rw [detect, hdetectors, firstDecision, Detector.evaluate, hvalue]
  rfl

/-! ## Extensions -/

/-- What a rule set can be extended by. -/
inductive Extension where
  | detector (d : Detector)
  | propagationKey (key : String)

def extend (r : Rules) : Extension → Rules
  | .detector d => r.withDetector d
  | .propagationKey key => r.withPropagationKey key

/-- A rule set after some extensions, in order. -/
def extended (r : Rules) (extensions : List Extension) : Rules :=
  extensions.foldl extend r

theorem mem_place {d e : Detector} {detectors : List Detector} :
    e ∈ place d detectors ↔ e = d ∨ e ∈ detectors := by
  induction detectors with
  | nil => simp [place]
  | cons first rest ih =>
    rw [place]
    split
    · simp only [List.mem_cons, ih]
      exact or_left_comm
    · exact List.mem_cons

theorem mem_detectors_extended {d : Detector} {extensions : List Extension} :
    d ∈ (r.extended extensions).detectors ↔ d ∈ r.detectors ∨ .detector d ∈ extensions := by
  induction extensions generalizing r with
  | nil => simp [extended]
  | cons x rest ih =>
    have hx : d ∈ (r.extend x).detectors ↔ .detector d = x ∨ d ∈ r.detectors := by
      cases x with
      | detector e => simp [extend, withDetector, mem_place]
      | propagationKey key => simp [extend, withPropagationKey]
    have hrest := ih (r := r.extend x)
    rw [extended, List.foldl_cons, ← extended, hrest, hx, List.mem_cons]
    grind

theorem travels_extended_iff {key : String} {extensions : List Extension} :
    (r.extended extensions).Travels key ↔ r.Travels key ∨ .propagationKey key ∈ extensions := by
  induction extensions generalizing r with
  | nil => simp [extended]
  | cons x rest ih =>
    have hx : (r.extend x).Travels key ↔ .propagationKey key = x ∨ r.Travels key := by
      cases x with
      | detector d => simp [extend, withDetector, Travels]
      | propagationKey other =>
        simp only [extend, withPropagationKey, Travels, Dictionary.contains, Dictionary.get?_insert]
        split <;> simp_all
    have hrest := ih (r := r.extend x)
    rw [extended, List.foldl_cons, ← extended, hrest, hx, List.mem_cons]
    grind

/-- Detectors that read another key than the one a rule set began with were added to it. -/
theorem travels_or_added {s : MarkerSettings} (h : From s r) (extensions : List Extension)
    {key : String} {truthy : List String}
    (hd : .explicitKey key truthy ∈ (r.extended extensions).detectors) :
    (r.extended extensions).Travels key ∨ .detector (.explicitKey key truthy) ∈ extensions := by
  rcases mem_detectors_extended.1 hd with hd | hd
  · have htravels : r.Travels key := h.travels_iff.2 (.inr (.inl (h.eq_markerKey hd)))
    exact .inl (travels_extended_iff.2 (.inl htravels))
  · exact .inr hd

end Rules

end ShadowTraffic
