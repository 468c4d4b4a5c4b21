import ShadowTraffic.Proofs.Traffic.Transport

/-! # Marks and what is made of them

Marking a context writes one fixed text under the marker key and raises the flag. The rules compare
what stands there with the truthy values of their settings. So flag and detection agree, on the
spot and after a hop, exactly when that text is among those values.
-/

namespace ShadowTraffic

namespace MarkerSettings

/-- The text that a mark writes means test traffic. -/
def TakesMarks (s : MarkerSettings) : Prop :=
  ∃ value ∈ s.truthyValues, Text.sameAscii value "true" = true

theorem isTruthy_true_iff {s : MarkerSettings} :
    Detector.isTruthy s.truthyValues "true" = true ↔ s.TakesMarks := by
  have htrim : Text.trim "true" = "true" := rfl
  simp [Detector.isTruthy, htrim, TakesMarks]

end MarkerSettings

namespace Rules

variable {r : Rules} {s : MarkerSettings}

theorem get?_mark (r : Rules) (t : TrafficContext) :
    (r.mark t).get? r.markerKey = some "true" := by
  simp [mark, TrafficContext.get?, TrafficContext.insert]

theorem From.detect_mark (h : From s r) (t : TrafficContext) (resource : Option String) :
    r.detect (r.mark t) resource =
      ⟨Detector.isTruthy s.truthyValues "true", some .explicitKey⟩ :=
  h.detect_of_markerKey (h.markerKey ▸ get?_mark r t) resource

theorem From.detect_hop_mark (h : From s r) (t : TrafficContext) (resource : Option String) :
    r.detect (r.hop (.map .empty) (r.mark t)) resource =
      ⟨Detector.isTruthy s.truthyValues "true", some .explicitKey⟩ := by
  have htravels : r.Travels s.markerKey := h.travels_iff.2 (.inr (.inl rfl))
  refine h.detect_of_markerKey ?_ resource
  rw [get?_hop_map, if_pos htravels, ← h.markerKey, get?_mark]

/-- After a mark everything that can be asked says test traffic: the flag, the rules with and
without a resource, the flag derived anew, and all of that for the context which arrives over a
map. -/
structure MarkHolds (r : Rules) (t : TrafficContext) (resource : Option String) : Prop where
  flagged : (r.mark t).marked = true
  isMarked : r.isMarked (r.mark t) = true
  isMarkedFor : (r.detect (r.mark t) resource).marked = true
  refreshed : (r.refresh (r.mark t)).marked = true
  arrived : (r.hop (.map .empty) (r.mark t)).marked = true
  arrivedFor : (r.detect (r.hop (.map .empty) (r.mark t)) resource).marked = true

theorem From.markHolds_iff (h : From s r) (t : TrafficContext) (resource : Option String) :
    r.MarkHolds t resource ↔ s.TakesMarks := by
  rw [← MarkerSettings.isTruthy_true_iff]
  constructor
  · intro hmark
    have hmarked := hmark.isMarkedFor
    rwa [h.detect_mark] at hmarked
  · intro htruthy
    have hhere (resource : Option String) : (r.detect (r.mark t) resource).marked = true := by
      rw [h.detect_mark, htruthy]
    have hthere (resource : Option String) :
        (r.detect (r.hop (.map .empty) (r.mark t)) resource).marked = true := by
      rw [h.detect_hop_mark, htruthy]
    exact ⟨rfl, hhere none, hhere resource, hhere none, marked_hop r _ _ ▸ hthere none,
      hthere resource⟩

/-- Settings that pass make a rule set, and its marks hold, on every context and for every
resource, exactly when the settings take the text of a mark for a truthy value. Otherwise no mark
is recognised, although it raises the flag. -/
theorem marks_hold_iff {settings : Settings} (h : settings.validate = .ok ()) :
    ∃ r, ofSettings settings.marker = .ok r ∧ ∀ t resource,
      (r.mark t).marked = true ∧ (r.MarkHolds t resource ↔ settings.marker.TakesMarks) ∧
        (¬ settings.marker.TakesMarks →
          r.detect (r.mark t) resource = ⟨false, some .explicitKey⟩) := by
  obtain ⟨r, hr, hfrom⟩ := exists_from (Settings.validate_eq_ok_iff.1 h).1
  refine ⟨r, hr, fun t resource => ⟨rfl, hfrom.markHolds_iff t resource, fun hnot => ?_⟩⟩
  have hfalse : Detector.isTruthy settings.marker.truthyValues "true" = false := by
    rw [← Bool.not_eq_true, MarkerSettings.isTruthy_true_iff]
    exact hnot
  rw [hfrom.detect_mark, hfalse]

/-- Settings with a marker key of their own and the mark's text in capitals. -/
def inCapitals : Settings :=
  { marker := { markerKey := "X-Load", truthyValues := ["on", "TRUE"] } }

theorem marks_hold_iff_inCapitals :
    inCapitals.validate = .ok () ∧ ∃ r, ofSettings inCapitals.marker = .ok r ∧
      r.MarkHolds (({} : TrafficContext).insert "X-Load" "no") (some "orders") := by
  have hpass : inCapitals.validate = .ok () := rfl
  obtain ⟨r, hr, hmarks⟩ := marks_hold_iff hpass
  have htakes : inCapitals.marker.TakesMarks := ⟨"TRUE", by simp [inCapitals], rfl⟩
  exact ⟨hpass, r, hr, (hmarks _ _).2.1.2 htakes⟩

/-- Settings that pass and know another truthy value only: the mark raises the flag, and the rules
do not recognise it. -/
theorem mark_unrecognised :
    let settings : Settings := { marker := { truthyValues := ["yes"] } }
    settings.validate = .ok () ∧ ∃ r, ofSettings settings.marker = .ok r ∧
      (r.mark {}).marked = true ∧ r.isMarked (r.mark {}) = false ∧
      (r.detect (r.mark {}) (some "orders")).marked = false ∧
      (r.refresh (r.mark {})).marked = false ∧
      (r.hop (.map .empty) (r.mark {})).marked = false :=
  ⟨rfl, _, rfl, rfl, rfl, rfl, rfl, rfl⟩

end Rules

end ShadowTraffic
