import Mathlib.Data.List.TakeWhile
import ShadowTraffic.Proofs.Traffic.Headers

/-! # Truthy values

A carried value is compared without the white space around it, a truthy value of the settings as it
stands. White space is no letter, so it does not matter in which letters either is written. Hence a
truthy value is recognised, however it is carried, exactly when the text inside its own white space
is a truthy value too; and one without white space around it always is.
-/

namespace ShadowTraffic

namespace Text

/-! ## White space around a text -/

theorem isWhite_eq_false_of_isAlphanum {c : Char} (h : c.isAlphanum = true) :
    isWhite c = false := by
  have hcode : 0x30 ≤ c.toNat ∧ c.toNat ≤ 0x7A := by
    delta Char.isAlphanum Char.isAlpha Char.isUpper Char.isLower Char.isDigit at h
    grind [Char.toNat_val, UInt32.le_iff_toNat_le]
  rw [← Bool.not_eq_true, isWhite, CodeRanges.holds_iff]
  simp only [whiteSpace, List.mem_cons, List.not_mem_nil, or_false, exists_eq_or_imp,
    exists_eq_left]
  omega

theorem isWhite_toLower (c : Char) : isWhite c.toLower = isWhite c := by
  by_cases h : c.isAlphanum = true
  · have hlower : c.toLower.isAlphanum = true := (Headers.isAlphanum_toLower c).trans h
    rw [isWhite_eq_false_of_isAlphanum h, isWhite_eq_false_of_isAlphanum hlower]
  · rw [Headers.toLower_of_not_isAlphanum h]

theorem trimChars_map_toLower (cs : List Char) :
    trimChars (cs.map Char.toLower) = (trimChars cs).map Char.toLower := by
  have hwhite : isWhite ∘ Char.toLower = isWhite := funext isWhite_toLower
  simp only [trimChars, List.dropWhile_map, hwhite, ← List.map_reverse]

theorem asciiLower_trim (s : String) : asciiLower (trim s) = trim (asciiLower s) := by
  simp [asciiLower, trim, trimChars_map_toLower]

theorem trimChars_append {before after : List Char} (hbefore : ∀ c ∈ before, isWhite c = true)
    (hafter : ∀ c ∈ after, isWhite c = true) (cs : List Char) :
    trimChars (before ++ cs ++ after) = trimChars cs := by
  have hback : ∀ c ∈ after.reverse, isWhite c = true := fun c hc => hafter c (List.mem_reverse.1 hc)
  have hnothing : after.dropWhile isWhite = [] := List.dropWhile_eq_nil_iff.2 hafter
  rw [trimChars, List.append_assoc, List.dropWhile_append_of_pos hbefore, List.dropWhile_append]
  split
  next hblank => rw [hnothing, trimChars, List.isEmpty_iff.1 hblank]
  next => rw [List.reverse_append, List.dropWhile_append_of_pos hback, trimChars]

theorem trim_append {before after : String} (hbefore : isBlank before = true)
    (hafter : isBlank after = true) (s : String) : trim (before ++ s ++ after) = trim s := by
  have htrim := trimChars_append (List.all_eq_true.1 hbefore) (List.all_eq_true.1 hafter) s.toList
  simp only [trim, String.toList_append, htrim]

/-- A text in other letters and with white space around it, and that text trimmed, are one up to
letters. -/
theorem sameAscii_trim {before written after s : String} (hbefore : isBlank before = true)
    (hafter : isBlank after = true) (hsame : sameAscii written s = true) (t : String) :
    sameAscii t (trim (before ++ written ++ after)) = sameAscii t (trim s) := by
  have hlower : asciiLower (trim written) = asciiLower (trim s) := by
    rw [asciiLower_trim, sameAscii_iff.1 hsame, asciiLower_trim]
  rw [trim_append hbefore hafter, sameAscii, hlower, sameAscii]

end Text

/-- A context that has a value under a key, in some letters and with some white space around it. -/
def TrafficContext.Carries (t : TrafficContext) (key value : String) : Prop :=
  ∃ before written after, t.get? key = some (before ++ written ++ after) ∧
    Text.isBlank before = true ∧ Text.isBlank after = true ∧ Text.sameAscii written value = true

/-- A text is among the truthy values in some letters. -/
def MarkerSettings.Knows (s : MarkerSettings) (text : String) : Prop :=
  ∃ value ∈ s.truthyValues, Text.sameAscii value text = true

namespace Rules

variable {r : Rules} {s : MarkerSettings} {t : TrafficContext}

theorem isTruthy_iff {value : String} :
    Detector.isTruthy s.truthyValues value = true ↔ s.Knows (Text.trim value) := by
  simp [Detector.isTruthy, MarkerSettings.Knows]

/-- A value that is carried counts for what is inside its own white space. -/
theorem From.detect_carried (h : From s r) {value : String} (ht : t.Carries s.markerKey value)
    (resource : Option String) : (r.detect t resource).decidedBy = some .explicitKey ∧
      ((r.detect t resource).marked = true ↔ s.Knows (Text.trim value)) := by
  obtain ⟨before, written, after, hcarried, hbefore, hafter, hsame⟩ := ht
  rw [h.detect_of_markerKey hcarried]
  refine ⟨rfl, ?_⟩
  rw [isTruthy_iff]
  simp only [MarkerSettings.Knows, Text.sameAscii_trim hbefore hafter hsame]

/-- Under settings that pass, a truthy value marks every context that carries it, whatever the
resource, exactly when it is a truthy value also without the white space around it; otherwise it
keeps the call out. So one without white space around it always marks. -/
theorem truthy_values_mark_iff {settings : Settings} (h : settings.validate = .ok ()) :
    ∃ r, ofSettings settings.marker = .ok r ∧ ∀ value ∈ settings.marker.truthyValues,
      (∀ t, t.Carries settings.marker.markerKey value →
        (r.isMarked t = true ↔ settings.marker.Knows (Text.trim value)) ∧
        ∀ resource, (r.detect t resource).decidedBy = some .explicitKey ∧
          ((r.detect t resource).marked = true ↔ settings.marker.Knows (Text.trim value))) ∧
      (Text.trim value = value → settings.marker.Knows (Text.trim value)) := by
  obtain ⟨r, hr, hfrom⟩ := exists_from (Settings.validate_eq_ok_iff.1 h).1
  refine ⟨r, hr, fun value hvalue => ⟨fun t ht => ?_, fun hbare => ?_⟩⟩
  · exact ⟨(hfrom.detect_carried ht none).2, hfrom.detect_carried ht⟩
  · exact ⟨value, hvalue, by rw [hbare, Text.sameAscii_iff]⟩

/-- A truthy value with white space around it, and what is inside in other letters. -/
def spaced : Settings :=
  { marker := { markerKey := "X-Load", truthyValues := [" yes ", "YES"] } }

theorem truthy_values_mark_iff_spaced :
    spaced.validate = .ok () ∧ " yes " ∈ spaced.marker.truthyValues ∧
      ∃ r, ofSettings spaced.marker = .ok r ∧
        r.isMarked (({} : TrafficContext).insert "X-Load" "\u2003\t yEs ") = true := by
  have hpass : spaced.validate = .ok () := rfl
  have hvalue : " yes " ∈ spaced.marker.truthyValues := by simp [spaced]
  obtain ⟨r, hr, hmarks⟩ := truthy_values_mark_iff hpass
  have hcarries : (({} : TrafficContext).insert "X-Load" "\u2003\t yEs ").Carries
      spaced.marker.markerKey " yes " := ⟨"\u2003\t", " yEs ", "", rfl, rfl, rfl, rfl⟩
  have hknows : spaced.marker.Knows (Text.trim " yes ") := ⟨"YES", by simp [spaced], rfl⟩
  exact ⟨hpass, hvalue, r, hr, ((hmarks _ hvalue).1 _ hcarries).1.2 hknows⟩

/-- Settings that pass and whose one truthy value has white space around it: it is not recognised,
neither as it stands nor without that white space. -/
theorem truthy_value_unrecognised :
    let settings : Settings := { marker := { truthyValues := [" yes "] } }
    let carrying (value : String) := ({} : TrafficContext).insert "x-shadow-test" value
    settings.validate = .ok () ∧ " yes " ∈ settings.marker.truthyValues ∧
      ∃ r, ofSettings settings.marker = .ok r ∧
        r.isMarked (carrying " yes ") = false ∧ r.isMarked (carrying "yes") = false ∧
        r.detect (carrying " yes ") (some "orders") = ⟨false, some .explicitKey⟩ :=
  ⟨rfl, by simp, _, rfl, rfl, rfl, rfl⟩

end Rules

end ShadowTraffic
