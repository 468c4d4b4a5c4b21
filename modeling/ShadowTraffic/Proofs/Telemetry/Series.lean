import ShadowTraffic.Telemetry.Effect

/-! # Series of counters

Each counter is written under a name of its own, so that counting one changes no other.
-/

namespace ShadowTraffic

theorem Route.name_injective : Function.Injective Route.name := by
  intro a b h
  cases a <;> cases b <;> first | rfl | simp [name] at h

theorem ProvisionOutcome.name_injective : Function.Injective ProvisionOutcome.name := by
  intro a b h
  cases a <;> cases b <;> first | rfl | simp [name] at h

/-- What tells the kinds of counters apart behind the common beginning of their series. -/
def Counter.letter : Counter → Char
  | dispatched _ => 'd'
  | provisioned _ => 's'
  | misused _ => 'g'

theorem Counter.letter_series (c : Counter) : c.series.toList[11]? = some c.letter := by
  cases c with
  | dispatched route =>
    change ("shadowline_dispatch_total\x7broute=" ++ route.name ++ "\x7d").toList[11]? = some 'd'
    rw [String.toList_append, String.toList_append]
    rfl
  | provisioned outcome =>
    change ("shadowline_shadow_provision_total\x7boutcome=" ++ outcome.name ++
      "\x7d").toList[11]? = some 's'
    rw [String.toList_append, String.toList_append]
    rfl
  | misused boundary =>
    change ("shadowline_guard_misuse_total\x7bboundary=" ++ boundary ++
      "\x7d").toList[11]? = some 'g'
    rw [String.toList_append, String.toList_append]
    rfl

theorem Counter.series_injective : Function.Injective Counter.series := by
  intro c c' h
  have hletter : c.letter = c'.letter :=
    Option.some.inj (by rw [← letter_series c, ← letter_series c', h])
  cases c with
  | dispatched route =>
    cases c' with
    | dispatched other =>
      have hnames : "shadowline_dispatch_total\x7broute=" ++ route.name ++ "\x7d" =
          "shadowline_dispatch_total\x7broute=" ++ other.name ++ "\x7d" := h
      rw [String.append_left_inj, String.append_right_inj] at hnames
      rw [Route.name_injective hnames]
    | provisioned | misused => cases hletter
  | provisioned outcome =>
    cases c' with
    | provisioned other =>
      have hnames : "shadowline_shadow_provision_total\x7boutcome=" ++ outcome.name ++ "\x7d" =
          "shadowline_shadow_provision_total\x7boutcome=" ++ other.name ++ "\x7d" := h
      rw [String.append_left_inj, String.append_right_inj] at hnames
      rw [ProvisionOutcome.name_injective hnames]
    | dispatched | misused => cases hletter
  | misused boundary =>
    cases c' with
    | misused other =>
      have hnames : "shadowline_guard_misuse_total\x7bboundary=" ++ boundary ++ "\x7d" =
          "shadowline_guard_misuse_total\x7bboundary=" ++ other ++ "\x7d" := h
      rw [String.append_left_inj, String.append_right_inj] at hnames
      rw [hnames]
    | dispatched | provisioned => cases hletter

namespace Metrics

/-- One more of a counter. -/
theorem count_counted (m : Metrics) (c c' : Counter) :
    (m.record (.counted c)).count c' = m.count c' + if c = c' then 1 else 0 := by
  simp only [count, record, Dictionary.modify, Dictionary.get?_insert]
  by_cases hc : c = c'
  · simp [hc]
  · have hseries : c'.series ≠ c.series := fun h => hc (Counter.series_injective h).symm
    simp [hc, hseries]

end Metrics

end ShadowTraffic
