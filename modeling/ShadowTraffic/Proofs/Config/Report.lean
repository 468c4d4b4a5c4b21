import Mathlib.Data.List.Sort
import ShadowTraffic.Log.Logger
import ShadowTraffic.Proofs.Traffic.Rules
import ShadowTraffic.Scenario.Routers

/-! # What a validation reports

A problem is a fact about settings: `Has` says which one, without saying how it is looked for.
Problems have an order, by field, by entry of the field and by check, in which none stands twice. So
there is just one list of all problems of settings in order, and it is the one that a validation
reports.
-/

namespace ShadowTraffic

namespace Problem

/-! ## The order of problems -/

/-- The place of the field among all fields. -/
def field : Problem → Nat
  | markerKeyMissing | markerKeyNoHeader _ => 0
  | traceIdKeyNoHeader _ | traceIdKeyIsMarkerKey => 1
  | noTruthyValues | blankTruthyValue _ => 2
  | propagationKeyNoHeader .. | duplicatePropagationKey .. => 3
  | emptyTestPrefix => 4
  | emptyWrapper _ => 5
  | invalidPattern .. => 6
  | blankWhitelistEntry _ | duplicateWhitelistEntry .. => 7
  | invalidLevel .. => 8

/-- The names of the fields, in their places. -/
def fieldNames : List String :=
  ["marker.marker_key", "marker.trace_id_key", "marker.truthy_values", "marker.propagation_keys",
    "marker.test_prefix", "marker.wrapper_prefixes", "marker.patterns", "routing.whitelist",
    "logging.level"]

/-- The entry at fault, in a field that is a list. -/
def index : Problem → Nat
  | blankTruthyValue i | propagationKeyNoHeader i _ | duplicatePropagationKey i _
  | emptyWrapper i | invalidPattern i .. | blankWhitelistEntry i
  | duplicateWhitelistEntry i _ => i
  | _ => 0

/-- The place of the check among those of one entry. -/
def check : Problem → Nat
  | duplicatePropagationKey .. => 1
  | _ => 0

def Precedes (p q : Problem) : Prop :=
  p.field < q.field ∨ p.field = q.field ∧
    (p.index < q.index ∨ p.index = q.index ∧ p.check < q.check)

instance : Std.Irrefl Precedes where
  irrefl p h := by
    unfold Precedes at h
    omega

instance : Std.Antisymm Precedes where
  antisymm p q hpq hqp := by
    unfold Precedes at hpq hqp
    omega

/-- A message about a field, as a whole or at one entry. -/
inductive Accuses (name : String) (index : Nat) : String → Prop
  | missing : Accuses name index (Problem.missing name)
  | whole (complaint : String) : Accuses name index (invalid name complaint)
  | entry (complaint : String) : Accuses name index (invalid (Problem.entry name index) complaint)

/-- Every problem names its field, and the entry at fault where it is about one. -/
theorem accuses_summary (p : Problem) :
    ∃ name, fieldNames[p.field]? = some name ∧ Accuses name p.index p.summary := by
  cases p with
  | markerKeyMissing | noTruthyValues => exact ⟨_, rfl, .missing⟩
  | markerKeyNoHeader | traceIdKeyNoHeader | traceIdKeyIsMarkerKey | emptyTestPrefix
  | invalidLevel => exact ⟨_, rfl, .whole _⟩
  | _ => exact ⟨_, rfl, .entry _⟩

@[simp] theorem mem_when {condition : Bool} {p q : Problem} :
    p ∈ Problem.when condition q ↔ condition = true ∧ p = q := by
  cases condition <;> simp [Problem.when]

@[simp] theorem pairwise_when (condition : Bool) (p : Problem) :
    (Problem.when condition p).Pairwise Precedes := by
  cases condition <;> simp [Problem.when]

theorem place_of_mem_when {condition : Bool} {p q : Problem} (h : p ∈ Problem.when condition q) :
    p.field = q.field ∧ p.index = q.index := by
  obtain ⟨-, rfl⟩ := mem_when.1 h
  exact ⟨rfl, rfl⟩

theorem within_of_field {p : Problem} {place : Nat} (h : p.field = place) :
    place ≤ p.field ∧ p.field < place + 1 := by
  omega

/-- Problems in order, all of fields from one place on and before another. -/
structure Between (low high : Nat) (ps : List Problem) : Prop where
  grows : low ≤ high
  ordered : ps.Pairwise Precedes
  within : ∀ p ∈ ps, low ≤ p.field ∧ p.field < high

theorem Between.append {low middle high : Nat} {ps qs : List Problem}
    (hps : Between low middle ps) (hqs : Between middle high qs) :
    Between low high (ps ++ qs) where
  grows := Nat.le_trans hps.grows hqs.grows
  ordered := by
    rw [List.pairwise_append]
    refine ⟨hps.ordered, hqs.ordered, fun p hp q hq => .inl ?_⟩
    exact Nat.lt_of_lt_of_le (hps.within p hp).2 (hqs.within q hq).1
  within p hp := by
    rcases List.mem_append.1 hp with hp | hp
    · exact ⟨(hps.within p hp).1, Nat.lt_of_lt_of_le (hps.within p hp).2 hqs.grows⟩
    · exact ⟨Nat.le_trans hps.grows (hqs.within p hp).1, (hqs.within p hp).2⟩

end Problem

open Problem

/-! ## The problems of a list -/

/-- What is found in a list is found at an entry, given those before it. -/
theorem mem_entryProblems_from {check : Nat → List String → String → List Problem} {p : Problem}
    (index : Nat) (before xs : List String) : p ∈ entryProblems check index before xs ↔
      ∃ i x, xs[i]? = some x ∧ p ∈ check (index + i) (before ++ xs.take i) x := by
  induction xs generalizing index before with
  | nil => simp [entryProblems]
  | cons x rest ih =>
    have hnext (i : Nat) : index + (i + 1) = index + 1 + i := by omega
    rw [entryProblems, List.mem_append, ih]
    simp only [List.append_assoc, List.singleton_append]
    constructor
    · rintro (hfirst | ⟨i, y, hy, hlater⟩)
      · exact ⟨0, x, rfl, by simpa using hfirst⟩
      · exact ⟨i + 1, y, hy, by rwa [List.take_succ_cons, hnext]⟩
    · rintro ⟨i, y, hy, hp⟩
      cases i with
      | zero =>
        cases hy
        exact .inl (by simpa using hp)
      | succ i => exact .inr ⟨i, y, hy, by rwa [List.take_succ_cons, hnext] at hp⟩

theorem mem_entryProblems {check : Nat → List String → String → List Problem} {p : Problem}
    {xs : List String} : p ∈ entryProblems check 0 [] xs ↔
      ∃ i x, xs[i]? = some x ∧ p ∈ check i (xs.take i) x := by
  simp [mem_entryProblems_from]

/-- An entry before another one, seen from the later one. -/
theorem mem_take_iff {xs : List String} {i : Nat} {y : String} :
    y ∈ xs.take i ↔ ∃ j, j < i ∧ xs[j]? = some y := by
  simp [List.mem_iff_getElem?, List.getElem?_take]

/-- A check that names its field and its entry finds problems in order. -/
theorem between_entryProblems {check : Nat → List String → String → List Problem} {field : Nat}
    (hplace : ∀ i before x, ∀ p ∈ check i before x, p.field = field ∧ p.index = i)
    (hordered : ∀ i before x, (check i before x).Pairwise Precedes) (xs : List String) :
    Between field (field + 1) (entryProblems check 0 [] xs) where
  grows := Nat.le_succ field
  ordered := by
    suffices h : ∀ index before, (entryProblems check index before xs).Pairwise Precedes from
      h 0 []
    induction xs with
    | nil => simp [entryProblems]
    | cons x rest ih =>
      intro index before
      rw [entryProblems, List.pairwise_append]
      refine ⟨hordered index before x, ih _ _, fun p hp q hq => ?_⟩
      obtain ⟨i, y, -, hq⟩ := (mem_entryProblems_from ..).1 hq
      obtain ⟨hpfield, hpindex⟩ := hplace _ _ _ p hp
      obtain ⟨hqfield, hqindex⟩ := hplace _ _ _ q hq
      refine .inr ⟨hpfield.trans hqfield.symm, .inl ?_⟩
      omega
  within p hp := by
    obtain ⟨i, x, -, hp⟩ := mem_entryProblems.1 hp
    have hfield := (hplace _ _ _ p hp).1
    omega

/-! ## The problems of settings -/

/-- What can be wrong with settings. -/
def Settings.Has (s : Settings) : Problem → Prop
  | .markerKeyMissing => Text.isBlank s.marker.markerKey = true
  | .markerKeyNoHeader key => Text.isBlank s.marker.markerKey = false ∧
      Headers.isName s.marker.markerKey = false ∧ key = s.marker.markerKey
  | .traceIdKeyNoHeader key => Headers.isName s.marker.traceIdKey = false ∧
      key = s.marker.traceIdKey
  | .traceIdKeyIsMarkerKey => Headers.isName s.marker.traceIdKey = true ∧
      Text.asciiLower s.marker.traceIdKey = Text.asciiLower s.marker.markerKey
  | .noTruthyValues => s.marker.truthyValues = []
  | .blankTruthyValue i => ∃ value, s.marker.truthyValues[i]? = some value ∧
      Text.isBlank value = true
  | .propagationKeyNoHeader i key => s.marker.propagationKeys[i]? = some key ∧
      Headers.isName key = false
  | .duplicatePropagationKey i key => s.marker.propagationKeys[i]? = some key ∧
      ∃ j < i, ∃ other, s.marker.propagationKeys[j]? = some other ∧
        Text.asciiLower other = Text.asciiLower key
  | .emptyTestPrefix => s.marker.testPrefix = some ""
  | .emptyWrapper i => s.marker.wrapperPrefixes[i]? = some ""
  | .invalidPattern i source fault => s.marker.patterns[i]? = some source ∧
      Pattern.parse source = .error fault
  | .blankWhitelistEntry i => ∃ resource, s.routing.whitelist[i]? = some resource ∧
      Text.isBlank resource = true
  | .duplicateWhitelistEntry i resource => s.routing.whitelist[i]? = some resource ∧
      Text.isBlank resource = false ∧ ∃ j < i, s.routing.whitelist[j]? = some resource
  | .invalidLevel level fault => LogFilter.parse s.logging.level = .error fault ∧
      level = s.logging.level

/-! ## Section by section -/

namespace MarkerSettings

variable {s : MarkerSettings} {p : Problem}

theorem mem_markerKeyProblems : p ∈ s.markerKeyProblems ↔
    Text.isBlank s.markerKey = true ∧ p = .markerKeyMissing ∨
      Text.isBlank s.markerKey = false ∧ Headers.isName s.markerKey = false ∧
        p = .markerKeyNoHeader s.markerKey := by
  unfold markerKeyProblems
  split <;> simp_all

theorem mem_traceIdKeyProblems : p ∈ s.traceIdKeyProblems ↔
    Headers.isName s.traceIdKey = false ∧ p = .traceIdKeyNoHeader s.traceIdKey ∨
      Headers.isName s.traceIdKey = true ∧
        Text.asciiLower s.traceIdKey = Text.asciiLower s.markerKey ∧
        p = .traceIdKeyIsMarkerKey := by
  unfold traceIdKeyProblems
  split <;> simp_all [Text.sameAscii_iff]

theorem mem_truthyProblems : p ∈ s.truthyProblems ↔
    s.truthyValues = [] ∧ p = .noTruthyValues ∨
      ∃ i value, s.truthyValues[i]? = some value ∧ Text.isBlank value = true ∧
        p = .blankTruthyValue i := by
  simp [truthyProblems, mem_entryProblems]

theorem mem_propagationProblems : p ∈ s.propagationProblems ↔
    ∃ i key, s.propagationKeys[i]? = some key ∧
      (Headers.isName key = false ∧ p = .propagationKeyNoHeader i key ∨
        (∃ j < i, ∃ other, s.propagationKeys[j]? = some other ∧
          Text.asciiLower other = Text.asciiLower key) ∧ p = .duplicatePropagationKey i key) := by
  have hsame (i : Nat) (key : String) :
      (s.propagationKeys.take i).any (Text.sameAscii key) = true ↔
        ∃ j < i, ∃ other, s.propagationKeys[j]? = some other ∧
          Text.asciiLower other = Text.asciiLower key := by
    simp only [List.any_eq_true, mem_take_iff, Text.sameAscii_iff]
    grind
  simp only [propagationProblems, mem_entryProblems, List.mem_append, mem_when, hsame,
    Bool.not_eq_true']

theorem mem_prefixProblems : p ∈ s.prefixProblems ↔
    s.testPrefix = some "" ∧ p = .emptyTestPrefix ∨
      ∃ i, s.wrapperPrefixes[i]? = some "" ∧ p = .emptyWrapper i := by
  simp [prefixProblems, mem_entryProblems]

theorem mem_patternProblems : p ∈ s.patternProblems ↔
    ∃ i source fault, s.patterns[i]? = some source ∧ Pattern.parse source = .error fault ∧
      p = .invalidPattern i source fault := by
  rw [patternProblems, mem_entryProblems]
  refine exists_congr fun i => exists_congr fun source => ?_
  split <;> simp_all

/-! ### Order -/

theorem between_markerKeyProblems (s : MarkerSettings) : Between 0 1 s.markerKeyProblems where
  grows := by decide
  ordered := by
    unfold markerKeyProblems
    split <;> simp
  within p hp := by
    rw [mem_markerKeyProblems] at hp
    rcases hp with ⟨-, rfl⟩ | ⟨-, -, rfl⟩ <;> exact within_of_field rfl

theorem between_traceIdKeyProblems (s : MarkerSettings) : Between 1 2 s.traceIdKeyProblems where
  grows := by decide
  ordered := by
    unfold traceIdKeyProblems
    split <;> simp
  within p hp := by
    rw [mem_traceIdKeyProblems] at hp
    rcases hp with ⟨-, rfl⟩ | ⟨-, -, rfl⟩ <;> exact within_of_field rfl

theorem between_truthyProblems (s : MarkerSettings) : Between 2 3 s.truthyProblems := by
  have hentries : Between 2 3 (entryProblems
      (fun i _ value => Problem.when (Text.isBlank value) (.blankTruthyValue i)) 0 []
      s.truthyValues) :=
    between_entryProblems (fun _ _ _ _ => place_of_mem_when) (by simp) s.truthyValues
  unfold truthyProblems
  -- a list without entries has no problem at one
  cases htruthy : s.truthyValues with
  | nil =>
    refine ⟨by decide, by simp [entryProblems], fun p hp => ?_⟩
    obtain rfl : p = .noTruthyValues := by simpa [entryProblems] using hp
    exact within_of_field rfl
  | cons value rest => simpa [Problem.when, htruthy] using hentries

theorem between_propagationProblems (s : MarkerSettings) : Between 3 4 s.propagationProblems := by
  refine between_entryProblems ?_ ?_ s.propagationKeys
  · intro i before key p hp
    simp only [List.mem_append, mem_when] at hp
    rcases hp with ⟨-, rfl⟩ | ⟨-, rfl⟩ <;> exact ⟨rfl, rfl⟩
  · intro i before key
    rw [List.pairwise_append]
    refine ⟨pairwise_when .., pairwise_when .., fun p hp q hq => ?_⟩
    obtain ⟨-, rfl⟩ := mem_when.1 hp
    obtain ⟨-, rfl⟩ := mem_when.1 hq
    exact .inr ⟨rfl, .inr ⟨rfl, Nat.zero_lt_one⟩⟩

theorem between_prefixProblems (s : MarkerSettings) : Between 4 6 s.prefixProblems := by
  have htest : Between 4 5 (Problem.when (s.testPrefix == some "") .emptyTestPrefix) :=
    ⟨by decide, by simp, fun _ hp => within_of_field (place_of_mem_when hp).1⟩
  exact htest.append
    (between_entryProblems (fun _ _ _ _ => place_of_mem_when) (by simp) s.wrapperPrefixes)

theorem between_patternProblems (s : MarkerSettings) : Between 6 7 s.patternProblems := by
  refine between_entryProblems ?_ ?_ s.patterns
  · intro i before source p hp
    split at hp
    · cases hp
    · obtain rfl := List.mem_singleton.1 hp
      exact ⟨rfl, rfl⟩
  · intro i before source
    split <;> simp

end MarkerSettings

theorem RoutingSettings.mem_problems {s : RoutingSettings} {p : Problem} : p ∈ s.problems ↔
    ∃ i resource, s.whitelist[i]? = some resource ∧
      (Text.isBlank resource = true ∧ p = .blankWhitelistEntry i ∨
        Text.isBlank resource = false ∧ (∃ j < i, s.whitelist[j]? = some resource) ∧
          p = .duplicateWhitelistEntry i resource) := by
  rw [problems, mem_entryProblems]
  refine exists_congr fun i => exists_congr fun resource => and_congr_right fun _ => ?_
  split <;> simp_all [mem_take_iff]

theorem LoggingSettings.mem_problems {s : LoggingSettings} {p : Problem} : p ∈ s.problems ↔
    ∃ fault, LogFilter.parse s.level = .error fault ∧ p = .invalidLevel s.level fault := by
  unfold problems
  split <;> simp_all

theorem RoutingSettings.between_problems (s : RoutingSettings) : Between 7 8 s.problems := by
  refine between_entryProblems ?_ ?_ s.whitelist
  · intro i before resource p hp
    split at hp
    · obtain rfl := List.mem_singleton.1 hp
      exact ⟨rfl, rfl⟩
    · exact place_of_mem_when hp
  · intro i before resource
    split <;> simp

theorem LoggingSettings.parse_of_problems {s : LoggingSettings} (h : s.problems = []) :
    ∃ f, LogFilter.parse s.level = .ok f := by
  unfold problems at h
  split at h
  next f hf => exact ⟨f, hf⟩
  next => cases h

theorem LoggingSettings.between_problems (s : LoggingSettings) : Between 8 9 s.problems := by
  unfold problems
  split
  · exact ⟨by decide, by simp, by simp⟩
  · exact ⟨by decide, by simp, List.forall_mem_singleton.2 (within_of_field rfl)⟩

namespace Settings

theorem mem_problems {s : Settings} {p : Problem} : p ∈ s.problems ↔ s.Has p := by
  simp only [problems, List.mem_append, MarkerSettings.mem_markerKeyProblems,
    MarkerSettings.mem_traceIdKeyProblems, MarkerSettings.mem_truthyProblems,
    MarkerSettings.mem_propagationProblems, MarkerSettings.mem_prefixProblems,
    MarkerSettings.mem_patternProblems, RoutingSettings.mem_problems,
    LoggingSettings.mem_problems]
  cases p <;> simp [Has]

theorem between_problems (s : Settings) : Between 0 9 s.problems :=
  s.marker.between_markerKeyProblems
    |>.append s.marker.between_traceIdKeyProblems
    |>.append s.marker.between_truthyProblems
    |>.append s.marker.between_propagationProblems
    |>.append s.marker.between_prefixProblems
    |>.append s.marker.between_patternProblems
    |>.append s.routing.between_problems
    |>.append s.logging.between_problems

/-- All problems of settings, in order. -/
structure Lists (s : Settings) (ps : List Problem) : Prop where
  complete : ∀ p, p ∈ ps ↔ s.Has p
  ordered : ps.Pairwise Precedes

theorem problems_eq_iff {s : Settings} {ps : List Problem} : s.problems = ps ↔ s.Lists ps := by
  constructor
  · rintro rfl
    exact ⟨fun _ => mem_problems, s.between_problems.ordered⟩
  · intro h
    refine s.between_problems.ordered.eq_of_mem_iff h.ordered fun p => ?_
    rw [mem_problems, h.complete]

theorem validate_eq_error {s : Settings} {ps : List Problem} :
    s.validate = .error ps ↔ ps ≠ [] ∧ s.problems = ps := by
  unfold validate
  cases s.problems with
  | nil =>
    refine ⟨nofun, ?_⟩
    rintro ⟨hne, rfl⟩
    exact absurd rfl hne
  | cons p rest =>
    rw [Except.error.injEq, iff_and_self]
    rintro rfl
    exact List.cons_ne_nil p rest

/-! ## The report -/

/-- One problem in a report of several. -/
def item (tell : Problem → String) (p : Problem × Nat) : String :=
  "  " ++ toString p.2 ++ ". " ++ tell p.1 ++ "\n"

theorem report_several (tell : Problem → String) {ps : List Problem} (h : 1 < ps.length) :
    report tell ps =
      "Found " ++ toString ps.length ++ " validation errors:\n" ++ numbered tell 1 ps := by
  match ps with
  | _ :: _ :: _ => rfl

theorem numbered_eq (tell : Problem → String) (first : Nat) (ps : List Problem) :
    numbered tell first ps = String.join ((ps.zipIdx first).map (item tell)) := by
  induction ps generalizing first with
  | nil => rfl
  | cons p rest ih => simp [numbered, ih, item, List.zipIdx_cons, String.append_assoc]

/-! ## What accepts settings that pass -/

theorem service_of_rules {s : Settings} {r : Rules} (h : Rules.ofSettings s.marker = .ok r)
    (name : String) (w : Scenario.World) :
    ((Scenario.RouterCommand.makeService name (.settings (.ok s))).run w).1 = .ok .ok := by
  rw [Scenario.RouterCommand.makeService, Scenario.Act.liftM_ok, pure_bind, h]
  rfl

theorem logger_of_filter {s : LoggingSettings} {f : LogFilter} (h : LogFilter.parse s.level = .ok f)
    (setting : Option String) : ∃ l, (LoggerKind.configured s).install setting none = .ok l := by
  have hown : (LoggerKind.configured s).ownFilter = .ok f := by
    rw [LoggerKind.ownFilter, h]
  unfold LoggerKind.install LoggerKind.filter
  cases LoggerKind.settingFilter? setting with
  | some chosen => exact ⟨_, rfl⟩
  | none =>
    dsimp only
    rw [hown]
    exact ⟨_, rfl⟩

/-- Faults in most fields, two of them at one propagation key. -/
def faulty : Settings where
  marker := {
    markerKey := "x-load", traceIdKey := "X-Load", truthyValues := ["yes", " "]
    propagationKeys := ["a b", "A B"], testPrefix := some "", wrapperPrefixes := ["", "%"]
    patterns := ["("] }
  routing := { whitelist := ["geo", " ", "geo", "Geo"] }
  logging := { level := "a=[" }

/-- Keys that travel, names that are alike and filters, none of them at fault. -/
def faultless : Settings where
  marker := { propagationKeys := ["tenant", "x-shadow-test"], patterns := ["^(load|test)-"] }
  routing := { whitelist := ["geo", "Geo"] }
  logging := { level := "warn,shadow=debug" }

end Settings

end ShadowTraffic
