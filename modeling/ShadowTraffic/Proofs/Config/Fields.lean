import Mathlib.Tactic.Choose
import ShadowTraffic.Config.Decoding

/-! # Settings one by one

Each setting has its place in a section and each section its place in the document. Settings are
read from a document exactly when its sections are tables or lists and each setting can be read
from what is found in its place, and each is then read from there alone.
-/

namespace ShadowTraffic

inductive SettingsSection where
  | marker
  | routing
  | scope
  | logging
deriving DecidableEq

namespace SettingsSection

def place : SettingsSection → Nat
  | marker => 0
  | routing => 1
  | scope => 2
  | logging => 3

def name : SettingsSection → String
  | marker => "marker"
  | routing => "routing"
  | scope => "scope"
  | logging => "logging"

end SettingsSection

inductive Setting where
  | markerKey
  | traceIdKey
  | truthyValues
  | propagationKeys
  | testPrefix
  | wrapperPrefixes
  | patterns
  | enabled
  | flagFallback
  | whitelist
  | defaultPolicy
  | level
  | json
  | includeSpans
deriving DecidableEq

/-- The value of a setting. -/
inductive SettingValue where
  | text (s : String)
  | optionalText (s : Option String)
  | texts (items : List String)
  | flag (b : Bool)
  | policy (p : Policy)
deriving DecidableEq

namespace Setting

def home : Setting → SettingsSection
  | markerKey | traceIdKey | truthyValues | propagationKeys | testPrefix | wrapperPrefixes
  | patterns => .marker
  | enabled | flagFallback | whitelist => .routing
  | defaultPolicy => .scope
  | level | json | includeSpans => .logging

/-- The place in a section that is given as a list. -/
def place : Setting → Nat
  | markerKey | enabled | defaultPolicy | level => 0
  | traceIdKey | flagFallback | json => 1
  | truthyValues | whitelist | includeSpans => 2
  | propagationKeys => 3
  | testPrefix => 4
  | wrapperPrefixes => 5
  | patterns => 6

def name : Setting → String
  | markerKey => "marker_key"
  | traceIdKey => "trace_id_key"
  | truthyValues => "truthy_values"
  | propagationKeys => "propagation_keys"
  | testPrefix => "test_prefix"
  | wrapperPrefixes => "wrapper_prefixes"
  | patterns => "patterns"
  | enabled => "enabled"
  | flagFallback => "flag_fallback"
  | whitelist => "whitelist"
  | defaultPolicy => "default_policy"
  | level => "level"
  | json => "json"
  | includeSpans => "include_spans"

def get (s : Settings) : Setting → SettingValue
  | markerKey => .text s.marker.markerKey
  | traceIdKey => .text s.marker.traceIdKey
  | truthyValues => .texts s.marker.truthyValues
  | propagationKeys => .texts s.marker.propagationKeys
  | testPrefix => .optionalText s.marker.testPrefix
  | wrapperPrefixes => .texts s.marker.wrapperPrefixes
  | patterns => .texts s.marker.patterns
  | enabled => .flag s.routing.enabled
  | flagFallback => .flag s.routing.flagFallback
  | whitelist => .texts s.routing.whitelist
  | defaultPolicy => .policy s.scope.defaultPolicy
  | level => .text s.logging.level
  | json => .flag s.logging.json
  | includeSpans => .flag s.logging.includeSpans

/-- How a document is read as the value of a setting. -/
def read (d : Decoding) : Setting → Document → Option SettingValue
  | markerKey | traceIdKey | level => fun doc => (d.text? doc).map .text
  | truthyValues | propagationKeys | wrapperPrefixes | patterns | whitelist =>
    fun doc => (d.texts? doc).map .texts
  | testPrefix => fun doc => (d.optionalText? doc).map .optionalText
  | enabled | flagFallback | json | includeSpans => fun doc => (d.flag? doc).map .flag
  | defaultPolicy => fun doc => (d.policy? doc).map .policy

end Setting

namespace SettingsSection

/-- The settings of a section, in the order of their places. -/
def settings : SettingsSection → List Setting
  | marker => [.markerKey, .traceIdKey, .truthyValues, .propagationKeys, .testPrefix,
      .wrapperPrefixes, .patterns]
  | routing => [.enabled, .flagFallback, .whitelist]
  | scope => [.defaultPolicy]
  | logging => [.level, .json, .includeSpans]

theorem mem_settings {f : Setting} {sec : SettingsSection} : f ∈ sec.settings ↔ f.home = sec := by
  constructor
  · revert f
    cases sec <;> decide
  · rintro rfl
    cases f <;> decide

/-- Settings with those of one section, and defaults otherwise. -/
def only (s : Settings) : SettingsSection → Settings
  | marker => { marker := s.marker }
  | routing => { routing := s.routing }
  | scope => { scope := s.scope }
  | logging => { logging := s.logging }

theorem get_only {s : Settings} {f : Setting} {sec : SettingsSection} (h : f ∈ sec.settings) :
    f.get (sec.only s) = f.get s := by
  obtain rfl := mem_settings.1 h
  cases f <;> rfl

/-- A section of a document; one that is missing is empty. -/
def part (doc : Document) (sec : SettingsSection) : Document :=
  (Decoding.member? doc sec.place sec.name).getD (.table [])

/-- A section is a table, or a list that is not too long for it. -/
def fits (d : Decoding) (doc : Document) (sec : SettingsSection) : Bool :=
  d.isSection sec.settings.length (sec.part doc)

end SettingsSection

namespace Setting

/-- What a section has in the place of a setting. -/
def found (part : Document) (f : Setting) : Option Document :=
  Decoding.member? part f.place f.name

/-- The value that a section gives a setting, its default where there is nothing in its place. -/
def value? (d : Decoding) (part : Document) (f : Setting) : Option SettingValue :=
  Decoding.orDefault (f.read d) (f.get {}) (f.found part)

end Setting

namespace Decoding

variable {d : Decoding} {doc part : Document}

theorem orDefault_map {α β : Type} (read : Document → Option α) (default : α) (f : α → β)
    (value : Option Document) :
    orDefault (fun doc => (read doc).map f) (f default) value =
      (orDefault read default value).map f := by
  cases value <;> rfl

/-- A missing section is read like an empty one. -/
theorem orDefault_section {α : Type} {read : Document → Option α} {default : α}
    (h : read (.table []) = some default) (value : Option Document) :
    orDefault read default value = read (value.getD (.table [])) := by
  cases value with
  | none => exact h.symm
  | some value => rfl

/-! ## Sections -/

theorem marker?_eq_some {m : MarkerSettings} : d.marker? part = some m ↔
    d.isSection 7 part = true ∧
      ∀ f ∈ SettingsSection.marker.settings,
        f.value? d part = some (f.get { marker := m }) := by
  obtain ⟨k₀, k₁, k₂, k₃, k₄, k₅, k₆⟩ := m
  simp only [SettingsSection.settings, List.forall_mem_cons, Setting.value?, Setting.read,
    Setting.get, orDefault_map, Option.map_eq_some_iff, SettingValue.text.injEq,
    SettingValue.texts.injEq, SettingValue.optionalText.injEq, exists_eq_right,
    List.not_mem_nil, false_implies, implies_true, and_true]
  unfold marker?
  split
  next hsection =>
    simp only [hsection, Option.pure_def, Option.bind_eq_bind,
      Option.bind_eq_some_iff, true_and, Option.some.injEq, MarkerSettings.mk.injEq]
    constructor
    · rintro ⟨_, h₀, _, h₁, _, h₂, _, h₃, _, h₄, _, h₅, _, h₆, rfl, rfl, rfl, rfl, rfl, rfl, rfl⟩
      exact ⟨h₀, h₁, h₂, h₃, h₄, h₅, h₆⟩
    · rintro ⟨h₀, h₁, h₂, h₃, h₄, h₅, h₆⟩
      exact ⟨_, h₀, _, h₁, _, h₂, _, h₃, _, h₄, _, h₅, _, h₆, rfl, rfl, rfl, rfl, rfl, rfl, rfl⟩
  next hsection => simp [hsection]

theorem routing?_eq_some {m : RoutingSettings} : d.routing? part = some m ↔
    d.isSection 3 part = true ∧
      ∀ f ∈ SettingsSection.routing.settings,
        f.value? d part = some (f.get { routing := m }) := by
  obtain ⟨k₀, k₁, k₂⟩ := m
  simp only [SettingsSection.settings, List.forall_mem_cons, Setting.value?, Setting.read,
    Setting.get, orDefault_map, Option.map_eq_some_iff, SettingValue.flag.injEq,
    SettingValue.texts.injEq, exists_eq_right, List.not_mem_nil, false_implies, implies_true,
    and_true]
  unfold routing?
  split
  next hsection =>
    simp only [hsection, Option.pure_def, Option.bind_eq_bind,
      Option.bind_eq_some_iff, true_and, Option.some.injEq, RoutingSettings.mk.injEq]
    constructor
    · rintro ⟨_, h₀, _, h₁, _, h₂, rfl, rfl, rfl⟩
      exact ⟨h₀, h₁, h₂⟩
    · rintro ⟨h₀, h₁, h₂⟩
      exact ⟨_, h₀, _, h₁, _, h₂, rfl, rfl, rfl⟩
  next hsection => simp [hsection]

theorem scope?_eq_some {m : ScopeSettings} : d.scope? part = some m ↔
    d.isSection 1 part = true ∧
      ∀ f ∈ SettingsSection.scope.settings,
        f.value? d part = some (f.get { scope := m }) := by
  obtain ⟨k₀⟩ := m
  simp only [SettingsSection.settings, List.forall_mem_cons, Setting.value?, Setting.read,
    Setting.get, orDefault_map, Option.map_eq_some_iff, SettingValue.policy.injEq,
    exists_eq_right, List.not_mem_nil, false_implies, implies_true, and_true]
  unfold scope?
  split
  next hsection =>
    simp only [hsection, Option.pure_def, Option.bind_eq_bind,
      Option.bind_eq_some_iff, true_and, Option.some.injEq, ScopeSettings.mk.injEq]
    constructor
    · rintro ⟨_, h₀, rfl⟩
      exact h₀
    · intro h₀
      exact ⟨_, h₀, rfl⟩
  next hsection => simp [hsection]

theorem logging?_eq_some {m : LoggingSettings} : d.logging? part = some m ↔
    d.isSection 3 part = true ∧
      ∀ f ∈ SettingsSection.logging.settings,
        f.value? d part = some (f.get { logging := m }) := by
  obtain ⟨k₀, k₁, k₂⟩ := m
  simp only [SettingsSection.settings, List.forall_mem_cons, Setting.value?, Setting.read,
    Setting.get, orDefault_map, Option.map_eq_some_iff, SettingValue.flag.injEq,
    SettingValue.text.injEq, exists_eq_right, List.not_mem_nil, false_implies, implies_true,
    and_true]
  unfold logging?
  split
  next hsection =>
    simp only [hsection, Option.pure_def, Option.bind_eq_bind,
      Option.bind_eq_some_iff, true_and, Option.some.injEq, LoggingSettings.mk.injEq]
    constructor
    · rintro ⟨_, h₀, _, h₁, _, h₂, rfl, rfl, rfl⟩
      exact ⟨h₀, h₁, h₂⟩
    · rintro ⟨h₀, h₁, h₂⟩
      exact ⟨_, h₀, _, h₁, _, h₂, rfl, rfl, rfl⟩
  next hsection => simp [hsection]

/-! ## All settings -/

/-- The settings of a section are those that its part of a document gives. -/
def Reads (d : Decoding) (doc : Document) (s : Settings) (sec : SettingsSection) : Prop :=
  sec.fits d doc = true ∧ ∀ f ∈ sec.settings, f.value? d (sec.part doc) = some (f.get s)

variable {s : Settings}

theorem reads_iff {α : Type} (sec : SettingsSection) (read : Document → Option α) {default a : α}
    (hempty : read (.table []) = some default)
    (h : ∀ {part}, read part = some a ↔ d.isSection sec.settings.length part = true ∧
      ∀ f ∈ sec.settings, f.value? d part = some (f.get (sec.only s))) :
    d.Reads doc s sec ↔ orDefault read default (member? doc sec.place sec.name) = some a := by
  rw [orDefault_section hempty, h]
  refine and_congr Iff.rfl (forall₂_congr fun f hf => ?_)
  rw [SettingsSection.get_only hf]
  rfl

/-- Settings are read section by section. -/
theorem settings?_eq_some_iff_reads : d.settings? doc = some s ↔
    d.isSection 4 doc = true ∧ ∀ sec, d.Reads doc s sec := by
  have hall : (∀ sec, d.Reads doc s sec) ↔ d.Reads doc s .marker ∧ d.Reads doc s .routing ∧
      d.Reads doc s .scope ∧ d.Reads doc s .logging := by
    constructor
    · intro h
      exact ⟨h _, h _, h _, h _⟩
    · rintro ⟨hmarker, hrouting, hscope, hlogging⟩ sec
      cases sec <;> assumption
  rw [hall, reads_iff .marker d.marker? rfl marker?_eq_some,
    reads_iff .routing d.routing? rfl routing?_eq_some,
    reads_iff .scope d.scope? rfl scope?_eq_some,
    reads_iff .logging d.logging? rfl logging?_eq_some]
  obtain ⟨marker, routing, scope, logging⟩ := s
  unfold settings?
  split
  next hsection =>
    simp only [hsection, Option.pure_def, Option.bind_eq_bind, Option.bind_eq_some_iff, true_and,
      Option.some.injEq, Settings.mk.injEq]
    constructor
    · rintro ⟨_, h₀, _, h₁, _, h₂, _, h₃, rfl, rfl, rfl, rfl⟩
      exact ⟨h₀, h₁, h₂, h₃⟩
    · rintro ⟨h₀, h₁, h₂, h₃⟩
      exact ⟨_, h₀, _, h₁, _, h₂, _, h₃, rfl, rfl, rfl, rfl⟩
  next hsection => simp [hsection]

/-- Each setting is read from its own place. -/
theorem settings?_eq_some : d.settings? doc = some s ↔
    d.isSection 4 doc = true ∧ (∀ sec : SettingsSection, sec.fits d doc = true) ∧
      ∀ f : Setting, f.value? d (f.home.part doc) = some (f.get s) := by
  rw [settings?_eq_some_iff_reads]
  refine and_congr_right fun _ => ?_
  constructor
  · intro h
    exact ⟨fun sec => (h sec).1, fun f => (h f.home).2 f (SettingsSection.mem_settings.2 rfl)⟩
  · rintro ⟨hfits, hvalues⟩ sec
    refine ⟨hfits sec, fun f hf => ?_⟩
    rw [← SettingsSection.mem_settings.1 hf]
    exact hvalues f

/-- A value that is read for a setting is one that settings can have. -/
theorem exists_get {f : Setting} {v : SettingValue} (h : f.value? d part = some v) :
    ∃ s : Settings, f.get s = v := by
  cases f
  all_goals
    obtain ⟨t, -, rfl⟩ := Option.map_eq_some_iff.mp ((orDefault_map _ _ _ _).symm.trans h)
  case markerKey => exact ⟨{ marker := { markerKey := t } }, rfl⟩
  case traceIdKey => exact ⟨{ marker := { traceIdKey := t } }, rfl⟩
  case truthyValues => exact ⟨{ marker := { truthyValues := t } }, rfl⟩
  case propagationKeys => exact ⟨{ marker := { propagationKeys := t } }, rfl⟩
  case testPrefix => exact ⟨{ marker := { testPrefix := t } }, rfl⟩
  case wrapperPrefixes => exact ⟨{ marker := { wrapperPrefixes := t } }, rfl⟩
  case patterns => exact ⟨{ marker := { patterns := t } }, rfl⟩
  case enabled => exact ⟨{ routing := { enabled := t } }, rfl⟩
  case flagFallback => exact ⟨{ routing := { flagFallback := t } }, rfl⟩
  case whitelist => exact ⟨{ routing := { whitelist := t } }, rfl⟩
  case defaultPolicy => exact ⟨{ scope := { defaultPolicy := t } }, rfl⟩
  case level => exact ⟨{ logging := { level := t } }, rfl⟩
  case json => exact ⟨{ logging := { json := t } }, rfl⟩
  case includeSpans => exact ⟨{ logging := { includeSpans := t } }, rfl⟩

/-- Where each setting can be read, settings can be read. -/
theorem exists_settings? (hdoc : d.isSection 4 doc = true)
    (hfits : ∀ sec : SettingsSection, sec.fits d doc = true)
    (hvalues : ∀ f : Setting, ∃ v, f.value? d (f.home.part doc) = some v) :
    ∃ s, d.settings? doc = some s := by
  have hgets : ∀ f : Setting, ∃ s : Settings, f.value? d (f.home.part doc) = some (f.get s) := by
    intro f
    obtain ⟨v, hv⟩ := hvalues f
    obtain ⟨s, rfl⟩ := exists_get hv
    exact ⟨s, hv⟩
  choose s hs using hgets
  refine ⟨{
    marker := {
      markerKey := (s .markerKey).marker.markerKey
      traceIdKey := (s .traceIdKey).marker.traceIdKey
      truthyValues := (s .truthyValues).marker.truthyValues
      propagationKeys := (s .propagationKeys).marker.propagationKeys
      testPrefix := (s .testPrefix).marker.testPrefix
      wrapperPrefixes := (s .wrapperPrefixes).marker.wrapperPrefixes
      patterns := (s .patterns).marker.patterns }
    routing := {
      enabled := (s .enabled).routing.enabled
      flagFallback := (s .flagFallback).routing.flagFallback
      whitelist := (s .whitelist).routing.whitelist }
    scope := { defaultPolicy := (s .defaultPolicy).scope.defaultPolicy }
    logging := {
      level := (s .level).logging.level
      json := (s .json).logging.json
      includeSpans := (s .includeSpans).logging.includeSpans } },
    settings?_eq_some.2 ⟨hdoc, hfits, fun f => ?_⟩⟩
  cases f <;> exact hs _

end Decoding

end ShadowTraffic
