import ShadowTraffic.Proofs.Traffic.Rules

/-! # Contexts over a carrier

A context is put into a carrier entry by entry and taken from one key by key. A map of texts takes
everything, so what arrives over a fresh one is the part of the context under the propagation keys,
and it is judged like the whole exactly when the explicit keys among the detectors travel.
-/

namespace ShadowTraffic

attribute [ext] TrafficContext

namespace TrafficContext

@[simp] theorem get?_insert (t : TrafficContext) (key other value : String) :
    (t.insert key value).get? other = if other = key then some value else t.get? other :=
  Dictionary.get?_insert _ _ _ _

theorem ext_get? {t u : TrafficContext} (h : ∀ key, t.get? key = u.get? key) :
    t.entries = u.entries :=
  Dictionary.ext_get? h

/-- An injection into carriers of one kind goes on as each of its steps does. -/
theorem carrier_inject {γ : Type} {wrap : γ → Carrier} {put : γ → String × String → γ}
    (h : ∀ (i : Injection) c e, i.carrier = wrap c → (i.add e.1 e.2).carrier = wrap (put c e))
    (t : TrafficContext) (c : γ) :
    (t.inject (wrap c)).carrier = wrap (t.entries.entries.foldl put c) := by
  suffices hfold : ∀ (entries : List (String × String)) (i : Injection) c, i.carrier = wrap c →
      (entries.foldl (fun i e => i.add e.1 e.2) i).carrier = wrap (entries.foldl put c) from
    hfold _ _ c rfl
  intro entries
  induction entries with
  | nil =>
    intro i c hi
    exact hi
  | cons e rest ih =>
    intro i c hi
    exact ih _ _ (h i c e hi)

theorem get?_inject_map (t : TrafficContext) (d : Dictionary String) (key : String) :
    (t.inject (.map d)).carrier.get? key = (t.get? key).or (d.get? key) := by
  -- a map takes every entry
  have hput (i : Injection) (d : Dictionary String) (e : String × String)
      (hi : i.carrier = .map d) : (i.add e.1 e.2).carrier = .map (d.insert e.1 e.2) := by
    simp only [Injection.add, hi, Carrier.set]
  rw [carrier_inject hput, Carrier.get?, Dictionary.get?_foldl_insert,
    Dictionary.findSome?_entries]
  rfl

end TrafficContext

namespace Rules

variable {r : Rules} {t : TrafficContext}

/-- An adopted context has the carrier's values under the propagation keys, and nothing else. -/
theorem get?_adopt (r : Rules) (c : Carrier) (key : String) :
    (r.adopt c).get? key = if r.Travels key then c.get? key else none := by
  let settles (k : String) : Option String := if key = k then c.get? key else none
  calc (r.adopt c).get? key
      = (r.propagationKeys.keys.reverse.findSome? settles).or none := by
        refine read_foldl (fun t : TrafficContext => t.get? key) (fun t k => ?_)
          r.propagationKeys.keys {}
        by_cases h : key = k
        · subst h
          cases hvalue : c.get? key <;> simp [settles, hvalue]
        · cases hvalue : c.get? k <;> simp [settles, h]
    _ = if r.Travels key then c.get? key else none := by
        simp only [Option.or_none, settles, findSome?_key, List.mem_reverse, Travels,
          Dictionary.contains_iff]

theorem marked_adopt (r : Rules) (c : Carrier) : (r.adopt c).marked = r.isMarked (r.adopt c) :=
  congrArg Detection.marked (detect_congr none fun _ _ _ => rfl)

/-- What arrives of a context over an empty carrier. -/
def hop (r : Rules) (empty : Carrier) (t : TrafficContext) : TrafficContext :=
  r.adopt (t.inject empty).carrier

theorem get?_hop_map (r : Rules) (t : TrafficContext) (key : String) :
    (r.hop (.map .empty) t).get? key =
      if r.Travels key then t.get? key else none := by
  rw [hop, get?_adopt, TrafficContext.get?_inject_map, Dictionary.get?_empty, Option.or_none]

theorem marked_hop (r : Rules) (empty : Carrier) (t : TrafficContext) :
    (r.hop empty t).marked = r.isMarked (r.hop empty t) :=
  marked_adopt r _

/-! ## Round trips -/

/-- After a hop over a map a context is judged as before, by the same kind of detector, and the
flag says whether it is marked. -/
structure RoundTrips (r : Rules) (t : TrafficContext) (resource : Option String) : Prop where
  detection : r.detect (r.hop (.map .empty) t) resource = r.detect t resource
  flag : (r.hop (.map .empty) t).marked = r.isMarked t

theorem roundTrips_of_travels (h : ∀ key truthy, .explicitKey key truthy ∈ r.detectors →
      (t.get? key).isSome = true → r.Travels key) (resource : Option String) :
    r.RoundTrips t resource := by
  have hsame (resource : Option String) :
      r.detect (r.hop (.map .empty) t) resource = r.detect t resource := by
    refine detect_congr resource fun key truthy hd => ?_
    rw [get?_hop_map]
    split
    · rfl
    next hstays =>
      cases hkey : t.get? key with
      | none => rfl
      | some value => exact absurd (h key truthy hd (by simp [hkey])) hstays
  exact ⟨hsame resource, by rw [marked_hop, isMarked, hsame, isMarked]⟩

/-- An explicit key that does not travel is lost, and nobody else decides on the key alone. -/
theorem travels_of_roundTrips (h : ∀ t, r.RoundTrips t none) {key : String}
    {truthy : List String} (hd : .explicitKey key truthy ∈ r.detectors) : r.Travels key := by
  refine Classical.byContradiction fun hstays => ?_
  -- the context that holds the key alone: what arrives of it is empty
  let t : TrafficContext := ({} : TrafficContext).insert key ""
  have hnothing (other : String) : (r.hop (.map .empty) t).get? other = none := by
    rw [get?_hop_map]
    split
    next htravels =>
      have hne : other ≠ key := fun heq => hstays (heq ▸ htravels)
      simp only [t, TrafficContext.get?_insert, hne, if_false]
      rfl
    · rfl
  have hundecided : (r.detect (r.hop (.map .empty) t) none).decidedBy = none := by
    refine firstDecision_undecided.2 fun d _ => ?_
    cases d with
    | explicitKey other truthy => rw [Detector.evaluate, hnothing, Option.map_none]
    | resourcePrefix start wrappers => rfl
    | pattern source expression => rfl
    | predicate recognises => rfl
  have hdecided := firstDecision_undecided.1 ((h t).detection ▸ hundecided) _ hd
  simp [Detector.evaluate, t] at hdecided

theorem From.roundTrips_extended {s : MarkerSettings} (h : From s r) {extensions : List Extension}
    (hadded : ∀ key truthy, .detector (.explicitKey key truthy) ∈ extensions →
      (t.get? key).isSome = true → (r.extended extensions).Travels key)
    (resource : Option String) : (r.extended extensions).RoundTrips t resource := by
  refine roundTrips_of_travels (fun key truthy hd hkey => ?_) resource
  rcases travels_or_added h extensions hd with htravels | hmem
  · exact htravels
  · exact hadded key truthy hmem hkey

/-- A rule set that settings or the defaults began, whatever it was extended by, judges a context
after a hop as before if the explicit keys which were added, and which the context holds, travel.
It does so for all contexts exactly when every explicit key that was added travels. -/
theorem marker_round_trip {base : Rules}
    (hbase : base = Rules.default ∨ ∃ s, ofSettings s = .ok base) (extensions : List Extension) :
    (∀ t, (∀ key truthy, .detector (.explicitKey key truthy) ∈ extensions →
        (t.get? key).isSome = true → (base.extended extensions).Travels key) →
      ∀ resource, (base.extended extensions).RoundTrips t resource) ∧
    ((∀ t resource, (base.extended extensions).RoundTrips t resource) ↔
      ∀ key truthy, .detector (.explicitKey key truthy) ∈ extensions →
        (base.extended extensions).Travels key) := by
  have hfrom : ∃ s, From s base := by
    rcases hbase with rfl | ⟨s, hs⟩
    · exact ⟨{}, from_default⟩
    · exact ⟨s, from_of_ofSettings hs⟩
  obtain ⟨s, hs⟩ := hfrom
  refine ⟨fun t => hs.roundTrips_extended, fun h key truthy hmem => ?_, fun h t => ?_⟩
  · have hd := (mem_detectors_extended (r := base)).2 (.inr hmem)
    exact travels_of_roundTrips (fun t => h t none) hd
  · exact hs.roundTrips_extended fun key truthy hmem _ => h key truthy hmem

/-- A detector of an own key, which is made to travel. -/
def ownKeyCarried : List Extension :=
  [.detector (.explicitKey "x-load" ["1"]), .propagationKey "x-load"]

theorem marker_round_trip_carried :
    (Rules.default.extended ownKeyCarried).RoundTrips
        (({} : TrafficContext).insert "x-load" "1") (some "orders") ∧
      (Rules.default.extended ownKeyCarried).isMarked
        (({} : TrafficContext).insert "x-load" "1") = true := by
  refine ⟨(marker_round_trip (.inl rfl) ownKeyCarried).1 _ (fun key truthy hmem _ => ?_) _, rfl⟩
  have hkey : key = "x-load" := by
    simp only [ownKeyCarried, List.mem_cons, Extension.detector.injEq,
      Detector.explicitKey.injEq, reduceCtorEq, List.not_mem_nil, or_false] at hmem
    exact hmem.1
  rw [hkey]
  rfl

/-- The same detector without the propagation key: what was marked arrives unmarked, and nobody
decides. -/
theorem marker_lost :
    let r := Rules.default.extended [.detector (.explicitKey "x-load" ["1"])]
    let t := ({} : TrafficContext).insert "x-load" "1"
    r.detect t none = ⟨true, some .explicitKey⟩ ∧
      r.detect (r.hop (.map .empty) t) none = ⟨false, none⟩ ∧
      (r.hop (.map .empty) t).marked = false :=
  ⟨rfl, rfl, rfl⟩

end Rules

end ShadowTraffic
