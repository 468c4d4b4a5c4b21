import ShadowTraffic.Proofs.Traffic.Rules

/-! # Which detector decides

The rule is told for detectors in the order they were added, without a word on how they are kept:
the first explicit key that the context holds decides both ways; if it holds none, a call is marked
when its resource is named and some detector recognises the name, and the kind of least rank among
those is reported. Rule sets keep their detectors in order of rank, those of one rank in the order
they were added, and ask one after the other. That comes to the same.
-/

namespace ShadowTraffic

/-! ## Names and detectors -/

namespace Text

theorem startsWith_iff {s start : String} :
    startsWith s start = true ↔ ∃ rest, s = start ++ rest := by
  rw [startsWith, List.isPrefixOf_iff_prefix]
  constructor
  · rintro ⟨cs, hcs⟩
    refine ⟨String.ofList cs, String.toList_inj.1 ?_⟩
    rw [String.toList_append, String.toList_ofList, hcs]
  · rintro ⟨rest, rfl⟩
    exact ⟨rest.toList, (String.toList_append).symm⟩

theorem rest?_eq_some {s start rest : String} :
    rest? s start = some rest ↔ s = start ++ rest := by
  constructor
  · intro h
    unfold rest? at h
    split at h
    next hstart =>
      obtain ⟨later, rfl⟩ := startsWith_iff.1 hstart
      simpa using h
    next => cases h
  · rintro rfl
    have hstart : startsWith (start ++ rest) start = true := startsWith_iff.2 ⟨rest, rfl⟩
    simp [rest?, hstart]

end Text

theorem DetectorKind.rank_injective {j k : DetectorKind} (h : j.rank = k.rank) : j = k := by
  cases j <;> cases k <;> first | rfl | cases h

namespace Detector

/-- Detectors that recognise a name. -/
inductive Recognises (name : String) : Detector → Prop
  | direct {start : String} {wrappers : List String} {rest : String} (h : name = start ++ rest) :
      Recognises name (.resourcePrefix start wrappers)
  | wrapped {start : String} {wrappers : List String} {wrapper rest : String}
      (listed : wrapper ∈ wrappers) (h : name = wrapper ++ (start ++ rest)) :
      Recognises name (.resourcePrefix start wrappers)
  | pattern {source : String} {expression : Pattern} (h : expression.found name = true) :
      Recognises name (.pattern source expression)
  | predicate {test : String → Bool} (h : test name = true) : Recognises name (.predicate test)

theorem hasPrefix_iff {start : String} {wrappers : List String} {name : String} :
    hasPrefix start wrappers name = true ↔
      (∃ rest, name = start ++ rest) ∨
        ∃ wrapper ∈ wrappers, ∃ rest, name = wrapper ++ (start ++ rest) := by
  simp only [hasPrefix, Bool.or_eq_true, Text.startsWith_iff, List.any_eq_true,
    Option.any_eq_true, Text.rest?_eq_some]
  refine or_congr_right (exists_congr fun wrapper => and_congr_right fun _ => ?_)
  constructor
  · rintro ⟨_, hname, rest, rfl⟩
    exact ⟨rest, hname⟩
  · rintro ⟨rest, hname⟩
    exact ⟨_, hname, rest, rfl⟩

theorem recognises_iff {d : Detector} {name : String} :
    d.recognises name = true ↔ d.Recognises name := by
  cases d with
  | explicitKey key truthy => exact iff_of_false nofun nofun
  | resourcePrefix start wrappers =>
    rw [recognises, hasPrefix_iff]
    constructor
    · rintro (⟨rest, h⟩ | ⟨wrapper, listed, rest, h⟩)
      · exact .direct h
      · exact .wrapped listed h
    · rintro (⟨h⟩ | ⟨listed, h⟩)
      · exact .inl ⟨_, h⟩
      · exact .inr ⟨_, listed, _, h⟩
  | pattern source expression => exact ⟨.pattern, fun | .pattern h => h⟩
  | predicate test => exact ⟨.predicate, fun | .predicate h => h⟩

/-- Whether it is an explicit key that a context holds. -/
def isHeld (t : TrafficContext) : Detector → Bool
  | explicitKey key _ => (t.get? key).isSome
  | _ => false

def isExplicit (d : Detector) : Bool :=
  d.kind == .explicitKey

variable {d : Detector} {t : TrafficContext} {resource : Option String}

theorem isExplicit_iff : d.isExplicit = true ↔ d.rank = 0 := by
  cases d <;> simp [isExplicit, rank, kind, DetectorKind.rank]

theorem isExplicit_of_isHeld (h : d.isHeld t = true) : d.isExplicit = true := by
  cases d with
  | explicitKey key truthy => rfl
  | _ => cases h

/-- An explicit key decides exactly when it is held. -/
theorem evaluate_explicit (h : d.isExplicit = true) :
    (d.evaluate t resource).isSome = d.isHeld t := by
  cases d with
  | explicitKey key truthy => rw [evaluate, isHeld, Option.isSome_map]
  | _ => cases h

/-- Any other detector can only mark, and does when it recognises the name. -/
theorem evaluate_named (h : d.isExplicit = false) {marked : Bool} :
    d.evaluate t resource = some marked ↔
      marked = true ∧ ∃ name, resource = some name ∧ d.Recognises name := by
  have hevaluate :
      d.evaluate t resource = if resource.any d.recognises then some true else none := by
    cases d with
    | explicitKey key truthy => cases h
    | _ => rfl
  have hany : resource.any d.recognises = true ↔
      ∃ name, resource = some name ∧ d.Recognises name := by
    simp [Option.any_eq_true, recognises_iff]
  rw [hevaluate, ← hany]
  by_cases hrecognised : resource.any d.recognises = true
  · simp [hrecognised, eq_comm]
  · simp [hrecognised]

end Detector

/-! ## The rule -/

/-- What detectors in the order they were added come to, for a context and perhaps a name. -/
inductive Decides (added : List Detector) (t : TrafficContext) (resource : Option String) :
    Detection → Prop
  /-- The first explicit key that the context holds decides both ways. -/
  | keyed {key : String} {truthy : List String} {value : String}
      (first : added.find? (·.isHeld t) = some (.explicitKey key truthy))
      (held : t.get? key = some value) :
      Decides added t resource ⟨Detector.isTruthy truthy value, some .explicitKey⟩
  /-- Among those that recognise the name, one of least rank reports its kind. -/
  | named (unkeyed : added.find? (·.isHeld t) = none) {name : String}
      (given : resource = some name) {d : Detector} (mem : d ∈ added)
      (recognises : d.Recognises name)
      (least : ∀ e ∈ added, e.Recognises name → d.rank ≤ e.rank) :
      Decides added t resource ⟨true, some d.kind⟩
  | undecided (unkeyed : added.find? (·.isHeld t) = none)
      (unrecognised : ∀ name, resource = some name → ∀ d ∈ added, ¬ d.Recognises name) :
      Decides added t resource ⟨false, none⟩

namespace Decides

variable {added : List Detector} {t : TrafficContext} {resource : Option String}
  {D D' : Detection} {d : Detector}

theorem unique (h : Decides added t resource D) (h' : Decides added t resource D') : D = D' := by
  cases h with
  | keyed first held =>
    cases h' with
    | keyed first' held' =>
      rw [first] at first'
      cases first'
      rw [held] at held'
      cases held'
      rfl
    | named unkeyed => rw [first] at unkeyed; cases unkeyed
    | undecided unkeyed => rw [first] at unkeyed; cases unkeyed
  | @named unkeyed name given d mem recognises least =>
    cases h' with
    | keyed first' => rw [first'] at unkeyed; cases unkeyed
    | @named _ name' given' d' mem' recognises' least' =>
      rw [given] at given'
      cases given'
      have hrank : d.rank = d'.rank :=
        Nat.le_antisymm (least d' mem' recognises') (least' d mem recognises)
      rw [DetectorKind.rank_injective hrank]
    | undecided _ unrecognised => exact absurd recognises (unrecognised name given d mem)
  | undecided unkeyed unrecognised =>
    cases h' with
    | keyed first' => rw [first'] at unkeyed; cases unkeyed
    | @named _ name' given' d' mem' recognises' =>
      exact absurd recognises' (unrecognised name' given' d' mem')
    | undecided => rfl

theorem find?_isHeld (added : List Detector) (t : TrafficContext) :
    added.find? (·.isHeld t) = (added.filter (·.isExplicit)).find? (·.isHeld t) := by
  rw [List.find?_filter]
  congr 1
  funext d
  cases h : d.isHeld t with
  | false => simp
  | true => simp [Detector.isExplicit_of_isHeld h]

/-- It matters which detectors there are, and how the explicit keys among them are ordered. -/
theorem of_same {added' : List Detector} (hmem : ∀ d, d ∈ added ↔ d ∈ added')
    (hkeys : added.filter (·.isExplicit) = added'.filter (·.isExplicit))
    (h : Decides added t resource D) : Decides added' t resource D := by
  have hfind : added.find? (·.isHeld t) = added'.find? (·.isHeld t) := by
    rw [find?_isHeld, hkeys, ← find?_isHeld]
  cases h with
  | keyed first held => exact .keyed (hfind ▸ first) held
  | named unkeyed given mem recognises least =>
    exact .named (hfind ▸ unkeyed) given ((hmem _).1 mem) recognises
      fun e he => least e ((hmem e).2 he)
  | undecided unkeyed unrecognised =>
    exact .undecided (hfind ▸ unkeyed) fun name given d hd =>
      unrecognised name given d ((hmem d).2 hd)

/-- A detector in front that does not decide changes nothing. -/
theorem cons_of_undecided (hd : d.evaluate t resource = none) (h : Decides added t resource D) :
    Decides (d :: added) t resource D := by
  have hheld : d.isHeld t = false := by
    cases hexplicit : d.isExplicit with
    | true => rw [← Detector.evaluate_explicit hexplicit, hd]; rfl
    | false =>
      rw [← Bool.not_eq_true]
      intro hheld
      rw [Detector.isExplicit_of_isHeld hheld] at hexplicit
      cases hexplicit
  have hfind : (d :: added).find? (·.isHeld t) = added.find? (·.isHeld t) :=
    List.find?_cons_of_neg (by simp [hheld])
  have hunrecognised {name : String} (given : resource = some name) : ¬ d.Recognises name := by
    intro hrecognises
    cases d with
    | explicitKey key truthy => cases hrecognises
    | _ =>
      have hmarks := Detector.evaluate_named (t := t) rfl |>.2 ⟨rfl, name, given, hrecognises⟩
      rw [hd] at hmarks
      cases hmarks
  cases h with
  | keyed first held => exact .keyed (hfind.trans first) held
  | named unkeyed given mem recognises least =>
    refine .named (hfind.trans unkeyed) given (List.mem_cons_of_mem _ mem) recognises ?_
    intro e he hrecognises
    rcases List.mem_cons.1 he with rfl | he
    · exact absurd hrecognises (hunrecognised given)
    · exact least e he hrecognises
  | undecided unkeyed unrecognised =>
    refine .undecided (hfind.trans unkeyed) fun name given e he => ?_
    rcases List.mem_cons.1 he with rfl | he
    · exact hunrecognised given
    · exact unrecognised name given e he

/-- A detector that is not an explicit key takes no mark away. -/
theorem marked_of_widened (hd : d.isExplicit = false) (h : Decides added t resource D)
    (h' : Decides (added ++ [d]) t resource D') (hmarked : D.marked = true) :
    D'.marked = true := by
  have hheld : ¬ d.isHeld t = true := fun hheld => by
    rw [Detector.isExplicit_of_isHeld hheld] at hd
    cases hd
  have hfind : (added ++ [d]).find? (·.isHeld t) = added.find? (·.isHeld t) := by
    rw [List.find?_append, List.find?_cons_of_neg hheld, List.find?_nil, Option.or_none]
  cases h with
  | keyed first held => rwa [h'.unique (.keyed (hfind.trans first) held)]
  | undecided => cases hmarked
  | named unkeyed given mem recognises =>
    cases h' with
    | keyed first => rw [hfind, unkeyed] at first; cases first
    | named => rfl
    | undecided _ unrecognised =>
      exact absurd recognises (unrecognised _ given _ (List.mem_append_left _ mem))

end Decides

namespace Rules

variable {r base : Rules} {t : TrafficContext} {resource : Option String} {d e : Detector}
  {detectors added : List Detector}

/-- The first decision among detectors in order of rank is that of the rule. -/
theorem decides_firstDecision (h : detectors.Pairwise fun d e => d.rank ≤ e.rank) :
    Decides detectors t resource (firstDecision t resource detectors) := by
  induction detectors with
  | nil => exact .undecided rfl (by simp)
  | cons d rest ih =>
    obtain ⟨hfirst, hrest⟩ := List.pairwise_cons.1 h
    rw [firstDecision]
    cases hd : d.evaluate t resource with
    | none => exact (ih hrest).cons_of_undecided hd
    | some marked =>
      cases hexplicit : d.isExplicit with
      | true =>
        cases d with
        | explicitKey key truthy =>
          obtain ⟨value, hvalue, rfl⟩ := Option.map_eq_some_iff.1 hd
          exact .keyed (List.find?_cons_of_pos (by simp [Detector.isHeld, hvalue])) hvalue
        | _ => cases hexplicit
      | false =>
        obtain ⟨rfl, name, given, hrecognises⟩ := (Detector.evaluate_named hexplicit).1 hd
        -- behind a detector of another kind there are no explicit keys
        have hunkeyed : ∀ e ∈ d :: rest, ¬ e.isHeld t = true := by
          intro e he hheld
          have hzero : e.rank = 0 := Detector.isExplicit_iff.1 (Detector.isExplicit_of_isHeld hheld)
          have hle : d.rank ≤ e.rank := by
            rcases List.mem_cons.1 he with rfl | he
            · exact Nat.le_refl _
            · exact hfirst e he
          rw [hzero, Nat.le_zero, ← Detector.isExplicit_iff, hexplicit] at hle
          cases hle
        refine .named (List.find?_eq_none.2 hunkeyed) given List.mem_cons_self hrecognises ?_
        intro e he _
        rcases List.mem_cons.1 he with rfl | he
        · exact Nat.le_refl _
        · exact hfirst e he

/-! ## How detectors are kept -/

/-- Detectors in order of rank, those of one rank as they were added. -/
structure Ranked (added detectors : List Detector) : Prop where
  sorted : detectors.Pairwise fun d e => d.rank ≤ e.rank
  stable : ∀ rank, detectors.filter (·.rank == rank) = added.filter (·.rank == rank)

theorem Ranked.mem_iff (h : Ranked added detectors) : d ∈ detectors ↔ d ∈ added := by
  have hfilter (l : List Detector) : d ∈ l ↔ d ∈ l.filter (·.rank == d.rank) := by
    simp
  rw [hfilter, h.stable, ← hfilter]

theorem Ranked.explicit (h : Ranked added detectors) :
    detectors.filter (·.isExplicit) = added.filter (·.isExplicit) := by
  have hrank : Detector.isExplicit = fun d => d.rank == 0 := by
    funext d
    rw [Bool.eq_iff_iff, Detector.isExplicit_iff, beq_iff_eq]
  rw [hrank, h.stable]

theorem Ranked.decides (h : Ranked added detectors) :
    Decides added t resource (firstDecision t resource detectors) :=
  (decides_firstDecision h.sorted).of_same (fun _ => h.mem_iff) h.explicit

theorem sorted_place (h : detectors.Pairwise fun d e => d.rank ≤ e.rank) :
    (place d detectors).Pairwise fun d e => d.rank ≤ e.rank := by
  induction detectors with
  | nil => simp [place]
  | cons first rest ih =>
    obtain ⟨hfirst, hrest⟩ := List.pairwise_cons.1 h
    rw [place]
    split
    next hle =>
      refine List.pairwise_cons.2 ⟨fun e he => ?_, ih hrest⟩
      rcases mem_place.1 he with rfl | he
      · exact hle
      · exact hfirst e he
    next hgt =>
      refine List.pairwise_cons.2 ⟨fun e he => ?_, h⟩
      have hlt : d.rank ≤ first.rank := Nat.le_of_not_le hgt
      rcases List.mem_cons.1 he with rfl | he
      · exact hlt
      · exact Nat.le_trans hlt (hfirst e he)

theorem filter_place (h : detectors.Pairwise fun d e => d.rank ≤ e.rank) (rank : Nat) :
    (place d detectors).filter (·.rank == rank) =
      (detectors ++ [d]).filter (·.rank == rank) := by
  induction detectors with
  | nil => rfl
  | cons first rest ih =>
    obtain ⟨hfirst, hrest⟩ := List.pairwise_cons.1 h
    rw [place]
    split
    next hle => rw [List.cons_append, List.filter_cons, List.filter_cons, ih hrest]
    next hgt =>
      -- none of those behind has the rank of the new one
      have hnone : d.rank = rank → (first :: rest).filter (·.rank == rank) = [] := by
        rintro rfl
        refine List.filter_eq_nil_iff.2 fun e he => ?_
        have hle : first.rank ≤ e.rank := by
          rcases List.mem_cons.1 he with rfl | he
          · exact Nat.le_refl _
          · exact hfirst e he
        rw [beq_iff_eq]
        omega
      rw [List.filter_append, List.filter_cons]
      by_cases hrank : d.rank = rank
      · simp [hnone hrank, hrank]
      · simp [hrank]

theorem Ranked.place (h : Ranked added detectors) (d : Detector) :
    Ranked (added ++ [d]) (place d detectors) where
  sorted := sorted_place h.sorted
  stable rank := by rw [filter_place h.sorted, List.filter_append, h.stable, ← List.filter_append]

/-! ## Rule sets -/

/-- A rule set as settings make it, or the default one. -/
def Unextended (base : Rules) : Prop :=
  base = default ∨ ∃ s, ofSettings s = .ok base

/-- The detector that an extension adds. -/
def Extension.detector? : Extension → Option Detector
  | .detector d => some d
  | .propagationKey _ => none

/-- The detectors of an extended rule set, in the order they were added. -/
def addedBy (base : Rules) (extensions : List Extension) : List Detector :=
  base.detectors ++ extensions.filterMap Extension.detector?

/-- Settings list the marker key first, then the reserved prefix, then the expressions. -/
theorem Unextended.detectors_eq (h : base.Unextended) : ∃ s patterns,
    base.detectors =
        .explicitKey base.markerKey s.truthyValues :: (prefixDetectors s ++ patterns) ∧
      ∀ d ∈ patterns, d.kind = .pattern := by
  rcases h with rfl | ⟨s, hs⟩
  · exact ⟨{}, [], by simp [default], by simp⟩
  · unfold ofSettings at hs
    split at hs
    · cases hs
    · cases hpatterns : patternDetectors s.patterns with
      | error e =>
        rw [hpatterns] at hs
        cases hs
      | ok patterns =>
        rw [hpatterns] at hs
        cases hs
        exact ⟨s, patterns, rfl, kind_of_patternDetectors hpatterns⟩

theorem Unextended.ranked (h : base.Unextended) : Ranked base.detectors base.detectors where
  sorted := by
    obtain ⟨s, patterns, hdetectors, hpatterns⟩ := h.detectors_eq
    have hreserved : ∀ d ∈ prefixDetectors s, d.rank = 1 := fun d hd => by
      rw [Detector.rank, kind_of_prefixDetectors hd]
      rfl
    have hcompiled : ∀ d ∈ patterns, d.rank = 2 := fun d hd => by
      rw [Detector.rank, hpatterns d hd]
      rfl
    have halike {l : List Detector} {rank : Nat} (h : ∀ d ∈ l, d.rank = rank) :
        l.Pairwise fun d e => d.rank ≤ e.rank :=
      List.pairwise_of_forall_mem_list fun d hd e he => Nat.le_of_eq ((h d hd).trans (h e he).symm)
    rw [hdetectors, List.pairwise_cons, List.pairwise_append]
    refine ⟨fun _ _ => Nat.zero_le _, halike hreserved, halike hcompiled, fun d hd e he => ?_⟩
    rw [hreserved d hd, hcompiled e he]
    decide
  stable _ := rfl

theorem Ranked.extended (h : Ranked added r.detectors) (extensions : List Extension) :
    Ranked (added ++ extensions.filterMap Extension.detector?)
      (r.extended extensions).detectors := by
  induction extensions generalizing r added with
  | nil => simpa [Rules.extended] using h
  | cons x rest ih =>
    cases x with
    | detector d =>
      have hplaced : Ranked (added ++ [d]) (r.extend (.detector d)).detectors := h.place d
      have hrest := ih hplaced
      rwa [List.append_assoc] at hrest
    | propagationKey key => exact ih (r := r.extend (.propagationKey key)) h

theorem markerKey_extended (r : Rules) (extensions : List Extension) :
    (r.extended extensions).markerKey = r.markerKey := by
  induction extensions generalizing r with
  | nil => rfl
  | cons x rest ih =>
    have hx : (r.extend x).markerKey = r.markerKey := by cases x <;> rfl
    rw [← hx]
    exact ih (r.extend x)

/-- What decides in a rule set that was extended. -/
structure Precedence (base : Rules) (extensions : List Extension) : Prop where
  /-- Of the explicit keys the configured marker key is the first. -/
  markerKey : ∃ truthy later, base.addedBy extensions =
    .explicitKey (base.extended extensions).markerKey truthy :: later
  rule : ∀ t resource D, (base.extended extensions).detect t resource = D ↔
    Decides (base.addedBy extensions) t resource D
  /-- In another order, that of the explicit keys apart, the same detectors decide alike. -/
  reordered : ∀ other : Rules, other.Unextended → ∀ others,
    (other.addedBy others).Perm (base.addedBy extensions) →
    (other.addedBy others).filter (·.isExplicit) =
      (base.addedBy extensions).filter (·.isExplicit) →
    ∀ t resource, (other.extended others).detect t resource =
      (base.extended extensions).detect t resource
  /-- One more detector, other than an explicit key, takes no mark away. -/
  widened : ∀ d : Detector, d.kind ≠ .explicitKey → ∀ t resource,
    ((base.extended extensions).detect t resource).marked = true →
      (((base.extended extensions).withDetector d).detect t resource).marked = true

/-- However a rule set was made and extended, its detectors decide by the rule. -/
theorem decides_by_rank {base : Rules} (hbase : base.Unextended) (extensions : List Extension) :
    Precedence base extensions := by
  have hranked {base : Rules} (hbase : base.Unextended) (extensions : List Extension) :
      Ranked (base.addedBy extensions) (base.extended extensions).detectors :=
    hbase.ranked.extended extensions
  have hdecides {base : Rules} (hbase : base.Unextended) (extensions : List Extension)
      (t : TrafficContext) (resource : Option String) : Decides (base.addedBy extensions) t resource
        ((base.extended extensions).detect t resource) :=
    (hranked hbase extensions).decides
  refine ⟨?_, fun t resource D => ?_, fun other hother others hperm hkeys t resource => ?_,
    fun d hd t resource hmarked => ?_⟩
  · obtain ⟨s, patterns, hdetectors, -⟩ := hbase.detectors_eq
    rw [markerKey_extended, addedBy, hdetectors]
    exact ⟨_, _, rfl⟩
  · constructor
    · rintro rfl
      exact hdecides hbase extensions t resource
    · exact (hdecides hbase extensions t resource).unique
  · have hsame := (hdecides hother others t resource).of_same (fun _ => hperm.mem_iff) hkeys
    exact hsame.unique (hdecides hbase extensions t resource)
  · have hexplicit : d.isExplicit = false := by simpa [Detector.isExplicit] using hd
    have hwidened : Decides (base.addedBy extensions ++ [d]) t resource
        (((base.extended extensions).withDetector d).detect t resource) :=
      ((hranked hbase extensions).place d).decides
    exact (hdecides hbase extensions t resource).marked_of_widened hexplicit hwidened hmarked

/-- A convention for names and a further explicit key, in this order. -/
def conventions : List Extension :=
  [.detector (.predicate (· == "orders")), .detector (.explicitKey "x-load" ["1"])]

/-- The key that was added last keeps a call out of the test path which the convention would mark,
in either order of the two. -/
theorem decides_by_rank_conventions :
    Rules.default.Unextended ∧
      Decides (Rules.default.addedBy conventions) {} (some "orders") ⟨true, some .predicate⟩ ∧
      Decides (Rules.default.addedBy conventions) (({} : TrafficContext).insert "x-load" "0")
        (some "orders") ⟨false, some .explicitKey⟩ ∧
      ∀ t resource, (Rules.default.extended conventions.reverse).detect t resource =
        (Rules.default.extended conventions).detect t resource := by
  have hbase : Rules.default.Unextended := .inl rfl
  have hprecedence := decides_by_rank hbase conventions
  have hperm : (Rules.default.addedBy conventions.reverse).Perm
      (Rules.default.addedBy conventions) := (List.Perm.swap ..).append_left _
  exact ⟨hbase, (hprecedence.rule ..).1 rfl, (hprecedence.rule ..).1 rfl,
    hprecedence.reordered _ hbase _ hperm rfl⟩

end Rules

end ShadowTraffic
