import ShadowTraffic.Proofs.Cli.Lines
import ShadowTraffic.Proofs.Routing.Judgment
import ShadowTraffic.Proofs.Traffic.Chains
import ShadowTraffic.Scenario.Routers

/-! # What an inspection foretells

An inspection judges a call without making it, and has its own order of switch and whitelist. What
it prints of a call is what a dispatcher of the same settings does with it: the verdict is that of
the dispatcher's detection, and its last line names the rejection or the whitelisting that a
dispatch comes to. Each line has its own first character and ends where it should, for no text that
was read from a header breaks a line; so nothing that a caller sends can stand for a verdict.
-/

namespace ShadowTraffic

namespace Cli

/-! ## What is adopted keeps to its line -/

theorem oneLine_description (kind : DetectorKind) : OneLine kind.description := by
  cases kind <;> simp [OneLine, DetectorKind.description]

theorem oneLine_of_isName {key : String} (h : Headers.isName key = true) : OneLine key := by
  intro hmem
  simp only [Headers.isName, Bool.and_eq_true] at h
  exact absurd (List.all_eq_true.1 h.2 _ hmem) (by decide)

theorem oneLine_of_isShown {value : String} (h : value.toList.all Headers.isShown = true) :
    OneLine value :=
  fun hmem => absurd (List.all_eq_true.1 h _ hmem) (by decide)

theorem oneLine_of_adopted {r : Rules} {h : Headers} {key value : String}
    (hvalue : (r.adopt (.headers h)).get? key = some value) : OneLine key ∧ OneLine value :=
  ⟨oneLine_of_isName (r.isName_of_adopted h hvalue),
    oneLine_of_isShown (r.suits_adopt h key value hvalue).2⟩

theorem set_headers {h : Headers} {key value : String} {carrier : Carrier}
    (hset : (Carrier.headers h).set key value = .ok carrier) : ∃ h', carrier = .headers h' := by
  rw [Carrier.set] at hset
  split at hset
  · split at hset
    next v _ => exact ⟨h.set key v, (Except.ok.inj hset).symm⟩
    next => cases hset
  · cases hset

/-- Headers stay headers when more are set. -/
theorem carry_headers {h : Headers} {headers : List (String × String)} {carrier : Carrier}
    (hcarry : carry (.headers h) headers = .ok carrier) : ∃ h', carrier = .headers h' := by
  induction headers generalizing h with
  | nil => exact ⟨h, (Except.ok.inj hcarry).symm⟩
  | cons e rest ih =>
    rw [carry] at hcarry
    split at hcarry
    next later hset =>
      obtain ⟨h', rfl⟩ := set_headers hset
      exact ih hcarry
    next => cases hcarry

/-! ## Verdict and forecast -/

theorem description_injective : Function.Injective DetectorKind.description := by
  intro kind other h
  cases kind <;> cases other <;> simp_all [DetectorKind.description]

/-- Neither word for a truth value begins like the other. -/
theorem inWords_append {b c : Bool} {rest other : String}
    (h : inWords b ++ rest = inWords c ++ other) : b = c ∧ rest = other := by
  cases b <;> cases c
  · exact ⟨rfl, (String.append_right_inj _).1 h⟩
  · exact absurd (congrArg (·.toList.head?) h) (by simp [inWords])
  · exact absurd (congrArg (·.toList.head?) h) (by simp [inWords])
  · exact ⟨rfl, (String.append_right_inj _).1 h⟩

theorem verdict_eq_decided {d : Detection} {marked : Bool} {kind : DetectorKind} :
    verdict d = "🧪 Test traffic: " ++ inWords marked ++ " (decided by " ++ kind.description ++
      ")" ↔ d = ⟨marked, some kind⟩ := by
  obtain ⟨_, decidedBy⟩ := d
  cases decidedBy with
  | none => cases marked <;> cases kind <;> simp [verdict, inWords, DetectorKind.description]
  | some other =>
    simp only [verdict, String.append_assoc, String.append_right_inj, Detection.mk.injEq,
      Option.some.injEq]
    constructor
    · intro h
      obtain ⟨rfl, hrest⟩ := inWords_append h
      rw [String.append_right_inj, String.append_left_inj] at hrest
      exact ⟨rfl, description_injective hrest⟩
    · rintro ⟨rfl, rfl⟩
      rfl

theorem verdict_eq_undecided {d : Detection} :
    verdict d = "🧪 Test traffic: false (no detector matched)" ↔ d.decidedBy = none := by
  obtain ⟨marked, decidedBy⟩ := d
  cases decidedBy with
  | none => simp [verdict]
  | some kind =>
    cases marked <;> cases kind <;> simp [verdict, inWords, DetectorKind.description]

theorem exists_verdict_eq (d : Detection) : ∃ rest,
    verdict d = "🧪 Test traffic: " ++ (inWords (d.decidedBy.isSome && d.marked) ++ rest) := by
  obtain ⟨marked, decidedBy⟩ := d
  cases decidedBy with
  | none => exact ⟨" (no detector matched)", rfl⟩
  | some kind =>
    exact ⟨" (decided by " ++ kind.description ++ ")", by simp [verdict, String.append_assoc]⟩

theorem verdict_begins_true {d : Detection} :
    (∃ rest, "🧪 Test traffic: true" ++ rest = verdict d) ↔
      (d.decidedBy.isSome && d.marked) = true := by
  have htrue : "🧪 Test traffic: true" = "🧪 Test traffic: " ++ inWords true := by decide
  obtain ⟨told, htold⟩ := exists_verdict_eq d
  rw [htold, htrue]
  constructor
  · rintro ⟨rest, h⟩
    rw [String.append_assoc, String.append_right_inj] at h
    exact (inWords_append h).1.symm
  · intro h
    exact ⟨told, by rw [h, String.append_assoc]⟩

section

variable {routing : RoutingSettings} {d : Detection} {resource : Option String} {line : String}

theorem eq_of_mem_forecast (h : line ∈ forecast routing d resource) :
    line = "⛔ Shadow routing is switched off; this call would be rejected" ∨
      line = "✅ Resource is whitelisted; this call would run on the business resource" := by
  unfold forecast at h
  split at h
  · cases h
  · split at h
    · exact .inl (List.mem_singleton.1 h)
    · split at h
      · exact .inr (List.mem_singleton.1 h)
      · cases h

theorem mem_forecast_rejected :
    "⛔ Shadow routing is switched off; this call would be rejected" ∈
      forecast routing d resource ↔ d.marked = true ∧ routing.enabled = false := by
  unfold forecast
  cases d.marked with
  | false => simp
  | true =>
    cases routing.enabled with
    | false => simp
    | true => cases resource.any routing.whitelist.contains <;> simp

theorem mem_forecast_whitelisted :
    "✅ Resource is whitelisted; this call would run on the business resource" ∈
      forecast routing d resource ↔ d.marked = true ∧ routing.enabled = true ∧
        ∃ name, resource = some name ∧ name ∈ routing.whitelist := by
  unfold forecast
  cases d.marked with
  | false => simp
  | true =>
    cases routing.enabled with
    | false => simp
    | true => cases resource <;> simp

/-! ## Signs of lines -/

/-- The first character of a line; lines of different kinds differ in it. -/
def sign? (line : String) : Option Char :=
  line.toList.head?

theorem sign?_append {s : String} {c : Char} (h : sign? s = some c) (t : String) :
    sign? (s ++ t) = some c := by
  rw [sign?, String.toList_append, List.head?_append, ← sign?, h, Option.some_or]

theorem sign?_verdict (d : Detection) : sign? (verdict d) = some '🧪' := by
  have hstart : sign? "🧪 Test traffic: " = some '🧪' := rfl
  unfold verdict
  split
  next kind _ => exact sign?_append (sign?_append (sign?_append (sign?_append hstart _) _) _) _
  next => rfl

theorem sign?_of_mem_forecast (h : line ∈ forecast routing d resource) :
    sign? line = some '⛔' ∨ sign? line = some '✅' := by
  rcases eq_of_mem_forecast h with rfl | rfl
  · exact .inl rfl
  · exact .inr rfl

end

/-! ## The lines of an inspection -/

section

variable {s : Settings} {rules : Rules} {headers : List (String × String)} {carrier : Carrier}
  {resource : Option String} {shown : List String} {line : String}

theorem inspection_ok (hrules : Rules.ofSettings s.marker = .ok rules)
    (hcarry : carry (.headers {}) headers = .ok carrier) (resource : Option String) :
    ∃ shown, inspection s resource headers = .ok shown := by
  simp [inspection, hrules, hcarry]

/-- The kinds of lines, in the order in which they are shown. -/
theorem mem_shown (hrules : Rules.ofSettings s.marker = .ok rules)
    (hcarry : carry (.headers {}) headers = .ok carrier)
    (hshown : inspection s resource headers = .ok shown) :
    line ∈ shown ↔
      line = "📨 Adopted " ++ toString (rules.adopt carrier).entries.size ++
        " propagation entries" ∨
      (∃ key value, (rules.adopt carrier).get? key = some value ∧
        line = "   • " ++ key ++ ": " ++ value) ∨
      line = verdict (rules.detect (rules.adopt carrier) resource) ∨
      (∃ id, rules.traceId? (rules.adopt carrier) = some id ∧ line = "🔗 Trace id: " ++ id) ∨
      line ∈ forecast s.routing (rules.detect (rules.adopt carrier) resource) resource := by
  simp only [inspection, hrules, hcarry, Except.ok.injEq] at hshown
  subst hshown
  simp only [List.mem_append, List.mem_map, List.mem_singleton, Option.mem_toList,
    Option.map_eq_some_iff, TrafficContext.get?, Dictionary.get?_eq_some, Prod.exists, or_assoc,
    eq_comm (a := line)]

theorem oneLine_verdict (d : Detection) : OneLine (verdict d) := by
  unfold verdict
  split
  next kind _ =>
    have hwords := (show OneLine "🧪 Test traffic: " by simp [OneLine]).append (oneLine_inWords d.marked)
    have hkind := (hwords.append (show OneLine " (decided by " by simp [OneLine])).append
      (oneLine_description kind)
    exact hkind.append (by simp [OneLine])
  next => simp [OneLine]

theorem oneLine_of_mem_forecast {routing : RoutingSettings} {d : Detection}
    (h : line ∈ forecast routing d resource) : OneLine line := by
  rcases eq_of_mem_forecast h with rfl | rfl <;> simp [OneLine]

/-- Whatever the headers hold, no line breaks. -/
theorem oneLine_of_shown (hrules : Rules.ofSettings s.marker = .ok rules)
    (hcarry : carry (.headers {}) headers = .ok carrier)
    (hshown : inspection s resource headers = .ok shown) (hline : line ∈ shown) :
    OneLine line := by
  obtain ⟨h, rfl⟩ := carry_headers hcarry
  rcases (mem_shown hrules hcarry hshown).1 hline with
    rfl | ⟨key, value, hvalue, rfl⟩ | rfl | ⟨id, hid, rfl⟩ | hforecast
  · exact ((show OneLine "📨 Adopted " by simp [OneLine]).append (oneLine_toString _)).append (by simp [OneLine])
  · obtain ⟨hkey, hvalue⟩ := oneLine_of_adopted hvalue
    exact (((show OneLine "   • " by simp [OneLine]).append hkey).append (by simp [OneLine])).append hvalue
  · exact oneLine_verdict _
  · exact (show OneLine "🔗 Trace id: " by simp [OneLine]).append (oneLine_of_adopted hid).2
  · exact oneLine_of_mem_forecast hforecast

/-! ## Which line tells what -/

theorem mem_shown_of_verdict_sign (hrules : Rules.ofSettings s.marker = .ok rules)
    (hcarry : carry (.headers {}) headers = .ok carrier)
    (hshown : inspection s resource headers = .ok shown) (hsign : sign? line = some '🧪') :
    line ∈ shown ↔ line = verdict (rules.detect (rules.adopt carrier) resource) := by
  rw [mem_shown hrules hcarry hshown]
  refine ⟨?_, fun h => .inr (.inr (.inl h))⟩
  -- every other kind of line has another sign
  rintro (rfl | ⟨key, value, -, rfl⟩ | h | ⟨id, -, rfl⟩ | hforecast)
  · simp [sign?] at hsign
  · simp [sign?] at hsign
  · exact h
  · simp [sign?] at hsign
  · rcases sign?_of_mem_forecast hforecast with hother | hother <;> simp [hother] at hsign

theorem mem_shown_of_forecast_sign (hrules : Rules.ofSettings s.marker = .ok rules)
    (hcarry : carry (.headers {}) headers = .ok carrier)
    (hshown : inspection s resource headers = .ok shown)
    (hsign : sign? line = some '⛔' ∨ sign? line = some '✅') :
    line ∈ shown ↔
      line ∈ forecast s.routing (rules.detect (rules.adopt carrier) resource) resource := by
  rw [mem_shown hrules hcarry hshown]
  refine ⟨?_, fun h => .inr (.inr (.inr (.inr h)))⟩
  rintro (rfl | ⟨key, value, -, rfl⟩ | rfl | ⟨id, -, rfl⟩ | hforecast)
  · simp [sign?] at hsign
  · simp [sign?] at hsign
  · simp [sign?_verdict] at hsign
  · simp [sign?] at hsign
  · exact hforecast

/-- All lines of an inspection can be told from what is printed. -/
theorem mem_printed (hrules : Rules.ofSettings s.marker = .ok rules)
    (hcarry : carry (.headers {}) headers = .ok carrier)
    (hshown : inspection s resource headers = .ok shown) {c : Char} (hsign : sign? line = some c) :
    line ∈ printed (lines shown) ↔ line ∈ shown := by
  rw [printed_lines fun _ => oneLine_of_shown hrules hcarry hshown, List.mem_append,
    List.mem_singleton, or_iff_left]
  rintro rfl
  cases hsign

end

/-! ## The printed lines and the dispatch -/

/-- What is said of a call on a resource, held against the detection and the dispatch of it. -/
structure Foretells {α ε : Type} (said : List String) (resource : Option String) (d : Detection)
    (x : Answered α ε × List Effect) : Prop where
  /-- Test traffic is what is not sent the way of ordinary traffic. -/
  marked : (∃ rest, "🧪 Test traffic: true" ++ rest ∈ said) ↔
    Dispatcher.routes x.2 ≠ [.business]
  rejected : "⛔ Shadow routing is switched off; this call would be rejected" ∈ said ↔
    x.1 = .error .switchedOff
  whitelisted :
    "✅ Resource is whitelisted; this call would run on the business resource" ∈ said ↔
      Dispatcher.routes x.2 = [.whitelisted]
  /-- The route of an answer is the one that is counted. -/
  answered : ∀ v, x.1 = .ok v → Dispatcher.routes x.2 = [v.route]
  decided : ∀ marked kind, "🧪 Test traffic: " ++ inWords marked ++ " (decided by " ++
    kind.description ++ ")" ∈ said ↔ d = ⟨marked, some kind⟩
  undecided : "🧪 Test traffic: false (no detector matched)" ∈ said ↔ d.decidedBy = none
  /-- The dispatcher reports a rejection with the detector that is named. -/
  reported : x.1 = .error .switchedOff → .noticed (.rejected resource d.decidedBy) ∈ x.2

/-- A detection without a detector is that of ordinary traffic. -/
theorem isSome_decidedBy_and_marked (rules : Rules) (t : TrafficContext)
    (resource : Option String) :
    ((rules.detect t resource).decidedBy.isSome && (rules.detect t resource).marked) =
      (rules.detect t resource).marked := by
  cases hdecided : (rules.detect t resource).decidedBy with
  | some kind => rfl
  | none =>
    have hnone := List.findSome?_eq_none_iff.2 (Rules.firstDecision_undecided.1 hdecided)
    rw [Rules.detect, Rules.firstDecision_marked, hnone]
    rfl

theorem whitelists_ofSettings {propagator : Nat} {routing : RoutingSettings}
    {resource : Option String} : (Dispatcher.ofSettings propagator routing).Whitelists resource ↔
      ∃ name, resource = some name ∧ name ∈ routing.whitelist := by
  simp only [Dispatcher.Whitelists, Dispatcher.isWhitelisted, Dispatcher.ofSettings,
    Rules.contains_keySet]

theorem foretells_dispatch {s : Settings} {rules : Rules} {headers : List (String × String)}
    {carrier : Carrier} {resource : Option String} {shown : List String}
    (hrules : Rules.ofSettings s.marker = .ok rules)
    (hcarry : carry (.headers {}) headers = .ok carrier)
    (hshown : inspection s resource headers = .ok shown) {σ α ε : Type}
    {p : Client (StateM σ) α ε} (hnone : p.substitute = none) (propagator : Nat)
    (span : Option SpanId) (before : σ) :
    Foretells (printed (lines shown)) resource (rules.detect (rules.adopt carrier) resource)
      (((Dispatcher.ofSettings propagator s.routing).dispatch rules (rules.adopt carrier)
        resource span p).run before).1 := by
  have hverdict {line : String} (hsign : sign? line = some '🧪') :
      line ∈ printed (lines shown) ↔ line = verdict (rules.detect (rules.adopt carrier) resource) :=
    (mem_printed hrules hcarry hshown hsign).trans
      (mem_shown_of_verdict_sign hrules hcarry hshown hsign)
  have hrejected := (mem_printed hrules hcarry hshown rfl).trans <|
    (mem_shown_of_forecast_sign hrules hcarry hshown (.inl rfl)).trans mem_forecast_rejected
  have hlisted := (mem_printed hrules hcarry hshown rfl).trans <|
    (mem_shown_of_forecast_sign hrules hcarry hshown (.inr rfl)).trans mem_forecast_whitelisted
  rw [Rules.detect_marked_iff] at hrejected hlisted
  have htells := Dispatcher.tells_dispatch (Dispatcher.ofSettings propagator s.routing) rules
    (rules.adopt carrier) resource span hnone before
  exact {
    marked := by
      refine (exists_congr fun rest => hverdict (sign?_append rfl rest)).trans ?_
      rw [verdict_begins_true, isSome_decidedBy_and_marked, Rules.detect_marked_iff]
      exact htells.business.symm
    rejected := hrejected.trans htells.rejected.symm
    whitelisted := by
      rw [hlisted, ← whitelists_ofSettings]
      exact htells.whitelisted.symm
    answered := htells.answered
    decided := fun marked kind =>
      (hverdict (sign?_append (sign?_append (sign?_append (sign?_append rfl _) _) _) _)).trans
        (eq_comm.trans verdict_eq_decided)
    undecided := (hverdict rfl).trans (eq_comm.trans verdict_eq_undecided)
    reported := fun hanswer =>
      have ⟨hmarks, hoff⟩ := htells.rejected.1 hanswer
      Dispatcher.rejection_mem_dispatch hmarks hoff before }

/-! ## A service of the same settings -/

/-- What there is after a service was made from settings. -/
def serviceMade (s : Settings) (name : String) (w : Scenario.World) : Scenario.World :=
  ((Scenario.RouterCommand.makeService name (.settings (.ok s))).run w).2

theorem serviceMade_parts {s : Settings} {rules : Rules}
    (hrules : Rules.ofSettings s.marker = .ok rules) (name : String) (w : Scenario.World) :
    ∃ service, (serviceMade s name w).services.get? name = some service ∧
      (serviceMade s name w).dispatcher service.dispatcher =
        .ofSettings w.propagators.size s.routing ∧
      (serviceMade s name w).rules
        ((serviceMade s name w).dispatcher service.dispatcher).propagator = rules := by
  rw [serviceMade, Scenario.RouterCommand.makeService, Scenario.Act.liftM_ok, pure_bind, hrules]
  -- what is made gets the next number of its kind
  refine ⟨⟨w.registries.size, w.dispatchers.size, s.scope.defaultPolicy⟩, ?_, ?_⟩
  · exact (Dictionary.get?_insert ..).trans (if_pos rfl)
  · have hdispatcher : (w.dispatchers.push (.ofSettings w.propagators.size s.routing))[
        w.dispatchers.size]?.getD default = .ofSettings w.propagators.size s.routing := by
      rw [Array.getElem?_push_size, Option.getD_some]
    refine ⟨hdispatcher, ?_⟩
    refine (congrArg (fun d : Dispatcher =>
      (w.propagators.push rules)[d.propagator]?.getD .default) hdispatcher).trans ?_
    exact congrArg (·.getD Rules.default) Array.getElem?_push_size

/-- What an inspection prints of a call is what becomes of it at a service made from the same
settings, where no substitute answers: whatever the headers hold, whatever mediators there are and
whatever the closure does. -/
theorem inspection_foretells {s : Settings} {rules : Rules} {headers : List (String × String)}
    {carrier : Carrier} (hrules : Rules.ofSettings s.marker = .ok rules)
    (hcarry : carry (.headers {}) headers = .ok carrier) (resource : Option String) :
    ∃ shown, inspection s resource headers = .ok shown ∧
      (∀ view env path, settingsOf view env path = .ok s →
        inspect view env path resource headers = ⟨lines shown, .success⟩) ∧
      ∀ (name : String) (w : Scenario.World), ∃ service,
        (serviceMade s name w).services.get? name = some service ∧
        let d := (serviceMade s name w).dispatcher service.dispatcher
        let r := (serviceMade s name w).rules d.propagator
        ∀ {σ α ε : Type} (p : Client (StateM σ) α ε), p.substitute = none →
          ∀ (span : Option SpanId) (before : σ),
            Foretells (printed (lines shown)) resource (r.detect (r.adopt carrier) resource)
              ((d.dispatch r (r.adopt carrier) resource span p).run before).1 := by
  obtain ⟨shown, hshown⟩ := inspection_ok hrules hcarry resource
  refine ⟨shown, hshown, fun view env path hs => by simp only [inspect, hs, hshown], ?_⟩
  intro name w
  obtain ⟨service, hservice, hdispatcher, hown⟩ := serviceMade_parts hrules name w
  refine ⟨service, hservice, ?_⟩
  dsimp only
  rw [hown, hdispatcher]
  exact fun p hnone span before => foretells_dispatch hrules hcarry hshown hnone _ span before

/-- Rules that nobody has set up are those of settings that nobody has set. -/
theorem ofSettings_default : Rules.ofSettings {} = .ok .default := by
  rfl

/-- A header that is given twice, the second time in other letters and with another value. -/
def givenTwice : List String :=
  ["x-shadow-test=no", " X-Shadow-Test = TRUE "]

theorem inspection_foretells_whitelisted :
    let s : Settings := { routing := { whitelist := ["geo"] } }
    let headers := [("x-shadow-test", "no"), ("X-Shadow-Test", "TRUE")]
    let carrier : Carrier := .headers (({} : Headers).set "x-shadow-test" "TRUE".toUTF8.toList)
    let client := { Dispatcher.telling with substitute := none }
    let run := ((Dispatcher.ofSettings 1 s.routing).dispatch .default
      (Rules.default.adopt carrier) (some "geo") none client).run []
    givenTwice.mapM Invocation.header? = some headers ∧
      Rules.ofSettings s.marker = .ok .default ∧
      carry (.headers {}) headers = .ok carrier ∧
      Dispatcher.routes run.1.2 = [.whitelisted] ∧ run.2 = ["x"] ∧
      ∃ shown, inspection s (some "geo") headers = .ok shown ∧
        "✅ Resource is whitelisted; this call would run on the business resource" ∈
          printed (lines shown) ∧
        "🧪 Test traffic: true (decided by ExplicitKey)" ∈ printed (lines shown) := by
  intro s headers carrier client run
  have hrules : Rules.ofSettings s.marker = .ok .default := ofSettings_default
  have hcarry : carry (.headers {}) headers = .ok carrier := by decide +kernel
  have hdetection : Rules.default.detect (Rules.default.adopt carrier) (some "geo") =
      ⟨true, some .explicitKey⟩ := by decide +kernel
  have hroutes : Dispatcher.routes run.1.2 = [.whitelisted] := by decide +kernel
  obtain ⟨shown, hshown, -, hforetells⟩ := inspection_foretells hrules hcarry (some "geo")
  obtain ⟨service, hservice, htold⟩ := hforetells "svc" {}
  obtain ⟨same, hsame, hdispatcher, hown⟩ := serviceMade_parts hrules "svc" {}
  cases Option.some.inj (hservice.symm.trans hsame)
  dsimp only at htold
  rw [hown, hdispatcher] at htold
  have hrun := htold client rfl none []
  exact ⟨by decide +kernel, hrules, hcarry, hroutes, by decide +kernel, shown, hshown,
    hrun.whitelisted.2 hroutes, (hrun.decided true .explicitKey).2 hdetection⟩

end Cli

end ShadowTraffic
