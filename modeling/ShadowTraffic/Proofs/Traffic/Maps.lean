import ShadowTraffic.Proofs.Traffic.Precedence
import ShadowTraffic.Proofs.Traffic.Transport

/-! # Contexts in maps of texts

A map takes every entry of a context under its own key, in the place of what was there, and keeps
its other keys. What is adopted from it is the part under the propagation keys, and the flag is
derived from that part. So what was adopted once goes over a fresh map unchanged, and the trace id
of a root context arrives, for the configured key always travels.
-/

namespace ShadowTraffic

namespace Dictionary

variable {α : Type}

/-- The entries under the keys that are picked. -/
def restricted (d : Dictionary α) (picks : String → Bool) : Dictionary α where
  entries := d.entries.filter fun e => picks e.1
  ordered := List.Pairwise.filter _ d.ordered

theorem get?_restricted (d : Dictionary α) (picks : String → Bool) (key : String) :
    (d.restricted picks).get? key = if picks key = true then d.get? key else none := by
  apply Option.ext
  intro value
  have hmem : (d.restricted picks).get? key = some value ↔
      d.get? key = some value ∧ picks key = true := by
    rw [get?_eq_some, get?_eq_some]
    exact List.mem_filter
  rw [hmem]
  by_cases hpicks : picks key = true
  · simp [hpicks]
  · simp [hpicks]

end Dictionary

/-- A map takes all entries, one after the other. -/
theorem TrafficContext.inject_map (t : TrafficContext) (d : Dictionary String) :
    t.inject (.map d) =
      { carrier := .map (t.entries.entries.foldl (fun d e => d.insert e.1 e.2) d)
        written := t.entries.size } := by
  have hfold (entries : List (String × String)) (d : Dictionary String) (written : Nat) :
      entries.foldl (fun i e => i.add e.1 e.2) ({ carrier := .map d, written } : Injection) =
        { carrier := .map (entries.foldl (fun d e => d.insert e.1 e.2) d)
          written := written + entries.length } := by
    induction entries generalizing d written with
    | nil => rfl
    | cons e rest ih =>
      have hrest := ih (d.insert e.1 e.2) (written + 1)
      rw [Nat.add_assoc, Nat.add_comm 1] at hrest
      exact hrest
  have hall := hfold t.entries.entries d 0
  rw [Nat.zero_add] at hall
  exact hall

namespace Rules

variable {r : Rules}

/-- Whatever has the carrier's values under the propagation keys and nothing else is what is
adopted, once its flag is derived. -/
theorem adopt_eq_refresh {c : Carrier} {t : TrafficContext}
    (h : ∀ key, t.get? key = if r.Travels key then c.get? key else none) :
    r.adopt c = r.refresh t := by
  have hget (key : String) : (r.adopt c).get? key = t.get? key := by
    rw [get?_adopt, h]
  have hmarked : r.isMarked (r.adopt c) = r.isMarked t :=
    congrArg Detection.marked (detect_congr none fun key _ _ => hget key)
  apply TrafficContext.ext
  · exact TrafficContext.ext_get? hget
  · rw [marked_adopt, hmarked]
    rfl

/-- What was adopted once arrives as it is. -/
theorem hop_map_adopt (r : Rules) (c : Carrier) :
    r.hop (.map .empty) (r.adopt c) = r.adopt c := by
  have hget (key : String) : (r.adopt c).get? key = if r.Travels key then
      ((r.adopt c).inject (.map .empty)).carrier.get? key else none := by
    rw [TrafficContext.get?_inject_map, Dictionary.get?_empty, Option.or_none, get?_adopt]
    split
    · rfl
    · rfl
  have hhop : r.hop (.map .empty) (r.adopt c) = r.refresh (r.adopt c) := adopt_eq_refresh hget
  rw [hhop]
  apply TrafficContext.ext
  · rfl
  · exact (marked_adopt r c).symm

theorem traceIdKey_extended (r : Rules) (extensions : List Extension) :
    (r.extended extensions).traceIdKey = r.traceIdKey := by
  induction extensions generalizing r with
  | nil => rfl
  | cons x rest ih =>
    have hx : (r.extend x).traceIdKey = r.traceIdKey := by cases x <;> rfl
    rw [← hx]
    exact ih (r.extend x)

/-- The trace id key that a rule set began with always travels. -/
theorem Unextended.travels_traceIdKey {base : Rules} (h : base.Unextended)
    (extensions : List Extension) :
    (base.extended extensions).Travels (base.extended extensions).traceIdKey := by
  have hbase : base.Travels base.traceIdKey := by
    rcases h with rfl | ⟨s, hs⟩
    · rfl
    · have hfrom := from_of_ofSettings hs
      rw [hfrom.traceIdKey]
      exact hfrom.travels_iff.2 (.inr (.inr rfl))
  rw [traceIdKey_extended]
  exact travels_extended_iff.2 (.inl hbase)

/-- What becomes of a context that is written into a map of texts and of what is adopted there. -/
structure ExactOverMaps (r : Rules) : Prop where
  /-- Every entry is written, and no other key changes. -/
  written : ∀ (t : TrafficContext) (before : Dictionary String), ∃ after : Dictionary String,
    t.inject (.map before) =
      ({ carrier := .map after, written := t.entries.size, skipped := [] } : Injection) ∧
    ∀ key, after.get? key = (t.get? key).or (before.get? key)
  adopted : ∀ (t : TrafficContext) (before : Dictionary String) (key : String),
    (r.adopt (t.inject (.map before)).carrier).get? key =
      if r.Travels key then (t.get? key).or (before.get? key) else none
  flag : ∀ (t : TrafficContext) (before : Dictionary String),
    (r.adopt (t.inject (.map before)).carrier).marked =
      (r.detect (r.adopt (t.inject (.map before)).carrier) none).marked
  /-- Over a fresh map the part under the propagation keys arrives, with its own flag. -/
  fresh : ∀ t : TrafficContext, r.hop (.map .empty) t =
    r.refresh { entries := t.entries.restricted r.propagationKeys.contains }
  traceId : ∀ (id : String) (before : Dictionary String), r.traceId?
    (r.adopt ((TrafficContext.root r.traceIdKey id).inject (.map before)).carrier) = some id
  /-- What was adopted from any carrier goes over a fresh map unchanged. -/
  settled : ∀ c : Carrier, r.hop (.map .empty) (r.adopt c) = r.adopt c

/-- However a rule set was made and extended, contexts go over maps by its propagation keys. -/
theorem exact_over_maps {base : Rules} (hbase : base.Unextended) (extensions : List Extension) :
    (base.extended extensions).ExactOverMaps := by
  have hadopted (t : TrafficContext) (before : Dictionary String) (key : String) :
      ((base.extended extensions).adopt (t.inject (.map before)).carrier).get? key =
        if (base.extended extensions).Travels key then (t.get? key).or (before.get? key)
        else none := by
    rw [get?_adopt, TrafficContext.get?_inject_map]
  constructor
  case written =>
    intro t before
    refine ⟨_, t.inject_map before, ?_⟩
    intro key
    have hget := t.get?_inject_map before key
    rw [t.inject_map before] at hget
    exact hget
  case adopted => exact hadopted
  case flag =>
    intro t before
    exact marked_adopt _ _
  case fresh =>
    intro t
    apply adopt_eq_refresh
    intro key
    rw [TrafficContext.get?_inject_map, Dictionary.get?_empty, Option.or_none]
    exact t.entries.get?_restricted _ key
  case traceId =>
    intro id before
    have htravels := hbase.travels_traceIdKey extensions
    rw [traceId?, hadopted, if_pos htravels, TrafficContext.root, TrafficContext.get?_insert,
      if_pos rfl]
    rfl
  case settled => exact hop_map_adopt _

/-- A map in use: it holds another mark, a key that travels and one that does not. -/
def reused : Dictionary String :=
  Dictionary.ofList [("x-shadow-test", "false"), ("x-load", "1"), ("accept", "*")]

/-- The mark of the context takes the place of that in the map, the other travelling key is the
map's, and neither the map's own key nor the context's arrives. -/
theorem exact_over_maps_reused :
    let r := Rules.default.extended ownKeyCarried
    let t := (({} : TrafficContext).insert "x-shadow-test" "true").insert "host" "h"
    Rules.default.Unextended ∧ r.ExactOverMaps ∧
      (t.inject (.map reused)).written = 2 ∧
      r.adopt (t.inject (.map reused)).carrier =
        { entries := Dictionary.ofList [("x-load", "1"), ("x-shadow-test", "true")]
          marked := true } :=
  ⟨.inl rfl, exact_over_maps (.inl rfl) ownKeyCarried, rfl, by decide +kernel⟩

end Rules

end ShadowTraffic
