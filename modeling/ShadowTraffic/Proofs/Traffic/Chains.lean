import Mathlib.Logic.Function.Iterate
import ShadowTraffic.Proofs.Traffic.Headers

/-! # Chains of services

What a service adopts from the headers of its caller it writes into fresh headers for the next one.
A context that was adopted holds only texts that headers show, under keys that are names, and the
same text under all travelling keys that are one name, whatever the headers held. So it arrives as
it is, and every member of the chain has the context of the first.
-/

namespace ShadowTraffic

namespace Headers

theorem isShown_of_isVisibleByte {b : UInt8} (h : isVisibleByte b = true) :
    isShown (Char.ofNat b.toNat) = true := by
  have hb := isVisibleByte_iff.1 h
  have hvalid : b.toNat.isValidChar := .inl (by omega)
  have hback : (Char.ofNat b.toNat).toNat = b.toNat := by
    rw [Char.ofNat, dif_pos hvalid]
    rfl
  rw [isShown_iff, hback]
  exact hb

/-- What is read from a header can be written into one. -/
theorem isShown_of_textOfValue? {v : HeaderValue} {s : String} (h : textOfValue? v = some s) :
    s.toList.all isShown = true := by
  unfold textOfValue? at h
  split at h
  next hvisible =>
    cases h
    rw [String.toList_ofList, List.all_map, List.all_eq_true]
    intro b hb
    exact isShown_of_isVisibleByte (List.all_eq_true.1 hvisible b hb)
  next => cases h

end Headers

open Headers

namespace Rules

variable (r : Rules) (h : Headers)

theorem get?_adopt_headers (key : String) : (r.adopt (.headers h)).get? key =
    if r.Travels key then (h.first? key).bind textOfValue? else none :=
  get?_adopt r (.headers h) key

variable {r h} in
/-- An adopted entry travels, and was read from the headers. -/
theorem adopted_iff {key value : String} : (r.adopt (.headers h)).get? key = some value ↔
    r.Travels key ∧ (h.first? key).bind textOfValue? = some value := by
  rw [get?_adopt_headers]
  by_cases hkey : r.Travels key
  · simp [hkey]
  · simp [hkey]

theorem suits_adopt : r.Suits (r.adopt (.headers h)) := by
  intro key value hvalue
  obtain ⟨htravels, hread⟩ := adopted_iff.1 hvalue
  obtain ⟨v, -, htext⟩ := Option.bind_eq_some_iff.1 hread
  exact ⟨htravels, isShown_of_textOfValue? htext⟩

theorem isName_of_adopted {key value : String}
    (hvalue : (r.adopt (.headers h)).get? key = some value) : isName key = true := by
  obtain ⟨-, hread⟩ := adopted_iff.1 hvalue
  obtain ⟨v, hfirst, -⟩ := Option.bind_eq_some_iff.1 hread
  unfold first? at hfirst
  split at hfirst
  next hname => exact hname
  next => cases hfirst

theorem hop_adopt : r.hop (.headers {}) (r.adopt (.headers h)) = r.adopt (.headers h) := by
  have hentries : (r.hop (.headers {}) (r.adopt (.headers h))).entries =
      (r.adopt (.headers h)).entries := by
    refine (entries_hop_iff_of_names (r.suits_adopt h) fun _ _ => r.isName_of_adopted h).2 ?_
    -- keys that are one name read the same header
    intro key value hvalue other hother hsame
    obtain ⟨-, hread⟩ := adopted_iff.1 hvalue
    rw [adopted_iff, first?_congr hsame]
    exact ⟨hother, hread⟩
  have hmarked : (r.hop (.headers {}) (r.adopt (.headers h))).marked =
      (r.adopt (.headers h)).marked := by
    rw [marked_hop, marked_adopt, isMarked, isMarked]
    refine congrArg Detection.marked (detect_congr none fun key _ _ => ?_)
    rw [TrafficContext.get?, hentries, TrafficContext.get?]
  exact TrafficContext.ext hentries hmarked

/-- Whatever headers a chain of services begins with, after any number of hops the context is that
of its first member: the entries that travel and that the headers show, and the flag. -/
theorem chain_agrees (hops : Nat) :
    (r.hop (.headers {}))^[hops] (r.adopt (.headers h)) = r.adopt (.headers h) ∧
      ∀ key, ((r.hop (.headers {}))^[hops] (r.adopt (.headers h))).get? key =
        if r.Travels key then (h.first? key).bind textOfValue? else none := by
  have hsame : (r.hop (.headers {}))^[hops] (r.adopt (.headers h)) = r.adopt (.headers h) :=
    Function.iterate_fixed (r.hop_adopt h) hops
  exact ⟨hsame, fun key => by rw [hsame, get?_adopt_headers]⟩

end Rules

end ShadowTraffic
