import ShadowTraffic.Scenario.Contexts

/-! # What contexts go through

The frames of a scenario are numbered as they are made. A log tells, the latest first, which ones
were opened with a context or captured from another one, and which changes were made to the context
of each. It determines every context: a frame has the context it was made with, changed by what was
done to this very frame since then, in order. Nothing that was done to other frames matters.
-/

namespace ShadowTraffic.Scenario

/-- What happens to the contexts of frames. -/
inductive FrameEvent where
  /-- A frame is made with this context. -/
  | opened (traffic : TrafficContext)
  /-- A frame is made with a copy of another one's context, or with an empty one outside any. -/
  | captured (source : Option FrameId)
  | changed (frame : FrameId) (change : TrafficContext → TrafficContext)

/-- What has happened, the latest first. -/
abbrev FrameLog := List FrameEvent

namespace FrameLog

/-- How many frames were made. -/
def made : FrameLog → Nat
  | [] => 0
  | .changed .. :: log => made log
  | .opened _ :: log => made log + 1
  | .captured _ :: log => made log + 1

/-- The context of a frame. -/
def contextOf : FrameLog → FrameId → Option TrafficContext
  | [], _ => none
  | .opened traffic :: log, f => if f = made log then some traffic else contextOf log f
  | .captured source :: log, f =>
    if f = made log then some ((source.bind (contextOf log)).getD {}) else contextOf log f
  | .changed g change :: log, f =>
    if f = g then (contextOf log f).map change else contextOf log f

/-- What was done to a frame's context, the latest first. -/
def changesOf (log : FrameLog) (f : FrameId) : List (TrafficContext → TrafficContext) :=
  log.filterMap fun
    | .changed g change => if f = g then some change else none
    | _ => none

/-- Changes made one after the other, the latest first. -/
def changing (changes : List (TrafficContext → TrafficContext)) (t : TrafficContext) :
    TrafficContext :=
  changes.foldr (fun change t => change t) t

variable {log : FrameLog} {f : FrameId}

theorem made_append (later log : FrameLog) : made log ≤ made (later ++ log) := by
  induction later with
  | nil => exact Nat.le_refl _
  | cons e later ih =>
    cases e with
    | changed g change => exact ih
    | opened traffic =>
      show made log ≤ made (later ++ log) + 1
      omega
    | captured source =>
      show made log ≤ made (later ++ log) + 1
      omega

/-- Frames have contexts as soon as they are made. -/
theorem isSome_contextOf : (log.contextOf f).isSome ↔ f < log.made := by
  induction log with
  | nil => simp [contextOf, made]
  | cons e log ih =>
    cases e with
    | opened traffic =>
      by_cases hf : f = made log
      · simp [contextOf, made, hf]
      · rw [contextOf, if_neg hf, ih, made]
        exact ⟨Nat.lt_succ_of_lt, fun h => Nat.lt_of_le_of_ne (Nat.le_of_lt_succ h) hf⟩
    | captured source =>
      by_cases hf : f = made log
      · simp [contextOf, made, hf]
      · rw [contextOf, if_neg hf, ih, made]
        exact ⟨Nat.lt_succ_of_lt, fun h => Nat.lt_of_le_of_ne (Nat.le_of_lt_succ h) hf⟩
    | changed g change =>
      by_cases hf : f = g
      · subst hf
        simp only [contextOf, made, if_pos, Option.isSome_map, ih]
      · simp only [contextOf, made, if_neg hf, ih]

/-- The context of a frame that was made goes through the changes to this frame, and no others. -/
theorem contextOf_append (hf : f < made log) (later : FrameLog) :
    contextOf (later ++ log) f = (contextOf log f).map (changing (changesOf later f)) := by
  induction later with
  | nil =>
    have hid : changing (changesOf [] f) = id := rfl
    rw [hid, Option.map_id]
    rfl
  | cons e later ih =>
    have hne : f ≠ made (later ++ log) :=
      Nat.ne_of_lt (Nat.lt_of_lt_of_le hf (made_append later log))
    cases e with
    | opened traffic =>
      have hchanges : changesOf (.opened traffic :: later) f = changesOf later f := rfl
      rw [List.cons_append, contextOf, if_neg hne, ih, hchanges]
    | captured source =>
      have hchanges : changesOf (.captured source :: later) f = changesOf later f := rfl
      rw [List.cons_append, contextOf, if_neg hne, ih, hchanges]
    | changed g change =>
      rw [List.cons_append, contextOf]
      by_cases hg : f = g
      · have hchanges : changesOf (.changed g change :: later) f = change :: changesOf later f := by
          simp [changesOf, hg]
        rw [if_pos hg, ih, hchanges, Option.map_map]
        rfl
      · have hchanges : changesOf (.changed g change :: later) f = changesOf later f := by
          simp [changesOf, hg]
        rw [if_neg hg, ih, hchanges]

end FrameLog

/-! ## The frames of a world -/

/-- A log tells the frames of a world and their contexts. -/
structure FrameLog.Tells (log : FrameLog) (frames : Array CallFrame) : Prop where
  size : frames.size = log.made
  context : ∀ f, (frames[f]?).map (·.traffic) = log.contextOf f

namespace FrameLog.Tells

variable {log : FrameLog} {frames : Array CallFrame}

theorem empty : Tells [] #[] := ⟨rfl, fun _ => rfl⟩

theorem push_opened (h : log.Tells frames) (frame : CallFrame) :
    Tells (.opened frame.traffic :: log) (frames.push frame) where
  size := by rw [Array.size_push, h.size, made]
  context f := by
    rw [Array.getElem?_push, contextOf, ← h.size, ← h.context f]
    split <;> rfl

theorem push_captured (h : log.Tells frames) (source : Option FrameId) {frame : CallFrame}
    (hframe : frame.traffic = ((source.bind (frames[·]?)).map (·.traffic)).getD {}) :
    Tells (.captured source :: log) (frames.push frame) where
  size := by rw [Array.size_push, h.size, made]
  context f := by
    have hsource : source.bind log.contextOf = (source.bind (frames[·]?)).map (·.traffic) := by
      cases source with
      | none => rfl
      | some g => exact (h.context g).symm
    rw [Array.getElem?_push, contextOf, ← h.size, ← h.context f, hsource, ← hframe]
    split <;> rfl

theorem modify (h : log.Tells frames) (g : FrameId) (change : TrafficContext → TrafficContext) :
    Tells (.changed g change :: log)
      (frames.modify g fun frame => { frame with traffic := change frame.traffic }) where
  size := by rw [Array.size_modify, h.size, made]
  context f := by
    rw [Array.getElem?_modify, contextOf, ← h.context f]
    by_cases hf : g = f
    · rw [if_pos hf, if_pos hf.symm, Option.map_map, Option.map_map]
      rfl
    · rw [if_neg hf, if_neg (Ne.symm hf)]

end FrameLog.Tells

end ShadowTraffic.Scenario
