import ShadowTraffic.Proofs.Identity.Renaming
import ShadowTraffic.Telemetry.Effect

/-! # What can be read of effects

Of a notice a person reads its level, where it comes from, its text and its fields; of a span its
name and its fields; of a record what it adds to a span. Of an identity all that is its redacted
form.
-/

namespace ShadowTraffic

/-- What can be read of an effect. -/
inductive Shown where
  | event (level : Level) (target message : String) (fields : Fields)
  | span (id : SpanId) (name : String) (fields : Fields)
  | record (id : SpanId) (fields : Fields)
  | counted (c : Counter)
  | sampled
  | activeSet (n : Nat)

def Effect.shown : Effect → Shown
  | noticed n => .event n.level n.target n.message n.fields
  | opened id span => .span id span.name span.fields
  | recorded id record => .record id record.fields
  | counted c => .counted c
  | sampled => .sampled
  | activeSet n => .activeSet n

/-- What can be read of some effects, in order. -/
def shown (effects : List Effect) : List Shown :=
  effects.map Effect.shown

variable {ρ : TokenRenaming} {effects effects' : List Effect}

@[simp] theorem shown_cons (e : Effect) (effects : List Effect) :
    shown (e :: effects) = e.shown :: shown effects := rfl

@[simp] theorem shown_append (effects more : List Effect) :
    shown (effects ++ more) = shown effects ++ shown more :=
  List.map_append

/-- A notice about an identity says nothing of its token. -/
@[simp] theorem Notice.about_rename (i : Identity) : about (i.rename ρ) = about i := by
  rw [about, Identity.redacted_rename, about]

/-- Metrics count what can be read. -/
theorem Metrics.record_shown {e e' : Effect} (h : e.shown = e'.shown) (m : Metrics) :
    m.record e = m.record e' := by
  cases e with
  | noticed n => cases e' <;> simp [Effect.shown] at h <;> rfl
  | opened id span => cases e' <;> simp [Effect.shown] at h <;> rfl
  | recorded id r => cases e' <;> simp [Effect.shown] at h <;> rfl
  | counted c => cases e' <;> simp [Effect.shown] at h; rw [h]
  | sampled => cases e' <;> simp [Effect.shown] at h; rfl
  | activeSet n => cases e' <;> simp [Effect.shown] at h; rw [h]

theorem Metrics.foldl_record_shown (h : shown effects = shown effects') (m : Metrics) :
    effects.foldl record m = effects'.foldl record m := by
  induction effects generalizing effects' m with
  | nil =>
    cases effects' with
    | nil => rfl
    | cons e' effects' => cases h
  | cons e effects ih =>
    cases effects' with
    | nil => cases h
    | cons e' effects' =>
      simp only [shown_cons, List.cons.injEq] at h
      rw [List.foldl_cons, List.foldl_cons, record_shown h.1]
      exact ih h.2 _

/-! ## What tells of closed mediators -/

/-- Whether an effect tells of a mediator that is closed. -/
def Effect.tellsClosing : Effect → Bool
  | noticed (.closeFailed ..) | noticed (.mediatorReleased _) => true
  | _ => false

/-- What tells of closed mediators is not counted. -/
theorem Metrics.foldl_record_tellsClosing (h : ∀ e ∈ effects, e.tellsClosing) (m : Metrics) :
    effects.foldl record m = m := by
  induction effects with
  | nil => rfl
  | cons e effects ih =>
    have huncounted : m.record e = m := by
      have he := h e List.mem_cons_self
      cases e with
      | noticed n => rfl
      | _ => cases he
    rw [List.foldl_cons, huncounted]
    exact ih fun e he => h e (List.mem_cons_of_mem _ he)

/-- What reads the same, but for the order in which some of it tells of mediators closed one after
the other. -/
def Reordered (effects effects' : List Effect) : Prop :=
  ∃ before closings after before' closings' after',
    effects = before ++ closings ++ after ∧ effects' = before' ++ closings' ++ after' ∧
      shown before' = shown before ∧ (shown closings').Perm (shown closings) ∧
      shown after' = shown after ∧ ∀ e ∈ closings, e.tellsClosing

theorem Reordered.append_right (h : Reordered effects effects') (more : List Effect) :
    Reordered (effects ++ more) (effects' ++ more) := by
  obtain ⟨before, closings, after, before', closings', after', rfl, rfl, hbefore, hclosings, hafter,
    htell⟩ := h
  refine ⟨before, closings, after ++ more, before', closings', after' ++ more, ?_, ?_, hbefore,
    hclosings, ?_, htell⟩
  · rw [List.append_assoc]
  · rw [List.append_assoc]
  · rw [shown_append, shown_append, hafter]

end ShadowTraffic
