import ShadowTraffic.Proofs.Scope.Projection

/-! # Names of boundaries

A boundary is named after an interceptor, a target and a behavior, joined by a number sign and an
underscore that may also occur in these three. A name is that of one behavior only exactly when it
can be cut in one way only. Where two behaviors have one name, an attempt for the one is skipped
while the other is entered; where the names differ, neither makes a difference to the other.
-/

namespace ShadowTraffic

/-- What a boundary is named after. -/
structure Behavior where
  interceptor : String
  target : String
  name : String
deriving DecidableEq

namespace Behavior

def boundary (u : Behavior) : String :=
  boundaryName u.interceptor u.target u.name

/-- The name of the boundary can be cut in one way only. -/
structure Plain (u : Behavior) : Prop where
  interceptor : '#' ∉ u.interceptor.toList
  target : '#' ∉ u.target.toList
  target_tail : '_' ∉ u.target.toList
  name : '_' ∉ u.name.toList

/-- The names of their boundaries are cut behind as many number signs, and before as many
underscores. -/
def Alike (u v : Behavior) : Prop :=
  u.interceptor.toList.count '#' = v.interceptor.toList.count '#' ∧
    u.name.toList.count '_' = v.name.toList.count '_'

/-! ## Cuts -/

section

variable {c : Char} {l l' r r' : List Char}

/-- Of two cuts of one text at a character, one is behind the other unless they are the same. -/
theorem cut_cases (h : l ++ c :: r = l' ++ c :: r') :
    (l = l' ∧ r = r') ∨ (∃ m, l' = l ++ c :: m ∧ r = m ++ c :: r') ∨
      ∃ m, l = l' ++ c :: m ∧ r' = m ++ c :: r := by
  rcases List.append_eq_append_iff.mp h with ⟨m, hl, hr⟩ | ⟨m, hl, hr⟩
  · cases m with
    | nil => exact .inl ⟨by simpa using hl.symm, by simpa using hr⟩
    | cons d m =>
      simp only [List.cons_append, List.cons.injEq] at hr
      obtain ⟨rfl, hr⟩ := hr
      exact .inr (.inl ⟨m, hl, hr⟩)
  · cases m with
    | nil => exact .inl ⟨by simpa using hl, by simpa using hr.symm⟩
    | cons d m =>
      simp only [List.cons_append, List.cons.injEq] at hr
      obtain ⟨rfl, hr⟩ := hr
      exact .inr (.inr ⟨m, hl, hr⟩)

theorem cut_of_count (h : l ++ c :: r = l' ++ c :: r') (hcount : l.count c = l'.count c) :
    l = l' ∧ r = r' := by
  rcases cut_cases h with hsame | ⟨m, rfl, -⟩ | ⟨m, rfl, -⟩
  · exact hsame
  · rw [List.count_append, List.count_cons_self] at hcount
    omega
  · rw [List.count_append, List.count_cons_self] at hcount
    omega

end

variable {u v : Behavior}

theorem toList_boundary (u : Behavior) : u.boundary.toList =
    u.interceptor.toList ++ '#' :: (u.target.toList ++ '_' :: u.name.toList) := by
  simp [boundary, boundaryName]

theorem boundary_eq_iff : v.boundary = u.boundary ↔
    v.interceptor.toList ++ '#' :: (v.target.toList ++ '_' :: v.name.toList) =
      u.interceptor.toList ++ '#' :: (u.target.toList ++ '_' :: u.name.toList) := by
  rw [← toList_boundary, ← toList_boundary, String.toList_inj]

theorem ext_toList (hinterceptor : v.interceptor.toList = u.interceptor.toList)
    (htarget : v.target.toList = u.target.toList) (hname : v.name.toList = u.name.toList) :
    v = u := by
  cases u
  cases v
  simp_all [String.toList_inj]

theorem Alike.eq_of_boundary (halike : v.Alike u) (h : v.boundary = u.boundary) : v = u := by
  obtain ⟨hinterceptor, htail⟩ := cut_of_count (boundary_eq_iff.mp h) halike.1
  -- behind the same number sign as many underscores come before the last ones as well
  have hcount := congrArg (List.count '_') htail
  simp only [List.count_append, List.count_cons_self, halike.2] at hcount
  obtain ⟨htarget, hname⟩ := cut_of_count htail (by omega)
  exact ext_toList hinterceptor htarget hname

/-- A plain name has no number sign before, and no underscore behind, those that join. -/
theorem Plain.eq_of_boundary (hplain : u.Plain) (h : v.boundary = u.boundary) : v = u := by
  rcases cut_cases (boundary_eq_iff.mp h) with ⟨hinterceptor, htail⟩ | ⟨m, hm, -⟩ | ⟨m, -, hm⟩
  · rcases cut_cases htail with ⟨htarget, hname⟩ | ⟨m, hm, -⟩ | ⟨m, -, hm⟩
    · exact ext_toList hinterceptor htarget hname
    · exact absurd (by simp [hm]) hplain.target_tail
    · exact absurd (by simp [hm]) hplain.name
  · exact absurd (by simp [hm]) hplain.interceptor
  · -- the other number sign stands in the target or behind the underscore
    rcases List.append_eq_append_iff.mp hm with ⟨a, -, ha⟩ | ⟨a, ha, ha'⟩
    · cases a with
      | nil => exact absurd (List.cons.inj ha).1 (by decide)
      | cons d a => exact absurd (by simp [(List.cons.inj ha).2]) hplain.name
    · cases a with
      | nil => exact absurd (List.cons.inj ha').1 (by decide)
      | cons d a =>
        obtain ⟨rfl, -⟩ := List.cons.inj ha'
        exact absurd (by simp [ha]) hplain.target

/-! ## Shared names -/

/-- Where no other behavior has the name, the parts are those of the only cut there is. -/
theorem eq_of_cut (h : ∀ v : Behavior, v.boundary = u.boundary → v = u) (i t n : List Char)
    (hcut : i ++ '#' :: (t ++ '_' :: n) =
      u.interceptor.toList ++ '#' :: (u.target.toList ++ '_' :: u.name.toList)) :
    i = u.interceptor.toList ∧ t = u.target.toList ∧ n = u.name.toList := by
  have hself := h ⟨.ofList i, .ofList t, .ofList n⟩ (boundary_eq_iff.mpr (by simpa using hcut))
  rw [← hself]
  simp

/-- A separator that can be taken for another one gives a second behavior of that name. -/
theorem plain_of_unshared (h : ∀ v : Behavior, v.boundary = u.boundary → v = u) : u.Plain := by
  constructor
  · intro hmem
    obtain ⟨x, y, hcut⟩ := List.append_of_mem hmem
    have hparts := eq_of_cut h x (y ++ '#' :: u.target.toList) u.name.toList (by simp [hcut])
    simp [hcut] at hparts
  · intro hmem
    obtain ⟨x, y, hcut⟩ := List.append_of_mem hmem
    have hparts := eq_of_cut h (u.interceptor.toList ++ '#' :: x) y u.name.toList (by simp [hcut])
    simp at hparts
  · intro hmem
    obtain ⟨x, y, hcut⟩ := List.append_of_mem hmem
    have hparts := eq_of_cut h u.interceptor.toList x (y ++ '_' :: u.name.toList) (by simp [hcut])
    simp [hcut] at hparts
  · intro hmem
    obtain ⟨x, y, hcut⟩ := List.append_of_mem hmem
    have hparts := eq_of_cut h u.interceptor.toList (u.target.toList ++ '_' :: x) y
      (by simp [hcut])
    simp at hparts

theorem plain_iff : u.Plain ↔ ∀ v, v ≠ u → v.boundary ≠ u.boundary :=
  ⟨fun hplain _ hne h => hne (hplain.eq_of_boundary h),
    fun h => plain_of_unshared fun v heq => Decidable.byContradiction fun hne => h v hne heq⟩

/-! ## Runs on one stack -/

/-- What a behavior is answered on a fresh stack that others use as well. -/
abbrev answers (u : Behavior) (schedule : List (Behavior × ScopeAction)) : List ScopeAnswer :=
  Scopes.answersTo boundary u {} schedule

theorem answers_without (h : v.boundary ≠ u.boundary)
    (schedule : List (Behavior × ScopeAction)) :
    u.answers schedule = u.answers (schedule.filter (·.1 ≠ v)) := by
  refine Scopes.answersTo_filter (p := (· ≠ v)) (fun w hw => ?_) rfl
  rw [decide_eq_true_eq]
  rintro rfl
  exact h hw

theorem answers_own (hplain : u.Plain) (schedule : List (Behavior × ScopeAction)) :
    u.answers schedule = u.answers (schedule.filter (·.1 = u)) :=
  Scopes.answersTo_filter (p := (· = u))
    (fun _ hw => decide_eq_true (hplain.eq_of_boundary hw)) rfl

/-- One behavior enters, and another one tries to. -/
def entries (v u : Behavior) : List (Behavior × ScopeAction) :=
  [(v, .tryEnter .boundary), (u, .tryEnter .boundary)]

theorem answers_entries (h : v.boundary = u.boundary) (hne : v ≠ u) :
    u.answers (entries v u) = [.decided false] := by
  have hentered := Scopes.entered_enter {} v.boundary .boundary u.boundary
  rw [if_pos ⟨rfl, h.symm⟩] at hentered
  have htells := Scopes.tells_act (s := (Scopes.enter {} v.boundary .boundary).2)
    (b := u.boundary) rfl (.tryEnter .boundary)
  rw [answers, entries, Scopes.answersTo_cons_ne hne, Scopes.answersTo_cons_self]
  refine congrArg (· :: []) (htells.answer.trans ?_)
  rw [Frame.act, if_pos hentered]

theorem answers_alone (u : Behavior) :
    u.answers [(u, .tryEnter .boundary)] = [.decided true] := by
  rw [answers, Scopes.answersTo_cons_self]
  rfl

/-- Which other behaviors have a say in what one is answered, and which share its name. -/
structure Apart (u : Behavior) : Prop where
  /-- Names with as many separators on either side are apart. -/
  alike : ∀ v, v ≠ u → v.Alike u → v.boundary ≠ u.boundary
  unshared : u.Plain ↔ ∀ v, v ≠ u → v.boundary ≠ u.boundary
  /-- A plain behavior is answered as if it had the stack to itself, and only such a one is. -/
  alone : u.Plain ↔ ∀ schedule, u.answers schedule = u.answers (schedule.filter (·.1 = u))
  /-- Another one makes no difference exactly when its name is another one. -/
  between : ∀ v, v ≠ u → (v.boundary ≠ u.boundary ↔
    ∀ schedule, u.answers schedule = u.answers (schedule.filter (·.1 ≠ v)))
  /-- Where the names are the same, an attempt beside an open one is skipped. -/
  gated : ∀ v, v ≠ u → v.boundary = u.boundary → u.answers (entries v u) = [.decided false]

theorem behaviors_apart (u : Behavior) : u.Apart := by
  have hentries : ∀ v, v ≠ u → u.answers (entries v u) = u.answers [(u, .tryEnter .boundary)] →
      v.boundary ≠ u.boundary := by
    intro v hne hsame heq
    rw [answers_entries heq hne, answers_alone] at hsame
    exact absurd hsame (by decide)
  refine ⟨fun v hne halike h => hne (halike.eq_of_boundary h), plain_iff, ?_, ?_,
    fun v hne h => answers_entries h hne⟩
  · refine ⟨answers_own, fun h => plain_iff.mpr fun v hne => hentries v hne ?_⟩
    simpa [entries, hne] using h (entries v u)
  · intro v hne
    refine ⟨answers_without, fun h => hentries v hne ?_⟩
    simpa [entries, hne.symm] using h (entries v u)

/-- The behavior `get_all` of a `Client` and the behavior `all` of a `Client_get` have one name, so
that the second is skipped inside the first. -/
theorem other_behavior_gated :
    let u : Behavior := ⟨"redis", "Client", "get_all"⟩
    let v : Behavior := ⟨"redis", "Client_get", "all"⟩
    u ≠ v ∧ u.boundary = v.boundary ∧
      v.answers [(u, .tryEnter .boundary), (v, .tryEnter .boundary)] = [.decided false] := by
  decide

end Behavior

end ShadowTraffic
