import ShadowTraffic.Config.Loading

/-! # What laying documents over one another does

A value laid at a path whose first step is a field changes that field and no other. Where it leads
two fields deep, the outer field holds a table afterwards: a table keeps its other fields, and what
was no table has none to keep.
-/

namespace ShadowTraffic

namespace Document

/-! ## First fields -/

/-- The first field of a name; what is no table has none. -/
def first? (doc : Document) (name : String) : Option Document :=
  (doc.fieldsOrNone.find? (·.1 == name)).map (·.2)

/-- No name stands twice in a table. -/
def Distinct (doc : Document) : Prop :=
  (doc.fieldsOrNone.map (·.1)).Nodup

def isTable : Document → Bool
  | table _ => true
  | _ => false

theorem find?_eq_none_of_notMem {name : String} {fields : List (String × Document)}
    (h : name ∉ fields.map (·.1)) : fields.find? (·.1 == name) = none := by
  refine List.find?_eq_none.mpr fun e he heq => h ?_
  rw [← eq_of_beq heq]
  exact List.mem_map_of_mem he

/-- Where no name stands twice, the last field of a name is the first. -/
theorem find?_reverse {name : String} {fields : List (String × Document)}
    (h : (fields.map (·.1)).Nodup) :
    fields.reverse.find? (·.1 == name) = fields.find? (·.1 == name) := by
  induction fields with
  | nil => rfl
  | cons e fields ih =>
    rw [List.map_cons, List.nodup_cons] at h
    rw [List.reverse_cons, List.find?_append, ih h.2, List.find?_cons]
    by_cases hname : (e.1 == name) = true
    · have hnone := find?_eq_none_of_notMem (eq_of_beq hname ▸ h.1)
      simp [hname, hnone]
    · simp [hname]

theorem Distinct.field?_eq {doc : Document} (h : doc.Distinct) (name : String) :
    doc.field? name = doc.first? name := by
  cases doc with
  | table fields => exact congrArg (Option.map (·.2)) (find?_reverse h)
  | null => rfl
  | bool b => rfl
  | int n => rfl
  | real x => rfl
  | text s => rfl
  | list items => rfl

/-! ## Fields put and laid over -/

theorem putField_nil (name : String) (value : Document) :
    putField name value [] = [(name, value)] := rfl

theorem putField_cons (name first : String) (value old : Document)
    (fields : List (String × Document)) :
    putField name value ((first, old) :: fields) =
      if first == name then (name, value) :: fields
      else (first, old) :: putField name value fields := rfl

theorem find?_putField (name other : String) (value : Document)
    (fields : List (String × Document)) :
    ((putField name value fields).find? (·.1 == other)).map (·.2) =
      if other = name then some value else (fields.find? (·.1 == other)).map (·.2) := by
  induction fields with
  | nil => by_cases h : other = name <;> simp [putField_nil, h, Ne.symm]
  | cons e fields ih =>
    obtain ⟨first, old⟩ := e
    rw [putField_cons]
    by_cases hfirst : first = name
    · by_cases h : other = name
      · simp [hfirst, h]
      · simp [hfirst, h, Ne.symm h]
    · simp only [beq_iff_eq, hfirst, if_false, List.find?_cons]
      by_cases h : first = other
      · simp [h, show other ≠ name from h ▸ hfirst]
      · have hfalse : (first == other) = false := beq_eq_false_iff_ne.mpr h
        simpa [hfalse] using ih

theorem mem_names_putField {name other : String} {value : Document}
    {fields : List (String × Document)} (h : other ∈ (putField name value fields).map (·.1)) :
    other = name ∨ other ∈ fields.map (·.1) := by
  induction fields with
  | nil => simpa [putField_nil] using h
  | cons e fields ih =>
    obtain ⟨first, old⟩ := e
    rw [putField_cons] at h
    split at h
    · rcases List.mem_cons.mp h with hother | hmem
      · exact .inl hother
      · exact .inr (List.mem_cons_of_mem _ hmem)
    · rcases List.mem_cons.mp h with hother | hmem
      · exact .inr (hother ▸ List.mem_cons_self)
      · exact (ih hmem).imp id (List.mem_cons_of_mem _)

theorem nodup_putField (name : String) (value : Document) {fields : List (String × Document)}
    (h : (fields.map (·.1)).Nodup) : ((putField name value fields).map (·.1)).Nodup := by
  induction fields with
  | nil => simp [putField_nil]
  | cons e fields ih =>
    obtain ⟨first, old⟩ := e
    rw [List.map_cons, List.nodup_cons] at h
    rw [putField_cons]
    split
    next heq =>
      rw [List.map_cons, List.nodup_cons, ← eq_of_beq heq]
      exact h
    next hne =>
      rw [List.map_cons, List.nodup_cons]
      refine ⟨fun hmem => ?_, ih h.2⟩
      rcases mem_names_putField hmem with hname | hmem
      · exact hne (beq_iff_eq.mpr hname)
      · exact h.1 hmem

theorem nodup_overlayFields (below fields : List (String × Document))
    (h : (below.map (·.1)).Nodup) : ((overlayFields below fields).map (·.1)).Nodup := by
  induction fields generalizing below with
  | nil => exact h
  | cons e fields ih =>
    obtain ⟨name, value⟩ := e
    rw [overlayFields]
    exact ih _ (nodup_putField name _ h)

theorem Distinct.overlay {below : Document} (h : below.Distinct) (doc : Document) :
    (below.overlay doc).Distinct := by
  cases doc with
  | table fields =>
    rw [Document.overlay]
    exact nodup_overlayFields _ fields h
  | null => exact List.nodup_nil
  | bool b => exact List.nodup_nil
  | int n => exact List.nodup_nil
  | real x => exact List.nodup_nil
  | text s => exact List.nodup_nil
  | list items => exact List.nodup_nil

theorem distinct_null : null.Distinct :=
  List.nodup_nil

/-! ## Values at a path -/

theorem setAt_nil (value here : Document) : setAt value [] here = here.overlay value := rfl

theorem setAt_field (value here : Document) (name : String) (path : List PathStep) :
    setAt value (.field name :: path) here =
      table (putField name (setAt value path ((here.first? name).getD null)) here.fieldsOrNone) :=
  rfl

theorem first?_setAt (value here : Document) (name : String) (path : List PathStep)
    (other : String) :
    (setAt value (.field name :: path) here).first? other =
      if other = name then some (setAt value path ((here.first? name).getD null))
      else here.first? other := by
  rw [setAt_field]
  exact find?_putField name other _ here.fieldsOrNone

theorem Distinct.setAt {here : Document} (h : here.Distinct) (value : Document)
    (path : List PathStep) : (setAt value path here).Distinct := by
  cases path with
  | nil => exact h.overlay value
  | cons first path =>
    cases first with
    | field name => exact nodup_putField name _ h
    | item index => exact List.nodup_nil

/-- A table with no name twice, nor in the tables that are its fields. -/
structure Tidy (root : Document) : Prop where
  isTable : root.isTable = true
  distinct : root.Distinct
  inner : ∀ {name doc}, root.first? name = some doc → doc.Distinct

theorem Tidy.empty : (table []).Tidy where
  isTable := rfl
  distinct := List.nodup_nil
  inner := nofun

theorem Tidy.setAt {root : Document} (h : root.Tidy) (value : Document) (name : String)
    (path : List PathStep) : (setAt value (.field name :: path) root).Tidy where
  isTable := rfl
  distinct := h.distinct.setAt value _
  inner := by
    intro other doc hdoc
    rw [first?_setAt] at hdoc
    split at hdoc
    next =>
      cases hdoc
      refine Distinct.setAt ?_ value path
      cases hold : root.first? name with
      | none => exact distinct_null
      | some old => exact h.inner hold
    next => exact h.inner hdoc

end Document

/-- The path of a key begins with a field. -/
theorem pathOf_eq_cons (key : String) : ∃ name path, pathOf key = .field name :: path := by
  unfold pathOf
  cases h : path? key with
  | none => exact ⟨key, [], rfl⟩
  | some path =>
    unfold path? at h
    dsimp only at h
    split at h
    · cases h
    · obtain ⟨rest, -, rfl⟩ := Option.map_eq_some_iff.mp h
      exact ⟨_, rest, rfl⟩

namespace Document

theorem setAll_cons (root : Document) (e : String × Document) (fields : List (String × Document)) :
    setAll root (e :: fields) = setAll (setAt e.2 (pathOf e.1) root) fields := rfl

theorem setAll_append (root : Document) (fields more : List (String × Document)) :
    setAll root (fields ++ more) = setAll (setAll root fields) more :=
  List.foldl_append

theorem Tidy.setAll {root : Document} (h : root.Tidy) (fields : List (String × Document)) :
    (root.setAll fields).Tidy := by
  induction fields generalizing root with
  | nil => exact h
  | cons e fields ih =>
    obtain ⟨name, path, hpath⟩ := pathOf_eq_cons e.1
    rw [setAll_cons, hpath]
    exact ih (h.setAt e.2 name path)

/-! ## Fields of sections -/

/-- A field of a field. -/
def inner? (root : Document) (outer name : String) : Option Document :=
  (root.first? outer).bind (·.first? name)

/-- A value laid two fields deep is that field, and all others stay. -/
theorem inner?_setAt (value root : Document) (outer name other other' : String) :
    (setAt value [.field outer, .field name] root).inner? other other' =
      if other = outer ∧ other' = name then
        some (((root.inner? outer name).getD null).overlay value)
      else root.inner? other other' := by
  rw [inner?, first?_setAt]
  by_cases houter : other = outer
  · subst houter
    -- an outer field that is missing has no fields either
    have hold : ((root.first? other).getD null).first? other' = root.inner? other other' := by
      cases hdoc : root.first? other with
      | none =>
        rw [inner?, hdoc]
        rfl
      | some doc =>
        rw [inner?, hdoc]
        rfl
    rw [if_pos rfl, Option.bind_some, first?_setAt, setAt_nil]
    by_cases hname : other' = name
    · subst hname
      rw [if_pos rfl, if_pos ⟨rfl, rfl⟩, hold]
    · rw [if_neg hname, if_neg fun h => hname h.2, hold]
  · rw [if_neg houter, if_neg fun h => houter h.1, inner?]

end Document

end ShadowTraffic
