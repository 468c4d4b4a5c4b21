import ShadowTraffic.Proofs.Config.Fields
import ShadowTraffic.Proofs.Config.Layering

/-! # Variables of the environment over a file

A variable that names a section and a field sets that field. Every other setting keeps the value
that the file gives it, with one exception: a section that the file gives as a list becomes a table
with the first variable for it, and has nothing but the fields that variables name.
-/

namespace ShadowTraffic

open Document

/-! ## Variables -/

namespace Environment

/-- The path that a variable sets. -/
def path? (name : String) : Option (List PathStep) :=
  (key? name).map pathOf

/-- Some variable sets the path. -/
def Sets (env : Environment) (path : List PathStep) : Prop :=
  ∃ v ∈ env, path? v.1 = some path

instance (env : Environment) (path : List PathStep) : Decidable (env.Sets path) :=
  inferInstanceAs (Decidable (∃ v ∈ env, path? v.1 = some path))

/-- Every variable that sets something sets a field of a section. -/
def OfFields (env : Environment) : Prop :=
  ∀ v ∈ env, ∀ path, path? v.1 = some path →
    ∃ outer name, path = [.field outer, .field name]

/-- Some variable sets a field of the section. -/
def Touches (env : Environment) (outer : String) : Prop :=
  ∃ name, env.Sets [.field outer, .field name]

variable {env : Environment} {v : String × String}

theorem OfFields.head (h : OfFields (v :: env)) {path : List PathStep}
    (hv : path? v.1 = some path) : ∃ outer name, path = [.field outer, .field name] :=
  h v List.mem_cons_self path hv

theorem OfFields.tail (h : OfFields (v :: env)) : OfFields env :=
  fun u hu => h u (List.mem_cons_of_mem v hu)

theorem Sets.tail {path : List PathStep} (h : Sets env path) : Sets (v :: env) path := by
  obtain ⟨u, hu, hpath⟩ := h
  exact ⟨u, List.mem_cons_of_mem v hu, hpath⟩

/-- A variable is a scalar, which takes the place of what was there. -/
theorem overlay_value (below : Document) (s : String) : below.overlay (value s) = value s := by
  unfold value
  split
  · rfl
  · rfl
  · split <;> rfl

/-! ## Documents with variables over them -/

/-- A document with variables laid over it. -/
def overlaid (env : Environment) (root : Document) : Document :=
  root.setAll env.overrides

theorem overlaid_cons_none (h : path? v.1 = none) (root : Document) :
    overlaid (v :: env) root = overlaid env root := by
  have hkey : key? v.1 = none := Option.map_eq_none_iff.mp h
  simp [overlaid, overrides, hkey]

theorem overlaid_cons_some {path : List PathStep} (h : path? v.1 = some path) (root : Document) :
    overlaid (v :: env) root = overlaid env (setAt (value v.2) path root) := by
  obtain ⟨key, hkey, rfl⟩ := Option.map_eq_some_iff.mp h
  simp [overlaid, overrides, hkey, setAll_cons]

theorem overlaid_append (env more : Environment) (root : Document) :
    overlaid (env ++ more) root = overlaid more (overlaid env root) := by
  rw [overlaid, overrides, List.filterMap_append, setAll_append]
  rfl

theorem tidy_overlaid {root : Document} (h : root.Tidy) (env : Environment) : (overlaid env root).Tidy :=
  h.setAll env.overrides

/-- A field of a section that no variable sets is as before. -/
theorem inner?_overlaid (h : env.OfFields) {outer name : String}
    (hnot : ¬ env.Sets [.field outer, .field name]) (root : Document) :
    (overlaid env root).inner? outer name = root.inner? outer name := by
  induction env generalizing root with
  | nil => rfl
  | cons v env ih =>
    have hrest := ih h.tail fun hsets => hnot hsets.tail
    cases hv : path? v.1 with
    | none => rw [overlaid_cons_none hv, hrest]
    | some path =>
      obtain ⟨outer', name', rfl⟩ := h.head hv
      have hne : ¬ (outer = outer' ∧ name = name') := by
        rintro ⟨rfl, rfl⟩
        exact hnot ⟨v, List.mem_cons_self, hv⟩
      rw [overlaid_cons_some hv, hrest, inner?_setAt, if_neg hne]

/-- A section that no variable touches is as before. -/
theorem first?_overlaid (h : env.OfFields) {outer : String} (hnot : ¬ env.Touches outer)
    (root : Document) : (overlaid env root).first? outer = root.first? outer := by
  induction env generalizing root with
  | nil => rfl
  | cons v env ih =>
    have hrest := ih h.tail fun ⟨name, hsets⟩ => hnot ⟨name, hsets.tail⟩
    cases hv : path? v.1 with
    | none => rw [overlaid_cons_none hv, hrest]
    | some path =>
      obtain ⟨outer', name', rfl⟩ := h.head hv
      have hne : outer ≠ outer' := by
        rintro rfl
        exact hnot ⟨name', v, List.mem_cons_self, hv⟩
      rw [overlaid_cons_some hv, hrest, first?_setAt, if_neg hne]

/-- The section is a table. -/
def HoldsTable (outer : String) (root : Document) : Prop :=
  ∃ part, root.first? outer = some part ∧ part.isTable = true

theorem holdsTable_setAt (value root : Document) (outer name : String) :
    HoldsTable outer (setAt value [.field outer, .field name] root) :=
  ⟨_, by rw [first?_setAt, if_pos rfl], rfl⟩

theorem HoldsTable.overlaid (h : env.OfFields) {outer : String} {root : Document}
    (hroot : HoldsTable outer root) : HoldsTable outer (overlaid env root) := by
  induction env generalizing root with
  | nil => exact hroot
  | cons v env ih =>
    cases hv : path? v.1 with
    | none =>
      rw [overlaid_cons_none hv]
      exact ih h.tail hroot
    | some path =>
      obtain ⟨outer', name', rfl⟩ := h.head hv
      rw [overlaid_cons_some hv]
      refine ih h.tail ?_
      by_cases houter : outer = outer'
      · subst houter
        exact holdsTable_setAt _ root outer name'
      · obtain ⟨part, hpart, htable⟩ := hroot
        exact ⟨part, by rw [first?_setAt, if_neg houter, hpart], htable⟩

/-- A section that a variable touches becomes a table. -/
theorem holdsTable_overlaid (h : env.OfFields) {outer : String} (htouches : env.Touches outer)
    (root : Document) : HoldsTable outer (overlaid env root) := by
  induction env generalizing root with
  | nil =>
    obtain ⟨name, v, hv, -⟩ := htouches
    cases hv
  | cons v env ih =>
    obtain ⟨name, u, hu, hpath⟩ := htouches
    rcases List.mem_cons.mp hu with rfl | hu
    · rw [overlaid_cons_some hpath]
      exact (holdsTable_setAt _ root outer name).overlaid h.tail
    · have hrest := ih h.tail ⟨name, u, hu, hpath⟩
      cases hv : path? v.1 with
      | none =>
        rw [overlaid_cons_none hv]
        exact hrest root
      | some path =>
        rw [overlaid_cons_some hv]
        exact hrest _

end Environment

/-! ## Settings of tidy documents -/

namespace Document

theorem Tidy.member?_eq {root : Document} (h : root.Tidy) (place : Nat) (name : String) :
    Decoding.member? root place name = root.first? name := by
  rw [← h.distinct.field?_eq]
  cases root with
  | table fields => rfl
  | null => cases h.isTable
  | bool b => cases h.isTable
  | int n => cases h.isTable
  | real x => cases h.isTable
  | text s => cases h.isTable
  | list items => cases h.isTable

theorem Tidy.part_eq {root : Document} (h : root.Tidy) (sec : SettingsSection) :
    sec.part root = (root.first? sec.name).getD (.table []) := by
  rw [SettingsSection.part, h.member?_eq]

theorem Tidy.distinct_part {root : Document} (h : root.Tidy) (sec : SettingsSection) :
    (sec.part root).Distinct := by
  rw [h.part_eq]
  cases hpart : root.first? sec.name with
  | none => exact List.nodup_nil
  | some part => exact h.inner hpart

theorem Tidy.first?_part {root : Document} (h : root.Tidy) (sec : SettingsSection)
    (name : String) : (sec.part root).first? name = root.inner? sec.name name := by
  rw [h.part_eq, inner?]
  cases root.first? sec.name <;> rfl

/-- In a section that is no list a setting is the field of its name. -/
theorem Tidy.found_eq {root : Document} (h : root.Tidy) (f : Setting)
    (hlist : ∀ items, f.home.part root ≠ .list items) :
    f.found (f.home.part root) = root.inner? f.home.name f.name := by
  rw [← h.first?_part, ← (h.distinct_part f.home).field?_eq, Setting.found]
  unfold Decoding.member?
  split
  next items heq => exact absurd heq (hlist items)
  next => rfl

end Document

/-! ## Loading -/

/-- The document in the file that is read for a path. -/
def FileView.document? (view : FileView) (path : String) : Option Document :=
  ((view.configuration? path).bind (fileFields? (FileFormat.ofPath path))).map
    (table []).setAll

theorem FileView.tidy_document? {view : FileView} {path : String} {doc : Document}
    (h : view.document? path = some doc) : doc.Tidy := by
  obtain ⟨fields, -, rfl⟩ := Option.map_eq_some_iff.mp h
  exact Tidy.empty.setAll fields

namespace Settings

variable {view : FileView} {env : Environment} {path : String} {s s' : Settings}

/-- Settings are read from the document of the file with the variables over it. -/
theorem load_eq_ok : load view env path = .ok s ↔
    ∃ doc, view.document? path = some doc ∧
      Decoding.coercing.settings? (env.overlaid doc) = some s := by
  unfold load FileView.document?
  cases (view.configuration? path).bind (fileFields? (FileFormat.ofPath path)) with
  | none => simp
  | some fields =>
    simp only [Option.map_some, Option.some.injEq, exists_eq_left', layered, Environment.overlaid]
    cases Decoding.coercing.settings? (((table []).setAll fields).setAll env.overrides) with
    | none => simp
    | some s => simp

theorem get_of_load (h : load view env path = .ok s) {doc : Document}
    (hdoc : view.document? path = some doc) (f : Setting) :
    f.value? Decoding.coercing (f.home.part (env.overlaid doc)) = some (f.get s) := by
  obtain ⟨doc', hdoc', hs⟩ := load_eq_ok.mp h
  cases hdoc.symm.trans hdoc'
  exact (Decoding.settings?_eq_some.mp hs).2.2 f

end Settings

/-! ## Settings that no variable names -/

namespace Setting

/-- Where a setting stands in a document. -/
def path (f : Setting) : List PathStep :=
  [.field f.home.name, .field f.name]

def all : List Setting :=
  SettingsSection.marker.settings ++ SettingsSection.routing.settings ++
    SettingsSection.scope.settings ++ SettingsSection.logging.settings

theorem find?_path (f : Setting) : all.find? (·.path == f.path) = some f := by
  cases f <;> decide

/-- No two settings stand in one place. -/
theorem path_injective {f g : Setting} (h : f.path = g.path) : f = g := by
  have hfound := find?_path f
  rw [h, find?_path g] at hfound
  exact (Option.some.inj hfound).symm

/-- The variable of a setting: section and field in capitals behind the name of the program. -/
def variableName (f : Setting) : String :=
  let upper (s : String) := String.ofList (s.toList.map Char.toUpper)
  "SHADOWLINE__" ++ upper f.home.name ++ "__" ++ upper f.name

example : level.variableName = "SHADOWLINE__LOGGING__LEVEL" := by decide

theorem path?_variableName (f : Setting) : Environment.path? f.variableName = some f.path := by
  cases f <;> decide +kernel

theorem ofFields_variableName (f : Setting) (v : String) :
    Environment.OfFields [(f.variableName, v)] := by
  intro u hu path hpath
  rw [List.mem_singleton.mp hu, path?_variableName] at hpath
  exact ⟨_, _, (Option.some.inj hpath).symm⟩

variable {env : Environment} {f : Setting} {root : Document}

/-- A section that no variable touches is as before. -/
theorem part_overlaid_of_untouched (hfields : env.OfFields) (hroot : root.Tidy)
    {sec : SettingsSection} (htouches : ¬ env.Touches sec.name) :
    sec.part (env.overlaid root) = sec.part root := by
  rw [(Environment.tidy_overlaid hroot env).part_eq, hroot.part_eq,
    Environment.first?_overlaid hfields htouches]

/-- A section that a variable touches is a table. -/
theorem isTable_part_overlaid (hfields : env.OfFields) (hroot : root.Tidy)
    {sec : SettingsSection} (htouches : env.Touches sec.name) :
    (sec.part (env.overlaid root)).isTable = true := by
  obtain ⟨part, hpart, htable⟩ := Environment.holdsTable_overlaid hfields htouches root
  rw [(Environment.tidy_overlaid hroot env).part_eq, hpart]
  exact htable

/-- In a section that variables touch a setting is found in its field, even where the section was a
list. -/
theorem found_overlaid_of_touched (hfields : env.OfFields) (hroot : root.Tidy)
    (htouches : env.Touches f.home.name) :
    f.found (f.home.part (env.overlaid root)) = (env.overlaid root).inner? f.home.name f.name := by
  refine (Environment.tidy_overlaid hroot env).found_eq f fun items hlist => ?_
  have htable := isTable_part_overlaid hfields hroot htouches
  rw [hlist] at htable
  cases htable

section

variable (hfields : env.OfFields) (hroot : root.Tidy) (hf : ¬ env.Sets f.path) (d : Decoding)
include hfields hroot hf

/-- A setting that no variable names is read as before, unless its section was a list and a
variable touches it. -/
theorem value?_overlaid_of_kept
    (hkept : ¬ ((∃ items, f.home.part root = .list items) ∧ env.Touches f.home.name)) :
    f.value? d (f.home.part (env.overlaid root)) = f.value? d (f.home.part root) := by
  -- a table that is touched keeps its fields, and what is not touched stays whatever it is
  by_cases htouches : env.Touches f.home.name
  · have hlist : ∀ items, f.home.part root ≠ .list items :=
      fun items heq => hkept ⟨⟨items, heq⟩, htouches⟩
    rw [value?, value?, found_overlaid_of_touched hfields hroot htouches,
      Environment.inner?_overlaid hfields hf, hroot.found_eq f hlist]
  · rw [part_overlaid_of_untouched hfields hroot htouches]

theorem value?_overlaid_of_list {items : List Document} (hlist : f.home.part root = .list items)
    (htouches : env.Touches f.home.name) :
    f.value? d (f.home.part (env.overlaid root)) = some (f.get {}) := by
  rw [value?, found_overlaid_of_touched hfields hroot htouches, Environment.inner?_overlaid hfields hf,
    ← hroot.first?_part, hlist]
  rfl

end

/-- With variables over it a document fits as before. -/
theorem fits_overlaid (hfields : env.OfFields) (hroot : root.Tidy) {d : Decoding}
    {sec : SettingsSection} (h : sec.fits d root = true) : sec.fits d (env.overlaid root) = true := by
  by_cases htouches : env.Touches sec.name
  · have htable := isTable_part_overlaid hfields hroot htouches
    unfold SettingsSection.fits
    cases hpart : sec.part (env.overlaid root) with
    | table fields => rfl
    | null | bool | int | real | text | list =>
      rw [hpart] at htable
      cases htable
  · rwa [SettingsSection.fits, part_overlaid_of_untouched hfields hroot htouches]

/-- Settings can still be read when each setting that variables name can be. -/
theorem exists_settings?_overlaid (hfields : env.OfFields) (hroot : root.Tidy) {d : Decoding}
    {s : Settings} (hs : d.settings? root = some s)
    (hset : ∀ f : Setting, env.Sets f.path →
      ∃ v, f.value? d (f.home.part (env.overlaid root)) = some v) :
    ∃ s', d.settings? (env.overlaid root) = some s' := by
  obtain ⟨-, hfits, hvalues⟩ := Decoding.settings?_eq_some.mp hs
  have htidy := Environment.tidy_overlaid hroot env
  have htable : d.isSection 4 (env.overlaid root) = true := by
    cases hover : env.overlaid root with
    | table fields => rfl
    | null | bool | int | real | text | list => exact absurd htidy.isTable (by simp [hover, isTable])
  refine Decoding.exists_settings? htable (fun sec => fits_overlaid hfields hroot (hfits sec)) ?_
  intro f
  -- a setting is named by a variable, lost with its list, or kept
  by_cases hf : env.Sets f.path
  · exact hset f hf
  · by_cases hlost : (∃ items, f.home.part root = .list items) ∧ env.Touches f.home.name
    · obtain ⟨⟨items, hlist⟩, htouches⟩ := hlost
      exact ⟨_, value?_overlaid_of_list hfields hroot hf d hlist htouches⟩
    · exact ⟨_, (value?_overlaid_of_kept hfields hroot hf d hlost).trans (hvalues f)⟩

end Setting

/-- The file gives the section as a list. -/
def FileView.listsSection (view : FileView) (path : String) (sec : SettingsSection) : Bool :=
  ((view.document? path).bind (·.field? sec.name)).any (·.list?.isSome)

theorem FileView.listsSection_iff {view : FileView} {path : String} {doc : Document}
    (hdoc : view.document? path = some doc) (sec : SettingsSection) :
    view.listsSection path sec = true ↔ ∃ items, sec.part doc = .list items := by
  have htidy := FileView.tidy_document? hdoc
  rw [htidy.part_eq, FileView.listsSection, hdoc, Option.bind_some, htidy.distinct.field?_eq]
  cases doc.first? sec.name with
  | none => simp
  | some part => cases part <;> simp [Document.list?]

namespace Settings

variable {view : FileView} {env : Environment} {path : String} {s s' : Settings}

/-- One file and nothing else. -/
def onlyFile (name text : String) : FileView :=
  fun path => if path = name then .file text.toUTF8.toList else .missing

theorem eq_ok_of_toOption {x : Except LoadError Settings} (h : x.toOption = some s) :
    x = .ok s := by
  cases x with
  | ok s' => exact congrArg Except.ok (Option.some.inj h)
  | error e => cases h

end Settings

end ShadowTraffic
