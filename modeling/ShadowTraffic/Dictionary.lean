/-! # Dictionaries with texts as keys

Entries stand in ascending order of their keys, one entry a key, and the type holds them to it. So
two dictionaries with the same answers are equal, and listing one always gives the same order:
that of the keys' code points, which is also the order of their bytes.
-/

namespace ShadowTraffic

namespace Entries

variable {α : Type}

/-- The entry placed among ordered entries, in the place of one with its key. -/
def insert (key : String) (value : α) : List (String × α) → List (String × α)
  | [] => [(key, value)]
  | e :: rest =>
    if key < e.1 then (key, value) :: e :: rest
    else if key = e.1 then (key, value) :: rest
    else e :: insert key value rest

def find? (key : String) : List (String × α) → Option α
  | [] => none
  | e :: rest => if key = e.1 then some e.2 else find? key rest

/-- The entries without the one at a key. -/
def erase (key : String) (entries : List (String × α)) : List (String × α) :=
  entries.filter (·.1 != key)

def Ordered (entries : List (String × α)) : Prop :=
  entries.Pairwise fun a b => a.1 < b.1

theorem insert_nil (key : String) (value : α) : insert key value [] = [(key, value)] := rfl

theorem insert_cons (key : String) (value : α) (e : String × α) (rest : List (String × α)) :
    insert key value (e :: rest) =
      if key < e.1 then (key, value) :: e :: rest
      else if key = e.1 then (key, value) :: rest
      else e :: insert key value rest := rfl

@[simp] theorem find?_nil (key : String) : find? key ([] : List (String × α)) = none := rfl

theorem find?_cons (key : String) (e : String × α) (rest : List (String × α)) :
    find? key (e :: rest) = if key = e.1 then some e.2 else find? key rest := rfl

theorem mem_insert {key : String} {value : α} {e : String × α} {entries : List (String × α)}
    (h : e ∈ insert key value entries) : e = (key, value) ∨ e ∈ entries := by
  induction entries with
  | nil => simpa [insert_nil] using h
  | cons d rest ih =>
    rw [insert_cons] at h
    split at h
    · simpa using h
    · split at h
      · rcases List.mem_cons.1 h with h | h
        · exact .inl h
        · exact .inr (List.mem_cons_of_mem _ h)
      · rcases List.mem_cons.1 h with h | h
        · exact .inr (h ▸ List.mem_cons_self)
        · exact (ih h).imp id (List.mem_cons_of_mem _)

theorem Ordered.nil : Ordered ([] : List (String × α)) :=
  List.Pairwise.nil

theorem Ordered.insert {key : String} {value : α} {entries : List (String × α)}
    (h : Ordered entries) : Ordered (Entries.insert key value entries) := by
  induction entries with
  | nil => simp [insert_nil, Ordered]
  | cons d rest ih =>
    obtain ⟨hd, hrest⟩ := List.pairwise_cons.1 h
    rw [insert_cons]
    split
    next hlt =>
      refine List.pairwise_cons.2 ⟨fun e he => ?_, h⟩
      rcases List.mem_cons.1 he with rfl | he
      · exact hlt
      · exact String.lt_trans hlt (hd e he)
    next hlt =>
      split
      next heq => exact List.pairwise_cons.2 ⟨fun e he => heq ▸ hd e he, hrest⟩
      next hne =>
        refine List.pairwise_cons.2 ⟨fun e he => ?_, ih hrest⟩
        rcases mem_insert he with rfl | he
        · rcases String.le_total key d.1 with hle | hle
          · exact absurd (String.le_antisymm hle (String.not_lt.1 hlt)) hne
          · exact String.not_le.1 fun h' => hne (String.le_antisymm h' hle)
        · exact hd e he

theorem Ordered.erase {key : String} {entries : List (String × α)} (h : Ordered entries) :
    Ordered (Entries.erase key entries) :=
  List.Pairwise.filter _ h

theorem find?_insert (key other : String) (value : α) (entries : List (String × α)) :
    find? other (insert key value entries) =
      if other = key then some value else find? other entries := by
  induction entries with
  | nil => simp [insert_nil, find?_cons]
  | cons d rest ih =>
    rw [insert_cons]
    split
    · simp [find?_cons]
    · split
      next heq => by_cases h : other = key <;> simp_all [find?_cons]
      next hne =>
        by_cases h : other = d.1
        · have : other ≠ key := fun h' => hne (h' ▸ h)
          simp [find?_cons, h, Ne.symm hne]
        · simp [find?_cons, h, ih]

theorem find?_erase (key other : String) (entries : List (String × α)) :
    find? other (erase key entries) = if other = key then none else find? other entries := by
  induction entries with
  | nil => simp [erase, find?]
  | cons d rest ih =>
    by_cases hd : d.1 = key
    · have : erase key (d :: rest) = erase key rest := by simp [erase, hd]
      rw [this, ih, find?_cons]
      by_cases h : other = key <;> simp [h, hd]
    · have : erase key (d :: rest) = d :: erase key rest := by simp [erase, hd]
      rw [this, find?_cons, find?_cons, ih]
      by_cases h : other = d.1
      · have : ¬ d.1 = key := hd
        simp [h, this]
      · by_cases h' : other = key
        · subst h'
          simp [h]
        · simp [h, h']

theorem find?_eq_none {key : String} {entries : List (String × α)}
    (h : ∀ e ∈ entries, key < e.1) : find? key entries = none := by
  induction entries with
  | nil => rfl
  | cons d rest ih =>
    have hd := h d List.mem_cons_self
    have hne : key ≠ d.1 := fun heq => String.lt_irrefl d.1 (heq ▸ hd)
    simp only [find?_cons, hne, if_false]
    exact ih fun e he => h e (List.mem_cons_of_mem _ he)

/-- Among ordered entries the answer at a key is the entry with that key. -/
theorem Ordered.find?_eq_some {key : String} {value : α} {entries : List (String × α)}
    (h : Ordered entries) : find? key entries = some value ↔ (key, value) ∈ entries := by
  induction entries with
  | nil => simp
  | cons d rest ih =>
    obtain ⟨hd, hrest⟩ := List.pairwise_cons.1 h
    by_cases hkey : key = d.1
    · subst hkey
      have hnot : (d.1, value) ∉ rest := fun hmem =>
        String.lt_irrefl d.1 (hd (d.1, value) hmem)
      simp [find?_cons, hnot, Prod.ext_iff, eq_comm]
    · simp [find?_cons, hkey, ih hrest, Prod.ext_iff]

/-- Ordered entries with the same answers are the same entries. -/
theorem Ordered.ext {a b : List (String × α)} (ha : Ordered a) (hb : Ordered b)
    (h : ∀ key, find? key a = find? key b) : a = b := by
  induction a generalizing b with
  | nil =>
    cases b with
    | nil => rfl
    | cons e b => simpa [find?_cons] using h e.1
  | cons d a ih =>
    cases b with
    | nil => simpa [find?_cons] using h d.1
    | cons e b =>
      obtain ⟨hd, ha'⟩ := List.pairwise_cons.1 ha
      obtain ⟨he, hb'⟩ := List.pairwise_cons.1 hb
      have hkey : d.1 = e.1 := by
        rcases String.le_total d.1 e.1 with hle | hle
        · by_cases heq : d.1 = e.1
          · exact heq
          · have hlt : d.1 < e.1 := String.not_le.1 fun h' => heq (String.le_antisymm hle h')
            have hnone : find? d.1 (e :: b) = none := by
              refine find?_eq_none fun x hx => ?_
              rcases List.mem_cons.1 hx with rfl | hx
              · exact hlt
              · exact String.lt_trans hlt (he x hx)
            have := h d.1
            rw [hnone] at this
            simp [find?_cons] at this
        · by_cases heq : d.1 = e.1
          · exact heq
          · have hlt : e.1 < d.1 :=
              String.not_le.1 fun h' => heq (String.le_antisymm h' hle)
            have hnone : find? e.1 (d :: a) = none := by
              refine find?_eq_none fun x hx => ?_
              rcases List.mem_cons.1 hx with rfl | hx
              · exact hlt
              · exact String.lt_trans hlt (hd x hx)
            have := h e.1
            rw [hnone] at this
            simp [find?_cons] at this
      have hvalue : d.2 = e.2 := by
        have := h d.1
        simpa [find?_cons, hkey] using this
      have htail : a = b := by
        refine ih ha' hb' fun key => ?_
        by_cases hk : key = d.1
        · have h1 : find? key a = none := find?_eq_none fun x hx => hk ▸ hd x hx
          have h2 : find? key b = none := find?_eq_none fun x hx => hk ▸ hkey ▸ he x hx
          rw [h1, h2]
        · have := h key
          simpa [find?_cons, hk, hkey ▸ hk] using this
      rw [Prod.ext hkey hvalue, htail]

end Entries

/-- Values at texts, in ascending order of the texts. -/
structure Dictionary (α : Type) where
  entries : List (String × α)
  ordered : Entries.Ordered entries

namespace Dictionary

variable {α : Type}

def empty : Dictionary α :=
  ⟨[], Entries.Ordered.nil⟩

instance : Inhabited (Dictionary α) := ⟨empty⟩

instance [DecidableEq α] : DecidableEq (Dictionary α) := fun a b =>
  if h : a.entries = b.entries then
    isTrue (by cases a; cases b; cases h; rfl)
  else isFalse fun h' => h (congrArg entries h')

def get? (d : Dictionary α) (key : String) : Option α :=
  Entries.find? key d.entries

/-- Puts a value at a key, in the place of any value there. -/
def insert (d : Dictionary α) (key : String) (value : α) : Dictionary α :=
  ⟨Entries.insert key value d.entries, d.ordered.insert⟩

def erase (d : Dictionary α) (key : String) : Dictionary α :=
  ⟨Entries.erase key d.entries, d.ordered.erase⟩

/-- The entries put one after the other, so that of equal keys the last counts. -/
def ofList (entries : List (String × α)) : Dictionary α :=
  entries.foldl (fun d e => d.insert e.1 e.2) empty

/-- The keys in ascending order. -/
def keys (d : Dictionary α) : List String :=
  d.entries.map (·.1)

def size (d : Dictionary α) : Nat :=
  d.entries.length

def contains (d : Dictionary α) (key : String) : Bool :=
  (d.get? key).isSome

/-- The value at a key passed through a function, a default where there is none. -/
def modify (d : Dictionary α) (key : String) (default : α) (f : α → α) : Dictionary α :=
  d.insert key (f ((d.get? key).getD default))

@[simp] theorem get?_empty (key : String) : (empty : Dictionary α).get? key = none := rfl

@[simp] theorem get?_insert (d : Dictionary α) (key other : String) (value : α) :
    (d.insert key value).get? other = if other = key then some value else d.get? other :=
  Entries.find?_insert key other value d.entries

@[simp] theorem get?_erase (d : Dictionary α) (key other : String) :
    (d.erase key).get? other = if other = key then none else d.get? other :=
  Entries.find?_erase key other d.entries

theorem get?_eq_some {d : Dictionary α} {key : String} {value : α} :
    d.get? key = some value ↔ (key, value) ∈ d.entries :=
  d.ordered.find?_eq_some

theorem nodup_entries (d : Dictionary α) : d.entries.Nodup := by
  refine List.Pairwise.imp ?_ d.ordered
  rintro a b hlt rfl
  exact String.lt_irrefl a.1 hlt

/-- Dictionaries with the same answers are equal. -/
theorem ext_get? {a b : Dictionary α} (h : ∀ key, a.get? key = b.get? key) : a = b := by
  cases a
  cases b
  congr 1
  exact Entries.Ordered.ext ‹_› ‹_› h

end Dictionary

end ShadowTraffic
