import Mathlib.Data.List.Perm.Lattice
import ShadowTraffic.Dictionary

/-! # Writes one after the other

Where every write either settles what is read at a place or leaves it, the last that settles it
counts. A dictionary is filled in this way, and reading all its entries one after the other comes
to asking it.
-/

namespace ShadowTraffic

/-- What is read after a list of writes: the last one that settles it, or else what was there. -/
theorem read_foldl {σ ε β : Type} (read : σ → Option β) {write : σ → ε → σ}
    {settles : ε → Option β} (h : ∀ s e, read (write s e) = (settles e).or (read s))
    (writes : List ε) (s : σ) :
    read (writes.foldl write s) = (writes.reverse.findSome? settles).or (read s) := by
  induction writes generalizing s with
  | nil => simp
  | cons e rest ih =>
    calc read ((e :: rest).foldl write s)
        = (rest.reverse.findSome? settles).or ((settles e).or (read s)) := by
          rw [List.foldl_cons, ih, h]
      _ = ((e :: rest).reverse.findSome? settles).or (read s) := by
          rw [List.reverse_cons, List.findSome?_append, ← Option.or_assoc]
          simp

/-- Keys that each bring what they find bring the value of one key if that is among them. -/
theorem findSome?_key {β : Type} (keys : List String) (key : String) (value : Option β) :
    keys.findSome? (fun k => if key = k then value else none) =
      if key ∈ keys then value else none := by
  induction keys with
  | nil => rfl
  | cons k rest ih => by_cases h : key = k <;> cases value <;> simp [h, ih]

namespace Dictionary

variable {α : Type}

/-- What an entry says about a key. -/
def valueAt (key : String) (e : String × α) : Option α :=
  if key = e.1 then some e.2 else none

theorem valueAt_eq_some {key : String} {e : String × α} {value : α} :
    valueAt key e = some value ↔ e = (key, value) := by
  unfold valueAt
  split
  next h => simp [h, Prod.ext_iff, eq_comm]
  next h => simp [Prod.ext_iff, eq_comm, h]

theorem get?_insert_or (d : Dictionary α) (e : String × α) (key : String) :
    (d.insert e.1 e.2).get? key = (valueAt key e).or (d.get? key) := by
  rw [get?_insert, valueAt]
  split <;> rfl

theorem get?_foldl_insert (entries : List (String × α)) (d : Dictionary α) (key : String) :
    (entries.foldl (fun d e => d.insert e.1 e.2) d).get? key =
      (entries.reverse.findSome? (valueAt key)).or (d.get? key) :=
  read_foldl (·.get? key) (fun d e => d.get?_insert_or e key) entries d

/-- A new entry, in its place among the others. -/
theorem perm_insert {d : Dictionary α} {key : String}
    (h : d.get? key = none) (value : α) :
    (d.insert key value).entries.Perm ((key, value) :: d.entries) := by
  have hnew (other : α) : (key, other) ∉ d.entries := by
    rw [← get?_eq_some, h]
    simp
  refine (List.perm_ext_iff_of_nodup (nodup_entries _)
    (List.nodup_cons.mpr ⟨hnew value, nodup_entries d⟩)).mpr fun e => ?_
  obtain ⟨other, found⟩ := e
  rw [← get?_eq_some, get?_insert, List.mem_cons, ← get?_eq_some]
  split
  next hkey =>
    subst hkey
    simp [h, eq_comm]
  next hkey => simp [hkey]

theorem contains_ofList {entries : List (String × α)} {key : String} :
    (ofList entries).contains key = true ↔ ∃ value, (key, value) ∈ entries := by
  rw [contains, ofList, get?_foldl_insert, get?_empty, Option.or_none, List.findSome?_isSome_iff]
  constructor
  · rintro ⟨e, he, hsome⟩
    obtain ⟨value, hvalue⟩ := Option.isSome_iff_exists.1 hsome
    exact ⟨value, valueAt_eq_some.1 hvalue ▸ List.mem_reverse.1 he⟩
  · rintro ⟨value, he⟩
    exact ⟨_, List.mem_reverse.2 he, Option.isSome_iff_exists.2 ⟨value, valueAt_eq_some.2 rfl⟩⟩

theorem findSome?_entries (d : Dictionary α) (key : String) :
    d.entries.reverse.findSome? (valueAt key) = d.get? key := by
  have hread {value : α} (h : d.entries.reverse.findSome? (valueAt key) = some value) :
      d.get? key = some value := by
    obtain ⟨e, he, hvalue⟩ := List.exists_of_findSome?_eq_some h
    rw [get?_eq_some, ← valueAt_eq_some.1 hvalue]
    exact List.mem_reverse.1 he
  cases h : d.entries.reverse.findSome? (valueAt key) with
  | some value => exact (hread h).symm
  | none =>
    cases hkey : d.get? key with
    | none => rfl
    | some value =>
      have hmem := List.mem_reverse.2 (get?_eq_some.1 hkey)
      have hnone := List.findSome?_eq_none_iff.1 h _ hmem
      rw [valueAt_eq_some.2 rfl] at hnone
      cases hnone

theorem contains_iff {d : Dictionary Unit} {key : String} :
    d.contains key = true ↔ key ∈ d.keys := by
  simp only [contains, Option.isSome_iff_exists, get?_eq_some, keys, List.mem_map]
  constructor
  · rintro ⟨value, h⟩
    exact ⟨_, h, rfl⟩
  · rintro ⟨e, h, rfl⟩
    exact ⟨e.2, h⟩

end Dictionary

end ShadowTraffic
