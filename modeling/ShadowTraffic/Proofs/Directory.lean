import ShadowTraffic.Directory

/-! # Files that are written

A file that is written is what its path leads to afterwards, and no other file changes. The path is
followed a second time through the directories it was followed through before: putting a file where
there was none leaves every directory a directory.
-/

namespace ShadowTraffic

/-! ## Last pieces -/

namespace Text

/-- Only a separator at the end leaves an empty piece there. -/
theorem getLast?_piecesFrom {c : Char} {cs : List Char} (hcs : cs ≠ [])
    (hlast : cs.getLast? ≠ some c) : (piecesFrom [c] 0 cs).getLast? ≠ some [] := by
  induction cs with
  | nil => exact absurd rfl hcs
  | cons x rest ih =>
    rw [piecesFrom]
    cases rest with
    | nil =>
      have hx : x ≠ c := fun h => hlast (by rw [h]; rfl)
      simp [List.isPrefixOf, piecesFrom, Ne.symm hx]
    | cons y rest =>
      have hrest := ih (List.cons_ne_nil y rest) (by rwa [List.getLast?_cons_cons] at hlast)
      split
      · obtain ⟨p, ps, hps⟩ := List.exists_cons_of_ne_nil (piecesFrom_ne_nil [c] 0 (y :: rest))
        rw [List.length_singleton, Nat.sub_self, hps, List.getLast?_cons_cons, ← hps]
        exact hrest
      · cases hps : piecesFrom [c] 0 (y :: rest) with
        | nil => exact absurd hps (piecesFrom_ne_nil _ _ _)
        | cons p ps =>
          rw [hps] at hrest
          cases ps with
          | nil => simp
          | cons q qs =>
            dsimp only
            rw [List.getLast?_cons_cons] at hrest ⊢
            exact hrest

theorem getLast?_pieces {s : String} (hs : s.toList ≠ []) (hlast : s.toList.getLast? ≠ some '/') :
    (pieces s "/").getLast? ≠ some "" := by
  intro h
  rw [pieces, List.getLast?_map, Option.map_eq_some_iff] at h
  obtain ⟨piece, hpiece, hempty⟩ := h
  have hnil : piece = [] := by simpa using hempty
  rw [hnil] at hpiece
  exact getLast?_piecesFrom hs hlast hpiece

end Text

/-! ## Places in a directory -/

namespace Dictionary

variable {α : Type} {d : Dictionary α} {name key : String} {value : α}

theorem mem_keys : name ∈ d.keys ↔ ∃ value, d.get? name = some value := by
  simp [keys, get?_eq_some]

theorem mem_keys_insert (h : name ∈ d.keys) : name ∈ (d.insert key value).keys := by
  obtain ⟨old, hold⟩ := mem_keys.1 h
  refine mem_keys.2 ?_
  rw [get?_insert]
  split
  · exact ⟨value, rfl⟩
  · exact ⟨old, hold⟩

end Dictionary

namespace Directory

variable {d after : Directory} {parts here rest : List String} {bytes : List UInt8}
  {entry : FileEntry} {path : String}

/-- Puts a file at a place. -/
def put (d : Directory) (parts : List String) (bytes : List UInt8) : Directory :=
  ⟨d.files.insert (join parts) bytes⟩

theorem at?_put_self (h : parts ≠ []) : (d.put parts bytes).at? parts = .file bytes := by
  simp [at?, put, h]

theorem ne_nil_of_at? (h : d.at? parts ≠ .directory) : parts ≠ [] := by
  rintro rfl
  exact h rfl

/-- A place whose file has the same name is the same place. -/
theorem at?_congr (hparts : parts ≠ []) (hhere : here ≠ []) (h : join here = join parts) :
    d.at? here = d.at? parts := by
  simp [at?, hparts, hhere, h]

/-- Directories stay directories when a file is put where there is none. -/
theorem at?_put_directory (hparts : d.at? parts ≠ .directory) (h : d.at? here = .directory) :
    (d.put parts bytes).at? here = .directory := by
  by_cases hhere : here = []
  · rw [hhere]
    rfl
  · have hjoin : join here ≠ join parts := fun hjoin =>
      hparts (at?_congr (ne_nil_of_at? hparts) hhere hjoin ▸ h)
    simp only [at?, List.isEmpty_iff, hhere, if_false, put, Dictionary.get?_insert, hjoin] at h ⊢
    split at h
    next => cases h
    next hnone =>
      split at h
      next hinside =>
        obtain ⟨name, hname, hprefix⟩ := List.any_eq_true.mp hinside
        exact if_pos (List.any_eq_true.mpr ⟨name, Dictionary.mem_keys_insert hname, hprefix⟩)
      next => cases h

/-! ## Paths -/

/-- A part of a path that names something in the directory it is looked up in. -/
def IsName (part : String) : Prop :=
  part ≠ "" ∧ part ≠ "." ∧ part ≠ ".." ∧ part.utf8ByteSize ≤ nameLimit

/-- The ways in which the parts of a path lead from one place to another. -/
inductive Leads (d : Directory) : (here rest parts : List String) → Prop where
  | done {here : List String} : Leads d here [] here
  | stay {here : List String} {part : String} {rest parts : List String}
      (hhere : d.at? here = .directory) (hpart : part = "" ∨ part = ".")
      (hrest : Leads d here rest parts) : Leads d here (part :: rest) parts
  | up {here rest parts : List String} (hhere : d.at? here = .directory) (hinside : here ≠ [])
      (hrest : Leads d here.dropLast rest parts) : Leads d here (".." :: rest) parts
  | last {here : List String} {part : String} (hhere : d.at? here = .directory)
      (hname : IsName part) : Leads d here [part] (here ++ [part])
  /-- Nothing is there, and nothing but slashes follows. -/
  | slashes {here : List String} {part : String} {rest : List String}
      (hrest : rest ≠ []) (hslashes : ∀ piece ∈ rest, piece = "")
      (hmissing : d.at? (here ++ [part]) = .missing) : Leads d here (part :: rest) (here ++ [part])
  | down {here : List String} {part : String} {rest parts : List String}
      (hhere : d.at? here = .directory) (hname : IsName part) (hne : rest ≠ [])
      (hinside : d.at? (here ++ [part]) = .directory)
      (hrest : Leads d (here ++ [part]) rest parts) : Leads d here (part :: rest) parts

section

variable {part : String}

theorem follow_nil : d.follow here [] = (some here, d.at? here) :=
  rfl

/-- One part of a path in a directory: it is passed over, leads up, is too long or is a name. -/
theorem follow_cons (hhere : d.at? here = .directory) :
    d.follow here (part :: rest) =
      if part = "" ∨ part = "." then d.follow here rest
      else if part = ".." then
        if here = [] then (none, outside rest) else d.follow here.dropLast rest
      else if nameLimit < part.utf8ByteSize then (none, .tooLong)
      else if rest = [] then (some (here ++ [part]), d.at? (here ++ [part]))
      else if d.at? (here ++ [part]) = .missing then
        (if rest.all (·.isEmpty) then some (here ++ [part]) else none, .missing)
      else d.follow (here ++ [part]) rest := by
  rw [follow.eq_def]
  cases rest with
  | nil => simp [hhere]
  | cons next rest => cases hentry : d.at? (here ++ [part]) <;> simp [hhere, hentry]

theorem follow_stay (hhere : d.at? here = .directory) (hpart : part = "" ∨ part = ".") :
    d.follow here (part :: rest) = d.follow here rest := by
  rw [follow_cons hhere, if_pos hpart]

theorem follow_up (hhere : d.at? here = .directory) (hinside : here ≠ []) :
    d.follow here (".." :: rest) = d.follow here.dropLast rest := by
  simp [follow_cons hhere, hinside]

section

variable (hhere : d.at? here = .directory) (hname : IsName part)

include hhere hname

/-- A name is neither passed over nor refused. -/
theorem follow_name : d.follow here (part :: rest) =
    if rest = [] then (some (here ++ [part]), d.at? (here ++ [part]))
    else if d.at? (here ++ [part]) = .missing then
      (if rest.all (·.isEmpty) then some (here ++ [part]) else none, .missing)
    else d.follow (here ++ [part]) rest := by
  obtain ⟨hempty, hpoint, hpoints, hshort⟩ := hname
  rw [follow_cons hhere, if_neg (not_or.mpr ⟨hempty, hpoint⟩), if_neg hpoints,
    if_neg (Nat.not_lt.mpr hshort)]

theorem follow_last :
    d.follow here [part] = (some (here ++ [part]), d.at? (here ++ [part])) := by
  rw [follow_name hhere hname, if_pos rfl]

theorem follow_missing (hne : rest ≠ []) (hmissing : d.at? (here ++ [part]) = .missing) :
    d.follow here (part :: rest) =
      (if rest.all (·.isEmpty) then some (here ++ [part]) else none, .missing) := by
  rw [follow_name hhere hname, if_neg hne, if_pos hmissing]

theorem follow_there (hne : rest ≠ []) (hthere : d.at? (here ++ [part]) ≠ .missing) :
    d.follow here (part :: rest) = d.follow (here ++ [part]) rest := by
  rw [follow_name hhere hname, if_neg hne, if_neg hthere]

end

/-- Only a directory is followed further. -/
theorem at?_of_follow_cons (h : d.follow here (part :: rest) = (some parts, entry)) :
    d.at? here = .directory := by
  rw [follow.eq_def] at h
  dsimp only at h
  split at h
  next hhere => exact hhere
  next => cases h
  next => cases h

theorem leads_of_follow (h : d.follow here rest = (some parts, entry)) :
    Leads d here rest parts ∧ d.at? parts = entry := by
  induction rest generalizing here with
  | nil =>
    cases h
    exact ⟨.done, rfl⟩
  | cons part rest ih =>
    have hhere := at?_of_follow_cons h
    by_cases hstay : part = "" ∨ part = "."
    · obtain ⟨hleads, hentry⟩ := ih (follow_stay hhere hstay ▸ h)
      exact ⟨.stay hhere hstay hleads, hentry⟩
    by_cases hup : part = ".."
    · subst hup
      by_cases hinside : here = []
      · rw [follow_cons hhere] at h
        simp [hinside] at h
      · obtain ⟨hleads, hentry⟩ := ih (follow_up hhere hinside ▸ h)
        exact ⟨.up hhere hinside hleads, hentry⟩
    by_cases hlong : nameLimit < part.utf8ByteSize
    · rw [follow_cons hhere, if_neg hstay, if_neg hup, if_pos hlong] at h
      cases h
    have hname : IsName part :=
      ⟨fun h => hstay (.inl h), fun h => hstay (.inr h), hup, Nat.not_lt.mp hlong⟩
    cases rest with
    | nil =>
      rw [follow_last hhere hname] at h
      cases h
      exact ⟨.last hhere hname, rfl⟩
    | cons next rest =>
      have hne := List.cons_ne_nil next rest
      cases hthere : d.at? (here ++ [part]) with
      | missing =>
        rw [follow_missing hhere hname hne hthere] at h
        split at h
        next hslashes =>
          cases h
          refine ⟨.slashes hne (fun piece hpiece => ?_) hthere, hthere⟩
          exact String.isEmpty_iff.mp (List.all_eq_true.mp hslashes piece hpiece)
        next => cases h
      | directory =>
        rw [follow_there hhere hname hne (by rw [hthere]; nofun)] at h
        obtain ⟨hleads, hentry⟩ := ih h
        exact ⟨.down hhere hname hne hthere hleads, hentry⟩
      | file | device | blocked | tooLong =>
        rw [follow_there hhere hname hne (by rw [hthere]; nofun)] at h
        cases hthere.symm.trans (at?_of_follow_cons h)

end

/-- A path that led to a place leads to the file that was put there. -/
theorem Leads.follow_put (h : Leads d here rest parts) (bytes : List UInt8)
    (hparts : d.at? parts ≠ .directory) (hlast : rest.getLast? ≠ some "") :
    (d.put parts bytes).follow here rest = (some parts, .file bytes) := by
  have htail : ∀ {part : String} {rest : List String}, (part :: rest).getLast? ≠ some "" →
      rest.getLast? ≠ some "" := by
    intro part rest hne hempty
    cases rest with
    | nil => cases hempty
    | cons => exact hne (by rwa [List.getLast?_cons_cons])
  induction h with
  | done => rw [follow_nil, at?_put_self (ne_nil_of_at? hparts)]
  | stay hhere hpart _ ih =>
    rw [follow_stay (at?_put_directory hparts hhere) hpart]
    exact ih hparts (htail hlast)
  | up hhere hinside _ ih =>
    rw [follow_up (at?_put_directory hparts hhere) hinside]
    exact ih hparts (htail hlast)
  | last hhere hname =>
    rw [follow_last (at?_put_directory hparts hhere) hname, at?_put_self (ne_nil_of_at? hparts)]
  | slashes hrest hslashes =>
    -- a path that ends in a slash has an empty piece at its end
    obtain ⟨piece, hpiece⟩ := Option.ne_none_iff_exists'.mp (mt List.getLast?_eq_none_iff.mp hrest)
    exact absurd (hpiece.trans (congrArg some (hslashes piece (List.mem_of_getLast? hpiece))))
      (htail hlast)
  | down hhere hname hne hinside _ ih =>
    rw [follow_there (at?_put_directory hparts hhere) hname hne
      (by rw [at?_put_directory hparts hinside]; nofun)]
    exact ih hparts (htail hlast)

/-- A path that leads to a place is one that can be followed from here. -/
theorem resolve_eq_some : d.resolve path = (some parts, entry) ↔
    path.utf8ByteSize ≤ pathLimit ∧ path.toList ≠ [] ∧ path.toList.head? ≠ some '/' ∧
      d.follow [] (Text.pieces path "/") = (some parts, entry) := by
  unfold resolve
  by_cases hlong : path.utf8ByteSize > pathLimit
  · simp [hlong, Nat.not_le.mpr hlong]
  · rw [if_neg hlong]
    have hshort : path.utf8ByteSize ≤ pathLimit := Nat.not_lt.mp hlong
    split
    next hempty => simp [hempty]
    next hroot => simp [hroot]
    next hempty hroot =>
      have hhead : path.toList.head? ≠ some '/' := fun hhead => by
        obtain ⟨rest, hrest⟩ := List.head?_eq_some_iff.mp hhead
        exact hroot rest hrest
      simp [hshort, hhead, show path.toList ≠ [] from hempty]

/-! ## Writing -/

/-- Writing leads to a place that is no directory, and puts the file there. -/
theorem write_eq_ok (h : d.write path bytes = .ok after) :
    ∃ parts entry, d.resolve path = (some parts, entry) ∧ entry ≠ .directory ∧
      path.toList.getLast? ≠ some '/' ∧ after = d.put parts bytes := by
  unfold write at h
  cases hresolve : d.resolve path with
  | mk place entry =>
    rw [hresolve] at h
    cases place with
    | none => cases entry <;> cases h
    | some parts =>
      cases entry with
      | directory | blocked | tooLong => cases h
      | file | device | missing =>
        dsimp only at h
        split at h
        next => cases h
        next hlast =>
          cases h
          exact ⟨parts, _, rfl, nofun, by simpa using hlast, rfl⟩

/-- A file that was written is what its path leads to. -/
theorem view_write (h : d.write path bytes = .ok after) : after.view path = .file bytes := by
  obtain ⟨parts, entry, hresolve, hentry, hlast, rfl⟩ := write_eq_ok h
  obtain ⟨hshort, hempty, hroot, hfollow⟩ := resolve_eq_some.1 hresolve
  obtain ⟨hleads, rfl⟩ := leads_of_follow hfollow
  have hput := hleads.follow_put bytes hentry (Text.getLast?_pieces hempty hlast)
  exact congrArg Prod.snd (resolve_eq_some.2 ⟨hshort, hempty, hroot, hput⟩)

/-- Where nothing was there before, no file changes. -/
theorem get?_write {name : String} {old : List UInt8} (h : d.write path bytes = .ok after)
    (hnone : (d.view path).isThere = false) (hname : d.files.get? name = some old) :
    after.files.get? name = some old := by
  obtain ⟨parts, entry, hresolve, hentry, -, rfl⟩ := write_eq_ok h
  obtain ⟨-, -, -, hfollow⟩ := resolve_eq_some.1 hresolve
  obtain ⟨-, rfl⟩ := leads_of_follow hfollow
  have hother : name ≠ join parts := by
    rintro rfl
    have hview : d.view path = .file old := by
      rw [view, hresolve]
      simp [at?, ne_nil_of_at? hentry, hname]
    rw [hview] at hnone
    cases hnone
  rw [put, Dictionary.get?_insert, if_neg hother, hname]

end Directory

end ShadowTraffic
