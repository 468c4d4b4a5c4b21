import ShadowTraffic.Proofs.Traffic.Headers

/-! # What headers take and what they show

Headers hold more than they show: a value may have bytes beyond ASCII, which are written and not
read. So what arrives is settled in two steps. Of the entries whose keys are one name up to case,
the last that can be written stands, in the order of the keys' bytes; it is read if all its bytes
are visible, and hides what was there before even if they are not. An entry that cannot be written
does nothing.
-/

namespace ShadowTraffic

/-! ## ASCII -/

theorem toNat_ofNat_of_le {n : Nat} (h : n ≤ 0x7F) : (Char.ofNat n).toNat = n := by
  have hvalid : n.isValidChar := .inl (by omega)
  rw [Char.ofNat, dif_pos hvalid]
  exact UInt32.toNat_ofNatLT

theorem toNat_le_of_isAlphanum {c : Char} (h : c.isAlphanum = true) : c.toNat ≤ 0x7F := by
  delta Char.isAlphanum Char.isAlpha Char.isUpper Char.isLower Char.isDigit at h
  grind [Char.toNat_val, UInt32.le_iff_toNat_le]

/-- ASCII characters are ordered as their bytes are. -/
theorem bytes_lt_of_lt {a b : List Char} (ha : ∀ c ∈ a, c.toNat ≤ 0x7F)
    (hb : ∀ c ∈ b, c.toNat ≤ 0x7F) (h : a < b) :
    (a.map fun c => UInt8.ofNat c.toNat) < b.map fun c => UInt8.ofNat c.toNat := by
  induction a generalizing b with
  | nil =>
    cases b with
    | nil => exact absurd h (List.lt_irrefl [])
    | cons d rest => exact List.nil_lt_cons _ _
  | cons c as ih =>
    cases b with
    | nil => exact absurd h (List.not_lt_nil _)
    | cons d bs =>
      have hc := ha c List.mem_cons_self
      have hd := hb d List.mem_cons_self
      rw [List.cons_lt_cons_iff] at h
      rw [List.map_cons, List.map_cons, List.cons_lt_cons_iff]
      rcases h with hlt | ⟨heq, hrest⟩
      · left
        have hlt : c.toNat < d.toNat := hlt
        rw [UInt8.lt_iff_toNat_lt, UInt8.toNat_ofNat', UInt8.toNat_ofNat']
        omega
      · right
        have hlast := ih (fun x hx => ha x (List.mem_cons_of_mem _ hx))
          (fun x hx => hb x (List.mem_cons_of_mem _ hx)) hrest
        exact ⟨congrArg (fun x : Char => UInt8.ofNat x.toNat) heq, hlast⟩

namespace Headers

/-! ## Values -/

/-- An entry that headers take: its key is a name, and its value has no control byte but the tab
and no delete. -/
def Writable (e : String × String) : Prop :=
  isName e.1 = true ∧ ∀ b ∈ e.2.toUTF8.toList, (b.toNat < 0x20 → b.toNat = 0x09) ∧ b.toNat ≠ 0x7F

instance (e : String × String) : Decidable (Writable e) :=
  inferInstanceAs (Decidable (_ ∧ _))

/-- A value that is read back: printable ASCII and tabs. -/
def Visible (v : HeaderValue) : Prop :=
  ∀ b ∈ v, b.toNat = 0x09 ∨ 0x20 ≤ b.toNat ∧ b.toNat ≤ 0x7E

instance (v : HeaderValue) : Decidable (Visible v) :=
  inferInstanceAs (Decidable (∀ b ∈ v, _))

theorem isValueByte_iff {b : UInt8} :
    isValueByte b = true ↔ (b.toNat < 0x20 → b.toNat = 0x09) ∧ b.toNat ≠ 0x7F := by
  simp only [isValueByte, Bool.or_eq_true, Bool.and_eq_true, decide_eq_true_eq, beq_iff_eq,
    bne_iff_ne, ne_eq, ← UInt8.toNat_inj, ge_iff_le, UInt8.le_iff_toNat_le, UInt8.toNat_ofNat]
  omega

theorem written?_eq (e : String × String) :
    written? e = if Writable e then some e.2.toUTF8.toList else none := by
  have hbytes : e.2.toUTF8.toList.all isValueByte = true ↔
      ∀ b ∈ e.2.toUTF8.toList, (b.toNat < 0x20 → b.toNat = 0x09) ∧ b.toNat ≠ 0x7F := by
    simp only [List.all_eq_true, isValueByte_iff]
  by_cases hname : isName e.1 = true
  · simp only [written?, valueOfText?, Writable, hname, if_true, hbytes, true_and]
  · simp [written?, Writable, hname]

/-- A value that is read is the bytes of the text that it is read as. -/
theorem textOfValue?_eq_some {v : HeaderValue} {s : String} :
    textOfValue? v = some s ↔ Visible v ∧ s.toUTF8.toList = v := by
  have hall : v.all isVisibleByte = true ↔ Visible v := by
    simp only [List.all_eq_true, isVisibleByte_iff, Visible]
  have hshown (hv : Visible v) :
      (String.ofList (v.map fun b => Char.ofNat b.toNat)).toUTF8.toList = v := by
    have hencode : ∀ b ∈ v, String.utf8EncodeChar (Char.ofNat b.toNat) = [b] := by
      intro b hb
      have hvisible := hv b hb
      have hchar : (Char.ofNat b.toNat).toNat = b.toNat := toNat_ofNat_of_le (by omega)
      rw [utf8EncodeChar_of_le (by omega), hchar, UInt8.ofNat_toNat]
    rw [toUTF8_toList, String.toList_ofList, List.flatMap_map, List.flatMap_congr hencode,
      List.flatMap_singleton']
  unfold textOfValue?
  constructor
  · intro htext
    split at htext
    next hvisible =>
      have hv := hall.1 hvisible
      cases htext
      exact ⟨hv, hshown hv⟩
    · cases htext
  · intro h
    rw [if_pos (hall.2 h.1)]
    apply congrArg some
    apply toUTF8_toList_inj
    rw [hshown h.1, h.2]

/-- What is read of a text that was written. -/
theorem textOfValue?_toUTF8 (s : String) :
    textOfValue? s.toUTF8.toList = if Visible s.toUTF8.toList then some s else none := by
  split
  next hv => exact textOfValue?_eq_some.2 ⟨hv, rfl⟩
  next hv =>
    apply Option.eq_none_iff_forall_ne_some.2
    intro other hother
    exact hv (textOfValue?_eq_some.1 hother).1

/-! ## Names -/

theorem toNat_le_of_isTokenChar {c : Char} (h : isTokenChar c = true) : c.toNat ≤ 0x7F := by
  have hmarks : ∀ d ∈ "!#$%&'*+-.^_`|~".toList, d.toNat ≤ 0x7F := by simp
  rw [isTokenChar, Bool.or_eq_true] at h
  cases h with
  | inl halphanum => exact toNat_le_of_isAlphanum halphanum
  | inr hmark => exact hmarks c (List.contains_iff_mem.1 hmark)

theorem ascii_of_isName {s : String} (h : isName s = true) : ∀ c ∈ s.toList, c.toNat ≤ 0x7F := by
  intro c hc
  rw [isName, Bool.and_eq_true, List.all_eq_true] at h
  exact toNat_le_of_isTokenChar (h.2 c hc)

/-- Names are ordered as their bytes are. -/
theorem toUTF8_lt_of_lt {a b : String} (ha : isName a = true) (hb : isName b = true) (h : a < b) :
    a.toUTF8.toList < b.toUTF8.toList := by
  rw [toUTF8_of_ascii (ascii_of_isName ha), toUTF8_of_ascii (ascii_of_isName hb)]
  exact bytes_lt_of_lt (ascii_of_isName ha) (ascii_of_isName hb) h

/-! ## Injections -/

/-- Why an entry was not written. -/
def refusal (e : String × String) : CarrierError :=
  if isName e.1 then .invalidValue e.1 else .invalidKey e.1

/-- Headers after those entries that they take; each stands in the place of what its name had. -/
def taking (h : Headers) (entries : List (String × String)) : Headers :=
  (entries.filter (Writable ·)).foldl (fun h e => h.set e.1 e.2.toUTF8.toList) h

theorem add_of_writable {i : Injection} {h : Headers} (hi : i.carrier = .headers h)
    {e : String × String} (he : Writable e) : i.add e.1 e.2 =
      { i with carrier := .headers (h.set e.1 e.2.toUTF8.toList), written := i.written + 1 } := by
  have hvalue := written?_eq e
  rw [written?, if_pos he.1, if_pos he] at hvalue
  simp only [Injection.add, hi, Carrier.set, he.1, if_true, hvalue]

theorem add_of_not_writable {i : Injection} {h : Headers} (hi : i.carrier = .headers h)
    {e : String × String} (he : ¬ Writable e) : i.add e.1 e.2 =
      { i with skipped := i.skipped ++ [(e.1, refusal e)] } := by
  by_cases hname : isName e.1 = true
  · have hvalue := written?_eq e
    rw [written?, if_pos hname, if_neg he] at hvalue
    simp only [Injection.add, hi, Carrier.set, hname, if_true, hvalue, refusal]
  · simp only [Injection.add, hi, Carrier.set, hname, refusal, if_false, Bool.false_eq_true]

/-- An injection takes the writable entries and reports the others, in their order. -/
theorem inject_eq (t : TrafficContext) (h : Headers) : t.inject (.headers h) =
    { carrier := .headers (h.taking t.entries.entries)
      written := t.entries.entries.countP (Writable ·)
      skipped := (t.entries.entries.filter fun e => ¬ Writable e).map fun e => (e.1, refusal e) } := by
  have hfold (entries : List (String × String)) (h : Headers) (written : Nat)
      (skipped : List (String × CarrierError)) :
      entries.foldl (fun i e => i.add e.1 e.2)
          ({ carrier := .headers h, written, skipped } : Injection) =
        { carrier := .headers (h.taking entries)
          written := written + entries.countP (Writable ·)
          skipped := skipped ++
            (entries.filter fun e => ¬ Writable e).map fun e => (e.1, refusal e) } := by
    induction entries generalizing h written skipped with
    | nil => simp [taking]
    | cons e rest ih =>
      by_cases he : Writable e
      · rw [List.foldl_cons, add_of_writable rfl he, ih]
        simp [taking, he, Nat.add_assoc, Nat.add_comm 1]
      · rw [List.foldl_cons, add_of_not_writable rfl he, ih]
        simp [taking, he]
  have hall := hfold t.entries.entries h 0 []
  rw [Nat.zero_add, List.nil_append] at hall
  exact hall

/-- Names that no writable entry has keep their values. -/
theorem get?_taking {name : String} {entries : List (String × String)}
    (hother : ∀ e ∈ entries, Writable e → Text.asciiLower e.1 ≠ name) (h : Headers) :
    (h.taking entries).fields.get? name = h.fields.get? name := by
  unfold taking
  induction entries generalizing h with
  | nil => rfl
  | cons e rest ih =>
    have hrest := ih fun x hx => hother x (List.mem_cons_of_mem _ hx)
    by_cases he : Writable e
    · have hne := hother e List.mem_cons_self he
      rw [List.filter_cons_of_pos (by simpa using he), List.foldl_cons, hrest, set,
        Dictionary.get?_insert, if_neg (Ne.symm hne)]
    · rw [List.filter_cons_of_neg (by simpa using he), hrest]

/-! ## The entry that stands -/

/-- The last writable entry of a context whose key is a name up to case, in the order of the
keys' bytes. -/
structure LastUnder (t : TrafficContext) (name : String) (e : String × String) : Prop where
  held : t.get? e.1 = some e.2
  writable : Writable e
  same : Text.sameAscii name e.1 = true
  last : ∀ other : String × String, t.get? other.1 = some other.2 → Writable other →
    Text.sameAscii name other.1 = true → other ≠ e →
      other.1.toUTF8.toList < e.1.toUTF8.toList

theorem valueAt_of_writable {name : String} {e : String × String} (he : Writable e)
    (hsame : Text.sameAscii name e.1 = true) : valueAt name e = some e.2.toUTF8.toList := by
  rw [valueAt, if_pos hsame, written?_eq, if_pos he]

theorem valueAt_eq_none {name : String} {e : String × String} :
    valueAt name e = none ↔ ¬ (Writable e ∧ Text.sameAscii name e.1 = true) := by
  constructor
  · intro hnone h
    rw [valueAt_of_writable h.1 h.2] at hnone
    cases hnone
  · intro h
    rw [valueAt, written?_eq]
    split
    next hsame => exact if_neg fun he => h ⟨he, hsame⟩
    · rfl

/-- The entries stand in the order of their keys, so the last of a name is the last that says
something about it. -/
theorem lastUnder_iff {t : TrafficContext} {name : String} {e : String × String} :
    LastUnder t name e ↔ Writable e ∧ Text.sameAscii name e.1 = true ∧
      ∃ earlier later, t.entries.entries = earlier ++ e :: later ∧
        ∀ x ∈ later, valueAt name x = none := by
  constructor
  · intro h
    have hmem := Dictionary.get?_eq_some.1 h.held
    obtain ⟨earlier, later, hsplit⟩ := List.append_of_mem hmem
    have hordered := t.entries.ordered
    rw [Entries.Ordered, hsplit, List.pairwise_append, List.pairwise_cons] at hordered
    refine ⟨h.writable, h.same, earlier, later, hsplit, ?_⟩
    intro x hx
    rw [valueAt_eq_none]
    intro htold
    have hlt : e.1 < x.1 := hordered.2.1.1 x hx
    have hheld : t.get? x.1 = some x.2 := Dictionary.get?_eq_some.2 (by simp [hsplit, hx])
    have hne : x ≠ e := fun heq => String.lt_irrefl e.1 (heq ▸ hlt)
    exact List.lt_asymm (toUTF8_lt_of_lt h.writable.1 htold.1.1 hlt)
      (h.last x hheld htold.1 htold.2 hne)
  · intro h
    obtain ⟨he, hsame, earlier, later, hsplit, hlater⟩ := h
    have hordered := t.entries.ordered
    rw [Entries.Ordered, hsplit, List.pairwise_append] at hordered
    refine ⟨Dictionary.get?_eq_some.2 (by simp [hsplit]), he, hsame, ?_⟩
    intro other hheld hother hsame' hne
    have hmem : other ∈ earlier ++ e :: later := hsplit ▸ Dictionary.get?_eq_some.1 hheld
    rcases List.mem_append.1 hmem with hearlier | hrest
    · exact toUTF8_lt_of_lt hother.1 he.1 (hordered.2.2 other hearlier e List.mem_cons_self)
    · rcases List.mem_cons.1 hrest with rfl | hx
      · exact absurd rfl hne
      · exact absurd ⟨hother, hsame'⟩ (valueAt_eq_none.1 (hlater other hx))

theorem LastUnder.findSome?_eq {t : TrafficContext} {name : String} {e : String × String}
    (h : LastUnder t name e) :
    t.entries.entries.reverse.findSome? (valueAt name) = some e.2.toUTF8.toList := by
  obtain ⟨he, hsame, earlier, later, hsplit, hlater⟩ := lastUnder_iff.1 h
  have hnone : later.reverse.findSome? (valueAt name) = none :=
    List.findSome?_eq_none_iff.2 fun x hx => hlater x (List.mem_reverse.1 hx)
  rw [hsplit, List.reverse_append, List.reverse_cons, List.append_assoc, List.findSome?_append,
    hnone]
  simp [valueAt_of_writable he hsame]

theorem exists_lastUnder (t : TrafficContext) (name : String) : (∃ e, LastUnder t name e) ∨
    ∀ e : String × String, t.get? e.1 = some e.2 → Writable e →
      Text.sameAscii name e.1 = false := by
  cases hfound : t.entries.entries.reverse.findSome? (valueAt name) with
  | some v =>
    obtain ⟨later, e, earlier, hsplit, hvalue, hlater⟩ := List.findSome?_eq_some_iff.1 hfound
    have htold : Writable e ∧ Text.sameAscii name e.1 = true :=
      Classical.not_not.1 fun h => by simp [valueAt_eq_none.2 h] at hvalue
    have hentries : t.entries.entries = earlier.reverse ++ e :: later.reverse := by
      rw [← List.reverse_reverse t.entries.entries, hsplit]
      simp
    refine .inl ⟨e, lastUnder_iff.2 ⟨htold.1, htold.2, _, _, hentries, ?_⟩⟩
    intro x hx
    exact hlater x (List.mem_reverse.1 hx)
  | none =>
    right
    intro e hheld he
    have hmem := List.mem_reverse.2 (Dictionary.get?_eq_some.1 hheld)
    have hnone := List.findSome?_eq_none_iff.1 hfound e hmem
    rw [← Bool.not_eq_true]
    intro hsame
    exact valueAt_eq_none.1 hnone ⟨he, hsame⟩

end Headers

open Headers

namespace Rules

/-- What becomes of a context that is written into headers, and what is adopted there. -/
structure ExactOverHeaders (r : Rules) (t : TrafficContext) (h : Headers) : Prop where
  /-- The writable entries are written and counted, each in the place of what its name had; the
  others are reported and change nothing. -/
  injection : t.inject (.headers h) =
    { carrier := .headers (h.taking t.entries.entries)
      written := t.entries.entries.countP (Writable ·)
      skipped := (t.entries.entries.filter fun e => ¬ Writable e).map fun e => (e.1, refusal e) }
  /-- Either some entry is the last writable one under a name, or no writable entry has it. -/
  settled : ∀ name, (∃ e, LastUnder t name e) ∨
    ∀ e : String × String, t.get? e.1 = some e.2 → Writable e → Text.sameAscii name e.1 = false
  /-- Under a propagation key the last writable entry of that name is read, if it is visible, and
  nothing otherwise. -/
  last : ∀ key e, r.Travels key → LastUnder t key e →
    (r.adopt (t.inject (.headers h)).carrier).get? key =
      if Visible e.2.toUTF8.toList then some e.2 else none
  /-- Under a propagation key that no writable entry has, what was there before is read as far as
  it is visible. -/
  before : ∀ key, r.Travels key → isName key = true →
    (∀ e : String × String, t.get? e.1 = some e.2 → Writable e →
      Text.sameAscii key e.1 = false) →
    ∀ s, (r.adopt (t.inject (.headers h)).carrier).get? key = some s ↔
      ∃ v, h.first? key = some v ∧ Visible v ∧ s.toUTF8.toList = v
  unnamed : ∀ key, isName key = false →
    (r.adopt (t.inject (.headers h)).carrier).get? key = none
  unknown : ∀ key, ¬ r.Travels key → (r.adopt (t.inject (.headers h)).carrier).get? key = none
  /-- A name that no writable entry has keeps all its values. -/
  kept : ∀ name, (∀ e : String × String, t.get? e.1 = some e.2 → Writable e →
      Text.asciiLower e.1 ≠ name) →
    (h.taking t.entries.entries).fields.get? name = h.fields.get? name

/-- What headers hold after an injection, and what is adopted from them, for all rules, contexts
and headers. -/
theorem exact_over_headers (r : Rules) (t : TrafficContext) (h : Headers) :
    r.ExactOverHeaders t h := by
  have hread {key : String} (htravels : r.Travels key) (hname : isName key = true) :
      (r.adopt (t.inject (.headers h)).carrier).get? key =
        ((t.entries.entries.reverse.findSome? (Headers.valueAt key)).or (h.first? key)).bind
          textOfValue? := by
    rw [get?_adopt, if_pos htravels, TrafficContext.inject_headers, Carrier.get?,
      first?_foldl_put hname]
  constructor
  case injection => exact inject_eq t h
  case settled => exact exists_lastUnder t
  case last =>
    intro key e htravels hlast
    have hname : isName key = true := (isName_congr hlast.same).trans hlast.writable.1
    rw [hread htravels hname, hlast.findSome?_eq]
    exact textOfValue?_toUTF8 e.2
  case before =>
    intro key htravels hname hnothing s
    have hnone : t.entries.entries.reverse.findSome? (Headers.valueAt key) = none := by
      apply List.findSome?_eq_none_iff.2
      intro e he
      rw [valueAt_eq_none]
      intro htold
      have hdiffers := hnothing e (Dictionary.get?_eq_some.2 (List.mem_reverse.1 he)) htold.1
      rw [htold.2] at hdiffers
      cases hdiffers
    rw [hread htravels hname, hnone, Option.none_or, Option.bind_eq_some_iff]
    simp only [textOfValue?_eq_some]
  case unnamed =>
    intro key hname
    rw [get?_adopt, TrafficContext.inject_headers, Carrier.get?, first?, hname]
    exact ite_self none
  case unknown =>
    intro key hstays
    rw [get?_adopt, if_neg hstays]
  case kept =>
    intro name hother
    apply get?_taking
    intro e he
    exact hother e (Dictionary.get?_eq_some.2 he)

-- the later entry of one name stands and cannot be read, so neither the earlier nor the old one is
example :
    let r := Rules.default.withPropagationKey "tenant"
    let t := (({} : TrafficContext).insert "Tenant" "1").insert "tenant" "\u00e9"
    let h := ({} : Headers).set "TENANT" [0x30]
    (t.inject (.headers h)).written = 2 ∧
      (r.adopt (t.inject (.headers h)).carrier).get? "tenant" = none := by
  decide +kernel

end Rules

end ShadowTraffic
