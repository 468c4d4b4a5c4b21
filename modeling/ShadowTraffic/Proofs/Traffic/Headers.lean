import Mathlib.Data.List.Pairwise
import ShadowTraffic.Proofs.Text.Utf8
import ShadowTraffic.Proofs.Traffic.Transport

/-! # Contexts in headers

Header names know no case, context keys do. Entries are written in the order of their keys, and of
those whose keys are one name the last stands, which is then read under each of the keys. So a
context arrives as it was exactly when no other propagation key is one name with a key it holds.
-/

namespace ShadowTraffic

theorem Text.sameAscii_comm {a b : String} : sameAscii a b = sameAscii b a := by
  rw [Bool.eq_iff_iff, sameAscii_iff, sameAscii_iff, eq_comm]

namespace Headers

/-! ## Texts as header values -/

/-- A character that a header value shows as it is. -/
def isShown (c : Char) : Bool :=
  c == '\t' || (0x20 ≤ c.toNat && c.toNat ≤ 0x7E)

theorem isShown_iff {c : Char} :
    isShown c = true ↔ c.toNat = 0x09 ∨ 0x20 ≤ c.toNat ∧ c.toNat ≤ 0x7E := by
  have htab : c = '\t' ↔ c.toNat = 0x09 := Char.toNat_inj.symm
  simp [isShown, htab]

theorem isVisibleByte_iff {b : UInt8} :
    isVisibleByte b = true ↔ b.toNat = 0x09 ∨ 0x20 ≤ b.toNat ∧ b.toNat ≤ 0x7E := by
  simp only [isVisibleByte, Bool.or_eq_true, Bool.and_eq_true, decide_eq_true_eq, beq_iff_eq,
    ← UInt8.toNat_inj, ge_iff_le, UInt8.le_iff_toNat_le, UInt8.lt_iff_toNat_lt, UInt8.toNat_ofNat]
  omega

theorem isValueByte_of_isVisibleByte {b : UInt8} (h : isVisibleByte b = true) :
    isValueByte b = true := by
  have hb := isVisibleByte_iff.1 h
  simp only [isValueByte, Bool.or_eq_true, Bool.and_eq_true, decide_eq_true_eq, beq_iff_eq,
    bne_iff_ne, ne_eq, ← UInt8.toNat_inj, ge_iff_le, UInt8.le_iff_toNat_le, UInt8.toNat_ofNat]
  omega

theorem byte_of_isShown {c : Char} (h : isShown c = true) :
    ∃ b, String.utf8EncodeChar c = [b] ∧ isVisibleByte b = true ∧ Char.ofNat b.toNat = c := by
  have hc := isShown_iff.1 h
  have hascii : c.toNat ≤ 0x7F := by omega
  refine ⟨UInt8.ofNat c.toNat, utf8EncodeChar_of_le hascii, ?_, ?_⟩
  · rw [isVisibleByte_iff, toNat_byte_of_le hascii]
    exact hc
  · rw [toNat_byte_of_le hascii, Char.ofNat_toNat]

/-- A text of shown characters is written as a value that is read back as that text. -/
theorem textOfValue?_valueOfText? {s : String} (h : s.toList.all isShown = true) :
    ∃ v, valueOfText? s = some v ∧ textOfValue? v = some s := by
  have hencoded : ∀ cs : List Char, cs.all isShown = true →
      (cs.flatMap String.utf8EncodeChar).all isVisibleByte = true ∧
        (cs.flatMap String.utf8EncodeChar).map (fun b => Char.ofNat b.toNat) = cs := by
    intro cs
    induction cs with
    | nil => simp
    | cons c rest ih =>
      intro hcs
      rw [List.all_cons, Bool.and_eq_true] at hcs
      obtain ⟨b, hb, hvisible, hback⟩ := byte_of_isShown hcs.1
      obtain ⟨hvisibles, hbacks⟩ := ih hcs.2
      simp [hb, hvisible, hback, hvisibles, hbacks]
  obtain ⟨hvisibles, hback⟩ := hencoded s.toList h
  rw [← toUTF8_toList] at hvisibles hback
  have hvalues : s.toUTF8.toList.all isValueByte = true :=
    List.all_eq_true.2 fun b hb => isValueByte_of_isVisibleByte (List.all_eq_true.1 hvisibles b hb)
  refine ⟨s.toUTF8.toList, if_pos hvalues, ?_⟩
  rw [textOfValue?, if_pos hvisibles, hback, String.ofList_toList]

/-! ## Names -/

theorem isAlphanum_toLower (c : Char) : c.toLower.isAlphanum = c.isAlphanum := by
  delta Char.isAlphanum Char.isAlpha Char.isUpper Char.isLower Char.isDigit Char.toLower
  split <;> grind [UInt32.toNat_add, Char.toNat_val]

theorem toLower_of_not_isAlphanum {c : Char} (h : ¬ c.isAlphanum = true) : c.toLower = c := by
  delta Char.isAlphanum Char.isAlpha Char.isUpper at h
  delta Char.toLower
  grind

theorem isTokenChar_toLower (c : Char) : isTokenChar c.toLower = isTokenChar c := by
  rw [isTokenChar, isTokenChar, Text.isAsciiAlphanumeric, Text.isAsciiAlphanumeric,
    isAlphanum_toLower]
  by_cases h : c.isAlphanum = true
  · simp [h]
  · rw [toLower_of_not_isAlphanum h]

theorem isName_asciiLower (s : String) : isName (Text.asciiLower s) = isName s := by
  have htoken : isTokenChar ∘ Char.toLower = isTokenChar := funext isTokenChar_toLower
  have hempty : (Text.asciiLower s).isEmpty = s.isEmpty := by
    rw [Bool.eq_iff_iff, String.isEmpty_iff, String.isEmpty_iff, ← String.toList_inj,
      ← String.toList_inj]
    simp [Text.asciiLower]
  rw [isName, hempty]
  simp [isName, Text.asciiLower, htoken]

theorem isName_congr {a b : String} (h : Text.sameAscii a b = true) : isName a = isName b := by
  rw [← isName_asciiLower a, Text.sameAscii_iff.1 h, isName_asciiLower]

/-- A name is read in whatever letters it is given. -/
theorem first?_congr {a b : String} (hsame : Text.sameAscii a b = true) (h : Headers) :
    h.first? a = h.first? b := by
  rw [first?, first?, isName_congr hsame, Text.sameAscii_iff.1 hsame]

/-! ## Entries as headers -/

/-- The value that an entry is written as, where a header can hold it. -/
def written? (e : String × String) : Option HeaderValue :=
  if isName e.1 then valueOfText? e.2 else none

/-- Headers after an entry; one that they cannot hold is left out. -/
def put (h : Headers) (e : String × String) : Headers :=
  match written? e with
  | some v => h.set e.1 v
  | none => h

/-- What an entry says about a name. -/
def valueAt (name : String) (e : String × String) : Option HeaderValue :=
  if Text.sameAscii name e.1 then written? e else none

theorem valueAt_eq_some {name : String} {e : String × String} {v : HeaderValue} :
    valueAt name e = some v ↔ Text.sameAscii name e.1 = true ∧ written? e = some v := by
  unfold valueAt
  split <;> simp_all

theorem first?_put {name : String} (hname : isName name = true) (h : Headers)
    (e : String × String) : (h.put e).first? name = (valueAt name e).or (h.first? name) := by
  cases hwritten : written? e with
  | none => simp [put, valueAt, hwritten]
  | some v =>
    by_cases hsame : Text.asciiLower name = Text.asciiLower e.1
    · simp [put, valueAt, hwritten, first?, set, hname, hsame, Text.sameAscii]
    · simp [put, valueAt, hwritten, first?, set, hname, hsame, Text.sameAscii]

theorem first?_foldl_put {name : String} (hname : isName name = true)
    (entries : List (String × String)) (h : Headers) :
    (entries.foldl put h).first? name =
      (entries.reverse.findSome? (valueAt name)).or (h.first? name) :=
  read_foldl (·.first? name) (first?_put hname) entries h

end Headers

open Headers

theorem TrafficContext.inject_headers (t : TrafficContext) (h : Headers) :
    (t.inject (.headers h)).carrier = .headers (t.entries.entries.foldl put h) := by
  refine t.carrier_inject (fun i h e hi => ?_) h
  by_cases hname : isName e.1 = true
  · cases hvalue : valueOfText? e.2 <;>
      simp [Injection.add, hi, Carrier.set, put, written?, hname, hvalue]
  · simp [Injection.add, hi, Carrier.set, put, written?, hname]

namespace Rules

variable {r : Rules} {t : TrafficContext}

/-- Under a travelling key the last entry arrives that has this name and could be written. -/
theorem get?_hop_headers {key : String} (htravels : r.Travels key) (hname : isName key = true)
    (t : TrafficContext) : (r.hop (.headers {}) t).get? key =
      (t.entries.entries.reverse.findSome? (Headers.valueAt key)).bind textOfValue? := by
  have hempty : ({} : Headers).first? key = none := by simp [first?, hname]
  rw [hop, get?_adopt, if_pos htravels, TrafficContext.inject_headers, Carrier.get?,
    first?_foldl_put hname, hempty, Option.or_none]

/-- A context for headers: every key travels, and headers show every value. -/
def Suits (r : Rules) (t : TrafficContext) : Prop :=
  ∀ key value, t.get? key = some value → r.Travels key ∧ value.toList.all isShown = true

theorem suits_iff : r.Suits t ↔
    ∀ e ∈ t.entries.entries, r.Travels e.1 ∧ e.2.toList.all isShown = true :=
  ⟨fun h e he => h e.1 e.2 (Dictionary.get?_eq_some.2 he),
    fun h key value hvalue => h (key, value) (Dictionary.get?_eq_some.1 hvalue)⟩

instance (r : Rules) (t : TrafficContext) : Decidable (r.Suits t) :=
  decidable_of_iff _ suits_iff.symm

/-- Every travelling key is a header name. -/
def TravelsByName (r : Rules) : Prop :=
  ∀ key, r.Travels key → isName key = true

theorem get?_hop_of_not_isName {key : String} (hname : ¬ isName key = true) (t : TrafficContext) :
    (r.hop (.headers {}) t).get? key = none := by
  rw [hop, get?_adopt, TrafficContext.inject_headers, Carrier.get?, first?, if_neg hname]
  exact ite_self none

theorem get?_hop_congr {key other : String} (hkey : r.Travels key) (hother : r.Travels other)
    (hsame : Text.sameAscii key other = true) (t : TrafficContext) :
    (r.hop (.headers {}) t).get? key = (r.hop (.headers {}) t).get? other := by
  rw [hop, get?_adopt, get?_adopt, if_pos hkey, if_pos hother, TrafficContext.inject_headers,
    Carrier.get?, Carrier.get?, first?_congr hsame]

theorem written?_of_suits (ht : r.Suits t) {e : String × String} (he : e ∈ t.entries.entries)
    (hname : isName e.1 = true) : ∃ v, written? e = some v ∧ textOfValue? v = some e.2 := by
  rw [written?, if_pos hname]
  exact textOfValue?_valueOfText? (suits_iff.1 ht e he).2

/-- Under a travelling key the value of some entry with this name arrives, if there is any and all
entries have names that headers take. -/
theorem get?_hop_of_suits (ht : r.Suits t)
    (hnames : ∀ key value, t.get? key = some value → isName key = true) {key : String}
    (hkey : r.Travels key) (hname : isName key = true) :
    ((r.hop (.headers {}) t).get? key = none ∧
        ∀ other value, t.get? other = some value → Text.sameAscii key other = false) ∨
      ∃ other value, t.get? other = some value ∧ Text.sameAscii key other = true ∧
        (r.hop (.headers {}) t).get? key = some value := by
  have hwritten {e : String × String} (he : e ∈ t.entries.entries) :
      ∃ v, written? e = some v ∧ textOfValue? v = some e.2 :=
    written?_of_suits ht he (hnames e.1 e.2 (Dictionary.get?_eq_some.2 he))
  rw [get?_hop_headers hkey hname]
  cases hfound : t.entries.entries.reverse.findSome? (Headers.valueAt key) with
  | none =>
    refine .inl ⟨rfl, fun other value hother => ?_⟩
    have hmem : (other, value) ∈ t.entries.entries := Dictionary.get?_eq_some.1 hother
    have hnone := List.findSome?_eq_none_iff.1 hfound _ (List.mem_reverse.2 hmem)
    obtain ⟨v, hv, -⟩ := hwritten hmem
    rw [← Bool.not_eq_true]
    intro hsame
    have hvalue : Headers.valueAt key (other, value) = some v :=
      Headers.valueAt_eq_some.2 ⟨hsame, hv⟩
    rw [hvalue] at hnone
    cases hnone
  | some v =>
    obtain ⟨e, he, hvalue⟩ := List.exists_of_findSome?_eq_some hfound
    have hmem := List.mem_reverse.1 he
    obtain ⟨hsame, hv⟩ := Headers.valueAt_eq_some.1 hvalue
    obtain ⟨v', hv', htext⟩ := hwritten hmem
    rw [hv] at hv'
    cases hv'
    exact .inr ⟨e.1, e.2, Dictionary.get?_eq_some.2 hmem, hsame, htext⟩

/-- A context whose keys are names arrives in headers as it was exactly when it has one value under
all travelling keys that are one name, as far as it has any. -/
theorem entries_hop_iff_of_names (ht : r.Suits t)
    (hnames : ∀ key value, t.get? key = some value → isName key = true) :
    (r.hop (.headers {}) t).entries = t.entries ↔
      ∀ key value, t.get? key = some value → ∀ other, r.Travels other →
        Text.sameAscii other key = true → t.get? other = some value := by
  constructor
  · intro heq key value hkey other hother hsame
    have harrived (k : String) : (r.hop (.headers {}) t).get? k = t.get? k := by
      rw [TrafficContext.get?, heq, TrafficContext.get?]
    rw [← harrived other, get?_hop_congr hother (ht key value hkey).1 hsame, harrived, hkey]
  · intro hone
    refine TrafficContext.ext_get? fun key => ?_
    have habsent (hnone : (r.hop (.headers {}) t).get? key = none)
        (hnothing : ∀ value, t.get? key ≠ some value) :
        (r.hop (.headers {}) t).get? key = t.get? key := by
      rw [hnone, Option.eq_none_iff_forall_ne_some.2 hnothing]
    by_cases hkey : r.Travels key
    · by_cases hname : isName key = true
      · rcases get?_hop_of_suits ht hnames hkey hname with
          ⟨hnone, hnothing⟩ | ⟨other, value, hother, hsame, hvalue⟩
        · refine habsent hnone fun value hvalue => ?_
          simpa [Text.sameAscii] using hnothing key value hvalue
        · rw [hvalue, hone other value hother key hkey hsame]
      · exact habsent (get?_hop_of_not_isName hname t) fun value hvalue =>
          hname (hnames key value hvalue)
    · have hstays : (r.hop (.headers {}) t).get? key = none := by
        rw [hop, get?_adopt, if_neg hkey]
      exact habsent hstays fun value hvalue => hkey (ht key value hvalue).1

theorem entries_hop_headers_iff (hnames : r.TravelsByName) (ht : r.Suits t) :
    (r.hop (.headers {}) t).entries = t.entries ↔
      ∀ key value, t.get? key = some value → ∀ other, r.Travels other →
        Text.sameAscii other key = true → t.get? other = some value :=
  entries_hop_iff_of_names ht fun key value hvalue => hnames key (ht key value hvalue).1

theorem entries_hop_headers_forall_iff (hnames : r.TravelsByName) :
    (∀ t, r.Suits t → (r.hop (.headers {}) t).entries = t.entries) ↔
      ∀ key other, r.Travels key → r.Travels other → Text.sameAscii other key = true →
        other = key := by
  constructor
  · intro harrive key other hkey hother hsame
    -- a context that holds one of the two keys only must not arrive with both
    let t : TrafficContext := ({} : TrafficContext).insert key ""
    have hget (k : String) : t.get? k = if k = key then some "" else none :=
      TrafficContext.get?_insert _ _ _ _
    have ht : r.Suits t := by
      intro k value hk
      rw [hget] at hk
      split at hk
      next heq =>
        cases hk
        exact ⟨heq ▸ hkey, rfl⟩
      · cases hk
    have hvalue := (entries_hop_headers_iff hnames ht).1 (harrive t ht) key "" (by simp [hget])
      other hother hsame
    rw [hget] at hvalue
    split at hvalue
    next heq => exact heq
    · cases hvalue
  · intro happart t ht
    refine (entries_hop_headers_iff hnames ht).2 fun key value hkey other hother hsame => ?_
    rw [happart key other (ht key value hkey).1 hother hsame, hkey]

end Rules

/-! ## Validated settings -/

/-- No propagation key is the marker key or the trace id key in other letters. -/
def MarkerSettings.KeysApart (s : MarkerSettings) : Prop :=
  ∀ key ∈ s.propagationKeys, ∀ own ∈ [s.markerKey, s.traceIdKey],
    Text.sameAscii key own = true → key = own

namespace Rules

variable {r : Rules} {s : MarkerSettings}

theorem From.travelsByName (h : From s r) (hs : s.Passes) : r.TravelsByName := by
  intro key hkey
  rcases h.travels_iff.1 hkey with hkey | rfl | rfl
  · exact hs.keys_names key hkey
  · exact hs.markerKey_name
  · exact hs.traceIdKey_name

/-- The checks keep the propagation keys apart from one another, and the trace id key from the
marker key; what they leave open is whether these two are among the propagation keys in other
letters. -/
theorem From.apart_iff (h : From s r) (hs : s.Passes) :
    (∀ key other, r.Travels key → r.Travels other → Text.sameAscii other key = true →
      other = key) ↔ s.KeysApart := by
  have hlisted {a b : String} (ha : a ∈ s.propagationKeys) (hb : b ∈ s.propagationKeys)
      (hsame : Text.sameAscii a b = true) : a = b := by
    refine Classical.byContradiction fun hne => ?_
    have hsymm : Std.Symm fun a b : String => Text.sameAscii b a = false :=
      ⟨fun a b hab => Text.sameAscii_comm.trans hab⟩
    have happart := hs.keys_apart.forall hb ha (Ne.symm hne)
    rw [hsame] at happart
    cases happart
  have hown {a b : String} (ha : a ∈ [s.markerKey, s.traceIdKey])
      (hb : b ∈ [s.markerKey, s.traceIdKey]) (hsame : Text.sameAscii a b = true) : a = b := by
    have happart := hs.traceIdKey_apart
    have happart' : Text.sameAscii s.markerKey s.traceIdKey = false :=
      Text.sameAscii_comm.trans happart
    simp only [List.mem_cons, List.not_mem_nil, or_false] at ha hb
    rcases ha with rfl | rfl <;> rcases hb with rfl | rfl <;> simp_all
  have htravels {key : String} :
      r.Travels key ↔ key ∈ s.propagationKeys ∨ key ∈ [s.markerKey, s.traceIdKey] := by
    simp [h.travels_iff]
  constructor
  · intro hone key hkey own hownkey hsame
    exact hone own key (htravels.2 (.inr hownkey)) (htravels.2 (.inl hkey)) hsame
  · intro hkeys key other hkey hother hsame
    rcases htravels.1 hkey with hkey | hkey <;> rcases htravels.1 hother with hother | hother
    · exact hlisted hother hkey hsame
    · exact (hkeys key hkey other hother (Text.sameAscii_comm.trans hsame)).symm
    · exact hkeys other hother key hkey hsame
    · exact hown hother hkey hsame

/-- Settings that pass make a rule set. A context with travelling keys and shown values arrives
over fresh headers as it was exactly when it has one value under all travelling keys that are one
name; and every such context does so exactly when no propagation key is the marker key or the trace
id key in other letters. -/
theorem headers_faithful_iff {settings : Settings} (h : settings.validate = .ok ()) :
    ∃ r, ofSettings settings.marker = .ok r ∧
      (∀ t, r.Suits t → ((r.hop (.headers {}) t).entries = t.entries ↔
        ∀ key value, t.get? key = some value → ∀ other, r.Travels other →
          Text.sameAscii other key = true → t.get? other = some value)) ∧
      ((∀ t, r.Suits t → (r.hop (.headers {}) t).entries = t.entries) ↔
        settings.marker.KeysApart) := by
  have hs := (Settings.validate_eq_ok_iff.1 h).1
  obtain ⟨r, hr, hfrom⟩ := exists_from hs
  have hnames := hfrom.travelsByName hs
  refine ⟨r, hr, fun t ht => entries_hop_headers_iff hnames ht, ?_⟩
  rw [entries_hop_headers_forall_iff hnames, hfrom.apart_iff hs]

/-- Settings that list the marker key once more, as it is, and another key. -/
def repeating : Settings :=
  { marker := { propagationKeys := ["X-Tenant", "x-shadow-test"] } }

/-- A marked context with a tab in a value. -/
def ofTenant : TrafficContext :=
  (({} : TrafficContext).insert "X-Tenant" "a\tb ~").insert "x-shadow-test" "TRUE"

theorem headers_faithful_iff_repeating :
    repeating.validate = .ok () ∧ ∃ r, ofSettings repeating.marker = .ok r ∧
      r.Suits ofTenant ∧ (r.hop (.headers {}) ofTenant).entries = ofTenant.entries := by
  have hpass : repeating.validate = .ok () := rfl
  obtain ⟨r, hr, -, hall⟩ := headers_faithful_iff hpass
  have hkeys : repeating.marker.KeysApart := by
    simp [MarkerSettings.KeysApart, repeating, Text.sameAscii, Text.asciiLower]
  have htravels {key : String} (hkey : key ∈ repeating.marker.propagationKeys) : r.Travels key :=
    (from_of_ofSettings hr).travels_iff.2 (.inl hkey)
  have hsuits : r.Suits ofTenant := by
    rw [suits_iff, show ofTenant.entries.entries =
      [("X-Tenant", "a\tb ~"), ("x-shadow-test", "TRUE")] from rfl]
    simp only [List.forall_mem_cons, List.not_mem_nil, false_imp_iff, implies_true, and_true]
    exact ⟨⟨htravels (by simp [repeating]), rfl⟩, htravels (by simp [repeating]), rfl⟩
  exact ⟨hpass, r, hr, hsuits, hall.2 hkeys ofTenant hsuits⟩

/-- Settings whose marker key is listed once more in other letters, which the checks let pass. -/
def inOtherLetters : Settings :=
  { marker := { markerKey := "X-Shadow-Test", propagationKeys := ["x-shadow-test"] } }

/-- A context that is marked under the marker key. -/
def markedOnce : TrafficContext :=
  ({} : TrafficContext).insert "X-Shadow-Test" "true"

/-- The same with a value under the other key. -/
def markedTwice : TrafficContext :=
  markedOnce.insert "x-shadow-test" "0"

/-- The mark alone arrives under both keys; beside a value under the other key it does not arrive
at all, and the context that was marked is not. -/
theorem marker_in_other_letters :
    inOtherLetters.validate = .ok () ∧ ∃ r, ofSettings inOtherLetters.marker = .ok r ∧
      (r.Suits markedOnce ∧ markedOnce.get? "x-shadow-test" = none ∧
        (r.hop (.headers {}) markedOnce).get? "x-shadow-test" = some "true") ∧
      (r.Suits markedTwice ∧ r.isMarked markedTwice = true ∧
        (r.hop (.headers {}) markedTwice).get? "X-Shadow-Test" = some "0" ∧
        (r.hop (.headers {}) markedTwice).marked = false) :=
  ⟨rfl, _, rfl, ⟨by decide +kernel, rfl, by decide +kernel⟩,
    ⟨by decide +kernel, rfl, by decide +kernel, by decide +kernel⟩⟩

end Rules

end ShadowTraffic
