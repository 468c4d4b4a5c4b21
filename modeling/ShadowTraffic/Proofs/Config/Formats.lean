import ShadowTraffic.Config.Loading
import ShadowTraffic.Proofs.Text.Utf8

/-! # Files in their formats

The name of a file alone tells what its text is read as. Each of the readers looks at the characters
of a text only, so what a text holds is a function of its characters, and a file that stands at the
path that is loaded loads as what its text holds in the format of that path.
-/

namespace ShadowTraffic

theorem fileText_toUTF8 {s : String} (h : ∀ c ∈ s.toList, c.toNat ≤ 0x7F) :
    fileText s.toUTF8.toList = s := by
  unfold fileText
  split
  next rest hmark =>
    -- no byte of ASCII text is as large as the first one of a mark
    rw [toUTF8_of_ascii h] at hmark
    obtain ⟨c, cs, hs, hc, -⟩ := List.map_eq_cons_iff.mp hmark
    have hle := h c (hs ▸ List.mem_cons_self)
    rw [← toNat_byte_of_le hle, hc] at hle
    exact absurd hle (by decide)
  next => exact Text.Utf8.decode_toUTF8 h

namespace FileFormat

theorem ofPath_eq_toml {path : String} : ofPath path = .toml ↔ extension? path = some "toml" := by
  unfold ofPath
  split <;> simp_all

/-- The document in the characters of a text. -/
def document? : FileFormat → List Char → Option Document
  | yaml, cs =>
    let cs := Yaml.unifyLines (cs.takeWhile (· != '\x00'))
    (Yaml.Layout.tokens? (cs.length + 1) { cursor := { rest := cs } }).bind Yaml.document?
  | json, cs =>
    (Json.value (2 * cs.length + 2) Json.depthLimit cs).bind fun (doc, rest) =>
      if (Json.skipBlanks rest).isEmpty then some doc else none
  | toml, cs =>
    (Toml.lines (cs.length + 1) [] [] cs).map fun fields => .table (Toml.documentFields fields)
  | ini, cs => (Ini.read (cs.length + 1) true "" {} cs).map (·.document)

theorem read?_eq (format : FileFormat) (s : String) :
    format.read? s = format.document? s.toList := by
  cases format with
  | yaml | json => rfl
  | toml =>
    rw [read?, Toml.parse?, document?, Option.map_eq_bind]
    rfl
  | ini =>
    rw [read?, Ini.parse?, document?, Option.map_eq_bind]
    rfl

/-- What a text holds in a format: nothing unless it is a table, and no settings unless they can be
read from the table. -/
def held (format : FileFormat) (cs : List Char) : Option (Option Settings) :=
  match (format.document? cs).map Document.unique with
  | some (.table fields) => some (Decoding.coercing.settings? (layered fields []))
  | _ => none

end FileFormat

namespace Settings

/-- How a path loads whose file holds that. -/
def loaded (path : String) : Option (Option Settings) → Except LoadError Settings
  | none => .error (.build path)
  | some none => .error (.deserialize path)
  | some (some s) => .ok s

/-- A file at the path itself is read, whatever else there is. -/
theorem load_of_file {view : FileView} {env : Environment} {path : String} {bytes : List UInt8}
    (hfile : view path = .file bytes) (henv : env.overrides = []) :
    load view env path = loaded path ((FileFormat.ofPath path).held (fileText bytes).toList) := by
  have hread : view.configuration? path = some bytes := by
    rw [FileView.configuration?, FileFormat.candidates, List.findSome?_cons, hfile]
    rfl
  have hlayered : ∀ fields, layered fields env = layered fields [] := fun fields => by
    rw [layered, henv]
    rfl
  rw [load, hread, Option.bind_some, fileFields?, FileFormat.read?_eq, FileFormat.held]
  cases (FileFormat.ofPath path).document? (fileText bytes).toList with
  | none => rfl
  | some doc =>
    simp only [Option.bind_eq_bind, Option.bind_some, Option.map_some]
    cases doc.unique with
    | table fields =>
      simp only [Option.pure_def, hlayered]
      cases Decoding.coercing.settings? (layered fields []) <;> rfl
    | null | bool | int | real | text | list => rfl

end Settings

end ShadowTraffic
