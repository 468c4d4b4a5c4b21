import ShadowTraffic.Proofs.Cli.Lines
import ShadowTraffic.Proofs.Config.Formats
import ShadowTraffic.Proofs.Config.Validation
import ShadowTraffic.Proofs.Directory

/-! # Files that are created

A file that is created has the same text whatever its name, while a file is read in the format that
its name tells. So of the files that are created those load that are named for the format of the
text, with all settings as they are without a file, and every other one is refused by the very check
that its creation advises.
-/

namespace ShadowTraffic

namespace Cli

/-! ## The text of a created file -/

theorem toList_lines_nil : (lines []).toList = [] := rfl

theorem toList_lines_cons {l : String} {ls : List String} {cs ds : List Char}
    (hl : l = String.ofList cs) (hls : (lines ls).toList = ds) :
    (lines (l :: ls)).toList = cs ++ '\n' :: ds := by
  rw [lines_cons, String.toList_append, String.toList_append, hl, String.toList_ofList, hls]
  simp

/-- What the text of a created file holds in a format. -/
def createdHolds : FileFormat → Option (Option Settings)
  | .toml => some (some {})
  | .ini => some none
  | .yaml | .json => none

/-- Characters that are read in each format as those of a created file are. -/
structure ReadsAsCreated (cs : List Char) : Prop where
  ascii : cs.all (·.toNat ≤ 0x7F) = true
  yaml : FileFormat.yaml.held cs = createdHolds .yaml
  json : FileFormat.json.held cs = createdHolds .json
  toml : FileFormat.toml.held cs = createdHolds .toml
  ini : FileFormat.ini.held cs = createdHolds .ini

theorem ReadsAsCreated.held {cs : List Char} (h : ReadsAsCreated cs) (format : FileFormat) :
    format.held cs = createdHolds format := by
  cases format with
  | yaml => exact h.yaml
  | json => exact h.json
  | toml => exact h.toml
  | ini => exact h.ini

theorem ReadsAsCreated.toNat_le {cs : List Char} (h : ReadsAsCreated cs) :
    ∀ c ∈ cs, c.toNat ≤ 0x7F :=
  fun c hc => of_decide_eq_true (List.all_eq_true.mp h.ascii c hc)

set_option maxRecDepth 20000 in
/-- The characters are written out line by line before they are read. -/
theorem readsAsCreated_defaultFile : ReadsAsCreated defaultFile.toList := by
  suffices h : ∃ cs, defaultFile.toList = cs ∧ ReadsAsCreated cs by
    obtain ⟨cs, hcs, hreads⟩ := h
    exact hcs ▸ hreads
  constructor
  constructor
  · unfold defaultFile
    repeat apply toList_lines_cons rfl
    exact toList_lines_nil
  · constructor <;> decide +kernel

/-! ## Creating -/

section

variable {d after : Directory} {env : Environment} {path : String}

def createdBytes : List UInt8 :=
  defaultFile.toUTF8.toList

/-- How creating a file at a path can end, and what the directory then is. -/
inductive Creates (d : Directory) (path : String) : Outcome → Directory → Prop where
  | refused (hthere : (d.view path).isThere = true) : Creates d path
      ⟨"", .refused (lines ["❌ Error: Configuration file '" ++ path ++ "' already exists"])⟩ d
  | failed (hnone : (d.view path).isThere = false) (e : WriteError)
      (hwrite : d.write path createdBytes = .error e) : Creates d path
      ⟨"", .failed ["Failed to write config file", e.message]⟩ d
  | written (hnone : (d.view path).isThere = false) (after : Directory)
      (hwrite : d.write path createdBytes = .ok after) : Creates d path
      ⟨lines ["✅ Created default configuration at: " ++ path,
        "   Run 'shadowline validate --config " ++ path ++ "' to check it"], .success⟩ after

theorem creates_create (d : Directory) (path : String) :
    Creates d path ((create d.view path).perform d).1 ((create d.view path).perform d).2 := by
  rw [create]
  cases hthere : (d.view path).isThere with
  | true => exact .refused hthere
  | false =>
    simp only [Bool.false_eq_true, if_false, Action.perform]
    cases hwrite : d.write path defaultFile.toUTF8.toList with
    | error e => exact .failed hthere e hwrite
    | ok after => exact .written hthere after hwrite

namespace Creates

variable {o : Outcome}

theorem of_there (h : Creates d path o after) (hthere : (d.view path).isThere = true) :
    o.ending = .refused (lines ["❌ Error: Configuration file '" ++ path ++ "' already exists"]) ∧
      after = d := by
  cases h with
  | refused => exact ⟨rfl, rfl⟩
  | failed hnone | written hnone => cases hthere.symm.trans hnone

theorem eq_of_failed (h : Creates d path o after) (hcode : o.ending.code ≠ 0) : after = d := by
  cases h with
  | refused | failed => rfl
  | written => exact absurd rfl hcode

theorem view_eq (h : Creates d path o after) (hcode : o.ending.code = 0) :
    after.view path = .file createdBytes := by
  cases h with
  | refused | failed => cases hcode
  | written hnone after hwrite => exact Directory.view_write hwrite

theorem get?_eq (h : Creates d path o after) {name : String} {bytes : List UInt8}
    (hname : d.files.get? name = some bytes) : after.files.get? name = some bytes := by
  cases h with
  | refused | failed => exact hname
  | written hnone after hwrite => exact Directory.get?_write hwrite hnone hname

end Creates

/-! ## Checking what was created -/

/-- How a created file loads. -/
theorem load_created (hview : d.view path = .file createdBytes) (henv : env.overrides = []) :
    Settings.load d.view env path =
      Settings.loaded path (createdHolds (FileFormat.ofPath path)) := by
  rw [Settings.load_of_file hview henv, createdBytes,
    fileText_toUTF8 readsAsCreated_defaultFile.toNat_le, readsAsCreated_defaultFile.held]

theorem validate_default : ({} : Settings).validate = .ok () := by
  rw [Settings.validate_eq_ok]
  decide +kernel

/-- A created file passes the check exactly when its name is one of the format of its text. -/
theorem validate_created (hview : d.view path = .file createdBytes) (henv : env.overrides = []) :
    (validate d.view env path).ending.code = 0 ↔ FileFormat.extension? path = some "toml" := by
  rw [← FileFormat.ofPath_eq_toml]
  have hload := load_created hview henv
  unfold validate
  rw [hview, hload]
  cases FileFormat.ofPath path with
  | toml => simp [FileEntry.isThere, createdHolds, Settings.loaded, validate_default, Ending.code]
  | yaml | json | ini => simp [FileEntry.isThere, createdHolds, Settings.loaded, Ending.code]

end

/-! ## Runs -/

/-- A file is created and then checked, under one path. -/
structure Creation (d : Directory) (env : Environment) (path : String) (created checked : Run) :
    Prop where
  /-- Where something is already, nothing is created. -/
  refused : (d.view path).isThere = true → created.outcome.ending = .refused
    (lines ["❌ Error: Configuration file '" ++ path ++ "' already exists"]) ∧ created.directory = d
  unchanged : created.outcome.ending.code ≠ 0 → created.directory = d
  /-- Files that were there are as they were, however the creation ends. -/
  kept : ∀ name bytes, d.files.get? name = some bytes →
    created.directory.files.get? name = some bytes
  written : created.outcome.ending.code = 0 → created.directory.view path = .file createdBytes
  loads : created.outcome.ending.code = 0 → env.overrides = [] →
    Settings.load created.directory.view env path =
      Settings.loaded path (createdHolds (FileFormat.ofPath path))
  accepted : created.outcome.ending.code = 0 → env.overrides = [] →
    (checked.outcome.ending.code = 0 ↔ FileFormat.extension? path = some "toml")
  untouched : checked.directory = created.directory

section

variable {d : Directory} {env : Environment} {path : String} {v w : Bool}
  {first second : List String}

/-- The second run finds the directory as the first one leaves it. -/
theorem run_create_validate (d : Directory) (env : Environment)
    (hfirst : Invocation.parse? first = some ⟨.create path, v⟩)
    (hsecond : Invocation.parse? second = some ⟨.validate path, w⟩) :
    ∃ created checked, run d env first = some created ∧
      run created.directory env second = some checked ∧
      Creates d path created.outcome created.directory ∧
      checked.outcome = validate created.directory.view env path ∧
      checked.directory = created.directory := by
  have hcreate : run d env first = some ⟨Invocation.logged ⟨.create path, v⟩ env,
      ((create d.view path).perform d).1, ((create d.view path).perform d).2⟩ := by
    rw [run, hfirst]
    rfl
  have hvalidate : ∀ after, run after env second =
      some ⟨Invocation.logged ⟨.validate path, w⟩ env, validate after.view env path, after⟩ := by
    intro after
    rw [run, hsecond]
    rfl
  exact ⟨_, _, hcreate, hvalidate _, creates_create d path, rfl, rfl⟩

/-- Whatever the directory holds, and however the two commands are written. -/
theorem creation_checked (d : Directory) (env : Environment)
    (hfirst : Invocation.parse? first = some ⟨.create path, v⟩)
    (hsecond : Invocation.parse? second = some ⟨.validate path, w⟩) :
    ∃ created checked, run d env first = some created ∧
      run created.directory env second = some checked ∧ Creation d env path created checked := by
  obtain ⟨created, checked, hcreated, hchecked, hcreates, houtcome, hdirectory⟩ :=
    run_create_validate d env hfirst hsecond
  exact ⟨created, checked, hcreated, hchecked,
    { refused := hcreates.of_there
      unchanged := hcreates.eq_of_failed
      kept := fun _ _ => hcreates.get?_eq
      written := hcreates.view_eq
      loads := fun hcode => load_created (hcreates.view_eq hcode)
      accepted := fun hcode henv => by
        rw [houtcome]
        exact validate_created (hcreates.view_eq hcode) henv
      untouched := hdirectory }⟩

/-- Under the name that is meant when none is given, the file loads with every default. -/
theorem creation_checked_default :
    ∃ created checked, run {} [] ["init"] = some created ∧
      run created.directory [] ["validate"] = some checked ∧
      created.outcome.ending.code = 0 ∧
      Settings.load created.directory.view [] Invocation.defaultPath = .ok {} ∧
      checked.outcome.ending.code = 0 := by
  have hfirst : Invocation.parse? ["init"] = some ⟨.create Invocation.defaultPath, false⟩ := by
    decide +kernel
  have hsecond : Invocation.parse? ["validate"] =
      some ⟨.validate Invocation.defaultPath, false⟩ := by decide +kernel
  obtain ⟨created, checked, hcreated, hchecked, h⟩ := creation_checked {} [] hfirst hsecond
  have hcode : (run {} [] ["init"]).map (·.outcome.ending.code) = some 0 := by decide +kernel
  rw [hcreated] at hcode
  have hcode := Option.some.inj hcode
  have hloads := h.loads hcode rfl
  rw [FileFormat.ofPath_eq_toml.mpr (by decide +kernel)] at hloads
  exact ⟨created, checked, hcreated, hchecked, hcode, hloads,
    (h.accepted hcode rfl).mpr (by decide +kernel)⟩

/-- A file created under a name of another format is refused by the check. -/
theorem created_yaml_refused :
    ∃ created checked, run {} [] ["init", "-c", "shadowline.yaml"] = some created ∧
      run created.directory [] ["validate", "-c", "shadowline.yaml"] = some checked ∧
      created.outcome.ending.code = 0 ∧ checked.outcome.ending.code ≠ 0 := by
  have hfirst : Invocation.parse? ["init", "-c", "shadowline.yaml"] =
      some ⟨.create "shadowline.yaml", false⟩ := by decide +kernel
  have hsecond : Invocation.parse? ["validate", "-c", "shadowline.yaml"] =
      some ⟨.validate "shadowline.yaml", false⟩ := by decide +kernel
  obtain ⟨created, checked, hcreated, hchecked, hcreates, houtcome, -⟩ :=
    run_create_validate {} [] hfirst hsecond
  have hcode : (run {} [] ["init", "-c", "shadowline.yaml"]).map (·.outcome.ending.code) =
      some 0 := by decide +kernel
  rw [hcreated] at hcode
  have hcode := Option.some.inj hcode
  refine ⟨created, checked, hcreated, hchecked, hcode, fun hcheck => ?_⟩
  rw [houtcome, validate_created (hcreates.view_eq hcode) rfl] at hcheck
  exact absurd hcheck (by decide +kernel)

end

end Cli

end ShadowTraffic
