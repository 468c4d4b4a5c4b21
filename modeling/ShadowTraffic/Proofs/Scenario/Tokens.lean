import ShadowTraffic.Cli.Commands
import ShadowTraffic.Proofs.Scenario.RenamedSteps

/-! # Tokens are not told

A scenario whose tokens are replaced by others, different ones by different ones, leaves a record
that cannot be told apart from that of the scenario itself: whether two tokens are equal is all that
is ever seen of them. What is printed of a single token is whether it is there.
-/

namespace ShadowTraffic

/-! ## The command line -/

/-- A configuration resolves with its token behind the stars as it does without. -/
theorem Descriptor.resolve_masked (d : Descriptor) :
    d.masked.resolve = d.resolve.map Identity.masked := by
  have htoken : d.masked.credentialToken.getD "" =
      if (d.credentialToken.getD "").isEmpty then "" else Identity.stars := by
    unfold masked
    cases d.credentialToken <;> rfl
  unfold resolve
  rw [htoken]
  dsimp only [masked]
  cases d.endpoint with
  | none => rfl
  | some endpoint =>
    dsimp only
    split <;> rfl

/-- What is printed does not tell the token. -/
theorem Cli.resolve_masked (d : Descriptor) (json : Bool) :
    Cli.resolve d.masked json = Cli.resolve d json := by
  have hthere : d.masked.credentialToken.isSome = d.credentialToken.isSome := by
    unfold Descriptor.masked
    exact Option.isSome_map
  unfold Cli.resolve
  rw [d.resolve_masked]
  cases d.resolve with
  | error e => rfl
  | ok i =>
    dsimp only [Except.map]
    rw [Cli.identityDocument, Identity.redacted_masked, hthere, Cli.identityDocument]
    rfl

/-- Two tokens that are there look the same behind the stars. -/
theorem Descriptor.masked_withToken (d : Descriptor) {s t : String} (hs : s ≠ "") (ht : t ≠ "") :
    { d with credentialToken := some s }.masked = { d with credentialToken := some t }.masked := by
  have hempty {u : String} (hu : u ≠ "") : u.isEmpty = false := by
    rw [Bool.eq_false_iff, ne_eq, String.isEmpty_iff]
    exact hu
  simp only [masked, Option.map_some, hempty hs, hempty ht]

namespace Scenario

variable {ρ : TokenRenaming}

/-! ## Whole runs -/

theorem alike_run (ρ : TokenRenaming) (script : List Step) :
    Record.Alike (run script) (run (Step.renameAll ρ script)) := by
  have hbound : Machine.bound (Step.renameAll ρ script) = Machine.bound script := by
    rw [Machine.bound, Step.countAll_rename, Machine.bound]
  have hrun := (Machine.renamed_start (ρ := ρ) script).run (Machine.bound script)
  have htraceIds : ((Machine.start (Step.renameAll ρ script)).run
      (Machine.bound script)).world.traceIds =
        ((Machine.start script).run (Machine.bound script)).world.traceIds :=
    hrun.world.read World.traceIds fun _ _ => rfl
  unfold run
  rw [hbound]
  refine ⟨hrun.entries, ?_, ?_⟩
  · dsimp only
    rw [hrun.ended]
  · dsimp only
    rw [htraceIds]

/-- Tokens are not told. Under other tokens, different ones for different ones, a scenario leaves a
record that cannot be told apart, and the metrics are the same after any number of small steps. What
the command line prints of a configuration is the same for any two tokens. -/
theorem tokens_not_told (ρ : TokenRenaming) (script : List Step) :
    Record.Alike (run script) (run (Step.renameAll ρ script)) ∧
      (∀ n, ((Machine.start (Step.renameAll ρ script)).run n).world.metrics =
        ((Machine.start script).run n).world.metrics) ∧
      ∀ (d : Descriptor) (json : Bool) (s t : String), s ≠ "" → t ≠ "" →
        Cli.resolve { d with credentialToken := some s } json =
          Cli.resolve { d with credentialToken := some t } json := by
  refine ⟨alike_run ρ script, fun n => ?_, fun d json s t hs ht => ?_⟩
  · exact ((Machine.renamed_start (ρ := ρ) script).run n).world.read World.metrics fun _ _ => rfl
  · rw [← Cli.resolve_masked, d.masked_withToken hs ht, Cli.resolve_masked]

/-- Two tenants of one endpoint, told apart by their tokens, and a release of what was built for
them. -/
def tenants : List Step :=
  let pool (token : String) : Step := .fetch {
    registry := .ok "main"
    factory := .ok "pools"
    config := .ok { endpoint := some "db", credentialToken := some token }
    identityOf := none
    business := "db"
    keptAs := none }
  [.command (.registry (.create (.ok "main"))),
    .command (.registry (.factory (.ok "pools") (.ok .noShadow))), pool "alpha", pool "beta",
    .command (.registry (.release (.registry (.ok "main"))))]

theorem tenants_not_told :
    Record.Alike (run tenants) (run (Step.renameAll (.prefixed "other-") tenants)) ∧
      "alpha" ≠ "" ∧ "beta" ≠ "" ∧
      Cli.resolve { endpoint := some "db", credentialToken := some "alpha" } true =
        Cli.resolve { endpoint := some "db", credentialToken := some "beta" } true := by
  obtain ⟨halike, -, hprinted⟩ := tokens_not_told (.prefixed "other-") tenants
  have halpha : "alpha" ≠ "" := by decide
  have hbeta : "beta" ≠ "" := by decide
  exact ⟨halike, halpha, hbeta, hprinted { endpoint := some "db" } true "alpha" "beta" halpha hbeta⟩

end Scenario

end ShadowTraffic
