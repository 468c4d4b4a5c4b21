import ShadowTraffic.Cli.Commands

/-! # Lines of an output

What a command writes is read back line by line, as long as each of the texts keeps to its line.
-/

namespace ShadowTraffic

namespace Cli

/-- The lines of an output, with what follows the last end of a line. -/
def printed (output : String) : List String :=
  (output.toList.splitOn '\n').map String.ofList

theorem lines_cons (l : String) (ls : List String) :
    lines (l :: ls) = l ++ "\n" ++ lines ls := by
  rw [lines, List.map_cons, String.join_cons]
  rfl

theorem toList_lines (ls : List String) :
    (lines ls).toList = ['\n'].intercalate (ls.map String.toList ++ [[]]) := by
  induction ls with
  | nil => rfl
  | cons l rest ih =>
    rw [lines_cons, String.toList_append, ih]
    cases rest <;> simp [List.intercalate]

/-- A text that keeps to its line. -/
def OneLine (s : String) : Prop :=
  '\n' ∉ s.toList

theorem OneLine.append {s t : String} (hs : OneLine s) (ht : OneLine t) : OneLine (s ++ t) := by
  rw [OneLine, String.toList_append, List.mem_append]
  exact not_or.2 ⟨hs, ht⟩

/-- Lines are read back from the output that has them. -/
theorem printed_lines {ls : List String} (h : ∀ l ∈ ls, OneLine l) :
    printed (lines ls) = ls ++ [""] := by
  have hends : ∀ l ∈ ls.map String.toList ++ [[]], '\n' ∉ l := by
    intro l hl
    rcases List.mem_append.1 hl with hl | hl
    · obtain ⟨line, hline, rfl⟩ := List.mem_map.1 hl
      exact h line hline
    · rw [List.mem_singleton.1 hl]
      exact List.not_mem_nil
  rw [printed, toList_lines, List.splitOn_intercalate '\n' hends (by simp)]
  simp

theorem oneLine_toString (n : Nat) : OneLine (toString n) := by
  intro hmem
  have hdigit := Nat.isDigit_of_mem_toDigits (by decide) (by decide)
    (show '\n' ∈ Nat.toDigits 10 n by simpa using hmem)
  exact absurd hdigit (by decide)

theorem oneLine_inWords (b : Bool) : OneLine (inWords b) := by
  cases b <;> simp [OneLine, inWords]

end Cli

end ShadowTraffic
