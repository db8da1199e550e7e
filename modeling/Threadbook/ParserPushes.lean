import Threadbook.ParserTexts

/-!
# What the parser pushes

The fragments of a mail as a list that no limit cuts off, and the run that assembles
them: within the limits it keeps exactly this list.
-/

namespace Threadbook

open List

/-! ## The fragments of a mail -/

def Push.assembly (services : ContractServices) (sourceId : SourceId) (rawBlobSha256 : String)
    (push : Push) : FragmentAssembly :=
  ⟨push.fragmentId services sourceId rawBlobSha256, push.kind, String.ofList push.content,
    push.metadata⟩

structure Assembled (services : ContractServices) (sourceId : SourceId) (rawBlobSha256 : String)
    (pushes : List Push) (state : AssemblyState) : Prop where
  fragments : state.fragments = pushes.map (Push.assembly services sourceId rawBlobSha256)
  count : pushes.length ≤ maxMimeParts
  each : ∀ push ∈ pushes, (encode push.content).length ≤ maxFragmentBytes
  total : state.fragmentTotal = (pushes.map fun push => (encode push.content).length).sum
  bound : state.fragmentTotal ≤ maxFragmentTotalBytes

variable {partOrdinal : ℕ}

section Run

variable {services : ContractServices} {sourceId : SourceId} {rawBlobSha256 : String}
  {pushes : List Push} {state final : AssemblyState}

theorem Assembled.initial (decodedTotal : ℕ) :
    Assembled services sourceId rawBlobSha256 [] ⟨decodedTotal, [], 0⟩ :=
  ⟨rfl, Nat.zero_le _, fun _ h => absurd h not_mem_nil, rfl, Nat.zero_le _⟩

section

variable (h : Assembled services sourceId rawBlobSha256 pushes state)

include h

theorem Assembled.push {push : Push} (hne : push.content ≠ [])
    (hok : pushFragment services sourceId rawBlobSha256 state push = .ok final) :
    Assembled services sourceId rawBlobSha256 (pushes ++ [push]) final := by
  rw [pushFragment, if_neg hne, check_unless_eq_ok, check_unless_eq_ok, check_unless_eq_ok] at hok
  obtain ⟨heach, hcount, hbound, hok⟩ := hok
  rw [← Except.ok.inj hok]
  refine ⟨?_, ?_, ?_, ?_, ?_⟩
  · simp [h.fragments, Push.assembly]
  · rw [h.fragments, length_map] at hcount
    rw [length_append, length_singleton]
    omega
  · intro other hother
    rcases mem_append.mp hother with hother | hother
    · exact h.each other hother
    · rw [mem_singleton.mp hother]
      exact Nat.le_of_not_lt heach
  · simp [h.total]
  · exact Nat.le_of_not_lt hbound

end

end Run

section Parts

variable {services : ParserServices} {sourceId : SourceId} {rawBlobSha256 : String}
  {pushes : List Push} {state final : AssemblyState}

section

variable (h : Assembled services.toContractServices sourceId rawBlobSha256 pushes state)

include h

end

end Parts

end Threadbook
