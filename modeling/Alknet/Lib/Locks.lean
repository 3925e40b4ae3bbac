import Mathlib.Data.Set.Finite.Lemmas

/-!
# Locks that tasks hold and wait for

A set of tasks is deadlocked if each of them waits for a lock that another one of them holds. Where
tasks take their locks in one order there is no such set.
-/

namespace Alknet.Lib

/-- How a lock of many readers and one writer is held. -/
inductive LockMode where
  | read
  | write
deriving DecidableEq

/-- Two tasks may hold the lock at once. -/
def LockMode.compatible : LockMode → LockMode → Bool
  | .read, .read => true
  | _, _ => false

section

variable {τ ℓ : Type} (holds waits : τ → ℓ → Prop)

def Deadlocked : Prop :=
  ∃ S : Set τ, S.Nonempty ∧ ∀ t ∈ S, ∃ l, waits t l ∧ ∃ u ∈ S, u ≠ t ∧ holds u l

variable {holds waits}

/-- A task that waits only for locks above all those it holds is in no deadlock. -/
theorem not_deadlocked_of_rank [Finite ℓ] (rank : ℓ → Nat)
    (hrank : ∀ t l l', holds t l → waits t l' → rank l < rank l') : ¬ Deadlocked holds waits := by
  rintro ⟨S, ⟨t, ht⟩, hall⟩
  -- the highest lock that the set contends for is held by a task that waits for a higher one
  let contended : Set ℓ := {l | ∃ u ∈ S, holds u l}
  have hsome : contended.Nonempty := by
    obtain ⟨l, -, u, hu, -, hhold⟩ := hall t ht
    exact ⟨l, u, hu, hhold⟩
  obtain ⟨l, ⟨u, hu, hhold⟩, hmax⟩ := Set.exists_max_image contended rank (Set.toFinite _) hsome
  obtain ⟨l', hwait, v, hv, -, hhold'⟩ := hall u hu
  exact absurd (hmax l' ⟨v, hv, hhold'⟩) (Nat.not_le.mpr (hrank u l l' hhold hwait))

end

end Alknet.Lib
