import Mathlib.Order.Basic
import Mathlib.Logic.Function.Basic
import RunnersMux.Foundations.Transitions

/-! Resources that are leased to one client in their life.

A resource comes into being, waits, is leased and ends; it may end without a
lease. The stages are ordered, and leases to two clients are not comparable, so
that a ledger that only rises never leases a resource twice.
-/

set_option autoImplicit false

namespace RunnersMux.Foundations

universe u v

/-- Where a resource is in its life. -/
inductive Tenure (Client : Type v) where
  | absent
  | idle
  | leased (client : Client)
  | ended
  deriving DecidableEq, Repr

inductive Transaction (Resource : Type u) (Client : Type v) where
  | create (resource : Resource)
  | lease (resource : Resource) (client : Client)
  | retire (resource : Resource)

variable {Resource : Type u} {Client : Type v}

def Transaction.resource : Transaction Resource Client → Resource
  | .create resource | .lease resource _ | .retire resource => resource

namespace Tenure

def next : Tenure Client → Transaction Resource Client → Option (Tenure Client)
  | .absent, .create _ => some .idle
  | .idle, .lease _ client => some (.leased client)
  | .idle, .retire _ | .leased _, .retire _ => some .ended
  | _, _ => none

/-- A later stage of the same life. -/
inductive Precedes : Tenure Client → Tenure Client → Prop where
  | refl (stage : Tenure Client) : Precedes stage stage
  | absent (stage : Tenure Client) : Precedes .absent stage
  | lease (client : Client) : Precedes .idle (.leased client)
  | ended (stage : Tenure Client) : Precedes stage .ended

instance : PartialOrder (Tenure Client) where
  le := Precedes
  le_refl := .refl
  le_trans := by
    intro first second third earlier later
    cases earlier with
    | refl => exact later
    | absent => exact .absent third
    | lease client =>
        cases later with
        | refl => exact .lease client
        | ended => exact .ended _
    | ended =>
        cases later
        exacts [.ended first, .ended first]
  le_antisymm := by
    intro first second earlier later
    cases earlier <;> cases later <;> rfl

theorem next_le {stage after : Tenure Client} {transaction : Transaction Resource Client}
    (taken : stage.next transaction = some after) : stage ≤ after := by
  cases stage <;> cases transaction <;> cases taken
  · exact Precedes.absent .idle
  · exact Precedes.lease _
  · exact Precedes.ended .idle
  · exact Precedes.ended _

end Tenure

/-- The stage of every resource. -/
abbrev LeaseBook (Resource : Type u) (Client : Type v) := Resource → Tenure Client

namespace LeaseBook

variable [DecidableEq Resource]

def step (ledger : LeaseBook Resource Client) (transaction : Transaction Resource Client) :
    Option (LeaseBook Resource Client) :=
  ((ledger transaction.resource).next transaction).map (Function.update ledger transaction.resource)

/-- What a transaction does to the stage of its resource, it does to the ledger. -/
theorem step_next {ledger : LeaseBook Resource Client} {transaction : Transaction Resource Client}
    {after : Tenure Client}
    (taken : (ledger transaction.resource).next transaction = some after) :
    ledger.step transaction = some (Function.update ledger transaction.resource after) := by
  rw [step, taken, Option.map_some]

theorem step_le {ledger later : LeaseBook Resource Client} {transaction : Transaction Resource Client}
    (taken : ledger.step transaction = some later) : ledger ≤ later := by
  obtain ⟨after, next, rfl⟩ := Option.map_eq_some_iff.mp taken
  intro resource
  rw [Function.update_apply]
  split
  · next same =>
      subst same
      exact Tenure.next_le next
  · exact le_refl _

/-- Over a run no resource goes back to an earlier stage. -/
theorem reaches_le {ledger later : LeaseBook Resource Client} (reached : Reaches step (· = ledger) everyStep later) :
    ledger ≤ later := by
  apply reached.invariant
  · rintro _ rfl
    exact le_refl _
  · intro between transaction after _ below _ taken
    exact below.trans (step_le taken)

end LeaseBook

end RunnersMux.Foundations
