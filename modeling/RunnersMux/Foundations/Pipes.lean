import Mathlib.Data.List.Basic

/-! Pipes with counted ends, and copies from one pipe to another.

A read of an empty pipe waits until there is something or the last write end is
closed. A write waits for room as long as there is a read end.
-/

set_option autoImplicit false

namespace RunnersMux.Foundations

/-- A FIFO, which never fills if it has no capacity. -/
structure Pipe (Item : Type) where
  capacity : Option Nat
  queue : List Item
  readers : Nat
  writers : Nat
  deriving DecidableEq, Repr

/-- A loop that reads from one pipe and writes to another. -/
inductive Copy (Item : Type) where
  | reading
  | writing (held : List Item)
  | ended (failed : Bool)
  deriving DecidableEq, Repr

variable {Item : Type}

namespace Pipe

def new (capacity : Option Nat) : Pipe Item := ⟨capacity, [], 1, 1⟩

/-- There is room for some more items. -/
def fits (pipe : Pipe Item) (count : Nat) : Prop := ∀ capacity ∈ pipe.capacity, pipe.queue.length + count ≤ capacity

instance (pipe : Pipe Item) (count : Nat) : Decidable (pipe.fits count) :=
  inferInstanceAs (Decidable (∀ capacity ∈ pipe.capacity, _))

def put (pipe : Pipe Item) (items : List Item) : Pipe Item := { pipe with queue := pipe.queue ++ items }

def drop (pipe : Pipe Item) (count : Nat) : Pipe Item := { pipe with queue := pipe.queue.drop count }

/-- A write of its own that somebody makes, and that does not have to wait. -/
def write (pipe : Pipe Item) (items : List Item) : Option (Pipe Item) :=
  if pipe.writers ≠ 0 ∧ pipe.readers ≠ 0 ∧ pipe.fits items.length then some (pipe.put items) else none

/-- Every item that has to be read before an end of file has been. -/
def exhausted (pipe : Pipe Item) : Prop := pipe.queue = [] ∧ pipe.writers = 0

end Pipe

namespace Copy

def held : Copy Item → List Item
  | .writing held => held
  | _ => []

/-- Go on with what is left to write. -/
def carrying : List Item → Copy Item
  | [] => .reading
  | items => .writing items

@[simp] theorem held_carrying (items : List Item) : (carrying items).held = items := by
  cases items <;> rfl

/-- A read or a write of some items, or the end of the loop; `none` while it waits. -/
def step (source target : Pipe Item) (count : Nat) : Copy Item → Option (Copy Item × Pipe Item × Pipe Item)
  | .reading =>
      -- A read of a closed end fails, even where something is left to read.
      if source.readers = 0 then some (.ended true, source, target)
      else if source.queue = [] then if source.writers = 0 then some (.ended false, source, target) else none
      else if 0 < count ∧ count ≤ source.queue.length then
        some (.writing (source.queue.take count), source.drop count, target)
      else none
  | .writing held =>
      if target.readers = 0 ∨ target.writers = 0 then some (.ended true, source, target)
      else if 0 < count ∧ count ≤ held.length ∧ target.fits count then
        some (carrying (held.drop count), source, target.put (held.take count))
      else none
  | .ended _ => none

end Copy

/-- The cases of a step of a copy. -/
inductive Copies (source target : Pipe Item) (count : Nat) : Copy Item → Copy Item → Pipe Item → Pipe Item → Prop where
  | cut (closed : source.readers = 0) : Copies source target count .reading (.ended true) source target
  | finish (exhausted : source.exhausted) : Copies source target count .reading (.ended false) source target
  | read (some : 0 < count) (there : count ≤ source.queue.length) :
      Copies source target count .reading (.writing (source.queue.take count)) (source.drop count) target
  | refused {held : List Item} (closed : target.readers = 0 ∨ target.writers = 0) :
      Copies source target count (.writing held) (.ended true) source target
  | write {held : List Item} (some : 0 < count) (there : count ≤ held.length) (fits : target.fits count) :
      Copies source target count (.writing held) (.carrying (held.drop count)) source (target.put (held.take count))

variable {source target input output : Pipe Item} {copy next : Copy Item} {count : Nat}

theorem Copy.step_copies (stepped : copy.step source target count = some (next, input, output)) :
    Copies source target count copy next input output := by
  cases copy with
  | reading =>
      simp only [Copy.step] at stepped
      split at stepped
      · next closed =>
          cases stepped
          exact .cut closed
      · split at stepped
        · next empty =>
            split at stepped <;> cases stepped
            next closed => exact .finish ⟨empty, closed⟩
        · split at stepped <;> cases stepped
          next both => exact .read both.1 both.2
  | writing held =>
      simp only [Copy.step] at stepped
      split at stepped
      · next closed =>
          cases stepped
          exact .refused closed
      · split at stepped <;> cases stepped
        next all => exact .write all.1 all.2.1 all.2.2
  | ended failed => cases stepped

/-- A copy keeps the order of the items, and loses what it holds when it fails. -/
theorem Copies.flow (copies : Copies source target count copy next input output) :
    ∃ lost, output.queue ++ lost ++ next.held ++ input.queue = target.queue ++ copy.held ++ source.queue ∧
      (next = .ended true → lost = copy.held) ∧ (next ≠ .ended true → lost = []) := by
  cases copies with
  | cut closed => exact ⟨[], by simp [Copy.held], fun _ => rfl, fun _ => rfl⟩
  | finish exhausted => exact ⟨[], by simp [Copy.held], fun _ => rfl, fun _ => rfl⟩
  | read some there => exact ⟨[], by simp [Copy.held, Pipe.drop], nofun, fun _ => rfl⟩
  | @refused held closed => exact ⟨held, by simp [Copy.held], fun _ => rfl, fun different => absurd rfl different⟩
  | @write held some there fits =>
      refine ⟨[], ?_, fun failed => ?_, fun _ => rfl⟩
      · rw [Copy.held_carrying]
        simp [Pipe.put, Copy.held]
      · cases rest : held.drop count <;> simp [rest, Copy.carrying] at failed

/-- A copy ends well at the end of its source, and badly when an end that it needs is closed. -/
theorem Copies.ended {failed : Bool} (copies : Copies source target count copy (.ended failed) input output) :
    if failed then source.readers = 0 ∨ target.readers = 0 ∨ target.writers = 0 else input.exhausted := by
  generalize is : Copy.ended failed = next at copies
  cases copies with
  | cut closed =>
      cases is
      exact .inl closed
  | finish exhausted =>
      cases is
      exact exhausted
  | refused closed =>
      cases is
      exact .inr closed
  | read => cases is
  | @write held some there fits => cases rest : held.drop count <;> simp [rest, Copy.carrying] at is

/-- The ends of the pipes are nobody's business in a copy. -/
theorem Copies.ends (copies : Copies source target count copy next input output) :
    input.readers = source.readers ∧ input.writers = source.writers ∧ output.readers = target.readers ∧
      output.writers = target.writers ∧ input.capacity = source.capacity ∧ output.capacity = target.capacity := by
  cases copies <;> exact ⟨rfl, rfl, rfl, rfl, rfl, rfl⟩

theorem Pipe.fits_mono {pipe : Pipe Item} {more fewer : Nat} (fits : pipe.fits more) (le : fewer ≤ more) :
    pipe.fits fewer :=
  fun capacity bound => Nat.le_trans (Nat.add_le_add_left le _) (fits capacity bound)

/-- A copy does not overfill its target. -/
theorem Copies.within (copies : Copies source target count copy next input output) (within : target.fits 0) :
    output.fits 0 := by
  cases copies with
  | write some there fits =>
      intro capacity bound
      have room := fits capacity bound
      simp only [Pipe.put, List.length_append, List.length_take]
      omega
  | _ => exact within

/-- What a copy has in hand goes on to fit in its target, if what it reads does. -/
theorem Copies.room (copies : Copies source target count copy next input output) (holds : target.fits copy.held.length)
    (reads : copy = .reading → target.fits count) : output.fits next.held.length := by
  cases copies with
  | cut | finish => exact holds
  | refused => exact Pipe.fits_mono holds (Nat.zero_le _)
  | read some there => exact Pipe.fits_mono (reads rfl) (List.length_take_le _ _)
  | @write held some there fits =>
      rw [Copy.held_carrying]
      intro capacity bound
      have room : target.queue.length + held.length ≤ capacity := holds capacity bound
      simp only [Pipe.put, List.length_append, List.length_take, List.length_drop]
      omega

/-- What a copy has in hand goes on not to fit, as long as the ends of its target are open. -/
theorem Copies.stuffed (copies : Copies source target count copy next input output) (within : target.fits 0)
    (readers : target.readers ≠ 0) (writers : target.writers ≠ 0) (stuffed : ¬target.fits copy.held.length) :
    ¬output.fits next.held.length := by
  cases copies with
  | cut | finish | read => exact absurd within stuffed
  | refused closed => exact absurd closed (not_or.mpr ⟨readers, writers⟩)
  | @write held some there fits =>
      rw [Copy.held_carrying]
      intro room
      refine stuffed fun capacity bound => ?_
      have least : (target.queue ++ held.take count).length + (held.drop count).length ≤ capacity := room capacity bound
      simp only [List.length_append, List.length_take, List.length_drop] at least
      change target.queue.length + held.length ≤ capacity
      omega

/-- What a copy is writing is something. -/
def Copy.Solid (copy : Copy Item) : Prop := copy ≠ .writing []

theorem Copies.solid (copies : Copies source target count copy next input output) : next.Solid := by
  cases copies with
  | cut | finish | refused => nofun
  | read some there =>
      intro empty
      have length := congrArg List.length (Copy.writing.inj empty)
      simp only [List.length_take, List.length_nil] at length
      omega
  | @write held some there fits =>
      cases rest : held.drop count <;> simp [Copy.carrying, Copy.Solid]

/-- A copy whose source stays open fails over something that it holds. -/
theorem Copies.loses (copies : Copies source target count copy (.ended true) input output) (solid : copy.Solid)
    (opened : source.readers ≠ 0) : copy.held ≠ [] := by
  generalize is : Copy.ended true = next at copies
  cases copies with
  | cut closed => exact absurd closed opened
  | @refused held closed => exact fun empty => solid (congrArg Copy.writing empty)
  | finish | read => cases is
  | @write held some there fits => cases rest : held.drop count <;> simp [rest, Copy.carrying] at is

/-- A copy waits for three things only: an item, an end of file, and room. -/
theorem Copy.waits (stuck : ∀ count, copy.step source target count = none) (solid : copy.Solid) :
    copy = .reading ∧ source.queue = [] ∧ source.writers ≠ 0 ∧ source.readers ≠ 0 ∨
      (∃ held, copy = .writing held ∧ ¬target.fits 1 ∧ target.readers ≠ 0 ∧ target.writers ≠ 0) ∨
        ∃ failed, copy = .ended failed := by
  cases copy with
  | reading =>
      have waits := stuck 1
      simp only [Copy.step] at waits
      split at waits
      · cases waits
      · next opened =>
          split at waits
          · next empty =>
              split at waits
              · cases waits
              · next writers => exact .inl ⟨rfl, empty, writers, opened⟩
          · next something =>
              split at waits
              · cases waits
              · next nothing => exact absurd ⟨Nat.one_pos, List.length_pos_iff.mpr something⟩ nothing
  | writing held =>
      have waits := stuck 1
      simp only [Copy.step] at waits
      split at waits
      · cases waits
      · next opened =>
          rw [not_or] at opened
          split at waits
          · cases waits
          · next full =>
              have something : held ≠ [] := fun empty => solid (empty ▸ rfl)
              refine .inr (.inl ⟨held, rfl, fun fits => ?_, opened⟩)
              exact full ⟨Nat.one_pos, List.length_pos_iff.mpr something, fits⟩
  | ended failed => exact .inr (.inr ⟨failed, rfl⟩)

end RunnersMux.Foundations
