import Mathlib.Logic.Function.Basic
import RunnersMux.Foundations.Filepaths

/-! The contents of files, by their places, and the copying of trees of them.

A command that writes a tree may break off anywhere. What it then leaves at the
places that are its to write is open, and all others are as they were.
-/

set_option autoImplicit false

namespace RunnersMux.Foundations

/-- What is in the file at a place, if there is one. -/
abbrev Contents := Location → Option (List UInt8)

namespace Contents

/-- The part of a tree that hangs at a place. -/
def below (tree : Contents) (place : Location) : Contents := fun inner => tree (place ++ inner)

/-- Write at the places of a tree, put up at `target`, and nowhere else. -/
def copied (files tree content : Contents) (target : Location) : Contents := fun place =>
  if target <+: place ∧ tree (place.drop target.length) ≠ none then content (place.drop target.length) else files place

/-- Write everywhere below `target`, so that what the tree does not have goes. -/
def mirrored (files content : Contents) (target : Location) : Contents := fun place =>
  if target <+: place then content (place.drop target.length) else files place

variable {files tree content : Contents} {target : Location}

theorem copied_below (inner : Location) :
    files.copied tree content target (target ++ inner) =
      if tree inner ≠ none then content inner else files (target ++ inner) := by
  simp [copied]

theorem copied_outside {place : Location} (outside : ¬target <+: place) :
    files.copied tree content target place = files place :=
  if_neg fun both => outside both.1

theorem mirrored_outside {place : Location} (outside : ¬target <+: place) :
    files.mirrored content target place = files place :=
  if_neg outside

end Contents

end RunnersMux.Foundations
