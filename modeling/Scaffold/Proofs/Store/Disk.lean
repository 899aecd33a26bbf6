import Mathlib.Data.String.Basic
import Scaffold.Store.Disk

/-!
# Following paths on a disk

A path that has no null character and is no longer than paths may be is followed name by name, from
the root or from the working directory (`Disk.resolve_eq_walk`). What it leads to decides what is
read: a file whose content is the encoding of a text has that text (`Disk.read_of_walk`). A directory
is not made where the way to it leads through a file (`Disk.makeDirectory_of_walk_error`).
-/

namespace Scaffold

/-- The encoding of a text is the encoding of that text only. -/
theorem Text.fromUTF8?_toUTF8 (s : String) : String.fromUTF8? s.toUTF8 = some s := by
  rw [String.toUTF8_eq_toByteArray]
  unfold String.fromUTF8?
  rw [dif_pos s.isValidUTF8]
  rfl

namespace Disk

variable {d : Disk} {p : Path}

section Followed

variable (hcharacters : '\x00' ∉ p.text.toList) (hempty : p.isEmpty = false)
  (hlength : p.text.utf8ByteSize ≤ longestPath)
include hcharacters hempty hlength

/-- A path is followed from the root or from the working directory. -/
theorem origin_eq : d.origin p = .ok (if p.isAbsolute then [] else d.home) := by
  unfold origin
  rw [String.contains_char_eq, decide_eq_false hcharacters, hempty, if_neg Bool.false_ne_true,
    if_neg Bool.false_ne_true, if_neg (Nat.not_lt.2 hlength)]

/-- What a path leads to is what stands at the place that its names lead to. -/
theorem resolve_eq_walk :
    d.resolve p =
      (d.walk (if p.isAbsolute then [] else d.home)
        (names p ++ if asksForDirectory p then ["."] else [])).bind fun place =>
          match d.get? place with
          | some node => .ok node
          | none => .error .noEntry := by
  rw [resolve, origin_eq hcharacters hempty hlength]
  rfl

/-- A path whose names lead to nothing is missing. -/
theorem read_of_walk_none {place : Place}
    (hwalk : d.walk (if p.isAbsolute then [] else d.home)
      (names p ++ if asksForDirectory p then ["."] else []) = .ok place)
    (hnone : d.get? place = none) : d.read p = .error .noEntry := by
  have hresolve : d.resolve p = .error .noEntry := by
    rw [resolve_eq_walk hcharacters hempty hlength, hwalk, Except.bind, hnone]
  rw [read, hresolve]
  rfl

/-- A path whose names lead to the encoding of a text has that text. -/
theorem read_of_walk {place : Place} {text : String}
    (hwalk : d.walk (if p.isAbsolute then [] else d.home)
      (names p ++ if asksForDirectory p then ["."] else []) = .ok place)
    (hfile : d.get? place = some (.file text.toUTF8)) : d.read p = .ok text := by
  have hresolve : d.resolve p = .ok (.file text.toUTF8) := by
    rw [resolve_eq_walk hcharacters hempty hlength, hwalk, Except.bind, hfile]
  simp only [read, hresolve, bind, Except.bind, Text.fromUTF8?_toUTF8]
  rfl

/-- A directory whose way leads through a file is refused, and nothing is made. -/
theorem makeDirectory_of_walk_error {last : String} (hlast : (names p).getLast? = some last)
    (hwalk : d.walk (if p.isAbsolute then [] else d.home) ((names p).dropLast ++ ["."]) =
      .error .notDirectory) (hparent : p.parent?.isSome = true) :
    d.makeDirectory p = (.error .notDirectory, d) := by
  have hrefused : d.addDirectory p = .error .notDirectory := by
    rw [addDirectory, resolveParent, origin_eq hcharacters hempty hlength]
    simp only [bind, Except.bind, hlast, hwalk]
  -- The path itself is the first of the directories that are asked for.
  have hfirst : (!p.isEmpty && p.parent?.isSome) = true := by rw [hempty, hparent]; rfl
  rw [makeDirectory, Path.ancestors, List.takeWhile_cons, if_pos hfirst, foundation, hrefused]

end Followed

end Disk

end Scaffold
