/-!
# Pieces of a text

Splitting a text at separators or at the first one of them, its first line, and replacing characters
by texts.
-/

namespace Scaffold.Text

/-- The pieces between the characters that satisfy `p`; the empty text has one empty piece. -/
def piecesOf (p : Char → Bool) : List Char → List (List Char)
  | [] => [[]]
  | c :: cs =>
    if p c then [] :: piecesOf p cs
    else match piecesOf p cs with
      | [] => [[c]]
      | s :: ss => (c :: s) :: ss

theorem piecesOf_ne_nil (p : Char → Bool) (cs : List Char) : piecesOf p cs ≠ [] := by
  cases cs with
  | nil => simp [piecesOf]
  | cons c cs =>
    rw [piecesOf]
    split
    · simp
    · split <;> simp

/-- The maximal runs of characters that do not satisfy `p`, in order. -/
def runsOf (p : Char → Bool) (cs : List Char) : List (List Char) :=
  (piecesOf p cs).filter fun run => !run.isEmpty

theorem runsOf_nil (p : Char → Bool) : runsOf p [] = [] := rfl

/-- A separator at the front changes no run. -/
theorem runsOf_cons_of_pos {p : Char → Bool} {c : Char} (h : p c = true) (cs : List Char) :
    runsOf p (c :: cs) = runsOf p cs := by
  simp [runsOf, piecesOf, h]

/-- The pieces of a string between the characters that satisfy `p`. -/
def pieces (p : Char → Bool) (s : String) : List String :=
  (piecesOf p s.toList).map String.ofList

/-- What stands before the first character `c` of a string and what stands behind it, if there is
one. -/
def splitFirst? (c : Char) (s : String) : Option (String × String) :=
  match s.toList.dropWhile (· != c) with
  | _ :: rest => some (String.ofList (s.toList.takeWhile (· != c)), String.ofList rest)
  | [] => none

/-- The first line of a text that has one: up to the first line feed, without a carriage return
before that line feed. -/
def firstLine? (s : String) : Option String :=
  let cs := s.toList
  let line := cs.takeWhile (· != '\n')
  if cs.isEmpty then none
  else if line.length == cs.length then some s
  else if line.getLast? == some '\r' then some (String.ofList line.dropLast)
  else some (String.ofList line)

/-- The text with `f c` in place of every character `c`. -/
def expand (f : Char → List Char) (s : String) : String :=
  String.ofList (s.toList.flatMap f)

/-- Whether `t` occurs in `s`. -/
def occursIn (t s : List Char) : Bool :=
  match s with
  | [] => t.isEmpty
  | _ :: rest => t.isPrefixOf s || occursIn t rest

/-- Whether the string `t` occurs in the string `s`. -/
def mentions (s t : String) : Bool :=
  occursIn t.toList s.toList

/-- Whether the string `s` begins with the string `t`. -/
def begins (s t : String) : Bool :=
  t.toList.isPrefixOf s.toList

/-- The string without the beginning `t`, if it begins with `t`. -/
def dropBeginning? (s t : String) : Option String :=
  if begins s t then some (String.ofList (s.toList.drop t.length)) else none

end Scaffold.Text
