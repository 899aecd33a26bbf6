import Scaffold.CSharp.Phrase
import Scaffold.CSharp.Token

/-!
# Patterns

The right-hand sides of the grammar: regular patterns over tokens and phrases.
-/

namespace Scaffold.CSharp

/-- What a part of a phrase is to the phrase. -/
inductive Role where
  | name
  | type
  /-- The return type of a method. -/
  | returns
  | parameters
  | typeParameters
  | body
deriving DecidableEq, Repr, Inhabited

/-- The parts that a phrase may consist of. -/
inductive Pattern where
  | token (t : Token)
  | phrase (p : Phrase)
  /-- The patterns one after another. -/
  | sequence (parts : List Pattern)
  /-- One of the patterns. -/
  | choice (parts : List Pattern)
  /-- The pattern any number of times. -/
  | repeated (part : Pattern)
  /-- The pattern or nothing. -/
  | optional (part : Pattern)
  /-- The pattern, whose parts play a role. -/
  | labelled (role : Role) (part : Pattern)
deriving Inhabited

namespace Pattern

/-- A keyword. -/
def word (text : String) : Pattern := token (.word text)

/-- An operator or punctuation mark. -/
def mark (text : String) : Pattern := token (.mark text)

/-- One of some keywords. -/
def wordsOf (texts : List String) : Pattern := choice (texts.map word)

/-- One of some marks. -/
def marksOf (texts : List String) : Pattern := choice (texts.map mark)

/-- One of some phrases. -/
def phrases (ps : List Phrase) : Pattern := choice (ps.map phrase)

/-- One or more of a pattern, with a mark between two of them. -/
def separated (by' : String) (part : Pattern) : Pattern :=
  sequence [part, repeated (sequence [mark by', part])]

/-- One or more of a pattern with commas between. -/
def list (part : Pattern) : Pattern := separated "," part

/-- Any number of a pattern with commas between. -/
def listOrNothing (part : Pattern) : Pattern := optional (list part)

/-- One or more of a pattern with commas between, and perhaps one after. -/
def openList (part : Pattern) : Pattern := sequence [list part, optional (mark ",")]

/-- A pattern between two marks. -/
def between (opening closing : String) (parts : List Pattern) : Pattern :=
  sequence (mark opening :: parts ++ [mark closing])

end Pattern

end Scaffold.CSharp
