import SchemaLens.Text.Ascii

/-!
# Patterns

Patterns of texts, matched with backtracking. Where a pattern can go on in several ways they are
tried in order of preference: an earlier alternative before a later one, and more repetitions before
fewer, or fewer before more where a repetition is to be short. The match of a pattern is the first
way that leads to its end, from the leftmost place that has one.
-/

namespace SchemaLens.Text

/-- A place in a text that is being matched. -/
structure Place where
  /-- The characters passed, nearest first. -/
  before : List Char := []
  /-- The characters to come. -/
  after : List Char
  /-- The texts captured on the way with their numbers, latest first. -/
  captures : List (Nat × List Char) := []
deriving DecidableEq, Repr

namespace Place

/-- The place a number of characters further on. -/
def advance (place : Place) (count : Nat) : Place where
  before := (place.after.take count).reverse ++ place.before
  after := place.after.drop count
  captures := place.captures

/-- Captures the text since an earlier place. -/
def capture (place : Place) (number : Nat) (earlier : Place) : Place where
  before := place.before
  after := place.after
  captures :=
    (number, earlier.after.take (earlier.after.length - place.after.length)) :: place.captures

/-- The text captured last with a number. -/
def captured? (place : Place) (number : Nat) : Option (List Char) :=
  place.captures.lookup number

def isBefore (place : Place) (kind : Char → Bool) : Bool :=
  place.after.head?.any kind

def isAfter (place : Place) (kind : Char → Bool) : Bool :=
  place.before.head?.any kind

end Place

/-- What comes after a place, if anything does. -/
abbrev Continuation : Type :=
  Place → Option Place

inductive Pattern where
  | nothing
  | start
  | finish
  /-- An end of a word of ASCII. -/
  | wordBoundary
  | character (accepts : Char → Bool)
  | andThen (first second : Pattern)
  | orElse (first second : Pattern)
  /-- As many repetitions as possible. -/
  | many (repeated : Pattern)
  /-- As few repetitions as possible. -/
  | few (repeated : Pattern)
  | capture (number : Nat) (captured : Pattern)

namespace Pattern

/-- Takes a step while it takes characters and leads on, and goes on from where it stops. -/
def repeatMany (step : Continuation → Continuation) (next : Continuation) (place : Place) :
    Option Place :=
  (step (fun reached =>
    if reached.after.length < place.after.length then repeatMany step next reached else none)
      place).or (next place)
termination_by place.after.length

/-- Goes on, and takes a step only where this does not lead on. -/
def repeatFew (step : Continuation → Continuation) (next : Continuation) (place : Place) :
    Option Place :=
  (next place).or (step (fun reached =>
    if reached.after.length < place.after.length then repeatFew step next reached else none) place)
termination_by place.after.length

/-- The end of the first way through a pattern and what comes next, from a place on. -/
def run : Pattern → Continuation → Continuation
  | nothing => fun next => next
  | start => fun next place => if place.before.isEmpty then next place else none
  | finish => fun next place => if place.after.isEmpty then next place else none
  | wordBoundary => fun next place =>
    if place.isAfter isAsciiWord != place.isBefore isAsciiWord then next place else none
  | character accepts => fun next place =>
    if place.isBefore accepts then next (place.advance 1) else none
  | andThen first second => fun next => first.run (second.run next)
  | orElse first second => fun next place => (first.run next place).or (second.run next place)
  | many repeated => repeatMany repeated.run
  | few repeated => repeatFew repeated.run
  | capture number captured => fun next place =>
    captured.run (fun reached => next (reached.capture number place)) place

/-- The ends of the matches in a text, each searched for from the end of the one before. A match
takes at least one character. -/
def occurrences (pattern : Pattern) (before : List Char) : List Char → List Place
  | [] => []
  | next :: rest =>
    let found? := pattern.run some { before, after := next :: rest }
    match _found : found?.filter (·.after.length ≤ rest.length) with
    | some final => final :: occurrences pattern final.before final.after
    | none => occurrences pattern (next :: before) rest
termination_by after => after.length
decreasing_by
  · simpa [Nat.lt_succ_iff] using (Option.filter_eq_some_iff.mp _found).2
  · simp

def sequence : List Pattern → Pattern
  | [] => nothing
  | first :: rest => first.andThen (sequence rest)

def symbol (character : Char) : Pattern :=
  .character (· == character)

/-- Characters of a kind, as many as possible. -/
def span (kind : Char → Bool) : Pattern :=
  many (character kind)

/-- A word of small letters in any ASCII case. -/
def word (letters : List Char) : Pattern :=
  sequence (letters.map fun letter => character (·.toLower == letter))

end Pattern

end SchemaLens.Text
