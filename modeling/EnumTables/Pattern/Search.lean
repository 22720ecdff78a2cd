import EnumTables.Pattern.Basic

/-!
# Searching for patterns

A pattern is read as a function from the place at which a match begins to the places at which it may
end, the preferred one first, with what the groups hold then.  What follows depends on nothing else, so
of equal places only the first is kept.
-/

namespace EnumTables.Pattern

/-- A place in a text, and the texts that the groups matched. -/
structure Place where
  /-- What stands before, the nearest first. -/
  before : List CodePoint
  after : List CodePoint
  groups : List (Nat × List CodePoint) := []
deriving DecidableEq, Repr

namespace Place

/-- All places of a text from its beginning to its end; `before` has been passed. -/
def all (before : List CodePoint) : List CodePoint → List Place
  | [] => [⟨before, [], []⟩]
  | p :: ps => ⟨before, p :: ps, []⟩ :: all (p :: before) ps

/-- Whether two places are at the same distance from the end. -/
def meets (x y : Place) : Bool := x.after.length == y.after.length

/-- The place behind one code point of a set. -/
def step? (f : Folding) (s : CharSet) (x : Place) : Option Place :=
  match x.after with
  | p :: ps => if s.holds f p then some { x with before := p :: x.before, after := ps } else none
  | [] => none

/-- The place with the text that has been passed since `x` in a group. -/
def hold (n : Nat) (x y : Place) : Place :=
  { y with groups :=
      (n, x.after.take (x.after.length - y.after.length)) :: y.groups.filter (·.1 ≠ n) }

/-- The place behind a text. -/
def skip? (f : Folding) (text : List CodePoint) (x : Place) : Option Place :=
  let passed := x.after.take text.length
  if passed.map f.lower = text.map f.lower then
    some { x with before := passed.reverse ++ x.before, after := x.after.drop text.length }
  else none

/-- The place a number of code points before. -/
def back? (count : Nat) (x : Place) : Option Place :=
  let passed := x.before.take count
  if passed.length = count then
    some { x with before := x.before.drop count, after := passed.reverse ++ x.after }
  else none

/-- Whether a condition holds at a place.  An empty text has neither a boundary nor none. -/
def satisfies (x : Place) : Anchor → Bool
  | .start => x.before.isEmpty
  | .lineStart => x.before.isEmpty || x.before.head? == some (.char '\n')
  | .stop => x.after.isEmpty || x.after == [.char '\n']
  | .lineStop => x.after.isEmpty || x.after.head? == some (.char '\n')
  | .textEnd => x.after.isEmpty
  | .boundary ascii => x.before.head?.any (Category.word.holds ascii) !=
      x.after.head?.any (Category.word.holds ascii)
  | .noBoundary ascii => !(x.before.isEmpty && x.after.isEmpty) &&
      x.before.head?.any (Category.word.holds ascii) ==
        x.after.head?.any (Category.word.holds ascii)

end Place

/-- The places behind exactly `count` steps. -/
def repeatedly (step : Place → List Place) : Nat → List Place → List Place
  | _, [] => []
  | 0, xs => xs
  | count + 1, xs => repeatedly step count (xs.flatMap step).eraseDups

/-- The places behind any number of further steps, at most `left` if that is a number.  A step that
leads nowhere is the last one.  What was `seen` with as many steps left has been explored. -/
def explore (step : Place → List Place) (lazy : Bool) : Nat → Option Nat →
    List (Option Nat × Place) → Place → List Place × List (Option Nat × Place)
  | 0, _, seen, x => ([x], seen)
  | fuel + 1, left, seen, x =>
    if left = some 0 then ([x], seen)
    else if seen.contains (left, x) then ([], seen)
    else
      let (more, seen) := (step x).foldl
        (fun found y ↦
          if y.meets x then (found.1 ++ [y], found.2)
          else
            let later := explore step lazy fuel (left.map (· - 1)) found.2 y
            (found.1 ++ later.1, later.2))
        ([], (left, x) :: seen)
      (if lazy then x :: more else more ++ [x], seen)

/-- The places behind a repetition. -/
def repetition (step : Place → List Place) (g : Greed) (least : Nat) (most : Option Nat) (x : Place) :
    List Place :=
  -- every further step but the last leads on
  let further (y : Place) : List Place :=
    (explore step (g = .lazy) (y.after.length + 1) (most.map (· - least)) [] y).1
  (repeatedly step least [x]).flatMap further

/-- The places at which a match that begins at `x` may end, the preferred one first. -/
def ends : Pattern → Place → List Place
  | .empty, x => [x]
  | .one f s, x => (x.step? f s).toList
  | .seq a b, x => ((ends a x).flatMap (ends b)).eraseDups
  | .alt a b, x => (ends a x ++ ends b x).eraseDups
  | .times .possessive least most a, x =>
    (repetition (fun y ↦ (ends a y).take 1) .possessive least most x).take 1
  | .times g least most a, x => (repetition (ends a) g least most x).eraseDups
  | .group n a, x => ((ends a x).map (x.hold n)).eraseDups
  | .back f n _, x => ((x.groups.lookup n).bind fun text ↦ x.skip? f text).toList
  | .ahead matching a, x =>
    match ends a x, matching with
    | y :: _, true => [{ x with groups := y.groups }]
    | [], false => [x]
    | _, _ => []
  | .behind matching a, x =>
    let found := (x.back? a.width.least).elim [] (ends a)
    match found, matching with
    | y :: _, true => [{ x with groups := y.groups }]
    | [], false => [x]
    | _, _ => []
  | .atomic a, x => (ends a x).take 1
  | .given n a b, x => if (x.groups.lookup n).isSome then ends a x else ends b x
  | .anchor c, x => if x.satisfies c then [x] else []

/-- Whether some part of a text matches. -/
def occursIn (p : Pattern) (t : RawText) : Bool :=
  (Place.all [] t.points).any fun x ↦ !(ends p x).isEmpty

end EnumTables.Pattern
