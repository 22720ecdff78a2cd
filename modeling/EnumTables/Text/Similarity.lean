/-!
# Similarity of texts

How much two texts have in common, and which of several names a mistyped one may stand for.

The longest run of characters that both texts hold is matched first, then what stands before it in
both and what stands after it in both.  Of runs of one length the first in the left text is taken,
and of those the first in the right one.
-/

namespace EnumTables.Text

/-- The number of characters that two texts share at their beginnings. -/
def agreement : List Char → List Char → Nat
  | c :: cs, d :: ds => if c = d then agreement cs ds + 1 else 0
  | _, _ => 0

/-- A run of characters that two texts share, by the characters before it in each of them. -/
structure SharedRun where
  left : Nat
  right : Nat
  length : Nat
deriving DecidableEq, Repr

/-- The shared runs that begin at each pair of places. -/
def sharedRuns (a b : List Char) : List SharedRun :=
  (List.range a.length).flatMap fun i ↦
    (List.range b.length).map fun j ↦ ⟨i, j, agreement (a.drop i) (b.drop j)⟩

/-- The longer of two runs, the first one if they are of one length. -/
def SharedRun.longer (r s : SharedRun) : SharedRun := if r.length < s.length then s else r

/-- The longest of some runs, the first one of several. -/
def longestOf (runs : List SharedRun) : SharedRun := runs.foldl SharedRun.longer ⟨0, 0, 0⟩

/-- The longest run that two texts share. -/
def longestRun (a b : List Char) : SharedRun := longestOf (sharedRuns a b)

theorem left_lt_of_mem_sharedRuns {a b : List Char} {r : SharedRun} (h : r ∈ sharedRuns a b) :
    r.left < a.length := by
  simp only [sharedRuns, List.mem_flatMap, List.mem_map, List.mem_range] at h
  obtain ⟨i, hi, j, _, rfl⟩ := h
  exact hi

theorem foldl_longer_mem (runs : List SharedRun) (best : SharedRun) :
    runs.foldl SharedRun.longer best ∈ best :: runs := by
  induction runs generalizing best with
  | nil => exact List.mem_singleton.mpr rfl
  | cons r runs ih =>
    have later := ih (best.longer r)
    rw [List.foldl_cons]
    rcases List.mem_cons.mp later with same | further
    · rw [same]
      unfold SharedRun.longer
      split <;> simp
    · exact .tail _ (.tail _ further)

theorem longestOf_mem {runs : List SharedRun} (h : 0 < (longestOf runs).length) :
    longestOf runs ∈ runs := by
  rcases List.mem_cons.mp (foldl_longer_mem runs ⟨0, 0, 0⟩) with none | some
  · rw [longestOf, none] at h
    exact absurd h (Nat.lt_irrefl 0)
  · exact some

/-- A shared run that is not empty begins inside the left text. -/
theorem left_longestRun_lt {a b : List Char} (h : 0 < (longestRun a b).length) :
    (longestRun a b).left < a.length :=
  left_lt_of_mem_sharedRuns (longestOf_mem h)

/-- The number of characters of two texts that are matched with each other. -/
def matched (a b : List Char) : Nat :=
  let r := longestRun a b
  if 0 < r.length then
    matched (a.take r.left) (b.take r.right) + r.length +
      matched (a.drop (r.left + r.length)) (b.drop (r.right + r.length))
  else 0
termination_by a.length
decreasing_by
  all_goals
    have some : 0 < (longestRun a b).length := ‹_›
    have inside := left_longestRun_lt some
    simp only [List.length_take, List.length_drop]
    omega

/-- Whether two texts are alike: of the characters of both together at least three fifths are
matched.  No more are matched than the shorter text has, on either side. -/
def isAlike (a b : List Char) : Bool :=
  let total := a.length + b.length
  3 * total ≤ 10 * min a.length b.length && 3 * total ≤ 10 * matched a b

/-- A name and how much it has in common with another. -/
structure Candidate where
  name : String
  shared : Nat
  total : Nat
deriving DecidableEq, Repr

/-- Whether a candidate is at least as good as another: more of it is shared, or as much and its
name is not before the other's. -/
def Candidate.isBetter (x y : Candidate) : Bool :=
  let here := x.shared * y.total
  let there := y.shared * x.total
  there < here || (here = there && decide (y.name ≤ x.name))

/-- How many names are proposed for a mistyped one at most. -/
def proposalLimit : Nat := 3

/-- The names that a mistyped one may stand for, in alphabetical order. -/
def proposals (names : List String) (mistyped : String) : List String :=
  let alike := names.filter fun n ↦ isAlike n.toList mistyped.toList
  let candidates := alike.map fun n ↦
    Candidate.mk n (matched n.toList mistyped.toList) (n.length + mistyped.length)
  let best := (candidates.mergeSort Candidate.isBetter).take proposalLimit
  (best.map Candidate.name).mergeSort fun x y ↦ decide (x ≤ y)

end EnumTables.Text
