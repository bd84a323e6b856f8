/-!
Sorting by runs, which gives an answer also for a relation that is no order.

The items are cut into runs that already stand in order, short runs are filled up by insertion, and
neighbouring runs are merged. A merge takes item after item, and gallops where one run keeps
winning.
-/

namespace Themer.RunSort

/-! Runs -/

/-- The items with one more, put at the place that a search by halving leads to. -/
def insert {α : Type} (before : α → α → Bool) (item : α) (sorted : List α) : List α :=
  let half := sorted.length / 2
  match halves : sorted.drop half with
  | [] => [item]
  | middle :: upper =>
    -- Either side is shorter, for the one in the middle is in neither.
    have size : sorted.length - half = upper.length + 1 := by
      simpa using congrArg List.length halves
    if before item middle then insert before item (sorted.take half) ++ middle :: upper
    else sorted.take half ++ middle :: insert before item upper
termination_by sorted.length
decreasing_by
  all_goals
    try rw [List.length_take]
    omega

/-- The items at the front that each keep a relation to the one before, and the others. -/
def splitWhile {α : Type} (keeps : α → α → Bool) (last : α) : List α → List α × List α
  | [] => ([], [])
  | next :: rest =>
    if keeps last next then
      let (run, others) := splitWhile keeps next rest
      (next :: run, others)
    else ([], next :: rest)

/-- The run at the front, turned around if it falls, and the other items. -/
def firstRun {α : Type} (before : α → α → Bool) : List α → List α × List α
  | first :: second :: rest =>
    -- It falls only where each item comes before the last one, so turning it around parts no ties.
    let falls := before second first
    let (run, others) := splitWhile (fun last next => before next last == falls) second rest
    let run := first :: second :: run
    (if falls then run.reverse else run, others)
  | few => (few, [])

/-- The least length of a run, from the length of all and whether a bit of it was dropped. -/
def leastRunFrom (length dropped : Nat) : Nat :=
  if length < 64 then length + dropped
  else leastRunFrom (length / 2) (max dropped (length % 2))
termination_by length

/-- The least length of a run: the six leading bits of the length of all, rounded up. -/
def leastRun (length : Nat) : Nat := leastRunFrom length 0

/-- The items cut into runs, each filled up to a least length; for at most so many runs. -/
def cut {α : Type} (before : α → α → Bool) (least : Nat) : Nat → List α → List (List α)
  | 0, _ => []
  | _, [] => []
  | steps + 1, items =>
    let (run, others) := firstRun before items
    -- A run that is long enough already wants none.
    let wanting := least - run.length
    let run := (others.take wanting).foldl (fun run item => insert before item run) run
    run :: cut before least steps (others.drop wanting)

/-! Galloping -/

/-- How far a stride is doubled while a test holds at its end, with the stride before it. -/
def stride (holds : Nat → Bool) (most : Nat) : Nat → Nat → Nat → Nat × Nat
  | 0, last, next => (last, next)
  | steps + 1, last, next =>
    -- One more than doubled, so that strides end at one less than a power of two.
    if next < most && holds next then stride holds most steps next (2 * next + 1)
    else (last, min next most)

/-- The first place from one on to another where a test fails, looked for by halving. -/
def halve (holds : Nat → Bool) (low high : Nat) : Nat :=
  if low < high then
    let middle := low + (high - low) / 2
    if holds middle then halve holds (middle + 1) high else halve holds low middle
  else low
termination_by high - low

/-- The first of some places where a test fails, looked for from a given place outwards. -/
def gallop (holds : Nat → Bool) (length start : Nat) : Nat :=
  if holds start then
    let (last, next) := stride (fun step => holds (start + step)) (length - start) length 0 1
    halve holds (start + last + 1) (start + next)
  else
    let (last, next) := stride (fun step => !holds (start - step)) (start + 1) length 0 1
    halve holds (start + 1 - next) (start - last)

/-- Whether the item at a place, if there is one, passes a test. -/
def passes {α : Type} (items : List α) (test : α → Bool) (place : Nat) : Bool :=
  (items[place]?).any test

/-! Merging two runs -/

/-- The end at which two runs are merged first. -/
inductive Side
  | front
  | back
deriving DecidableEq, Repr

/-- Two runs on the way to be merged; at the back all of the lists are turned around. -/
structure Merging (α : Type) where
  side : Side
  left : List α
  right : List α
  merged : List α

namespace Merging

variable {α : Type}

/-- Whether nothing is left to compare: one run is used up, or but for its outermost item. -/
def isDone (merging : Merging α) : Bool :=
  match merging.side with
  | .front => merging.left.length ≤ 1 || merging.right.isEmpty
  | .back => merging.right.length ≤ 1 || merging.left.isEmpty

/-- The run that two runs give once nothing is left to compare. -/
def finish (merging : Merging α) : List α :=
  match merging.side with
  | .front => merging.merged.reverse ++ merging.right ++ merging.left
  | .back => merging.right.reverse ++ merging.left.reverse ++ merging.merged

/-- Takes some items of the left run. -/
def takeLeft (merging : Merging α) (count : Nat) : Merging α :=
  { merging with
    left := merging.left.drop count
    merged := (merging.left.take count).reverse ++ merging.merged }

/-- Takes some items of the right run. -/
def takeRight (merging : Merging α) (count : Nat) : Merging α :=
  { merging with
    right := merging.right.drop count
    merged := (merging.right.take count).reverse ++ merging.merged }

/-- Whether the right run has the next item, if both have one. -/
def takesRight? (before : α → α → Bool) (merging : Merging α) : Option Bool :=
  match merging.left, merging.right with
  | left :: _, right :: _ =>
    -- At the back the later of the two goes first, so a tie falls to the right run there.
    some (before right left == (merging.side == .front))
  | _, _ => none

/--
Takes item after item until one run has won so many times in a row, or nothing is left to compare.

The counts say how often either run has won just now.
-/
def oneByOne (before : α → α → Bool) (patience : Nat) :
    Nat → Nat → Nat → Merging α → Merging α
  | 0, _, _, merging => merging
  | steps + 1, leftWins, rightWins, merging =>
    if merging.isDone || max leftWins rightWins ≥ patience then merging
    else match merging.takesRight? before with
      | some true => oneByOne before patience steps 0 (rightWins + 1) (merging.takeRight 1)
      | some false => oneByOne before patience steps (leftWins + 1) 0 (merging.takeLeft 1)
      | none => merging

/-- How many of the items that one run has next pass a test, looked for by galloping. -/
def leading (side : Side) (items : List α) (test : α → Bool) : Nat :=
  match side with
  | .front => gallop (passes items test) items.length 0
  -- The list is turned around once more, and the search starts at the item that is next.
  | .back =>
    items.length - gallop (passes items.reverse fun item => !test item) items.length
      (items.length - 1)

/-- Takes the items of the left run that come before the next one of the right run. -/
def gallopLeft (before : α → α → Bool) (merging : Merging α) : Nat × Merging α :=
  match merging.right with
  | [] => (0, merging)
  | right :: _ =>
    let count := leading merging.side merging.left fun left =>
      before right left == (merging.side == .back)
    (count, merging.takeLeft count)

/-- Takes the items of the right run that come before the next one of the left run. -/
def gallopRight (before : α → α → Bool) (merging : Merging α) : Nat × Merging α :=
  match merging.left with
  | [] => (0, merging)
  | left :: _ =>
    let count := leading merging.side merging.right fun right =>
      before right left == (merging.side == .front)
    (count, merging.takeRight count)

/-- How many items a gallop has to bring for another one to follow. -/
def worthGalloping : Nat := 7

/-- Gallops while it is worth it. It gives the patience that is left for the next time. -/
def byGalloping (before : α → α → Bool) : Nat → Nat → Merging α → Nat × Merging α
  | 0, patience, merging => (patience, merging)
  | steps + 1, patience, merging =>
    -- Every gallop makes the next one easier to come by.
    let patience := max 1 (patience - 1)
    let (leftCount, merging) := merging.gallopLeft before
    if merging.isDone then (patience, merging)
    else
      -- The item at which the gallop stopped belongs to the other run.
      let merging := merging.takeRight 1
      if merging.isDone then (patience, merging)
      else
        let (rightCount, merging) := merging.gallopRight before
        if merging.isDone then (patience, merging)
        else
          let merging := merging.takeLeft 1
          if merging.isDone then (patience, merging)
          else if max leftCount rightCount ≥ worthGalloping then
            byGalloping before steps patience merging
          else (patience + 1, merging)

/-- Merges until nothing is left to compare. It gives the patience that is left. -/
def complete (before : α → α → Bool) : Nat → Nat → Merging α → Nat × Merging α
  | 0, patience, merging => (patience, merging)
  | steps + 1, patience, merging =>
    let size := merging.left.length + merging.right.length
    -- Neither run has won anything yet when galloping has stopped.
    let merging := merging.oneByOne before patience size 0 0
    if merging.isDone then (patience, merging)
    else
      let (patience, merging) := merging.byGalloping before size (patience + 1)
      if merging.isDone then (patience, merging) else complete before steps patience merging

end Merging

/--
Two neighbouring runs made one, and the patience that is left.

What already stands where it belongs at either end is not touched.
The shorter run of the others decides on which end is merged first.
-/
def merge {α : Type} (before : α → α → Bool) (patience : Nat) (left right : List α) :
    Nat × List α :=
  -- Items of the left run that the first of the right one does not come before stay in front.
  let kept := match right with
    | [] => left.length
    | first :: _ => gallop (passes left fun item => !before first item) left.length 0
  let (low, left) := (left.take kept, left.drop kept)
  match left.getLast? with
  | none => (patience, low ++ right)
  | some last =>
    -- Items of the right run that do not come before the last of the left one stay at the end.
    let count := gallop (passes right fun item => before item last) right.length
      (right.length - 1)
    let (right, high) := (right.take count, right.drop count)
    let (patience, merged) :=
      if right.isEmpty then (patience, left)
      else
        let start : Merging α :=
          -- The first item to be taken is known by the cut that was made above.
          if left.length ≤ right.length then (Merging.mk .front left right []).takeRight 1
          else (Merging.mk .back left.reverse right.reverse []).takeLeft 1
        let (patience, merging) := start.complete before (left.length + right.length) patience
        (patience, merging.finish)
    (patience, low ++ merged ++ high)

/-! Merging all runs -/

/-- A run that waits to be merged: where it starts, and the level of its border to the next one. -/
structure Waiting (α : Type) where
  start : Nat
  items : List α
  level : Nat

/-- The runs that wait, the last one first, and the patience that is left. -/
structure Pending (α : Type) where
  patience : Nat
  runs : List (Waiting α)

/-- The level of a border: how often the whole is halved until a middle falls between the two. -/
def borderLevel (length : Nat) : Nat → Nat → Nat → Nat
  | 0, _, _ => 0
  | steps + 1, low, high =>
    if length ≤ low then borderLevel length steps (2 * (low - length)) (2 * (high - length)) + 1
    else if length ≤ high then 1
    else borderLevel length steps (2 * low) (2 * high) + 1

namespace Pending

variable {α : Type}

/-- Merges the two runs below some others that wait. -/
def mergeBelow (before : α → α → Bool) (pending : Pending α) (above : List (Waiting α))
    (right left : Waiting α) (below : List (Waiting α)) : Pending α :=
  let (patience, items) := merge before pending.patience left.items right.items
  ⟨patience, above ++ { left with items } :: below⟩

/-- Merges the last runs while the border before them has a higher level than a given one. -/
def mergeAbove (before : α → α → Bool) (level : Nat) : Nat → Pending α → Pending α
  | 0, pending => pending
  | steps + 1, pending => match pending.runs with
    | right :: left :: below =>
      if level < left.level then
        mergeAbove before level steps (pending.mergeBelow before [] right left below)
      else pending
    | _ => pending

/-- What waits after one more run, in a whole of some length. -/
def push (before : α → α → Bool) (length : Nat) (pending : Pending α) (items : List α) :
    Pending α :=
  match pending.runs with
  -- Its border has no level until there is a run behind it.
  | [] => { pending with runs := [⟨0, items, 0⟩] }
  | last :: _ =>
    -- Twice the middles of both runs, so that no half is rounded.
    let low := 2 * last.start + last.items.length
    let level := borderLevel length length low (low + last.items.length + items.length)
    let pending := pending.mergeAbove before level pending.runs.length
    let runs := match pending.runs with
      | [] => []
      | top :: below => { top with level } :: below
    let next : Waiting α := ⟨last.start + last.items.length, items, 0⟩
    { pending with runs := next :: runs }

/-- Merges all runs that wait; a short one at the end does not wait for a long one before it. -/
def mergeAll (before : α → α → Bool) : Nat → Pending α → List α
  | 0, pending => (pending.runs.reverse.map Waiting.items).flatten
  | steps + 1, pending => match pending.runs with
    | last :: right :: left :: below =>
      -- The one in the middle goes with the shorter of its neighbours.
      if left.items.length < last.items.length then
        mergeAll before steps (pending.mergeBelow before [last] right left below)
      else mergeAll before steps (pending.mergeBelow before [] last right (left :: below))
    | [last, first] => mergeAll before steps (pending.mergeBelow before [] last first [])
    | [only] => only.items
    | [] => []

end Pending

/-- The items sorted by a relation; those that it does not tell apart stay as they were. -/
def sort {α : Type} (before : α → α → Bool) (items : List α) : List α :=
  let length := items.length
  let runs := cut before (leastRun length) length items
  let start : Pending α := ⟨Merging.worthGalloping, []⟩
  (runs.foldl (fun pending run => pending.push before length run) start).mergeAll before
    runs.length

end Themer.RunSort
