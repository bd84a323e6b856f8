import Mathlib.Data.String.Basic
import Themer.Listing
import Themer.Proofs.Datum.Keys
import Themer.Proofs.Session.Work

/-!
Listings in order, said without sorting: the same ones, none after a greater, ties as they were.

One list alone is in order in that sense, so that sorting goes with whatever keeps it.
-/

namespace Themer

namespace Binary64

/-- The bits below the sign are what a number was made with, if they leave the sign bit free. -/
theorem magnitude_ofMagnitude (negative : Bool) {magnitude : Nat}
    (bound : magnitude ≤ infinityMagnitude) :
    (ofMagnitude negative magnitude).magnitude = magnitude := by
  have most : infinityMagnitude < 2 ^ 63 := by decide
  have sign : twoTo 63 = 2 ^ 63 := by rfl
  unfold ofMagnitude Binary64.magnitude
  rw [sign]
  show (magnitude + _) % 2 ^ 64 % 2 ^ 63 = magnitude
  cases negative <;> simp only [Bool.false_eq_true, if_true, if_false] <;> omega

/-- A number that is made with a magnitude up to that of infinity is one. -/
theorem isNaN_ofMagnitude (negative : Bool) {magnitude : Nat}
    (bound : magnitude ≤ infinityMagnitude) : (ofMagnitude negative magnitude).isNaN = false := by
  rw [isNaN, magnitude_ofMagnitude negative bound, decide_eq_false_iff_not]
  omega

/-- What is computed from finite numbers is rounded to a number. -/
theorem isNaN_ofSteps (steps : Int) (parts : Nat) : (ofSteps steps parts).isNaN = false := by
  -- Whatever the rounding gives, it is cut down to the magnitude of infinity.
  unfold ofSteps nearest
  split
  · exact isNaN_ofMagnitude _ (Nat.zero_le _)
  · exact isNaN_ofMagnitude _ (Nat.min_le_right _ _)

/-- A number without its sign is still one. -/
theorem isNaN_abs {x : Binary64} (number : x.isNaN = false) : x.abs.isNaN = false := by
  rw [isNaN, decide_eq_false_iff_not] at number
  exact isNaN_ofMagnitude false (by omega)

end Binary64

/-- Every color has a luminance. -/
theorem Color.isNaN_luminance (color : Color) : color.luminance.isNaN = false :=
  Binary64.isNaN_ofSteps _ _

namespace Order

/--
Whether one listing may stand in front of another.

Names go by the code points of their characters, and numbers by how many of the smallest steps
they are.
-/
def AtMost (order : Order) (x y : Listing) : Prop :=
  match order with
  | .name => x.name.toList ≤ y.name.toList
  | .luminance => x.luminance.steps ≤ y.luminance.steps
  | .contrast => x.contrast.steps ≤ y.contrast.steps

instance (order : Order) (x y : Listing) : Decidable (order.AtMost x y) :=
  match order with
  | .name => inferInstanceAs (Decidable (x.name.toList ≤ y.name.toList))
  | .luminance => inferInstanceAs (Decidable (x.luminance.steps ≤ y.luminance.steps))
  | .contrast => inferInstanceAs (Decidable (x.contrast.steps ≤ y.contrast.steps))

/-- Each name of an order is listed with this order and with no other. -/
theorem ofName_eq_ok_iff {name : String} {order : Order} :
    ofName name = .ok order ↔ (name, order) ∈ choices := by
  -- No name is listed twice, so that the first that is found is the only one.
  have apart : choices.Pairwise fun a b => a.1 ≠ b.1 := by decide
  unfold ofName
  constructor
  · intro found
    split at found
    · rename_i looked
      cases found
      obtain ⟨before, after, split, _⟩ := List.lookup_eq_some_iff.mp looked
      rw [split]
      simp
    · cases found
  · intro listed
    obtain ⟨before, after, split⟩ := List.append_of_mem listed
    have earlier : ∀ entry ∈ before, name ≠ entry.1 := by
      rw [split] at apart
      exact fun entry among =>
        ((List.pairwise_append.mp apart).2.2 entry among _ List.mem_cons_self).symm
    rw [List.lookup_eq_some_iff.mpr ⟨before, after, split, by simpa using earlier⟩]

/-- Whether an order tells two listings apart. -/
def ties (order : Order) (x y : Listing) : Bool :=
  decide (order.AtMost x y) && decide (order.AtMost y x)

variable {order : Order} {x y z : Listing}

/-- A listing may stand in front of whatever those behind it may stand in front of. -/
theorem AtMost.trans (first : order.AtMost x y) (second : order.AtMost y z) :
    order.AtMost x z := by
  cases order with
  | name => exact le_trans (α := List Char) first second
  | luminance => exact Int.le_trans first second
  | contrast => exact Int.le_trans first second

/-- Of two listings, one may stand in front of the other. -/
theorem atMost_total (order : Order) (x y : Listing) : order.AtMost x y ∨ order.AtMost y x := by
  cases order with
  | name => exact le_total x.name.toList y.name.toList
  | luminance => exact Int.le_total _ _
  | contrast => exact Int.le_total _ _

/-- A listing may stand in front of another that does not come before it, if both have a place. -/
theorem before_eq_false_iff (placed : order.places x = true) (placedOther : order.places y = true) :
    order.before y x = false ↔ order.AtMost x y := by
  cases order with
  | name =>
    show decide (y.name < x.name) = false ↔ x.name.toList ≤ y.name.toList
    rw [decide_eq_false_iff_not, String.lt_iff_toList_lt, not_lt]
  | luminance =>
    -- Numbers that are some compare by where they stand.
    have number : x.luminance.isNaN = false := by simpa [places] using placed
    have other : y.luminance.isNaN = false := by simpa [places] using placedOther
    simp [before, AtMost, Binary64.lt, number, other, Binary64.steps_le_steps_iff]
  | contrast =>
    have number : x.contrast.isNaN = false := by simpa [places] using placed
    have other : y.contrast.isNaN = false := by simpa [places] using placedOther
    simp [before, AtMost, Binary64.lt, number, other, Binary64.steps_le_steps_iff]

/-- Two listings tie where each may stand in front of the other. -/
theorem ties_iff : order.ties x y = true ↔ order.AtMost x y ∧ order.AtMost y x := by
  simp [ties]

/-- Every listing ties with itself. -/
theorem ties_self (order : Order) (x : Listing) : order.ties x x = true := by
  have same : order.AtMost x x := (order.atMost_total x x).elim id id
  exact ties_iff.mpr ⟨same, same⟩

end Order

namespace Listing

/--
Some listings in order.

They are the same ones, none stands behind a greater one, and those that tie with any one of them
stand as they did.
-/
structure SortsTo (order : Order) (listings sorted : List Listing) : Prop where
  perm : sorted.Perm listings
  ordered : sorted.Pairwise order.AtMost
  stable : ∀ x, sorted.filter (order.ties x) = listings.filter (order.ties x)

variable {order : Order} {listings : List Listing}

/-- Listings that are in order are so by themselves. -/
theorem SortsTo.refl (ordered : listings.Pairwise order.AtMost) :
    SortsTo order listings listings :=
  ⟨.refl _, ordered, fun _ => rfl⟩

/-- Those of some listings that pass a test are in order where all of them are. -/
theorem SortsTo.filter {sorted : List Listing} (sorts : SortsTo order listings sorted)
    (test : Listing → Bool) : SortsTo order (listings.filter test) (sorted.filter test) where
  perm := sorts.perm.filter test
  ordered := sorts.ordered.filter test
  stable x := by
    rw [List.filter_comm, sorts.stable x, List.filter_comm]

/-- The first of some listings in order may stand in front of each of them, itself included. -/
theorem atMost_of_mem {first x : Listing} {rest : List Listing}
    (ordered : (first :: rest).Pairwise order.AtMost) (among : x ∈ first :: rest) :
    order.AtMost first x := by
  rcases List.mem_cons.mp among with rfl | behind
  · exact (Order.ties_iff.mp (order.ties_self x)).1
  · exact (List.pairwise_cons.mp ordered).1 x behind

/-- Listings in order are the same if they are the same ones, and those that tie stand the same. -/
theorem eq_of_ordered {first second : List Listing} (perm : first.Perm second)
    (orderedFirst : first.Pairwise order.AtMost) (orderedSecond : second.Pairwise order.AtMost)
    (stable : ∀ x, first.filter (order.ties x) = second.filter (order.ties x)) :
    first = second := by
  -- The least listings of both tie, so they are one, and what is behind them is alike again.
  induction first generalizing second with
  | nil => exact perm.nil_eq
  | cons x restFirst ih =>
    cases second with
    | nil => exact absurd perm.symm.nil_eq (by simp)
    | cons y restSecond =>
      have yMost : order.AtMost x y :=
        atMost_of_mem orderedFirst (perm.symm.subset List.mem_cons_self)
      have xMost : order.AtMost y x :=
        atMost_of_mem orderedSecond (perm.subset List.mem_cons_self)
      have leading := stable x
      rw [List.filter_cons_of_pos (order.ties_self x),
        List.filter_cons_of_pos (Order.ties_iff.mpr ⟨yMost, xMost⟩)] at leading
      obtain ⟨rfl, _⟩ := List.cons.inj leading
      have rest : restFirst = restSecond := by
        refine ih perm.cons_inv orderedFirst.tail orderedSecond.tail ?_
        intro z
        -- The leading one is filtered out of both or of neither.
        have whole := stable z
        rw [List.filter_cons, List.filter_cons] at whole
        split at whole
        · exact (List.cons.inj whole).2
        · exact whole
      rw [rest]

/-- There is one way only for listings to be in order. -/
theorem SortsTo.unique {first second : List Listing} (sorts : SortsTo order listings first)
    (again : SortsTo order listings second) : first = second :=
  eq_of_ordered (sorts.perm.trans again.perm.symm) sorts.ordered again.ordered
    fun x => (sorts.stable x).trans (again.stable x).symm

/-- Where all have a place in the order, sorting merges by what may stand in front. -/
theorem sort_eq_mergeSort (placed : ∀ x ∈ listings, order.places x = true) :
    sort order listings = listings.mergeSort fun x y => decide (order.AtMost x y) := by
  -- The program asks for the reverse of what comes before; on those with a place it is the same.
  have all : listings.all order.places = true := by simpa using placed
  have same := List.map_mergeSort (f := id) (l := listings)
    (r := fun x y => !order.before y x) (s := fun x y => decide (order.AtMost x y)) ?_
  · rw [sort, if_pos all]
    simpa using same
  · intro x xAmong y yAmong
    have told := Order.before_eq_false_iff (placed x xAmong) (placed y yAmong)
    rw [id, id, Bool.eq_iff_iff, decide_eq_true_iff, ← told, Bool.not_eq_true']

/-- Listings that all have a place in an order are sorted by it. -/
theorem sortsTo_sort (placed : ∀ x ∈ listings, order.places x = true) :
    SortsTo order listings (sort order listings) := by
  have trans : ∀ x y z, decide (order.AtMost x y) = true → decide (order.AtMost y z) = true →
      decide (order.AtMost x z) = true := by
    intro x y z first second
    simp only [decide_eq_true_eq] at first second ⊢
    exact first.trans second
  have total : ∀ x y, (decide (order.AtMost x y) || decide (order.AtMost y x)) = true := by
    intro x y
    simpa using order.atMost_total x y
  rw [sort_eq_mergeSort placed]
  have perm := List.mergeSort_perm listings fun x y => decide (order.AtMost x y)
  refine ⟨perm, ?_, ?_⟩
  · simpa using List.pairwise_mergeSort trans total listings
  · -- Those that tie stand in order as they are, so they are found again in that order.
    intro x
    have within : ∀ y ∈ listings.filter (order.ties x), order.AtMost x y ∧ order.AtMost y x :=
      fun y among => Order.ties_iff.mp (List.mem_filter.mp among).2
    have inOrder : (listings.filter (order.ties x)).Pairwise
        fun y z => decide (order.AtMost y z) = true := by
      refine List.pairwise_of_forall_mem_list ?_
      intro y yAmong z zAmong
      simpa using (within y yAmong).2.trans (within z zAmong).1
    have kept := List.sublist_mergeSort trans total inOrder List.filter_sublist
    have found := kept.filter (order.ties x)
    rw [List.filter_filter] at found
    simp only [Bool.and_self] at found
    exact (found.eq_of_length (perm.filter _).length_eq.symm).symm

/-- Listings in two parts that each keep their order: dark ones and others, each in one of them. -/
structure PartsInto (listings dark light : List Listing) : Prop where
  darkKeeps : dark.Sublist listings
  lightKeeps : light.Sublist listings
  whole : (dark ++ light).Perm listings
  areDark : ∀ x ∈ dark, x.isDark = true
  areLight : ∀ x ∈ light, x.isDark = false

/-- The filters for the dark and for the light ones are the two parts, as the dark ones go first. -/
theorem partsInto_filter (light : Bool) (listings : List Listing) :
    PartsInto listings (filter true light listings) (filter false true listings) where
  darkKeeps := List.filter_sublist
  lightKeeps := List.filter_sublist
  whole := List.filter_append_perm isDark listings
  areDark _ among := (List.mem_filter.mp among).2
  areLight x among := by simpa using (List.mem_filter.mp among).2

/-- Every choice of the filters is a test that listings pass or not. -/
theorem exists_test_of_filter (dark light : Bool) :
    ∃ test : Listing → Bool, ∀ listings, filter dark light listings = listings.filter test := by
  cases dark with
  | true => exact ⟨isDark, fun _ => rfl⟩
  | false =>
    cases light with
    | true => exact ⟨fun x => !x.isDark, fun _ => rfl⟩
    | false => exact ⟨fun _ => true, fun listings => by simp [filter]⟩

/--
Listings are sorted by any name of an order, the ones that tie staying as they were.

The order is the one that the name is listed with, and it tells what is compared.
To sort them again changes nothing, and it does not matter whether they are filtered before or
after; the filters for dark and light ones part them in two.
-/
theorem sorted_stably_and_filtered_alike (name : String) (order : Order)
    (listings : List Listing) (known : Order.ofName name = .ok order)
    (placed : ∀ x ∈ listings, order.places x = true) (dark light : Bool) :
    (name, order) ∈ Order.choices ∧
    ∃ sorted, (Order.ofName name).map (fun order => sort order listings) = .ok sorted ∧
      SortsTo order listings sorted ∧ sort order sorted = sorted ∧
      sort order (filter dark light listings) = filter dark light sorted ∧
      PartsInto listings (filter true light listings) (filter false true listings) := by
  have sorts := sortsTo_sort placed
  refine ⟨Order.ofName_eq_ok_iff.mp known, sort order listings, by rw [known]; rfl, sorts, ?_, ?_,
    partsInto_filter light listings⟩
  · -- What is sorted is in order by itself, and in no other way.
    have placedAgain : ∀ x ∈ sort order listings, order.places x = true :=
      fun x among => placed x (sorts.perm.subset among)
    exact (sortsTo_sort placedAgain).unique (.refl sorts.ordered)
  · obtain ⟨test, passes⟩ := exists_test_of_filter dark light
    have placedLeft : ∀ x ∈ listings.filter test, order.places x = true :=
      fun x among => placed x (List.mem_filter.mp among).1
    rw [passes, passes]
    exact (sortsTo_sort placedLeft).unique (sorts.filter test)

/-- Two dark ones of the same luminance stay as they were, in front of a light one. -/
theorem sorted_stably_and_filtered_alike_tied :
    let black : Color := ⟨0, 0, 0⟩
    let shown (name : String) (luminance : Binary64) : Listing :=
      ⟨name, black, black, luminance, luminance⟩
    let night := shown "night" (.ofDecimal false 25 (-2))
    let paper := shown "paper" (.ofDecimal false 75 (-2))
    let dusk := shown "dusk" (.ofDecimal false 25 (-2))
    (Order.ofName "bg-lum").map (fun order => sort order [paper, night, dusk]) =
        .ok [night, dusk, paper] ∧
      sort .luminance (filter true false [paper, night, dusk]) = [night, dusk] := by
  intro black shown night paper dusk
  have known : Order.ofName "bg-lum" = .ok .luminance := by rfl
  obtain ⟨_, sorted, named, sorts, _, filtered, _⟩ := sorted_stably_and_filtered_alike "bg-lum"
    .luminance [paper, night, dusk] known (by decide +kernel) true false
  have same : sorted = [night, dusk, paper] := by
    refine sorts.unique ⟨by decide, by decide +kernel, ?_⟩
    intro x
    have alike : Order.luminance.ties x night = Order.luminance.ties x dusk := rfl
    -- Nothing ties with a dark and a light one, for then these two would tie.
    have apart (dark : Order.luminance.ties x dusk = true) :
        Order.luminance.ties x paper = false := by
      rw [Bool.eq_false_iff]
      intro light
      have tied := (Order.ties_iff.mp light).2.trans (Order.ties_iff.mp dark).1
      exact absurd tied (by decide +kernel)
    cases dark : Order.luminance.ties x dusk with
    | true => simp [alike, dark, apart dark]
    | false => simp [List.filter_cons, alike, dark]
  rw [same] at named filtered
  exact ⟨named, filtered.trans (by decide +kernel)⟩

/-- What a palette is listed with has a place in every order. -/
theorem places_of_ofPalette? {path : Path} {palette : Palette} {listing : Listing}
    (listed : ofPalette? path palette = some listing) (order : Order) :
    order.places listing = true := by
  unfold ofPalette? at listed
  split at listed
  · -- A name always has a place, and the other two keys are computed from colors.
    cases listed
    cases order with
    | name => rfl
    | luminance => simp [Order.places, Color.isNaN_luminance]
    | contrast => simp [Order.places, Binary64.isNaN_abs, Binary64.sub, Binary64.isNaN_ofSteps]
  · cases listed

/-- Whatever files are listed, they all have a place in every order. -/
theorem places_of_ofFiles {levels : Nat} {files : List Path} {session after : Session}
    {listings : List Listing} (ended : (ofFiles levels files).runIn session = (.ok listings, after))
    (order : Order) :
    ∀ listing ∈ listings, order.places listing = true := by
  -- A file is listed or told of, and either way the others are listed next.
  induction files generalizing session listings with
  | nil =>
    cases ended
    simp
  | cons file rest ih =>
    obtain ⟨disk, between, looked, later⟩ := Work.ok_of_bind ended
    cases looked
    cases read : Scheme.ofFile levels session.disk file with
    | ok palette =>
      rw [read] at later
      obtain ⟨more, last, listed, done⟩ := Work.ok_of_bind later
      cases done
      intro listing among
      rcases List.mem_append.mp among with own | others
      · exact places_of_ofPalette? (Option.mem_toList.mp own) order
      · exact ih listed listing others
    | error failure =>
      rw [read] at later
      cases failure with
      | reported e =>
        obtain ⟨_, told, _, listed⟩ := Work.ok_of_bind later
        exact ih listed
      | cutShort cause => cases later

/-- All that is collected from a directory can be sorted by every order. -/
theorem places_of_collect {levels : Nat} {directory : Path} {session after : Session}
    {listings : List Listing}
    (ended : (collect levels directory).runIn session = (.ok listings, after)) (order : Order) :
    ∀ listing ∈ listings, order.places listing = true := by
  -- The last of the steps of collecting lists the files, whatever the session is by then.
  obtain ⟨_, _, _, named⟩ := Work.ok_of_bind ended
  obtain ⟨_, _, _, found⟩ := Work.ok_of_bind named
  obtain ⟨_, _, _, listed⟩ := Work.ok_of_bind found
  exact places_of_ofFiles listed order

end Listing

end Themer
