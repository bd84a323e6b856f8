import Themer.Proofs.Datum.Keys
import Themer.Proofs.Json.RoundTrip
import Themer.Proofs.Outcome

/-!
Names that have to differ keep documents out, and change nothing in the others.

What is read where names must differ is what is read where they need not, if no object in it,
however deep, has a name twice.
-/

namespace Themer.Json

/-- What stops a reading gives no value, whether it can be told or not. -/
theorem Stop.raised_ne_ok {α : Type} (stop : Stop) (levels : Nat) (value : α) :
    stop.raised levels ≠ .ok value := by
  unfold Stop.raised within
  split
  · exact nofun
  · split <;> exact nofun
  · exact nofun

/-- Whether one reading gives just what another one gives that is good. -/
def Sifts {α : Type} (good : α → Prop) (strict loose : Except Stop (α × List Char)) : Prop :=
  ∀ value rest, strict = .ok (value, rest) ↔ loose = .ok (value, rest) ∧ good value

namespace Sifts

variable {α β : Type} {good : α → Prop} {after : β → Prop}

/-- A reading that gives nothing but what is good gives just that. -/
theorem of_good {outcome : Except Stop (α × List Char)}
    (each : ∀ value rest, outcome = .ok (value, rest) → good value) :
    Sifts good outcome outcome :=
  fun value rest => ⟨fun read => ⟨read, each value rest read⟩, And.left⟩

/-- A reading is sifted from itself, if all that it gives is good. -/
theorem same {outcome : Except Stop (α × List Char)} :
    Sifts (fun _ => True) outcome outcome :=
  .of_good fun _ _ _ => trivial

/-- Two readings that stop give nothing. -/
theorem of_stop (first second : Stop) :
    Sifts good (.error first : Except Stop (α × List Char)) (.error second) :=
  fun _ _ => ⟨fun read => (nomatch read), fun ⟨read, _⟩ => (nomatch read)⟩

/-- A stop gives nothing, whether it can be told or not. -/
theorem of_raised (stop : Stop) (levels : Nat) :
    Sifts good (stop.raised levels : Except Stop (α × List Char)) (stop.raised levels) :=
  .of_good fun _ _ read => (stop.raised_ne_ok levels _ read).elim

/-- What is read next makes a good whole only with something good before it. -/
theorem bind {strict loose : Except Stop (α × List Char)}
    {next other : α × List Char → Except Stop (β × List Char)} (first : Sifts good strict loose)
    (goesOn : ∀ value rest, good value → Sifts after (next (value, rest)) (other (value, rest)))
    (part : ∀ value rest whole left, other (value, rest) = .ok (whole, left) → after whole →
      good value) :
    Sifts after (strict >>= next) (loose >>= other) := by
  intro whole left
  rw [bind_eq_ok_iff, bind_eq_ok_iff]
  -- Forwards both parts are good in turn; backwards, the first is good as a part of the whole.
  constructor
  · rintro ⟨⟨value, rest⟩, begun, read⟩
    obtain ⟨begunLoose, isGood⟩ := (first value rest).mp begun
    obtain ⟨readLoose, wholeGood⟩ := (goesOn value rest isGood whole left).mp read
    exact ⟨⟨_, begunLoose, readLoose⟩, wholeGood⟩
  · rintro ⟨⟨⟨value, rest⟩, begun, read⟩, wholeGood⟩
    have isGood := part value rest whole left read wholeGood
    exact ⟨_, (first value rest).mpr ⟨begun, isGood⟩,
      (goesOn value rest isGood whole left).mpr ⟨read, wholeGood⟩⟩

end Sifts

/-- Whether a value holds no others. -/
def HoldsNone : Datum → Prop
  | .list _ | .map _ => False
  | _ => True

/-- A value that holds no others is proper. -/
theorem HoldsNone.isProper {value : Datum} (alone : HoldsNone value) : value.IsProper := by
  cases value with
  | list | map => exact alone.elim
  | _ => constructor

/-- Words hold no values. -/
theorem holdsNone_words : ∀ word ∈ words, HoldsNone word.2 := by
  simp [words, HoldsNone]

/-- A number holds no values. -/
theorem holdsNone_of_numberValue {negative : Bool} {whole rest : List Char} {value : Datum}
    (read : numberValue negative whole rest = .ok value) : HoldsNone value := by
  unfold numberValue at read
  dsimp only at read
  split at read
  · split at read <;> cases read
    trivial
  · cases read
    trivial

/-- What is read once the sign of a number is off holds no values. -/
theorem holdsNone_of_unsigned {negative : Bool} {digits document rest : List Char} {value : Datum}
    (read : (match wholePart? digits with
      | some (whole, after) => do
        return (← numberValue negative whole after, afterNumber after)
      | none => .error (.malformed .expectingValue document)) = Except.ok (value, rest)) :
    HoldsNone value := by
  split at read
  · obtain ⟨number, valued, read⟩ := bind_eq_ok_iff.mp read
    cases read
    exact holdsNone_of_numberValue valued
  · cases read

/-- A word or a number holds no values. -/
theorem holdsNone_of_readScalar {levels : Nat} {document rest : List Char} {value : Datum}
    (read : readScalar levels document = .ok (value, rest)) : HoldsNone value := by
  unfold readScalar at read
  split at read
  · rename_i word found
    unfold within at read
    split at read <;> cases read
    exact holdsNone_words word (List.mem_of_find?_eq_some found)
  · exact holdsNone_of_unsigned read

/-- No name is the first to stand in a list again exactly where all are new and different. -/
theorem firstRepeat?_eq_none_iff {seen names : List String} :
    firstRepeat? seen names = none ↔ names.Nodup ∧ ∀ name ∈ names, name ∉ seen := by
  refine ⟨fun none => ?_, fun ⟨distinct, unseen⟩ => firstRepeat?_eq_none distinct unseen⟩
  -- As in the other direction, those seen grow from name to name.
  induction names generalizing seen with
  | nil => simp
  | cons name rest ih =>
    rw [firstRepeat?] at none
    split at none
    · cases none
    · rename_i unseen
      obtain ⟨distinct, others⟩ := ih none
      -- The name was put to those seen, so no later one is the same.
      have apart : name ∉ rest := fun again => others name again (by simp)
      refine ⟨List.nodup_cons.mpr ⟨apart, distinct⟩, List.forall_mem_cons.mpr ⟨unseen, ?_⟩⟩
      exact fun other among known => others other among (List.mem_cons_of_mem _ known)

/-- A level was left for an object that is closed. -/
theorem pos_of_closeObject {distinct : Bool} {levels : Nat} {members : List (String × Datum)}
    {value : Datum} (closed : closeObject distinct levels members = .ok value) : 0 < levels := by
  refine Nat.pos_of_ne_zero fun none => ?_
  -- Without it the first of those taken is missing, whether names come twice or not.
  subst none
  unfold closeObject within at closed
  split at closed <;> cases closed

/-- The members of an object that is closed are its entries, in their order. -/
theorem eq_of_closeObject {distinct : Bool} {levels : Nat} {members : List (String × Datum)}
    {value : Datum} (closed : closeObject distinct levels members = .ok value) :
    value = .map (members.map fun member => (.text member.1, member.2)) := by
  unfold closeObject within at closed
  split at closed <;> split at closed <;> cases closed
  rfl

/-- An object whose names must differ is closed where they do, if a level is left for that. -/
theorem closeObject_eq_ok_iff {levels : Nat} {members : List (String × Datum)} {value : Datum} :
    closeObject true levels members = .ok value ↔
      (members.map Prod.fst).Nodup ∧ closeObject false levels members = .ok value := by
  by_cases distinct : (members.map Prod.fst).Nodup
  · have none : firstRepeat? [] (members.map Prod.fst) = none :=
      firstRepeat?_eq_none distinct fun _ _ => List.not_mem_nil
    have same : closeObject true levels members = closeObject false levels members := by
      rw [closeObject, if_pos rfl, none]
      rfl
    rw [same]
    exact (and_iff_right distinct).symm
  · refine ⟨fun closed => ?_, fun both => absurd both.1 distinct⟩
    -- Some name comes again, and that is told or takes too many levels.
    cases again : firstRepeat? [] (members.map Prod.fst) with
    | none => exact absurd (firstRepeat?_eq_none_iff.mp again).1 distinct
    | some name =>
      simp only [closeObject, if_true, again, within] at closed
      split at closed <;> cases closed

/-- An object is proper exactly where its names differ and its values are proper. -/
theorem isProper_map_iff {members : List (String × Datum)} :
    (Datum.map (members.map fun member => (.text member.1, member.2))).IsProper ↔
      (members.map Prod.fst).Nodup ∧ ∀ member ∈ members, member.2.IsProper := by
  -- The keys are texts, and as keys two texts are the same only if they are equal.
  have keysDiffer : Datum.KeysDiffer (members.map fun member => (.text member.1, member.2)) ↔
      (members.map Prod.fst).Nodup := by
    rw [Datum.KeysDiffer, List.Nodup, List.pairwise_map, List.pairwise_map]
    simp only [Datum.sameKey, beq_eq_false_iff_ne]
  rw [← keysDiffer]
  constructor
  · intro proper
    cases proper with
    | map differ each => exact ⟨differ, fun member among => each _ (List.mem_map_of_mem among)⟩
  · rintro ⟨differ, each⟩
    exact .map differ (List.forall_mem_map.mpr each)

/-- Members with proper values make an object where their names differ, which makes it proper. -/
theorem sifts_closeObject (levels : Nat) {members : List (String × Datum)} (after : List Char)
    (proper : ∀ member ∈ members, member.2.IsProper) :
    Sifts Datum.IsProper (do return (← closeObject true levels members, after))
      (do return (← closeObject false levels members, after)) := by
  intro value rest
  rw [bind_eq_ok_iff, bind_eq_ok_iff]
  -- If a name comes twice, one reading stops here and the other gives what is not proper.
  constructor
  · rintro ⟨object, closed, ended⟩
    obtain ⟨distinct, closed⟩ := closeObject_eq_ok_iff.mp closed
    refine ⟨⟨object, closed, ended⟩, ?_⟩
    cases ended
    rw [eq_of_closeObject closed]
    exact isProper_map_iff.mpr ⟨distinct, proper⟩
  · rintro ⟨⟨object, closed, ended⟩, isProper⟩
    refine ⟨object, closeObject_eq_ok_iff.mpr ⟨?_, closed⟩, ended⟩
    cases ended
    rw [eq_of_closeObject closed] at isProper
    exact (isProper_map_iff.mp isProper).1

/-- A list is proper exactly where all its items are. -/
theorem isProper_list_iff {items : List Datum} :
    (Datum.list items).IsProper ↔ ∀ item ∈ items, item.IsProper :=
  ⟨fun proper => by cases proper; assumption, .list⟩

/-- Whether everything within a document is sifted that is read in so many steps. -/
structure SiftsIn (steps : Nat) : Prop where
  values : ∀ levels document, Sifts Datum.IsProper
    (readValue true steps levels document) (readValue false steps levels document)
  items : ∀ levels document, Sifts (fun items => ∀ item ∈ items, Datum.IsProper item)
    (readItems true steps levels document) (readItems false steps levels document)
  members : ∀ levels document, Sifts (fun members => ∀ member ∈ members, member.2.IsProper)
    (readMembers true steps levels document) (readMembers false steps levels document)

namespace SiftsIn

variable {steps : Nat}

/-- Values are sifted, if what lies within them is. -/
theorem value_succ (within : SiftsIn steps) (levels : Nat) (document : List Char) :
    Sifts Datum.IsProper (readValue true (steps + 1) levels document)
      (readValue false (steps + 1) levels document) := by
  unfold readValue
  -- The first character tells strings, lists and objects, and any other starts a scalar.
  split
  · -- A string is the same in both readings.
    exact .bind .same (fun _ _ _ => .of_good fun _ _ read => by cases read; exact .text)
      fun _ _ _ _ _ _ => trivial
  · exact .of_stop _ _
  · -- A list is proper as its items are.
    split
    · exact .of_good fun _ _ read => by cases read; exact isProper_list_iff.mpr (by simp)
    · refine .bind (within.items _ _) (fun _ _ proper => ?_) fun _ _ _ _ read proper => ?_
      · exact .of_good fun _ _ read => by cases read; exact .list proper
      · cases read
        exact isProper_list_iff.mp proper
  · exact .of_stop _ _
  · -- An object is where the two readings part, once its members are read.
    split
    · exact sifts_closeObject _ _ (by simp)
    · refine .bind (within.members _ _) (fun _ rest proper => sifts_closeObject _ rest proper)
        fun _ _ _ _ read proper => ?_
      obtain ⟨object, closed, ended⟩ := bind_eq_ok_iff.mp read
      cases ended
      rw [eq_of_closeObject closed] at proper
      exact (isProper_map_iff.mp proper).2
  · exact .of_good fun _ _ read => (holdsNone_of_readScalar read).isProper

/-- The items of a list are sifted, if each value is. -/
theorem items_succ (within : SiftsIn steps) (levels : Nat) (document : List Char) :
    Sifts (fun items => ∀ item ∈ items, Datum.IsProper item)
      (readItems true (steps + 1) levels document)
      (readItems false (steps + 1) levels document) := by
  unfold readItems
  refine .bind (within.values _ _) (fun item rest isProper => ?_) fun item _ _ _ read proper => ?_
  · dsimp only
    split
    · exact .of_good fun _ _ read => by cases read; exact List.forall_mem_singleton.mpr isProper
    · refine .bind (within.items _ _) (fun _ _ others => ?_) fun _ _ _ _ read proper => ?_
      · exact .of_good fun _ _ read => by
          cases read
          exact List.forall_mem_cons.mpr ⟨isProper, others⟩
      · cases read
        exact (List.forall_mem_cons.mp proper).2
    · exact .of_raised _ _
  · -- Whatever is read behind it, the item is the first of all.
    dsimp only at read
    split at read
    · cases read
      exact proper _ (List.mem_singleton_self _)
    · obtain ⟨others, _, read⟩ := bind_eq_ok_iff.mp read
      cases read
      exact proper _ List.mem_cons_self
    · exact (Stop.raised_ne_ok _ _ _ read).elim

/-- The members of an object are sifted, if each value is. -/
theorem members_succ (within : SiftsIn steps) (levels : Nat) (document : List Char) :
    Sifts (fun members => ∀ member ∈ members, Datum.IsProper member.2)
      (readMembers true (steps + 1) levels document)
      (readMembers false (steps + 1) levels document) := by
  unfold readMembers
  -- Of a name, a colon and a value only the value is sifted, and then the members behind it.
  split
  · refine .bind .same (fun name rest _ => ?_) fun _ _ _ _ _ _ => trivial
    dsimp only
    split
    · refine .bind (within.values _ _) (fun value rest isProper => ?_)
        fun value _ _ _ read proper => ?_
      · dsimp only
        split
        · exact .of_good fun _ _ read => by
            cases read
            exact List.forall_mem_singleton.mpr isProper
        · refine .bind (within.members _ _) (fun _ _ others => ?_) fun _ _ _ _ read proper => ?_
          · exact .of_good fun _ _ read => by
              cases read
              exact List.forall_mem_cons.mpr ⟨isProper, others⟩
          · cases read
            exact (List.forall_mem_cons.mp proper).2
        · exact .of_raised _ _
      · -- Whatever is read behind it, the member is the first of all.
        dsimp only at read
        split at read
        · cases read
          exact proper _ (List.mem_singleton_self _)
        · obtain ⟨others, _, read⟩ := bind_eq_ok_iff.mp read
          cases read
          exact proper _ List.mem_cons_self
        · exact (Stop.raised_ne_ok _ _ _ read).elim
    · exact .of_raised _ _
  · exact .of_raised _ _

end SiftsIn

/-- However many steps there are, all that is read in them is sifted. -/
theorem siftsIn (steps : Nat) : SiftsIn steps := by
  -- Each of the three readers calls the others with one step less.
  induction steps with
  | zero =>
    refine ⟨fun _ _ => ?_, fun _ _ => ?_, fun _ _ => ?_⟩
    · unfold readValue
      exact .of_stop _ _
    · unfold readItems
      exact .of_stop _ _
    · unfold readMembers
      exact .of_stop _ _
  | succ steps ih => exact ⟨ih.value_succ, ih.items_succ, ih.members_succ⟩

/-- Where names must differ, the documents are read in which they do, and no other. -/
theorem readDocument_eq_ok_iff {levels : Nat} {document : List Char} {value : Datum} :
    readDocument levels true document = .ok value ↔
      readDocument levels false document = .ok value ∧ value.IsProper := by
  unfold readDocument
  split
  · exact ⟨fun read => (nomatch read), fun ⟨read, _⟩ => (nomatch read)⟩
  · rw [bind_eq_ok_iff, bind_eq_ok_iff]
    have values := (siftsIn (2 * document.length + 2)).values levels (skipBlanks document)
    -- What may follow the value is the same in both readings.
    constructor
    · rintro ⟨⟨own, rest⟩, begun, read⟩
      obtain ⟨begunLoose, proper⟩ := (values own rest).mp begun
      refine ⟨⟨_, begunLoose, read⟩, ?_⟩
      dsimp only at read
      split at read <;> cases read
      exact proper
    · rintro ⟨⟨⟨own, rest⟩, begun, read⟩, proper⟩
      have same : own = value := by
        dsimp only at read
        split at read <;> cases read
        rfl
      exact ⟨_, (values own rest).mpr ⟨begun, same ▸ proper⟩, read⟩

/-- A text is read where its characters are a document. -/
theorem read_eq_ok_iff_readDocument {levels : Nat} {distinct : Bool} {text : String}
    {value : Datum} :
    read levels distinct text = .ok value ↔
      readDocument levels distinct text.toList = .ok value := by
  rw [read, mapError_eq_ok_iff]

/-- A text in which names must differ is read as it is elsewhere, exactly if they do. -/
theorem read_eq_ok_iff {levels : Nat} {text : String} {value : Datum} :
    read levels true text = .ok value ↔ read levels false text = .ok value ∧ value.IsProper := by
  rw [read_eq_ok_iff_readDocument, read_eq_ok_iff_readDocument, readDocument_eq_ok_iff]

/-- An object within a document has texts for its keys, and two levels were left for it. -/
theorem exists_members_of_readValue {distinct : Bool} {steps levels : Nat}
    {document rest : List Char} {entries : List (Datum × Datum)}
    (given : readValue distinct steps levels document = .ok (.map entries, rest)) :
    2 ≤ levels ∧ ∃ members : List (String × Datum),
      entries = members.map fun member => (.text member.1, member.2) := by
  -- Only what closes an object gives a map, and that is made of members.
  have closes {levels : Nat} {members : List (String × Datum)} {after : List Char}
      (whole : (do return (← closeObject distinct levels members, after)) =
        Except.ok (Datum.map entries, rest)) :
      2 ≤ levels + 1 ∧ ∃ members : List (String × Datum),
        entries = members.map fun member => (.text member.1, member.2) := by
    obtain ⟨value, closed, ended⟩ := bind_eq_ok_iff.mp whole
    cases ended
    exact ⟨Nat.succ_le_succ (pos_of_closeObject closed), members,
      Datum.map.inj (eq_of_closeObject closed)⟩
  cases steps with
  | zero =>
    unfold readValue at given
    cases given
  | succ steps =>
    -- Strings, lists and scalars are no maps, so the empty object and one with members are left.
    unfold readValue at given
    split at given
    · obtain ⟨_, _, ended⟩ := bind_eq_ok_iff.mp given
      cases ended
    · cases given
    · split at given
      · cases given
      · obtain ⟨_, _, ended⟩ := bind_eq_ok_iff.mp given
        cases ended
    · cases given
    · split at given
      · exact closes given
      · obtain ⟨_, _, ended⟩ := bind_eq_ok_iff.mp given
        exact closes ended
    · exact (holdsNone_of_readScalar given).elim

/-- An object that is read has texts for its keys, and two levels were left for it. -/
theorem exists_members_of_read {levels : Nat} {distinct : Bool} {text : String}
    {entries : List (Datum × Datum)} (given : read levels distinct text = .ok (.map entries)) :
    2 ≤ levels ∧ ∃ members : List (String × Datum),
      entries = members.map fun member => (.text member.1, member.2) := by
  rw [read_eq_ok_iff_readDocument] at given
  unfold readDocument at given
  split at given
  · cases given
  · obtain ⟨⟨value, rest⟩, begun, ended⟩ := bind_eq_ok_iff.mp given
    dsimp only at ended
    split at ended <;> cases ended
    exact exists_members_of_readValue begun

/--
An object written from bare texts is read again, whether names have to differ or not.

Two levels have to be left for that: one of the object, and one to make a map of it.
-/
theorem read_writeObject {levels : Nat} (enough : 2 ≤ levels) (distinct : Bool)
    {members : List (String × String)} (bare : ∀ member ∈ members, IsBareMember member)
    (differ : (members.map Prod.fst).Nodup) :
    read levels distinct (String.ofList (writeObject members)) =
      .ok (.map (members.map fun member => (.text member.1, .text member.2))) := by
  obtain ⟨more, rfl⟩ : ∃ more, levels = more + 2 := ⟨levels - 2, by omega⟩
  have strict : read (more + 2) true (String.ofList (writeObject members)) =
      .ok (.map (members.map fun member => (.text member.1, .text member.2))) := by
    rw [read_eq_ok_iff_readDocument, String.toList_ofList]
    exact readDocument_writeObject bare differ more
  cases distinct
  · exact (read_eq_ok_iff.mp strict).1
  · exact strict

end Themer.Json
