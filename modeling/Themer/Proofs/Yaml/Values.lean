import Themer.Proofs.Datum.Keys
import Themer.Proofs.Outcome
import Themer.Yaml.Reader

/-!
Nodes of a document and the values they are read into.

What holds of the value of each scalar holds of the value of the node, and a failure of a scalar is
what the node fails with, if it has no fault of its own.
-/

namespace Themer.Yaml

/-- Whether something holds of each scalar in a node, however deep. -/
inductive Node.Each (holds : String → Bool → Prop) : Node → Prop
  | scalar {text : String} {plain : Bool} (own : holds text plain) : Each holds (.scalar text plain)
  | list {items : List Node} (each : ∀ item ∈ items, Each holds item) : Each holds (.list items)
  | map {entries : List (Node × Node)} (keys : ∀ entry ∈ entries, Each holds entry.1)
      (values : ∀ entry ∈ entries, Each holds entry.2) : Each holds (.map entries)

/-- Whether something holds of each scalar in some entries. -/
def Node.EachEntry (holds : String → Bool → Prop) (entries : List (Node × Node)) : Prop :=
  ∀ entry ∈ entries, entry.1.Each holds ∧ entry.2.Each holds

namespace Node

variable {holds : String → Bool → Prop}

/-- What holds of all scalars holds of those in a node. -/
theorem each_of_forall (all : ∀ text plain, holds text plain) : (node : Node) → node.Each holds
  | .scalar text plain => .scalar (all text plain)
  | .list items => .list fun item _ => each_of_forall all item
  | .map entries =>
    .map (fun entry _ => each_of_forall all entry.1) (fun entry _ => each_of_forall all entry.2)
-- The members of a list are smaller than it, and the two parts of an entry smaller than that.
decreasing_by
  · rename_i among
    have smaller := List.sizeOf_lt_of_mem among
    simp only [Node.list.sizeOf_spec]
    omega
  all_goals
    rename_i among
    have smaller := List.sizeOf_lt_of_mem among
    obtain ⟨key, value⟩ := entry
    simp only [Prod.mk.sizeOf_spec, Node.map.sizeOf_spec] at *
    omega

end Node

/-- Whether each scalar in a node has a value of one kind, or fails for a reason of another. -/
abbrev Node.Reads (good : Datum → Prop) (bad : Stop → Prop) : Node → Prop :=
  Node.Each fun text plain => Gives good bad (scalarValue text plain)

section Reading

variable {holds : String → Bool → Prop} {good : Datum → Prop} {bad : Stop → Prop}

/-- The scalar that a node is. -/
theorem Node.Each.own {text : String} {plain : Bool} (each : (Node.scalar text plain).Each holds) :
    holds text plain := by
  cases each with
  | scalar own => exact own

/-- The items of a list. -/
theorem Node.Each.items {items : List Node} (each : (Node.list items).Each holds) :
    ∀ item ∈ items, item.Each holds := by
  cases each with
  | list each => exact each

/-- The entries of a map. -/
theorem Node.Each.entries {entries : List (Node × Node)} (each : (Node.map entries).Each holds) :
    Node.EachEntry holds entries := by
  cases each with
  | map keys values => exact fun entry among => ⟨keys entry among, values entry among⟩

/-- The entries that a map takes in hold no scalars but those of the map. -/
theorem gives_flatten (faults : ∀ fault : Fault, bad fault.stop) (steps : Nat) :
    (∀ entries, Node.EachEntry holds entries →
      Gives (Node.EachEntry holds) bad (flatten steps entries)) ∧
    (∀ entries, Node.EachEntry holds entries →
      Gives (Node.EachEntry holds) bad (takenIn steps entries)) ∧
    (∀ nodes, (∀ node ∈ nodes, Node.Each holds node) →
      Gives (fun maps => ∀ entries ∈ maps, Node.EachEntry holds entries) bad
        (flattenEach steps nodes)) := by
  -- The three functions call one another with fewer steps, so they go through together.
  induction steps with
  | zero =>
    refine ⟨fun entries each => each, fun entries _ => ?_, fun nodes _ => ?_⟩
    · rw [takenIn]
      exact fun _ none => nomatch none
    · rw [flattenEach]
      exact fun _ none => nomatch none
  | succ steps ih =>
    obtain ⟨flattened, takes, maps⟩ := ih
    refine ⟨fun entries each => ?_, fun entries each => ?_, fun nodes each => ?_⟩
    · -- What is taken in comes in front, and the keys for it fall away.
      rw [flatten]
      refine (takes entries each).bind fun taken first => ?_
      intro entry among
      rcases List.mem_append.mp among with new | own
      · exact first entry new
      · exact each entry (List.mem_filter.mp own).1
    · cases entries with
      | nil => exact fun _ none => nomatch none
      | cons entry rest =>
        obtain ⟨key, value⟩ := entry
        obtain ⟨⟨_, held⟩, later⟩ := List.forall_mem_cons.mp each
        rw [takenIn]
        split
        · -- A map is taken in itself, and of a list each map, the last one first.
          have goesOn (first : List (Node × Node)) (own : Node.EachEntry holds first) :
              Gives (Node.EachEntry holds) bad
                (takenIn steps rest >>= fun others => pure (first ++ others)) := by
            refine (takes rest later).bind fun others more => ?_
            intro entry among
            rcases List.mem_append.mp among with one | other
            · exact own entry one
            · exact more entry other
          cases value with
          | scalar => exact faults .indicatorAsValue
          | map entries => exact (flattened entries held.entries).bind goesOn
          | list items =>
            refine Gives.bind ((maps items held.items).map fun lists each => ?_) goesOn
            intro entry among
            obtain ⟨entries, one, inside⟩ := List.mem_flatten.mp among
            exact each entries (List.mem_reverse.mp one) entry inside
        · exact takes rest later
    · cases nodes with
      | nil => exact fun _ none => nomatch none
      | cons node rest =>
        obtain ⟨held, later⟩ := List.forall_mem_cons.mp each
        cases node with
        | map entries =>
          exact (flattened entries held.entries).bind fun first own =>
            (maps rest later).bind fun others more => List.forall_mem_cons.mpr ⟨own, more⟩
        | scalar | list => exact faults _

/--
The value of a node has what each of its scalars has, if collections have what their members have.

No map that is built has one key twice.
-/
theorem gives_valueOf (faults : ∀ fault : Fault, bad fault.stop)
    (hereditary : Datum.IsHereditary good) (steps : Nat) :
    (∀ node, Node.Reads good bad node → Gives good bad (valueOf steps node)) ∧
    (∀ items, (∀ item ∈ items, Node.Reads good bad item) →
      Gives (fun values => ∀ value ∈ values, good value) bad (itemValues steps items)) ∧
    (∀ entries done,
      (∀ entry ∈ entries, Node.Reads good bad entry.1 ∧ Node.Reads good bad entry.2) →
      Datum.KeysDiffer done → (∀ entry ∈ done, good entry.1 ∧ good entry.2) →
      Gives (fun all => Datum.KeysDiffer all ∧ ∀ entry ∈ all, good entry.1 ∧ good entry.2) bad
        (entryValues steps done entries)) := by
  -- The entries done so far stand in the statement, since a key is compared with theirs.
  induction steps with
  | zero => exact ⟨fun _ _ => faults _, fun _ _ => faults _, fun _ _ _ _ _ => faults _⟩
  | succ steps ih =>
    obtain ⟨values, items, entries⟩ := ih
    refine ⟨fun node each => ?_, fun nodes each => ?_, fun nodes done each differ before => ?_⟩
    · cases node with
      | scalar text plain => exact each.own
      | list nodes => exact (items nodes each.items).map fun _ all => hereditary.list all
      | map nodes =>
        rw [valueOf]
        refine ((gives_flatten faults steps).1 nodes each.entries).bind fun flat held => ?_
        refine (entries flat [] held .nil fun _ none => nomatch none).bind fun all built => ?_
        exact hereditary.map built.1 built.2
    · cases nodes with
      | nil => exact fun _ none => nomatch none
      | cons item rest =>
        obtain ⟨held, later⟩ := List.forall_mem_cons.mp each
        exact (values item held).bind fun value first =>
          (items rest later).bind fun others more => List.forall_mem_cons.mpr ⟨first, more⟩
    · cases nodes with
      | nil => exact ⟨differ, before⟩
      | cons entry rest =>
        obtain ⟨keyNode, valueNode⟩ := entry
        obtain ⟨⟨keyHeld, valueHeld⟩, later⟩ := List.forall_mem_cons.mp each
        -- How the key is read depends on its spelling, and nothing behind that does.
        have goesOn (key : Datum) (isGood : good key) :
            Gives (fun all => Datum.KeysDiffer all ∧ ∀ entry ∈ all, good entry.1 ∧ good entry.2) bad
              (do
                if !isKey key then throw Fault.collectionAsKey.stop
                let value ← valueOf steps valueNode
                entryValues steps (Datum.put done key value) rest) := by
          dsimp only
          split
          · exact faults .collectionAsKey
          · refine (values valueNode valueHeld).bind fun value held => ?_
            exact entries rest _ later (differ.put key value)
              (Datum.forall_mem_put before isGood held)
        by_cases named : keyNode = .scalar "=" true
        · rw [named, entryValues]
          exact goesOn _ (hereditary.text valueKey)
        · rw [entryValues]
          · exact (values keyNode keyHeld).bind goesOn
          · exact named

/-- The value of a scalar in quotes is a text, and any other is null, a flag or a number. -/
theorem gives_scalarValue {text : String} {plain : Bool} (faults : ∀ fault : Fault, bad fault.stop)
    (texts : good (.text text))
    (plainly : plain = true → Gives good (fun cause => bad (.cutShort cause)) (plainValue text)) :
    Gives good bad (scalarValue text plain) := by
  unfold scalarValue
  split
  · exact texts
  · split
    · exact faults .indicatorAsValue
    · rename_i isPlain _
      exact (plainly (by simpa using isPlain)).mapError fun _ cause => cause

/-- A plain scalar is null, a flag, a number or a text, which hold no other values. -/
theorem gives_plainValue {cut : Interruption → Prop} {text : String} (null : good .null)
    (flags : ∀ value, good (.flag value)) (reals : ∀ value, good (.real value))
    (texts : good (.text text))
    (wholes : ∀ form, wholeForm? (readSign text.toList).2 = some form →
      Gives (fun size : Nat => good (.whole size) ∧ good (.whole (-size))) cut form.read) :
    Gives good cut (plainValue text) := by
  unfold plainValue
  dsimp only
  -- Only a whole number is read by something that may fail.
  split
  · exact null
  split
  · exact flags true
  split
  · exact flags false
  split
  · exact reals _
  · rename_i form _ spelled
    refine (wholes form spelled).bind fun size both => ?_
    dsimp only [pure, Except.pure, Gives]
    split
    · exact both.2
    · exact both.1
  · exact texts

/-- What a node holds has no scalars but those of the node. -/
theorem gives_innerNodes (faults : ∀ fault : Fault, bad fault.stop) {node : Node}
    (each : node.Reads good bad) (steps : Nat) :
    Gives (fun nodes => ∀ inner ∈ nodes, inner.Reads good bad) bad (innerNodes steps node) := by
  -- Scalars are read at once, and collections are handed on to be looked into later.
  have outer (node : Node) (each : node.Reads good bad) :
      Gives (fun nodes => ∀ inner ∈ nodes, inner.Reads good bad) bad (innerNodes.outer node) := by
    cases node with
    | scalar text plain => exact each.own.bind fun _ _ _ none => nomatch none
    | list | map =>
      intro inner among
      rw [List.mem_singleton.mp among]
      exact each
  have flattened {lists : List (List Node)}
      (all : ∀ nodes ∈ lists, ∀ inner ∈ nodes, inner.Reads good bad) :
      ∀ inner ∈ lists.flatten, inner.Reads good bad := by
    intro inner among
    obtain ⟨nodes, one, inside⟩ := List.mem_flatten.mp among
    exact all nodes one inner inside
  cases node with
  | scalar text plain => exact each.own.bind fun _ _ _ none => nomatch none
  | list items =>
    exact (Gives.mapM fun item among => outer item (each.items item among)).bind fun _ all =>
      flattened all
  | map entries =>
    rw [innerNodes]
    refine ((gives_flatten faults steps).1 entries each.entries).bind fun flat held => ?_
    refine (Gives.mapM fun entry among => ?_).bind fun _ all => flattened all
    obtain ⟨key, value⟩ := entry
    obtain ⟨keyHeld, valueHeld⟩ := held _ among
    dsimp only
    split
    · exact outer value valueHeld
    · exact keyHeld.own.bind fun _ _ => outer value valueHeld
    · exact faults .collectionAsKey

/-- The check of nodes fails only as one of their scalars does, or with a fault of its own. -/
theorem gives_checkLevels (faults : ∀ fault : Fault, bad fault.stop) (steps count : Nat)
    {nodes : List Node} (each : ∀ node ∈ nodes, node.Reads good bad) :
    Gives (fun _ => True) bad (checkLevels steps count nodes) := by
  -- What the first node holds goes behind the others, level by level.
  induction count generalizing nodes with
  | zero => exact trivial
  | succ count ih =>
    cases nodes with
    | nil => exact trivial
    | cons node rest =>
      obtain ⟨held, later⟩ := List.forall_mem_cons.mp each
      rw [checkLevels]
      refine (gives_innerNodes faults held steps).bind fun inner all => ih fun other among => ?_
      rcases List.mem_append.mp among with one | new
      · exact later other one
      · exact all other new

/-- The value of a document is as good as the values of its scalars, or there is none. -/
theorem gives_read (faults : ∀ fault : Fault, bad fault.stop)
    (hereditary : Datum.IsHereditary good) (null : good .null) {source : Source}
    (scalars : Gives (fun document => ∀ node, document = some node → node.Reads good bad) bad
      (Node.ofTokens (tokensOf source))) :
    Gives good bad (Yaml.read source) := by
  refine Gives.bind scalars fun document held => ?_
  -- A text without a document counts as null.
  cases document with
  | none => exact null
  | some node =>
    have each := held node rfl
    refine (gives_checkLevels faults _ _ (List.forall_mem_singleton.mpr each)).bind fun _ _ => ?_
    exact (gives_valueOf faults hereditary _).1 node each

end Reading

/-- The value of a document is proper. -/
theorem isProper_of_readBytes {bytes : Text.Bytes} {document : Datum}
    (read : readBytes bytes = .ok document) : document.IsProper := by
  -- Nothing is asked of failures here, so each reading of a scalar will do.
  have faults (fault : Fault) : (fun _ : Stop => True) fault.stop := trivial
  have scalars (text : String) (plain : Bool) :
      Gives Datum.IsProper (fun _ : Stop => True) (scalarValue text plain) := by
    refine gives_scalarValue faults .text fun _ => ?_
    refine gives_plainValue .null (fun _ => .flag) (fun _ => .real) .text fun form _ => ?_
    cases form.read with
    | ok size => exact ⟨.whole, .whole⟩
    | error => trivial
  have document : Gives (fun document => ∀ node, document = some node →
      node.Reads Datum.IsProper (fun _ => True)) (fun _ => True)
      (Node.ofTokens (tokensOf (Source.ofBytes bytes))) := by
    cases Node.ofTokens (tokensOf (Source.ofBytes bytes)) with
    | ok found => exact fun node _ => Node.each_of_forall scalars node
    | error => trivial
  exact (gives_read faults Datum.isHereditary_isProper .null document).of_ok read

end Themer.Yaml
