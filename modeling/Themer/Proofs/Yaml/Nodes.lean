import Themer.Proofs.Yaml.Values

/-!
The nodes that tokens spell hold the scalars of these tokens and no others.

Nothing but an unexpected token stops the reading, or what stopped the scan of the text before.
-/

namespace Themer.Yaml

/-- Whether something holds of a scalar, or of what stopped a scan; other tokens do not matter. -/
def Token.Fits (holds : String → Bool → Prop) (bad : Stop → Prop) : Token → Prop
  | .scalar text plain => holds text plain
  | .stopped stop => bad stop
  | _ => True

/-- Whether a token opens a list or a map. -/
def Token.opens : Token → Bool
  | .blockList | .blockMap | .openList | .openMap => true
  | _ => false

/-- Whether it holds of all of some tokens. -/
def AllFit (holds : String → Bool → Prop) (bad : Stop → Prop) (tokens : List Token) : Prop :=
  ∀ token ∈ tokens, token.Fits holds bad

/-- Whether a reading of tokens gives something of which it holds, and leaves tokens that fit. -/
def Leaves {α : Type} (holds : String → Bool → Prop) (bad : Stop → Prop) (good : α → Prop) :
    Except Stop (α × List Token) → Prop :=
  Gives (fun result => good result.1 ∧ AllFit holds bad result.2) bad

/-- The tokens behind the first fit as well. -/
theorem AllFit.tail {holds : String → Bool → Prop} {bad : Stop → Prop} {token : Token}
    {rest : List Token} (fit : AllFit holds bad (token :: rest)) : AllFit holds bad rest :=
  fun other among => fit other (List.mem_cons_of_mem token among)

namespace Node

variable {holds : String → Bool → Prop} {bad : Stop → Prop}

/-- Every reading of a node, with at most so many steps for it, gives what holds of its scalars. -/
structure ReadsWithin (holds : String → Bool → Prop) (bad : Stop → Prop) (steps : Nat) : Prop where
  node : ∀ block flat tokens, AllFit holds bad tokens →
    Leaves holds bad (Each holds) (read block flat steps tokens)
  items : ∀ tokens, AllFit holds bad tokens →
    Leaves holds bad (fun items => ∀ item ∈ items, item.Each holds) (readItems steps tokens)
  flatItems : ∀ tokens, AllFit holds bad tokens →
    Leaves holds bad (fun items => ∀ item ∈ items, item.Each holds) (readFlatItems steps tokens)
  value : ∀ tokens, AllFit holds bad tokens →
    Leaves holds bad (Each holds) (readValue steps tokens)
  entries : ∀ tokens, AllFit holds bad tokens →
    Leaves holds bad (EachEntry holds) (readEntries steps tokens)
  flowValue : ∀ closing tokens, AllFit holds bad tokens →
    Leaves holds bad (Each holds) (readFlowValue closing steps tokens)
  flowItems : ∀ first tokens, AllFit holds bad tokens →
    Leaves holds bad (fun items => ∀ item ∈ items, item.Each holds)
      (readFlowItems first steps tokens)
  flowEntries : ∀ first tokens, AllFit holds bad tokens →
    Leaves holds bad (EachEntry holds) (readFlowEntries first steps tokens)

/-- The stop at tokens that do not go on as they should is at a fault, or where the scan stopped. -/
theorem unexpected_of_allFit (faults : ∀ fault : Fault, bad fault.stop) {tokens : List Token}
    (fit : AllFit holds bad tokens) : bad (unexpected tokens) := by
  -- The token of a stop tells why the scan stopped, and that fits.
  unfold unexpected
  split
  · exact fit _ List.mem_cons_self
  · exact faults .unexpectedToken

section Step

variable (faults : ∀ fault : Fault, bad fault.stop) (empty : holds "" true) {steps : Nat}
  (within : ReadsWithin holds bad steps) {tokens : List Token} (fit : AllFit holds bad tokens)

include faults within fit

/-- A node is a scalar, or one of the collections that tokens open. -/
theorem leaves_read (block flat : Bool) :
    Leaves holds bad (Each holds) (read block flat (steps + 1) tokens) := by
  have stopped : bad (unexpected tokens) := unexpected_of_allFit faults fit
  -- A collection is made of what its readings leave, whichever way it was written.
  have list {items : List Node} {after : List Token}
      (read : (∀ item ∈ items, item.Each holds) ∧ AllFit holds bad after) :
      (Node.list items).Each holds ∧ AllFit holds bad after := ⟨.list read.1, read.2⟩
  have map {entries : List (Node × Node)} {after : List Token}
      (read : EachEntry holds entries ∧ AllFit holds bad after) :
      (Node.map entries).Each holds ∧ AllFit holds bad after :=
    ⟨.map (fun entry among => (read.1 entry among).1) (fun entry among => (read.1 entry among).2),
      read.2⟩
  unfold read
  split
  · -- A list that is not indented starts with its first item, with no token of its own.
    split
    · exact Gives.bind (within.flatItems _ fit) fun _ => list
    · exact stopped
  · exact ⟨.scalar (fit _ List.mem_cons_self), fit.tail⟩
  · exact Gives.bind (within.flowItems true _ fit.tail) fun _ => list
  · exact Gives.bind (within.flowEntries true _ fit.tail) fun _ => map
  · split
    · exact Gives.bind (within.items _ fit.tail) fun _ => list
    · exact stopped
  · split
    · exact Gives.bind (within.entries _ fit.tail) fun _ => map
    · exact stopped
  · exact stopped

include empty

omit faults in
/-- Where a node may be left out, the reading goes on with the empty one or the one that is read. -/
theorem leaves_of_omitted {α : Type} {good : α → Prop} {omitted block flat : Bool}
    {next : Node × List Token → Except Stop (α × List Token)}
    (goesOn : ∀ node after, node.Each holds → AllFit holds bad after →
      Leaves holds bad good (next (node, after))) :
    Leaves holds bad good
      (if omitted then pure (Node.empty, tokens) >>= next
      else read block flat steps tokens >>= next) := by
  -- Both ways go on with some node and tokens, and nothing else is known of them.
  cases omitted with
  | true => exact goesOn Node.empty tokens (.scalar empty) fit
  | false =>
    refine Gives.bind (within.node block flat tokens fit) fun result both => ?_
    exact goesOn result.1 result.2 both.1 both.2

/-- The items of a block are read one after the other. -/
theorem leaves_readItems :
    Leaves holds bad (fun items => ∀ item ∈ items, item.Each holds)
      (readItems (steps + 1) tokens) := by
  unfold readItems
  split
  · exact ⟨List.forall_mem_nil _, fit.tail⟩
  · refine leaves_of_omitted empty within fit.tail fun item after one left => ?_
    refine Gives.bind (within.items after left) fun _ others => ?_
    exact ⟨List.forall_mem_cons.mpr ⟨one, others.1⟩, others.2⟩
  · exact unexpected_of_allFit faults fit

omit faults in
/-- So are the items of a list that is not indented, which anything else ends. -/
theorem leaves_readFlatItems :
    Leaves holds bad (fun items => ∀ item ∈ items, item.Each holds)
      (readFlatItems (steps + 1) tokens) := by
  unfold readFlatItems
  split
  · refine leaves_of_omitted empty within fit.tail fun item after one left => ?_
    refine Gives.bind (within.flatItems after left) fun _ others => ?_
    exact ⟨List.forall_mem_cons.mpr ⟨one, others.1⟩, others.2⟩
  · exact ⟨List.forall_mem_nil _, fit⟩

omit faults in
/-- The value after a key of a block is read, or there is none. -/
theorem leaves_readValue : Leaves holds bad (Each holds) (readValue (steps + 1) tokens) := by
  unfold readValue
  -- A value may be missing behind its colon, or together with that.
  split
  · split
    · exact ⟨.scalar empty, fit.tail⟩
    · exact within.node true true _ fit.tail
  · exact fit _ List.mem_cons_self
  · exact ⟨.scalar empty, fit⟩

/-- The entries of a block are read one after the other, the key before its value. -/
theorem leaves_readEntries :
    Leaves holds bad (EachEntry holds) (readEntries (steps + 1) tokens) := by
  unfold readEntries
  split
  · exact ⟨List.forall_mem_nil _, fit.tail⟩
  · refine leaves_of_omitted empty within fit.tail fun key after ofKey left => ?_
    refine Gives.bind (within.value after left) fun value ofValue => ?_
    refine Gives.bind (within.entries value.2 ofValue.2) fun _ others => ?_
    exact ⟨List.forall_mem_cons.mpr ⟨⟨ofKey, ofValue.1⟩, others.1⟩, others.2⟩
  · exact unexpected_of_allFit faults fit

/-- The value after a key in brackets is read, or there is none. -/
theorem leaves_readFlowValue (closing : Token) :
    Leaves holds bad (Each holds) (readFlowValue closing (steps + 1) tokens) := by
  unfold readFlowValue
  -- Behind the colon there may be nothing before the next comma or the end.
  split
  · split
    · split
      · exact ⟨.scalar empty, fit.tail⟩
      · exact within.node false false _ fit.tail
    · exact unexpected_of_allFit faults fit.tail
  · exact fit _ List.mem_cons_self
  · exact ⟨.scalar empty, fit⟩

/-- The items of a list in brackets are read one after the other; one may be a single entry. -/
theorem leaves_readFlowItems (first : Bool) :
    Leaves holds bad (fun items => ∀ item ∈ items, item.Each holds)
      (readFlowItems first (steps + 1) tokens) := by
  unfold readFlowItems
  split
  · exact ⟨List.forall_mem_nil _, fit.tail⟩
  · -- What follows a comma does not depend on how it was passed.
    extract_lets behindKey behindComma
    have goesOn (tokens : List Token) (fit : AllFit holds bad tokens) :
        Leaves holds bad (fun items => ∀ item ∈ items, item.Each holds) (behindComma tokens) := by
      unfold behindComma
      split
      · exact ⟨List.forall_mem_nil _, fit.tail⟩
      · refine leaves_of_omitted empty within fit.tail fun key after ofKey left => ?_
        refine Gives.bind (within.flowValue .closeList after left) fun value ofValue => ?_
        refine Gives.bind (within.flowItems false value.2 ofValue.2) fun _ others => ?_
        have single : (Node.map [(key, value.1)]).Each holds :=
          .map (by simpa using ofKey) (by simpa using ofValue.1)
        exact ⟨List.forall_mem_cons.mpr ⟨single, others.1⟩, others.2⟩
      · refine Gives.bind (within.node false false tokens fit) fun item one => ?_
        refine Gives.bind (within.flowItems false item.2 one.2) fun _ others => ?_
        exact ⟨List.forall_mem_cons.mpr ⟨one.1, others.1⟩, others.2⟩
    split
    · exact goesOn _ fit
    · exact goesOn _ fit.tail
    · exact unexpected_of_allFit faults fit

/-- The entries of a map in brackets are read one after the other; one may be a key alone. -/
theorem leaves_readFlowEntries (first : Bool) :
    Leaves holds bad (EachEntry holds) (readFlowEntries first (steps + 1) tokens) := by
  unfold readFlowEntries
  split
  · exact ⟨List.forall_mem_nil _, fit.tail⟩
  · -- As for a list, a comma has to come before every entry but the first.
    extract_lets behindKey behindComma
    have goesOn (tokens : List Token) (fit : AllFit holds bad tokens) :
        Leaves holds bad (EachEntry holds) (behindComma tokens) := by
      unfold behindComma
      split
      · exact ⟨List.forall_mem_nil _, fit.tail⟩
      · refine leaves_of_omitted empty within fit.tail fun key after ofKey left => ?_
        refine Gives.bind (within.flowValue .closeMap after left) fun value ofValue => ?_
        refine Gives.bind (within.flowEntries false value.2 ofValue.2) fun _ others => ?_
        exact ⟨List.forall_mem_cons.mpr ⟨⟨ofKey, ofValue.1⟩, others.1⟩, others.2⟩
      · refine Gives.bind (within.node false false tokens fit) fun key ofKey => ?_
        refine Gives.bind (within.flowEntries false key.2 ofKey.2) fun _ others => ?_
        exact ⟨List.forall_mem_cons.mpr ⟨⟨ofKey.1, .scalar empty⟩, others.1⟩, others.2⟩
    split
    · exact goesOn _ fit
    · exact goesOn _ fit.tail
    · exact unexpected_of_allFit faults fit

end Step

/-- All that is read holds of the scalars in it, however many steps there are. -/
theorem readsWithin (faults : ∀ fault : Fault, bad fault.stop) (empty : holds "" true)
    (steps : Nat) : ReadsWithin holds bad steps := by
  -- All readings use up a step before they call one another, so one induction does for all.
  induction steps with
  | zero =>
    constructor <;> intros <;> exact unexpected_of_allFit faults ‹_›
  | succ steps within =>
    constructor
    case node => exact fun block flat _ fit => leaves_read faults within fit block flat
    case items => exact fun _ fit => leaves_readItems faults empty within fit
    case flatItems => exact fun _ fit => leaves_readFlatItems empty within fit
    case value => exact fun _ fit => leaves_readValue empty within fit
    case entries => exact fun _ fit => leaves_readEntries faults empty within fit
    case flowValue =>
      exact fun closing _ fit => leaves_readFlowValue faults empty within fit closing
    case flowItems =>
      exact fun first _ fit => leaves_readFlowItems faults empty within fit first
    case flowEntries =>
      exact fun first _ fit => leaves_readFlowEntries faults empty within fit first

/-- A token below no more levels stops all, and any other stays and uses up one level at most. -/
theorem limitLevels_cons (levels : Nat) (token : Token) (rest : List Token) :
    levels = 0 ∧ token.opens = true ∧
        limitLevels levels (token :: rest) = [.stopped (.cutShort (.tooDeep ⟨.body⟩))] ∨
      ∃ inner, levels ≤ inner + [token].countP Token.opens ∧
        limitLevels levels (token :: rest) = token :: limitLevels inner rest := by
  generalize kept : limitLevels levels (token :: rest) = result
  unfold limitLevels at kept
  split at kept
  -- Four tokens open a level: with none left they stop all, and otherwise they take one.
  -- Three close a level, and all others leave the levels as they are.
  iterate 4 exact .inl ⟨rfl, rfl, kept.symm⟩
  iterate 4 exact .inr ⟨_, Nat.le_refl _, kept.symm⟩
  iterate 3 exact .inr ⟨_, Nat.le_succ _, kept.symm⟩
  exact .inr ⟨_, Nat.le_add_right .., kept.symm⟩

/-- Only a token that opens too many levels gives way to a stop. -/
theorem mem_limitLevels {levels : Nat} {tokens : List Token} {token : Token}
    (among : token ∈ limitLevels levels tokens) :
    token ∈ tokens ∨
      token = .stopped (.cutShort (.tooDeep ⟨.body⟩)) ∧ levels < tokens.countP Token.opens := by
  -- Each token that opens a level takes one of those left, so a stop needs more than these.
  induction tokens generalizing levels with
  | nil => exact .inl among
  | cons first rest ih =>
    have count : (first :: rest).countP Token.opens =
        [first].countP Token.opens + rest.countP Token.opens := by
      rw [← List.singleton_append, List.countP_append]
    rcases limitLevels_cons levels first rest with ⟨rfl, opens, stops⟩ | ⟨inner, left, goesOn⟩
    · rw [stops, List.mem_singleton] at among
      exact .inr ⟨among, by simp [opens]⟩
    · rw [goesOn] at among
      rcases List.mem_cons.mp among with rfl | later
      · exact .inl List.mem_cons_self
      · rcases ih later with own | ⟨isStop, tooMany⟩
        · exact .inl (List.mem_cons_of_mem first own)
        · exact .inr ⟨isStop, by omega⟩

/-- The end of the document leaves the node as it is. -/
theorem gives_readEnd (faults : ∀ fault : Fault, bad fault.stop) {node : Node}
    (each : node.Each holds) {tokens : List Token} (fit : AllFit holds bad tokens) :
    Gives (fun document => ∀ node, document = some node → node.Each holds) bad
      (readEnd (some node) tokens) := by
  -- Any number of end marks may stand behind the document.
  have left : AllFit holds bad (tokens.dropWhile (· == .documentEnd)) :=
    fun token among => fit token ((List.dropWhile_sublist _).subset among)
  unfold readEnd
  split
  · rintro _ ⟨⟩
    exact each
  · exact faults .secondDocument
  · exact unexpected_of_allFit faults left

/-- The document that tokens spell holds their scalars and no others. -/
theorem gives_ofTokens (faults : ∀ fault : Fault, bad fault.stop) (empty : holds "" true)
    {tokens : List Token} (fit : AllFit holds bad tokens)
    (nested : levelLimit < tokens.countP Token.opens → bad (.cutShort (.tooDeep ⟨.body⟩))) :
    Gives (fun document => ∀ node, document = some node → node.Each holds) bad
      (ofTokens tokens) := by
  -- The tokens read are those given, but for a stop where too many levels are open.
  have limited : AllFit holds bad (limitLevels levelLimit tokens) := by
    intro token among
    rcases mem_limitLevels among with own | ⟨rfl, tooMany⟩
    · exact fit token own
    · exact nested tooMany
  have whole (steps : Nat) {tokens : List Token} (fit : AllFit holds bad tokens) :
      Gives (fun document => ∀ node, document = some node → node.Each holds) bad
        (read true false steps tokens >>= fun result => readEnd (some result.1) result.2) :=
    Gives.bind ((readsWithin faults empty steps).node true false tokens fit) fun _ both =>
      gives_readEnd faults both.1 both.2
  unfold ofTokens
  dsimp only
  generalize limitLevels levelLimit tokens = kept at limited ⊢
  split
  · exact nofun
  · -- Behind a mark the document may be missing, which counts as an empty scalar.
    unfold readMarked
    split
    · exact faults .secondDocument
    · exact gives_readEnd faults (.scalar empty) limited.tail
    · exact gives_readEnd faults (.scalar empty) limited.tail
    · exact whole _ limited.tail
  · exact whole _ limited

end Node

end Themer.Yaml
