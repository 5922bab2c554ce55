import Lineage.Proofs.Acceptance

/-!
# Where the reads of a template come from

Apart from their reads, nodes may change after they have been added: a block is marked, a parent
gets an alternative.  A read stays as it is, and stays in its place (`Outline.segments_keepsReads`).
Conversely each read in an outline has been added by an effect that looks an expression through
(`Outline.exists_effect_of_read`, `Outline.exists_part_of_read`).
-/

namespace Lineage.Template

/-! ## The occurrences in an expression -/

/-- The guard of the read `name` at the position, which the tokens `after` follow. -/
def guardAt (source : List Char) (context : Context) (conditions : List InlineCondition)
    (position : Nat) (name : String) (after : List Token) : Guard :=
  match fallback? source after with
  | some description => .fallback description
  | none =>
    if context == .test || conditions.any (·.guards position name) then .conditional else .bare

section Occurrences

variable {source : List Char} {context : Context} {bound : List String}
  {conditions : List InlineCondition} {tokens before : List Token} {occurrence : Occurrence}

/-- An occurrence is the first token, if that is a word that is read, or it is one of the others. -/
theorem mem_occurrencesFrom_cons {token : Token} :
    occurrence ∈ occurrencesFrom source context bound conditions before (token :: tokens) ↔
      (token.word? = some occurrence.name ∧
        isRead context bound before occurrence.name tokens = true ∧
        occurrence.guard =
          guardAt source context conditions before.length occurrence.name tokens) ∨
      occurrence ∈
        occurrencesFrom source context bound conditions (token :: before) tokens := by
  obtain ⟨name, guard⟩ := occurrence
  rw [occurrencesFrom]
  cases isWord : token.word? with
  | none => simp
  | some other =>
      by_cases read : isRead context bound before other tokens = true
      · simp only [read, if_true, List.mem_cons, Occurrence.mk.injEq, Option.some.injEq]
        constructor
        · rintro (⟨rfl, rfl⟩ | later)
          · exact Or.inl ⟨rfl, read, rfl⟩
          · exact Or.inr later
        · rintro (⟨rfl, _, rfl⟩ | later)
          · exact Or.inl ⟨rfl, rfl⟩
          · exact Or.inr later
      · simp only [if_neg read, Option.some.injEq]
        constructor
        · exact Or.inr
        · rintro (⟨rfl, isRead, _⟩ | later)
          · exact absurd isRead read
          · exact later

/-- Each word that is read is an occurrence, and there are no others. -/
theorem mem_occurrencesFrom_iff :
    occurrence ∈ occurrencesFrom source context bound conditions before tokens ↔
      ∃ ahead word after, tokens = ahead ++ word :: after ∧
        word.word? = some occurrence.name ∧
        isRead context bound (ahead.reverse ++ before) occurrence.name after = true ∧
        occurrence.guard = guardAt source context conditions (ahead.length + before.length)
          occurrence.name after := by
  induction tokens generalizing before with
  | nil => simp [occurrencesFrom]
  | cons token tokens ih =>
      rw [mem_occurrencesFrom_cons, ih]
      constructor
      · rintro (⟨isWord, read, guarded⟩ | ⟨ahead, word, after, rfl, isWord, read, guarded⟩)
        · exact ⟨[], token, tokens, rfl, isWord, read, by rwa [List.length_nil, Nat.zero_add]⟩
        · refine ⟨token :: ahead, word, after, rfl, isWord, by simpa using read, ?_⟩
          rwa [List.length_cons, Nat.add_right_comm]
      · rintro ⟨ahead, word, after, whole, isWord, read, guarded⟩
        cases ahead with
        | nil =>
            cases whole
            rw [List.length_nil, Nat.zero_add] at guarded
            exact Or.inl ⟨isWord, read, guarded⟩
        | cons first ahead =>
            cases whole
            refine Or.inr ⟨ahead, word, after, rfl, isWord, by simpa using read, ?_⟩
            rwa [List.length_cons, Nat.add_right_comm] at guarded

end Occurrences

/-! ## The reads of an outline -/

/-- The node, if it is a read. -/
def Node.reading? : Node → Option Node
  | .read name guard line => some (.read name guard line)
  | _ => none

theorem Node.reading?_eq_some_iff {node reading : Node} :
    node.reading? = some reading ↔
      node = reading ∧ ∃ name guard line, node = .read name guard line := by
  cases node with
  | read name guard line => simp [reading?]
  | _ => simp [reading?]

theorem reading?_markSuper (name : String) (node : Node) :
    (node.markSuper name).reading? = node.reading? := by
  cases node <;> rfl

theorem reading?_addParent (expression : String) (node : Node) :
    (node.addParent expression).reading? = node.reading? := by
  cases node <;> rfl

namespace Outline

variable {outline after : Outline} {line : Nat}

/-- The reads that an effect adds. -/
def readsOf (outline : Outline) (line : Nat) : Effect → List Node
  | .read expression context => outline.reads line expression context
  | .test expression => outline.reads line expression .test
  | _ => []

/-- The reads that were there are there still, and the others have been added behind them. -/
def AddsReads (outline after : Outline) (reads : List Node) : Prop :=
  ∃ added : List Node, after.nodes.map Node.reading? =
    outline.nodes.map Node.reading? ++ added.map Node.reading? ∧
      added.filterMap Node.reading? = reads

theorem addsReads_of_nodes
    (same : after.nodes.map Node.reading? = outline.nodes.map Node.reading?) :
    outline.AddsReads after [] :=
  ⟨[], by rw [same, List.map_nil, List.append_nil], rfl⟩

theorem reading?_of_mem_reads {expression : Expression} {context : Context} {node : Node}
    (member : node ∈ outline.reads line expression context) : node.reading? = some node := by
  obtain ⟨occurrence, _, rfl⟩ := List.mem_map.mp member
  rfl

/-- Nodes that are the reads of an expression as far as they are reads are these reads. -/
theorem eq_reads_of_reading? {expression : Expression} {context : Context} {nodes : List Node}
    (same : nodes.map Node.reading? =
      (outline.reads line expression context).map Node.reading?) :
    nodes = outline.reads line expression context := by
  have areReads : (outline.reads line expression context).map Node.reading? =
      (outline.reads line expression context).map some :=
    List.map_congr_left fun node member => reading?_of_mem_reads member
  rw [areReads] at same
  apply List.ext_getElem?
  intro position
  have here := congrArg (·[position]?) same
  simp only [List.getElem?_map] at here
  cases isNode : nodes[position]? with
  | none => simpa [isNode] using here.symm
  | some node =>
      rw [isNode, Option.map_some, eq_comm, Option.map_eq_some_iff] at here
      obtain ⟨read, isRead, isSame⟩ := here
      rw [isRead, (Node.reading?_eq_some_iff.mp isSame.symm).1]

theorem filterMap_reading?_reads (expression : Expression) (context : Context) :
    (outline.reads line expression context).filterMap Node.reading? =
      outline.reads line expression context := by
  rw [reads, List.filterMap_map]
  exact congrFun List.filterMap_eq_map _

theorem reading?_read {expression : Expression} {context : Context}
    (done : outline.read line expression context = .ok after) :
    after.nodes.map Node.reading? = outline.nodes.map Node.reading? ++
      (outline.reads line expression context).map Node.reading? := by
  rcases read_eq_ok_iff.mp done with ⟨_, rfl⟩ | ⟨_, block, _, rfl⟩
  · exact List.map_append
  · rw [List.map_append, List.map_map]
    congr 1
    exact List.map_congr_left fun node _ => reading?_markSuper block node

theorem read_addsReads {expression : Expression} {context : Context}
    (done : outline.read line expression context = .ok after) :
    outline.AddsReads after (outline.reads line expression context) :=
  ⟨_, reading?_read done, filterMap_reading?_reads expression context⟩

theorem bind_addsReads (outline : Outline) (line : Nat) (names : List String) :
    outline.AddsReads (outline.bind line names) [] := by
  unfold bind
  split
  · exact addsReads_of_nodes rfl
  · have none : (names.map (Node.assign · line)).filterMap Node.reading? = [] := by
      rw [List.filterMap_map, List.filterMap_eq_nil_iff]
      exact fun _ _ => rfl
    exact ⟨names.map (.assign · line), List.map_append, none⟩

/-- Closing a structure adds no reads. -/
theorem leave_addsReads {expected : Structure}
    (done : outline.leave line expected = .ok after) : outline.AddsReads after [] := by
  obtain ⟨frame, frames, _, _, rfl⟩ := leave_eq_ok_iff.mp done
  generalize frame.opened = opened
  cases opened with
  | capture names => exact bind_addsReads { outline with frames := frames } line names
  | _ => exact addsReads_of_nodes rfl

/-- An effect adds the reads of the expression that it looks through, if there is one. -/
theorem apply_addsReads {effect : Effect} (done : outline.apply line effect = .ok after) :
    outline.AddsReads after (outline.readsOf line effect) := by
  cases effect with
  | refuse cause => cases done
  | read expression context => exact read_addsReads done
  | test expression =>
      obtain ⟨middle, isRead, rfl⟩ := test_eq_ok_iff.mp done
      have added := read_addsReads isRead
      exact added
  | expectBranch =>
      obtain ⟨rfl, _⟩ := expectBranch_eq_ok_iff.mp done
      exact addsReads_of_nodes rfl
  | otherwise =>
      rcases otherwise_eq_ok_iff.mp done with ⟨_, _, _, _, _, rfl⟩ | ⟨_, rfl⟩
      · exact addsReads_of_nodes rfl
      · exact addsReads_of_nodes rfl
  | extend expression =>
      rcases extend_eq_ok_iff.mp done with ⟨_, rfl⟩ | ⟨_, _, rfl⟩
      · exact ⟨[.extends (parentOf outline.frames expression) line], List.map_append, rfl⟩
      · apply addsReads_of_nodes
        rw [List.map_map]
        exact List.map_congr_left fun node _ => reading?_addParent _ node
  | define name =>
      obtain ⟨_, rfl⟩ := define_eq_ok_iff.mp done
      exact ⟨[.block ⟨name, false, outline.innermostBlock?, line⟩], List.map_append, rfl⟩
  | enter opened names =>
      cases done
      exact addsReads_of_nodes rfl
  | leaveBlock name => exact leave_addsReads (leaveBlock_eq_ok_iff.mp done).2
  | leave kind => exact leave_addsReads done
  | bind names =>
      cases done
      exact bind_addsReads outline line names

/-- The reads of the outline are in their places still. -/
def KeepsReads (outline after : Outline) : Prop :=
  outline.nodes.map Node.reading? <+: after.nodes.map Node.reading?

theorem KeepsReads.refl (outline : Outline) : outline.KeepsReads outline :=
  List.prefix_rfl

theorem KeepsReads.trans {middle : Outline} (first : outline.KeepsReads middle)
    (second : middle.KeepsReads after) : outline.KeepsReads after :=
  List.IsPrefix.trans first second

theorem AddsReads.keepsReads {reads : List Node} (adds : outline.AddsReads after reads) :
    outline.KeepsReads after := by
  obtain ⟨added, whole, _⟩ := adds
  exact ⟨_, whole.symm⟩

theorem add_keepsReads (outline : Outline) (nodes : List Node) :
    outline.KeepsReads (outline.add nodes) :=
  ⟨nodes.map Node.reading?, List.map_append.symm⟩

/-- Segments that are read later keep the reads in their places. -/
theorem segments_keepsReads {parts : List Segment} (done : outline.segments parts = .ok after) :
    outline.KeepsReads after := by
  apply foldlM_keeps KeepsReads.refl KeepsReads.trans _ done
  intro part _ outline after ran
  obtain ⟨line, nodes, _, _, isSegment⟩ := exists_segment_eq part
  rw [isSegment, applyAll_eq_ok_iff] at ran
  apply (add_keepsReads outline nodes).trans
  apply foldlM_keeps KeepsReads.refl KeepsReads.trans _ ran
  intro effect _ outline after applied
  exact (apply_addsReads applied).keepsReads

/-- A read has been there before, or some effect has added it. -/
theorem exists_effect_of_read {effects : List Effect} {node : Node}
    (isRead : node.reading? = some node)
    (done : effects.foldlM (fun current effect => current.apply line effect) outline = .ok after)
    (member : node ∈ after.nodes) : node ∈ outline.nodes ∨
      ∃ effect ∈ effects, ∃ middle : Outline, node ∈ middle.readsOf line effect := by
  induction effects generalizing outline with
  | nil =>
      cases done
      exact Or.inl member
  | cons effect effects ih =>
      obtain ⟨middle, first, others⟩ := foldlM_cons_eq_ok_iff.mp done
      rcases ih others with before | ⟨later, inEffects, found⟩
      · obtain ⟨added, whole, isAdded⟩ := apply_addsReads first
        have inMiddle : some node ∈ middle.nodes.map Node.reading? :=
          List.mem_map.mpr ⟨node, before, isRead⟩
        rw [whole] at inMiddle
        rcases List.mem_append.mp inMiddle with old | new
        · obtain ⟨other, isOther, same⟩ := List.mem_map.mp old
          rw [Node.reading?_eq_some_iff] at same
          exact Or.inl (same.1 ▸ isOther)
        · obtain ⟨other, isOther, same⟩ := List.mem_map.mp new
          refine Or.inr ⟨effect, List.mem_cons_self, outline, ?_⟩
          rw [← isAdded]
          exact List.mem_filterMap.mpr ⟨other, isOther, same⟩
      · exact Or.inr ⟨later, List.mem_cons_of_mem _ inEffects, found⟩

/-- A read has been there before, or some effect of a segment has added it. -/
theorem exists_part_of_read {parts : List Segment} {node : Node}
    (isRead : node.reading? = some node) (done : outline.segments parts = .ok after)
    (member : node ∈ after.nodes) : node ∈ outline.nodes ∨
      ∃ part ∈ parts, ∃ effect ∈ part.effects, ∃ (middle : Outline) (line : Nat),
        node ∈ middle.readsOf line effect := by
  induction parts generalizing outline with
  | nil =>
      cases done
      exact Or.inl member
  | cons part parts ih =>
      obtain ⟨middle, first, others⟩ := foldlM_cons_eq_ok_iff.mp done
      rcases ih others with before | ⟨later, inParts, found⟩
      · have here : node ∈ outline.nodes ∨ ∃ effect ∈ part.effects,
            ∃ (middle : Outline) (line : Nat), node ∈ middle.readsOf line effect := by
          cases part with
          | text run line =>
              cases first
              rcases List.mem_append.mp before with old | isText
              · exact Or.inl old
              · rw [List.mem_singleton.mp isText] at isRead
                cases isRead
          | comment body line =>
              cases first
              exact Or.inl before
          | output body line =>
              rcases exists_effect_of_read isRead (applyAll_eq_ok_iff.mp first) before with
                old | ⟨effect, inEffects, place, found⟩
              · exact Or.inl old
              · exact Or.inr ⟨effect, inEffects, place, line, found⟩
          | tag body line =>
              rcases exists_effect_of_read isRead (applyAll_eq_ok_iff.mp first) before with
                old | ⟨effect, inEffects, place, found⟩
              · exact Or.inl old
              · exact Or.inr ⟨effect, inEffects, place, line, found⟩
        rcases here with old | new
        · exact Or.inl old
        · exact Or.inr ⟨part, List.mem_cons_self, new⟩
      · exact Or.inr ⟨later, List.mem_cons_of_mem _ inParts, found⟩

end Outline

end Lineage.Template
