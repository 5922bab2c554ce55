import Lineage.Proofs.Sessions
import Mathlib.Data.List.Dedup
import Mathlib.Data.List.Perm.Lattice

/-!
# The reports that an inspector keeps

The reports that the requests to an inspector have used are listed in the order of the requests,
each with the leaf and with the identities of its chain at that time (`Session.uses`).  The list
tells what the inspector keeps: of each leaf the report that was used last (`ReportCache.Tracks`).  A
request uses that one again if the identities of the chain are the same, and makes a new one
otherwise (`ReportUse.Follows`).  Requests that fail leave the reports alone, so do changes of the
templates, and so the list grows by successes only.
-/

namespace Lineage

/-! ## The history of an inspector -/

/-- A request that a report was found or made for: its leaf, the identities of the chain at that
time, and the report. -/
structure ReportUse where
  leaf : String
  identities : List String
  record : ReportRecord

/-- The last use for a leaf. -/
def lastUse? (uses : List ReportUse) (leaf : String) : Option ReportUse :=
  uses.reverse.find? (·.leaf = leaf)

/-- Behind the uses before it, a use takes the very report of the last use for its leaf exactly if
the identities are the same as then.  If there is no such use, or the identities differ, its report
is none of those that were used before. -/
structure ReportUse.Follows (use : ReportUse) (before : List ReportUse) : Prop where
  same : ∀ last, lastUse? before use.leaf = some last →
    (use.record.serial = last.record.serial ↔ use.identities = last.identities)
  reused : ∀ last, lastUse? before use.leaf = some last →
    use.identities = last.identities → use.record = last.record
  new : (∀ last, lastUse? before use.leaf = some last → use.identities ≠ last.identities) →
    ∀ earlier ∈ before, use.record.serial ≠ earlier.record.serial

/-- The use that a request for a report is, if it succeeds. -/
def Inspector.use? (inspector : Inspector) (lookup : Lookup) (leaf : String) (intake : Intake) :
    Option ReportUse :=
  match (inspector.resolve lookup leaf intake).1,
    (inspector.introspect lookup leaf intake).result with
  | .ok chain, .ok record => some ⟨leaf, chain.identities, record⟩
  | _, _ => none

/-- The uses that requests for the reports on several leaves are. -/
def Inspector.uses (inspector : Inspector) (lookup : Lookup) (intake : Intake) :
    List String → List ReportUse
  | [] => []
  | leaf :: leaves =>
    let first := inspector.introspect lookup leaf intake
    (inspector.use? lookup leaf intake).toList ++ first.inspector.uses lookup first.intake leaves

namespace Session

/-- The uses that a step of the inspector `seat` is.  The rules of a leaf are evaluated by the
report on it. -/
def usesOf (session : Session) (seat : Seat) : SessionStep → List ReportUse
  | .introspect leaf | .validate leaf _ =>
    seat.inspector.uses session.library.lookup (session.intake seat) [leaf]
  | .introspectAll leaves =>
    seat.inspector.uses session.library.lookup (session.intake seat) leaves
  | _ => []

/-- The uses of the inspector at `place` in a step at the place `other`. -/
def usesAt (session : Session) (place other : Nat) (step : SessionStep) : List ReportUse :=
  if other = place then session.seats[other]?.toList.flatMap (session.usesOf · step) else []

/-- The uses of the inspector at a place in steps, one after another. -/
def uses (session : Session) (place : Nat) : List (Nat × SessionStep) → List ReportUse
  | [] => []
  | (other, step) :: steps =>
    session.usesAt place other step ++ (session.after [(other, step)]).uses place steps

end Session

/-! ## The last use -/

section LastUse

variable {uses : List ReportUse} {use last : ReportUse} {leaf : String}

theorem lastUse?_concat (uses : List ReportUse) (use : ReportUse) (leaf : String) :
    lastUse? (uses ++ [use]) leaf = if use.leaf = leaf then some use else lastUse? uses leaf := by
  simp only [lastUse?, List.reverse_append, List.reverse_singleton, List.singleton_append,
    List.find?_cons]
  split <;> simp_all

theorem mem_of_lastUse? (found : lastUse? uses leaf = some last) : last ∈ uses :=
  List.mem_reverse.mp (List.mem_of_find?_eq_some found)

theorem leaf_of_lastUse? (found : lastUse? uses leaf = some last) : last.leaf = leaf := by
  simpa using List.find?_some found

theorem exists_lastUse?_iff : (∃ last, lastUse? uses leaf = some last) ↔ leaf ∈ uses.map (·.leaf) := by
  rw [← Option.isSome_iff_exists, lastUse?, List.find?_isSome]
  simp

/-- What is the report of the last use and otherwise new follows the uses before it. -/
theorem ReportUse.follows_of {before : List ReportUse}
    (reused : ∀ last, lastUse? before use.leaf = some last →
      use.identities = last.identities → use.record = last.record)
    (new : (∀ last, lastUse? before use.leaf = some last → use.identities ≠ last.identities) →
      ∀ earlier ∈ before, use.record.serial ≠ earlier.record.serial) : use.Follows before where
  same last found := by
    constructor
    · intro serials
      by_contra differ
      apply new _ last (mem_of_lastUse? found) serials
      intro other foundOther
      rwa [Option.some.inj (foundOther.symm.trans found)]
    · intro identities
      rw [reused last found identities]
  reused := reused
  new := new

end LastUse

/-! ## What is kept -/

/-- The cache keeps the report of the last use for each leaf, and no other.  Each use followed those
before it. -/
structure ReportCache.Tracks (cache : ReportCache) (uses : List ReportUse) : Prop where
  leaves : (cache.records.map (·.leaf)).Nodup
  kept : ∀ record, record ∈ cache.records ↔
    ∃ last, lastUse? uses record.leaf = some last ∧ last.record = record
  keys : ∀ use ∈ uses, use.record.leaf = use.leaf ∧ use.record.identities = use.identities
  serials : ∀ use ∈ uses, use.record.serial < cache.made
  follows : ∀ position, ∀ inside : position < uses.length,
    uses[position].Follows (uses.take position)

namespace ReportCache

variable {cache next : ReportCache} {uses : List ReportUse} {use : ReportUse}

theorem tracks_nil (unused : cache.records = []) : cache.Tracks [] where
  leaves := by simp [unused]
  kept := by simp [unused, lastUse?]
  keys := by simp
  serials := by simp
  follows := by simp

namespace Tracks

/-- One more use, and the cache in which its report is the one on its leaf. -/
theorem concat (tracks : cache.Tracks uses) (leaves : (next.records.map (·.leaf)).Nodup)
    (kept : ∀ record, record ∈ next.records ↔
      if use.leaf = record.leaf then use.record = record else record ∈ cache.records)
    (key : use.record.leaf = use.leaf ∧ use.record.identities = use.identities)
    (made : cache.made ≤ next.made) (serial : use.record.serial < next.made)
    (follows : use.Follows uses) : next.Tracks (uses ++ [use]) where
  leaves := leaves
  kept record := by
    rw [kept, lastUse?_concat]
    split
    · simp
    · exact tracks.kept record
  keys := List.forall_mem_append.mpr ⟨tracks.keys, List.forall_mem_singleton.mpr key⟩
  serials := by
    refine List.forall_mem_append.mpr ⟨?_, List.forall_mem_singleton.mpr serial⟩
    exact fun earlier member => Nat.lt_of_lt_of_le (tracks.serials earlier member) made
  follows position inside := by
    rw [List.length_append, List.length_singleton] at inside
    rcases Nat.lt_or_eq_of_le (Nat.le_of_lt_succ inside) with before | rfl
    · rw [List.getElem_append_left before, List.take_append_of_le_length (Nat.le_of_lt before)]
      exact tracks.follows position before
    · simpa using follows

/-- What is found for a leaf and identities is the report of the last use, if it had these. -/
theorem find?_eq_some_iff (tracks : cache.Tracks uses) {leaf : String} {identities : List String}
    {record : ReportRecord} :
    cache.find? leaf identities = some record ↔
      ∃ last, lastUse? uses leaf = some last ∧ last.identities = identities ∧
        last.record = record := by
  -- the records of the leaf are that of its last use
  have ofLeaf : ∀ found ∈ cache.records, found.leaf = leaf →
      ∃ last, lastUse? uses leaf = some last ∧ last.record = found := by
    rintro found member rfl
    exact (tracks.kept found).mp member
  constructor
  · intro found
    have key := List.find?_some found
    simp only [Bool.and_eq_true, beq_iff_eq] at key
    obtain ⟨last, isLast, same⟩ := ofLeaf record (List.mem_of_find?_eq_some found) key.1
    refine ⟨last, isLast, ?_, same⟩
    rw [← (tracks.keys last (mem_of_lastUse? isLast)).2, same, key.2]
  · rintro ⟨last, isLast, rfl, rfl⟩
    obtain ⟨leafOf, identitiesOf⟩ := tracks.keys last (mem_of_lastUse? isLast)
    rw [leaf_of_lastUse? isLast] at leafOf
    have member : last.record ∈ cache.records := by
      rw [tracks.kept, leafOf]
      exact ⟨last, isLast, rfl⟩
    cases found : cache.find? leaf last.identities with
    | none =>
        have missed := List.find?_eq_none.mp found last.record member
        simp [leafOf, identitiesOf] at missed
    | some other =>
        have key := List.find?_some found
        simp only [Bool.and_eq_true, beq_iff_eq] at key
        obtain ⟨_, isOther, rfl⟩ := ofLeaf other (List.mem_of_find?_eq_some found) key.1
        rw [Option.some.inj (isOther.symm.trans isLast)]

/-- As many reports are kept as there are leaves with a use. -/
theorem size_eq (tracks : cache.Tracks uses) : cache.size = (uses.map (·.leaf)).dedup.length := by
  have same : (cache.records.map (·.leaf)).Perm (uses.map (·.leaf)).dedup := by
    rw [List.perm_ext_iff_of_nodup tracks.leaves (List.nodup_dedup _)]
    intro leaf
    rw [List.mem_dedup, ← exists_lastUse?_iff, List.mem_map]
    constructor
    · rintro ⟨record, member, rfl⟩
      obtain ⟨last, isLast, _⟩ := (tracks.kept record).mp member
      exact ⟨last, isLast⟩
    · rintro ⟨last, isLast⟩
      have leafOf : last.record.leaf = leaf :=
        (tracks.keys last (mem_of_lastUse? isLast)).1.trans (leaf_of_lastUse? isLast)
      exact ⟨last.record, (tracks.kept _).mpr ⟨last, leafOf ▸ isLast, rfl⟩, leafOf⟩
  rw [size, ← List.length_map (·.leaf), same.length_eq]

end Tracks

/-- Of one leaf a cache keeps the report that was added last. -/
theorem mem_records_add {leaf : String} {identities : List String} {report : Report}
    {record : ReportRecord} :
    record ∈ (cache.add leaf identities report).2.records ↔
      if leaf = record.leaf then (cache.add leaf identities report).1 = record
      else record ∈ cache.records := by
  simp only [add, List.mem_cons, List.mem_filter, bne_iff_ne]
  split
  · rename_i same
    simp [same, eq_comm]
  · rename_i different
    have notMade : record ≠ ⟨leaf, identities, cache.made, report⟩ := by
      rintro rfl
      exact different rfl
    simp [notMade, Ne.symm different]

theorem add_leaves_nodup (distinct : (cache.records.map (·.leaf)).Nodup) (leaf : String)
    (identities : List String) (report : Report) :
    ((cache.add leaf identities report).2.records.map (·.leaf)).Nodup := by
  rw [add, List.map_cons, List.nodup_cons]
  refine ⟨?_, distinct.sublist (List.filter_sublist.map _)⟩
  simp

/-- The report on a chain, be it kept or made, is one more use. -/
theorem Tracks.analyze {inspector after : Inspector} (tracks : inspector.reports.Tracks uses)
    {chain : Chain} {record : ReportRecord}
    (analyzed : inspector.analyze chain = .ok (record, after)) :
    after.reports.Tracks (uses ++ [⟨chain.leaf.name, chain.identities, record⟩]) := by
  rcases inspector.analyze_cases chain with
    ⟨_, found, kept⟩ | ⟨unknown, report, _, added⟩ | ⟨_, failure, _, failed⟩
  · cases kept.symm.trans analyzed
    obtain ⟨last, isLast, identities, rfl⟩ := tracks.find?_eq_some_iff.mp found
    have known := mem_of_lastUse? isLast
    obtain ⟨leafOf, identitiesOf⟩ := tracks.keys last known
    rw [leaf_of_lastUse? isLast] at leafOf
    rw [identities] at identitiesOf
    refine tracks.concat tracks.leaves ?_ ⟨leafOf, identitiesOf⟩ (Nat.le_refl _)
      (tracks.serials last known) ?_
    · intro record
      split
      · rename_i leaves
        dsimp only at leaves
        rw [tracks.kept, ← leaves, isLast]
        simp
      · rfl
    · apply ReportUse.follows_of
      · intro other isOther _
        rw [Option.some.inj (isOther.symm.trans isLast)]
      · intro differ
        exact absurd identities.symm (differ last isLast)
  · cases added.symm.trans analyzed
    apply tracks.concat (add_leaves_nodup tracks.leaves _ _ _) (fun _ => mem_records_add)
      ⟨rfl, rfl⟩ (Nat.le_succ _) (Nat.lt_succ_self _)
    apply ReportUse.follows_of
    · intro last isLast identities
      -- a report with these identities would have been found
      have found := tracks.find?_eq_some_iff.mpr ⟨last, isLast, identities.symm, rfl⟩
      cases unknown.symm.trans found
    · intro _ earlier member
      exact Nat.ne_of_gt (tracks.serials earlier member)
  · cases failed.symm.trans analyzed

end ReportCache

/-! ## Requests -/

namespace Inspector

variable {inspector : Inspector} {uses : List ReportUse}

/-- A request for a report is one more use if it succeeds, and otherwise leaves the reports alone. -/
theorem introspect_tracks (tracks : inspector.reports.Tracks uses) (lookup : Lookup) (leaf : String)
    (intake : Intake) :
    (inspector.introspect lookup leaf intake).inspector.reports.Tracks
      (uses ++ (inspector.use? lookup leaf intake).toList) := by
  unfold use?
  rcases inspector.introspect_cases lookup leaf intake with
    ⟨failure, failed, answered⟩ | ⟨chain, found, ⟨failure, _, answered⟩ | further⟩
  · rw [answered, failed]
    simpa using tracks
  · rw [answered, found]
    simpa using tracks
  · obtain ⟨record, after, analyzed, answered⟩ := further
    rw [answered, found, ← resolve_leaf_name found]
    exact tracks.analyze analyzed

/-- A report that is given follows the uses before it, and is then the one that is kept on its
leaf. -/
theorem introspect_follows (tracks : inspector.reports.Tracks uses) {lookup : Lookup} {leaf : String}
    {intake : Intake} {record : ReportRecord}
    (given : (inspector.introspect lookup leaf intake).result = .ok record) :
    ∃ chain, (inspector.resolve lookup leaf intake).1 = .ok chain ∧
      ReportUse.Follows ⟨leaf, chain.identities, record⟩ uses ∧
      ∀ other, other ∈ (inspector.introspect lookup leaf intake).inspector.reports.records ↔
        if leaf = other.leaf then record = other else other ∈ inspector.reports.records := by
  have after := introspect_tracks tracks lookup leaf intake
  rcases inspector.introspect_cases lookup leaf intake with
    ⟨failure, _, answered⟩ | ⟨chain, found, ⟨failure, _, answered⟩ | ⟨_, _, _, answered⟩⟩
  · cases (congrArg Answered.result answered).symm.trans given
  · cases (congrArg Answered.result answered).symm.trans given
  · rw [use?, found, given] at after
    dsimp only [Option.toList_some] at after
    refine ⟨chain, found, ?_, fun other => ?_⟩
    · simpa using after.follows uses.length (by simp)
    · rw [after.kept, tracks.kept, lastUse?_concat]
      split <;> simp

theorem introspectAll_tracks (tracks : inspector.reports.Tracks uses) (lookup : Lookup)
    (intake : Intake) (leaves : List String) :
    (inspector.introspectAll lookup intake leaves).inspector.reports.Tracks
      (uses ++ inspector.uses lookup intake leaves) := by
  induction leaves generalizing inspector intake uses with
  | nil => simpa [Inspector.uses, introspectAll] using tracks
  | cons leaf leaves ih =>
      have first := introspect_tracks tracks lookup leaf intake
      rw [Inspector.uses, ← List.append_assoc]
      exact ih first _

end Inspector

/-! ## Sessions -/

namespace Session

variable {session : Session} {place : Nat} {seat : Seat} {uses : List ReportUse}

/-- The inspector at the place, if there is one, keeps what it should after the uses. -/
def Tracks (session : Session) (place : Nat) (uses : List ReportUse) : Prop :=
  ∀ seat, session.seats[place]? = some seat → seat.inspector.reports.Tracks uses

theorem tracks_of_seats {after : Session} (same : after.seats[place]? = session.seats[place]?)
    (tracks : session.Tracks place uses) : after.Tracks place uses :=
  fun seat seated => tracks seat (same.symm.trans seated)

/-- What a request leaves behind is found at its place. -/
theorem tracks_settle {inspector : Inspector} (tracks : inspector.reports.Tracks uses)
    (intake : Intake) : (session.settle place seat inspector intake).Tracks place uses := by
  intro other seated
  rw [settle, Array.getElem?_setIfInBounds, if_pos rfl] at seated
  split at seated
  · cases seated
    exact tracks
  · cases seated

/-- A step leaves the inspectors at other places alone. -/
theorem getElem?_seats_stepAt {other : Nat} (elsewhere : other ≠ place) (seat : Seat)
    (step : SessionStep) :
    (session.stepAt other seat step).2.seats[place]? = session.seats[place]? := by
  cases step with
  | insert | remove | invalidate => rfl
  | cancel | resolve | introspect | introspectAll | validate =>
      exact Array.getElem?_setIfInBounds_ne elsewhere

/-- A step is as many uses as its requests that succeed. -/
theorem stepAt_tracks (seated : session.seats[place]? = some seat)
    (tracks : seat.inspector.reports.Tracks uses) (step : SessionStep) :
    (session.stepAt place seat step).2.Tracks place (uses ++ session.usesOf seat step) := by
  have alone : session.Tracks place (uses ++ []) := by
    intro other found
    rw [List.append_nil, ← Option.some.inj (seated.symm.trans found)]
    exact tracks
  cases step with
  | insert | remove | invalidate => exact alone
  | cancel =>
      have kept : seat.inspector.cancel.reports.Tracks (uses ++ []) := alone seat seated
      exact tracks_settle kept _
  | resolve leaf => exact tracks_settle (alone seat seated) _
  | introspect leaf => exact tracks_settle (Inspector.introspectAll_tracks tracks _ _ [leaf]) _
  | introspectAll leaves => exact tracks_settle (Inspector.introspectAll_tracks tracks _ _ leaves) _
  | validate leaf content =>
      exact tracks_settle (Inspector.introspectAll_tracks tracks _ _ [leaf]) _

/-- A step at any place is as many uses of the inspector at the place as it makes there. -/
theorem after_step_tracks (tracks : session.Tracks place uses) (other : Nat) (step : SessionStep) :
    (session.after [(other, step)]).Tracks place (uses ++ session.usesAt place other step) := by
  rw [usesAt]
  cases found : session.seats[other]? with
  | none =>
      rw [after_of_unseated found]
      simpa using tracks
  | some seat =>
      rw [after_of_seated found]
      simp only [Option.toList_some, List.flatMap_singleton]
      split
      · rename_i here
        subst here
        exact stepAt_tracks found (tracks seat found) step
      · rename_i elsewhere
        rw [List.append_nil]
        exact tracks_of_seats (getElem?_seats_stepAt elsewhere seat step) tracks

theorem after_tracks (tracks : session.Tracks place uses) (steps : List (Nat × SessionStep)) :
    (session.after steps).Tracks place (uses ++ session.uses place steps) := by
  induction steps generalizing session uses with
  | nil =>
      rw [Session.uses, List.append_nil]
      exact tracks
  | cons first steps ih =>
      obtain ⟨other, step⟩ := first
      rw [Session.uses, ← List.append_assoc]
      exact ih (after_step_tracks tracks other step)

/-- In every state that a session reaches, an inspector keeps one report at most on each leaf, and as
many reports as there are leaves on which it has given or used a report so far: of each of them the
one of the last use.  Each report that it used was the very report of the last use for the leaf, if
the chain had the identities that it had then, and otherwise a new one.  The same holds of a report
that it gives now, which takes the place of the one that it kept on the leaf. -/
theorem reports_after (unused : session.Unused) (steps : List (Nat × SessionStep))
    (seated : (session.after steps).seats[place]? = some seat) :
    let uses := session.uses place steps
    let reports := seat.inspector.reports
    let request := seat.inspector.introspect (session.after steps).library.lookup
    let intake := (session.after steps).intake seat
    (reports.records.map (·.leaf)).Nodup ∧
      reports.size = (uses.map (·.leaf)).dedup.length ∧
      (∀ record, record ∈ reports.records ↔
        ∃ last, lastUse? uses record.leaf = some last ∧ last.record = record) ∧
      (∀ position, ∀ inside : position < uses.length,
        uses[position].Follows (uses.take position)) ∧
      ∀ leaf record, (request leaf intake).result = .ok record →
        ∃ chain, (seat.inspector.resolve (session.after steps).library.lookup leaf intake).1 =
            .ok chain ∧
          ReportUse.Follows ⟨leaf, chain.identities, record⟩ uses ∧
          ∀ other, other ∈ (request leaf intake).inspector.reports.records ↔
            if leaf = other.leaf then record = other else other ∈ reports.records := by
  intro uses reports request intake
  have start : session.Tracks place [] := by
    intro other found
    exact ReportCache.tracks_nil (unused.reports other (Array.mem_of_getElem? found))
  have tracks : reports.Tracks uses := after_tracks start steps seat seated
  exact ⟨tracks.leaves, tracks.size_eq, tracks.kept, tracks.follows,
    fun leaf record given => Inspector.introspect_follows tracks given⟩

/-- The text of the root changes and comes back.  Another inspector and a leaf that is missing have
no part in it. -/
theorem reports_after_return :
    let library := Library.ofList
      [("root", Sample.output "one"), ("leaf", Sample.extendsTag "root")]
    let session := start library [⟨16, false⟩, ⟨16, false⟩]
    let steps := [(0, SessionStep.introspect "leaf"), (1, .introspect "leaf"),
      (0, .insert "root" (Sample.output "two")), (0, .introspectAll ["leaf", "ghost", "root"]),
      (0, .insert "root" (Sample.output "one")), (0, .validate "leaf" none),
      (0, .introspect "leaf"), (0, .remove "root"), (0, .introspect "leaf")]
    session.Unused ∧ ∃ seat, (session.after steps).seats[0]? = some seat ∧
      (session.uses 0 steps).map (fun use => (use.leaf, use.record.serial)) =
        [("leaf", 0), ("leaf", 1), ("root", 2), ("leaf", 3), ("leaf", 3)] ∧
      seat.inspector.reports.size = 2 := by
  intro library session steps
  have unused : session.Unused := start_unused _ _
  have inside : 0 < (session.after steps).seats.size := by decide +kernel
  have seated : (session.after steps).seats[0]? = some ((session.after steps).seats[0]) :=
    Array.getElem?_eq_getElem inside
  have used : (session.uses 0 steps).map (fun use => (use.leaf, use.record.serial)) =
      [("leaf", 0), ("leaf", 1), ("root", 2), ("leaf", 3), ("leaf", 3)] := by decide +kernel
  obtain ⟨_, kept, _⟩ := reports_after unused steps seated
  refine ⟨unused, _, seated, used, ?_⟩
  have leaves : (session.uses 0 steps).map (·.leaf) = ["leaf", "leaf", "root", "leaf", "leaf"] := by
    simpa [Function.comp_def] using congrArg (List.map Prod.fst) used
  rw [kept, leaves]
  decide +kernel

end Session

end Lineage
