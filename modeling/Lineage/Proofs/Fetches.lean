import Lineage.Proofs.BlockNames
import Lineage.Proofs.Sessions
import Mathlib.Algebra.BigOperators.Group.List.Basic
import Mathlib.Algebra.GroupWithZero.Nat
import Mathlib.Data.List.Dedup

/-!
# What look-ups are spent on

A look-up either finds a template, which is then read, or finds none, which ends the request.  A
cache counts every reading that it is asked for, be it a new one or one that is there.  So in a
session the look-ups are the readings of all caches and the requests that ended because a template
was missing (`Session.Balanced`): a walk keeps the account (`Resolution.climb_accounts`), hence
every step does (`Session.Balanced.stepAt`), and hence a whole session.

The templates on a walk have different names, all of which the library knows.  So a request looks up
one name more than there are templates at most, however far it might go
(`Resolution.climb_fetches_le`).
-/

namespace Lineage

open Lineage.Template

/-! ## Requests that end because a template is missing -/

/-- Whether the failure is that a template is missing. -/
def Failure.isMissing : Failure → Bool
  | .templateNotFound _ | .missingAncestor _ _ => true
  | _ => false

/-- How many requests, one or none, ended because a template is missing. -/
def missed {α : Type} : Except Failure α → Nat
  | .ok _ => 0
  | .error failure => if failure.isMissing then 1 else 0

/-- How many requests in the answer to a step ended because a template is missing.  Each leaf of
several is a request. -/
def SessionResult.missed : SessionResult → Nat
  | .chain result => Lineage.missed result
  | .report result => Lineage.missed result
  | .reports results => (results.map Lineage.missed).sum
  | .validation result => Lineage.missed result
  | _ => 0

section Missed

variable {α β : Type}

theorem missed_map (change : α → β) (outcome : Except Failure α) :
    missed (outcome.map change) = missed outcome := by
  cases outcome <;> rfl

theorem missed_bind {outcome : Except Failure α} {next : α → Except Failure β}
    (first : missed outcome = 0) (further : ∀ value, missed (next value) = 0) :
    missed (outcome >>= next) = 0 := by
  cases outcome with
  | ok value => exact further value
  | error failure => exact first

theorem missed_foldlM {step : β → α → Except Failure β} (each : ∀ value item,
    missed (step value item) = 0) (items : List α) (value : β) :
    missed (items.foldlM step value) = 0 := by
  induction items generalizing value with
  | nil => rfl
  | cons item items ih =>
      rw [List.foldlM_cons]
      exact missed_bind (each value item) ih

theorem missed_mapM {f : α → Except Failure β} (each : ∀ item, missed (f item) = 0)
    (items : List α) : missed (items.mapM f) = 0 := by
  induction items with
  | nil => rfl
  | cons item items ih =>
      rw [List.mapM_cons]
      exact missed_bind (each item) fun _ => missed_bind ih fun _ => rfl

end Missed

/-- A template that is read is not missing. -/
theorem missed_ofTemplate (name : String) (text : List Char) :
    missed (Parsed.ofTemplate name text) = 0 := by
  unfold Parsed.ofTemplate
  split
  · rfl
  · split <;> rfl

theorem BlockIndex.missed_ofChain (chain : Chain) : missed (ofChain chain) = 0 := by
  have each : ∀ position index block, missed (BlockIndex.add position index block) = 0 := by
    intro position index block
    unfold BlockIndex.add
    split
    · rfl
    · split <;> rfl
  have eachTier : ∀ isRoot index tier, missed (addTier isRoot index tier) = 0 :=
    fun isRoot index tier => missed_foldlM (each _) _ _
  exact missed_bind (eachTier _ _ _) fun index => missed_foldlM (eachTier false) _ _

theorem Metadata.missed_ofChain (chain : Chain) : missed (ofChain chain) = 0 := by
  have each : ∀ tier, missed (declaration tier) = 0 := by
    intro tier
    rw [declaration, missed_map]
    unfold Declaration.ofTemplate
    split
    · rfl
    · split <;> rfl
  apply missed_bind
  · exact missed_mapM (fun tier => missed_bind (each tier) fun _ => rfl) _
  · exact fun _ => rfl

/-- The analysis of a chain looks for no template. -/
theorem Report.missed_ofChain (chain : Chain) : missed (ofChain chain) = 0 := by
  apply missed_bind _ fun _ => rfl
  apply missed_bind (BlockIndex.missed_ofChain chain)
  intro blocks
  exact missed_bind (Metadata.missed_ofChain chain) fun _ => rfl

/-! ## The account of a walk -/

/-- What was looked up between two intakes has been read, or was missing for so many requests. -/
structure Intake.Accounts (before after : Intake) (misses : Nat) : Prop where
  balance : after.fetches + before.parses.asked = before.fetches + after.parses.asked + misses
  readings : after.parses.HoldsReadings

namespace Intake.Accounts

variable {before between after : Intake} {first second : Nat}

theorem refl (readings : before.parses.HoldsReadings) : before.Accounts before 0 :=
  ⟨rfl, readings⟩

theorem trans (one : before.Accounts between first) (other : between.Accounts after second) :
    before.Accounts after (first + second) where
  balance := by
    have := one.balance
    have := other.balance
    omega
  readings := other.readings

end Intake.Accounts

namespace Resolution

variable {resolution : Resolution}

/-- A walk over a library looks up the templates that it reads, and the one that it misses. -/
theorem climb_accounts {library : Library} (looks : resolution.lookup = library.lookup)
    (remaining : Nat) (name : String) (below : List Tier) {intake : Intake}
    (readings : intake.parses.HoldsReadings) :
    intake.Accounts (resolution.climb remaining name below intake).2
      (missed (resolution.climb remaining name below intake).1) := by
  induction remaining generalizing name below intake with
  | zero =>
      unfold climb
      split <;> exact Intake.Accounts.refl readings
  | succ remaining ih =>
      unfold climb
      split
      · exact Intake.Accounts.refl readings
      · rw [looks]
        simp only [Library.lookup]
        cases library.find? name with
        | none =>
            -- the look-up that finds nothing is the one that is counted as missed
            have isMissed : missed (α := Chain) (.error (missing below name)) = 1 := by
              cases below <;> rfl
            rw [isMissed]
            exact ⟨Nat.add_right_comm _ _ _, readings⟩
        | some source =>
            obtain ⟨⟨text, reading⟩, kept⟩ := readings.get name source
            have fetched : intake.Accounts (intake.fetch.parse name source).2 0 := by
              refine ⟨?_, kept⟩
              have asked := intake.parses.asked_get name source
              simp only [Intake.parse, Intake.fetch, asked]
              omega
            have found : missed (intake.fetch.parse name source).1.outcome = 0 := by
              change missed (intake.parses.get name source).1.outcome = 0
              rw [reading]
              exact missed_ofTemplate name text
            dsimp only
            cases outcome : (intake.fetch.parse name source).1.outcome with
            | error failure =>
                rw [outcome] at found
                exact found.symm ▸ fetched
            | ok parsed =>
                dsimp only
                cases parsed.parent with
                | none => exact fetched
                | some parent =>
                    have further := fetched.trans (ih parent (⟨name, source, parsed⟩ :: below) kept)
                    rwa [Nat.zero_add] at further

/-- A walk over a library looks up one name more than the library knows, or as many as it may visit
templates, whichever is less.  `below` are templates of the library with different names. -/
theorem climb_fetches_le (resolution : Resolution) {names : List String}
    (known : ∀ name source, resolution.lookup name = .ok (some source) → name ∈ names)
    {remaining : Nat} {name : String} {below : List Tier} {intake : Intake}
    (distinct : (below.map (·.name)).Nodup) (found : ∀ tier ∈ below, tier.name ∈ names) :
    (resolution.climb remaining name below intake).2.fetches ≤
      intake.fetches + min remaining (names.length + 1 - below.length) := by
  induction remaining generalizing name below intake with
  | zero =>
      unfold climb
      split <;> exact Nat.le_add_right _ _
  | succ remaining ih =>
      have visited : below.length ≤ names.length := by
        rw [← List.length_map (f := Tier.name)]
        apply distinct.length_le_of_subset
        exact List.forall_mem_map.mpr found
      have once : (intake.fetch).fetches ≤
          intake.fetches + min (remaining + 1) (names.length + 1 - below.length) := by
        simp only [Intake.fetch]
        omega
      unfold climb
      split
      · exact Nat.le_add_right _ _
      · rename_i new
        simp only
        split
        · exact once
        · exact once
        · rename_i source looked
          split
          · exact once
          · rename_i parsed _
            split
            · rename_i parent _
              have distinctNext :
                  ((⟨name, source, parsed⟩ :: below : List Tier).map (·.name)).Nodup := by
                rw [List.map_cons, List.nodup_cons]
                refine ⟨?_, distinct⟩
                intro member
                obtain ⟨tier, isBelow, same⟩ := List.mem_map.mp member
                exact new (List.any_eq_true.mpr ⟨tier, isBelow, beq_iff_eq.mpr same⟩)
              have foundNext : ∀ tier ∈ (⟨name, source, parsed⟩ :: below : List Tier),
                  tier.name ∈ names :=
                List.forall_mem_cons.mpr ⟨known name source looked, found⟩
              have visitedNext := distinctNext.length_le_of_subset
                (List.forall_mem_map.mpr foundNext)
              have further : (resolution.climb remaining parent (⟨name, source, parsed⟩ :: below)
                  (intake.fetch.parse name source).2).2.fetches ≤ _ := ih distinctNext foundNext
              simp only [List.length_map, List.length_cons] at visitedNext further ⊢
              have fetched : (intake.fetch.parse name source).2.fetches = intake.fetches + 1 := rfl
              omega
            · exact once

end Resolution

/-! ## The account of a request -/

/-- The number of the templates. -/
def Library.size (library : Library) : Nat :=
  (library.templates.map (·.1)).dedup.length

namespace Inspector

variable {inspector : Inspector} {library : Library} {intake : Intake}

theorem resolve_accounts (readings : intake.parses.HoldsReadings) (leaf : String) :
    intake.Accounts (inspector.resolve library.lookup leaf intake).2
      (missed (inspector.resolve library.lookup leaf intake).1) := by
  unfold resolve
  split
  · exact Intake.Accounts.refl readings
  · exact Resolution.climb_accounts rfl _ _ _ readings

theorem introspect_intake (lookup : Lookup) (leaf : String) :
    (inspector.introspect lookup leaf intake).intake =
      (inspector.resolve lookup leaf intake).2 := by
  rcases inspector.introspect_cases lookup leaf intake with
    ⟨_, _, answered⟩ | ⟨_, _, ⟨_, _, answered⟩ | ⟨_, _, _, answered⟩⟩ <;> rw [answered]

/-- A report that is asked for is missed exactly if the chain is. -/
theorem missed_introspect (lookup : Lookup) (leaf : String) :
    missed (inspector.introspect lookup leaf intake).result =
      missed (inspector.resolve lookup leaf intake).1 := by
  rcases inspector.introspect_cases lookup leaf intake with
    ⟨failure, failed, answered⟩ | ⟨chain, found, further⟩
  · rw [answered, failed]
    rfl
  · have made := Report.missed_ofChain chain
    rw [found]
    rcases further with ⟨failure, analyzed, answered⟩ | ⟨record, after, _, answered⟩
    · rcases inspector.analyze_cases chain with
        ⟨_, _, kept⟩ | ⟨_, _, _, added⟩ | ⟨_, other, failed, same⟩
      · cases kept.symm.trans analyzed
      · cases added.symm.trans analyzed
      · cases same.symm.trans analyzed
        rw [failed] at made
        rw [answered]
        exact made
    · rw [answered]
      rfl

theorem introspect_accounts (readings : intake.parses.HoldsReadings) (leaf : String) :
    intake.Accounts (inspector.introspect library.lookup leaf intake).intake
      (missed (inspector.introspect library.lookup leaf intake).result) := by
  rw [introspect_intake, missed_introspect]
  exact resolve_accounts readings leaf

theorem introspectAll_accounts (readings : intake.parses.HoldsReadings) (leaves : List String) :
    intake.Accounts (inspector.introspectAll library.lookup intake leaves).intake
      ((inspector.introspectAll library.lookup intake leaves).results.map missed).sum := by
  induction leaves generalizing inspector intake with
  | nil => exact Intake.Accounts.refl readings
  | cons leaf leaves ih =>
      have first : intake.Accounts (inspector.introspect library.lookup leaf intake).intake _ :=
        introspect_accounts readings leaf
      rw [introspectAll, List.map_cons, List.sum_cons]
      exact first.trans (ih first.readings)

theorem validate_accounts (readings : intake.parses.HoldsReadings) (leaf : String)
    (content : Option String) :
    intake.Accounts (inspector.validate library.lookup leaf content intake).intake
      (missed (inspector.validate library.lookup leaf content intake).result) := by
  rw [validate, missed_map]
  exact introspect_accounts readings leaf

theorem resolve_fetches_le (inspector : Inspector) (library : Library) (leaf : String)
    (intake : Intake) : (inspector.resolve library.lookup leaf intake).2.fetches ≤
      intake.fetches + min inspector.maxDepth (library.size + 1) := by
  unfold resolve
  split
  · exact Nat.le_add_right _ _
  · have known : ∀ name source, library.lookup name = .ok (some source) →
        name ∈ (library.templates.map (·.1)).dedup := by
      intro name source looked
      obtain ⟨before, after, templates, _⟩ := List.lookup_eq_some_iff.mp (Except.ok.inj looked)
      rw [List.mem_dedup, templates]
      simp
    exact Resolution.climb_fetches_le ⟨library.lookup, leaf, inspector.maxDepth⟩ known
      List.nodup_nil (by simp)

end Inspector

/-! ## The account of a session -/

namespace Session

variable {session : Session} {misses : Nat}

/-- Every inspector has a cache, the caches hold readings, and what was looked up has been read or
was missing for so many requests. -/
structure Balanced (session : Session) (misses : Nat) : Prop where
  seated : ∀ seat ∈ session.seats, seat.cache < session.caches.size
  readings : ∀ cache ∈ session.caches, cache.HoldsReadings
  balance : session.fetches = (session.caches.toList.map ParseCache.asked).sum + misses

/-- Nothing has been looked up in the session, and every inspector has a cache. -/
structure IsNew (session : Session) : Prop where
  fetches : session.fetches = 0
  caches : ∀ cache ∈ session.caches, cache = .empty
  seated : ∀ seat ∈ session.seats, seat.cache < session.caches.size

/-- The answers to steps at the given places, one after another. -/
def results (session : Session) : List (Nat × SessionStep) → List SessionResult
  | [] => []
  | (place, step) :: steps =>
    match session.step? place step with
    | some (result, next) => result :: next.results steps
    | none => session.results steps

/-- A new intake in the place of a cache. -/
theorem sum_asked_set {caches : List ParseCache} {place : Nat} {old : ParseCache}
    (found : caches[place]? = some old) (new : ParseCache) :
    ((caches.set place new).map ParseCache.asked).sum + old.asked =
      (caches.map ParseCache.asked).sum + new.asked := by
  induction caches generalizing place with
  | nil => cases found
  | cons cache caches ih =>
      cases place with
      | zero =>
          cases found
          simp only [List.set_cons_zero, List.map_cons, List.sum_cons]
          omega
      | succ place =>
          have rest := ih found
          simp only [List.set_cons_succ, List.map_cons, List.sum_cons]
          omega

theorem IsNew.balanced (isNew : session.IsNew) : session.Balanced 0 where
  seated := isNew.seated
  readings cache member := by
    rw [isNew.caches cache member]
    exact ParseCache.holdsReadings_empty
  balance := by
    have unasked : ∀ asked ∈ session.caches.toList.map ParseCache.asked, asked = 0 := by
      intro asked member
      obtain ⟨cache, isCache, rfl⟩ := List.mem_map.mp member
      rw [isNew.caches cache (Array.mem_toList_iff.mp isCache)]
      rfl
    rw [isNew.fetches, List.sum_eq_zero unasked]

namespace Balanced

variable {place : Nat} {seat : Seat}

theorem getElem?_caches (balanced : session.Balanced misses) (seated : seat ∈ session.seats) :
    session.caches[seat.cache]? = some (session.cache seat) := by
  have inside := balanced.seated seat seated
  rw [cache, Array.getElem?_eq_getElem inside]
  rfl

theorem holdsReadings (balanced : session.Balanced misses) (seated : seat ∈ session.seats) :
    (session.intake seat).parses.HoldsReadings :=
  balanced.readings _ (Array.mem_of_getElem? (balanced.getElem?_caches seated))

/-- A session takes over the account of a request. -/
theorem settle (balanced : session.Balanced misses) (place : Nat) (seated : seat ∈ session.seats)
    (inspector : Inspector) {after : Intake} {more : Nat}
    (accounts : (session.intake seat).Accounts after more) :
    (session.settle place seat inspector after).Balanced (misses + more) := by
  have inside := balanced.seated seat seated
  constructor
  · intro other member
    simp only [Session.settle, Array.size_setIfInBounds] at member ⊢
    rcases Array.mem_or_eq_of_mem_setIfInBounds member with old | rfl
    · exact balanced.seated other old
    · exact inside
  · intro cache member
    rcases Array.mem_or_eq_of_mem_setIfInBounds member with old | rfl
    · exact balanced.readings cache old
    · exact accounts.readings
  · have found := balanced.getElem?_caches seated
    rw [← Array.getElem?_toList] at found
    have sums := sum_asked_set found after.parses
    have asked := accounts.balance
    have before := balanced.balance
    simp only [Session.settle, Array.toList_setIfInBounds, intake] at sums asked ⊢
    omega

/-- A step keeps the account, with the requests that it has missed. -/
theorem stepAt (balanced : session.Balanced misses) (place : Nat) (seated : seat ∈ session.seats)
    (step : SessionStep) :
    (session.stepAt place seat step).2.Balanced
      (misses + (session.stepAt place seat step).1.missed) := by
  have readings := balanced.holdsReadings seated
  cases step with
  | insert name text => exact ⟨balanced.seated, balanced.readings, balanced.balance⟩
  | remove name => exact ⟨balanced.seated, balanced.readings, balanced.balance⟩
  | cancel => exact balanced.settle place seated _ (Intake.Accounts.refl readings)
  | invalidate name =>
      -- the session is the one that takes over the cache without a record
      have invalidated : (session.intake seat).Accounts
          ⟨session.fetches, (session.cache seat).invalidate name⟩ 0 :=
        ⟨rfl, fun record member => readings record (ParseCache.mem_records_invalidate member)⟩
      have settled := balanced.settle place seated seat.inspector invalidated
      refine ⟨?_, settled.readings, settled.balance⟩
      intro other member
      simpa [Session.stepAt] using balanced.seated other member
  | resolve leaf => exact balanced.settle place seated _ (Inspector.resolve_accounts readings leaf)
  | introspect leaf =>
      exact balanced.settle place seated _ (Inspector.introspect_accounts readings leaf)
  | introspectAll leaves =>
      exact balanced.settle place seated _ (Inspector.introspectAll_accounts readings leaves)
  | validate leaf content =>
      exact balanced.settle place seated _ (Inspector.validate_accounts readings leaf content)

theorem after (balanced : session.Balanced misses) (steps : List (Nat × SessionStep)) :
    (session.after steps).Balanced
      (misses + ((session.results steps).map SessionResult.missed).sum) := by
  induction steps generalizing session misses with
  | nil => exact balanced
  | cons first steps ih =>
      obtain ⟨place, step⟩ := first
      rw [after_cons]
      cases found : session.seats[place]? with
      | none =>
          have noStep : session.step? place step = none := by rw [step?, found, Option.map_none]
          rw [after_of_unseated found]
          simp only [results, noStep]
          exact ih balanced
      | some seat =>
          have made : session.step? place step = some (session.stepAt place seat step) := by
            rw [step?, found, Option.map_some]
          rw [after_of_seated found]
          simp only [results, made, List.map_cons, List.sum_cons, ← Nat.add_assoc]
          exact ih (balanced.stepAt place (Array.mem_of_getElem? found) step)

end Balanced

theorem isNew_addSeat (isNew : session.IsNew) (filled : 0 < session.caches.size)
    (plan : SeatPlan) : (session.addSeat plan).IsNew ∧ 0 < (session.addSeat plan).caches.size := by
  unfold addSeat
  split
  · refine ⟨⟨isNew.fetches, ?_, ?_⟩, by simp⟩
    · intro cache member
      rcases Array.mem_push.mp member with old | rfl
      · exact isNew.caches cache old
      · rfl
    · intro seat member
      rw [Array.size_push]
      rcases Array.mem_push.mp member with old | rfl
      · exact Nat.lt_succ_of_lt (isNew.seated seat old)
      · exact Nat.lt_succ_self _
  · refine ⟨⟨isNew.fetches, isNew.caches, ?_⟩, filled⟩
    intro seat member
    rcases Array.mem_push.mp member with old | rfl
    · exact isNew.seated seat old
    · exact filled

/-- A session starts new, whatever inspectors it has. -/
theorem start_isNew (library : Library) (plans : List SeatPlan) :
    (start library plans).IsNew := by
  have initial : (⟨library, 0, #[.empty], #[]⟩ : Session).IsNew := by
    refine ⟨rfl, ?_, by simp⟩
    intro cache member
    exact List.mem_singleton.mp (Array.mem_toList_iff.mpr member)
  have filled : 0 < (⟨library, 0, #[.empty], #[]⟩ : Session).caches.size := Nat.zero_lt_one
  unfold start
  generalize (⟨library, 0, #[.empty], #[]⟩ : Session) = session at initial filled
  induction plans generalizing session with
  | nil => exact initial
  | cons plan plans ih =>
      have added := isNew_addSeat initial filled plan
      exact ih _ added.1 added.2

/-- In every state that a session reaches, the look-ups are as many as the readings that all caches
together have made and found, and the requests that ended because a template was missing.  A request
for one leaf that is made then, by whichever inspector and whatever has been looked up and read
before, looks up one name more than there are templates at most, and no more than the inspector may
visit. -/
theorem fetches_after (isNew : session.IsNew) (steps : List (Nat × SessionStep)) :
    (session.after steps).fetches =
        ((session.after steps).caches.toList.map fun cache => cache.parses + cache.hits).sum +
          ((session.results steps).map SessionResult.missed).sum ∧
      ∀ (inspector : Inspector) (intake : Intake) (leaf : String),
        let lookup := (session.after steps).library.lookup
        let most := intake.fetches + min inspector.maxDepth ((session.after steps).library.size + 1)
        (inspector.resolve lookup leaf intake).2.fetches ≤ most ∧
          (inspector.introspect lookup leaf intake).intake.fetches ≤ most ∧
            ∀ content, (inspector.validate lookup leaf content intake).intake.fetches ≤ most := by
  constructor
  · have balanced := (isNew.balanced.after steps).balance
    rwa [Nat.zero_add] at balanced
  · intro inspector intake leaf lookup most
    have resolved : (inspector.resolve lookup leaf intake).2.fetches ≤ most :=
      inspector.resolve_fetches_le _ leaf intake
    have introspected : (inspector.introspect lookup leaf intake).intake.fetches ≤ most := by
      rw [Inspector.introspect_intake]
      exact resolved
    exact ⟨resolved, introspected, fun content => introspected⟩

/-- A cycle, a missing parent that ends one of two requests, and a text that cannot be read and is
asked for twice.  The second inspector may visit as many templates as it likes. -/
theorem fetches_after_cycle :
    let library := Library.ofList [("a", Sample.extendsTag "b"), ("b", Sample.extendsTag "a"),
      ("orphan", Sample.extendsTag "ghost")]
    let session := start library [⟨16, false⟩, ⟨2 ^ 64 - 1, true⟩]
    let steps := [(0, SessionStep.resolve "a"), (1, .introspectAll ["orphan", "a"]),
      (0, .invalidate "b"), (0, .insert "a" "\x7b\x7b"), (1, .validate "a" none),
      (1, .validate "a" none)]
    session.IsNew ∧ ((session.results steps).map SessionResult.missed).sum = 1 ∧
      (session.after steps).caches.toList.map (fun cache => (cache.parses, cache.hits)) =
        [(2, 0), (4, 1)] ∧
      (session.after steps).fetches = 8 ∧
      ((Inspector.fresh (2 ^ 64 - 1)).resolve (session.after steps).library.lookup "b"
        .empty).2.fetches ≤ 0 + min (2 ^ 64 - 1) ((session.after steps).library.size + 1) := by
  intro library session steps
  have isNew : session.IsNew := start_isNew _ _
  have missed : ((session.results steps).map SessionResult.missed).sum = 1 := by decide +kernel
  have asked : (session.after steps).caches.toList.map (fun cache =>
      (cache.parses, cache.hits)) = [(2, 0), (4, 1)] := by decide +kernel
  obtain ⟨fetches, bounded⟩ := fetches_after isNew steps
  have sums := congrArg (fun counts => (counts.map fun count => count.1 + count.2).sum) asked
  rw [List.map_map] at sums
  refine ⟨isNew, missed, asked, ?_, (bounded (.fresh (2 ^ 64 - 1)) .empty "b").1⟩
  rw [fetches, missed]
  exact congrArg (· + 1) sums

end Session

end Lineage
