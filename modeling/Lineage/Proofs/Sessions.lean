import Lineage.Proofs.Reports
import Lineage.Session

/-!
# Sessions as if there were no cache

In a session of any length the answer to each request is the one that an inspector with the same
settings would give that has just been made and has a cache of its own
(`Session.reply_eq_fresh`).  What carries the argument is an invariant of the session: its caches
hold readings of, and reports on, texts that have been in use at some time.  A step may add a text,
and keeps the invariant for the longer list of texts (`Session.Faithful.stepAt`).
-/

namespace Lineage

/-! ## Requests and their answers -/

/-- What a request answers, apart from which of several equal reports it is. -/
inductive Reply where
  | chain (result : Except Failure Chain)
  | report (result : Except Failure Report)
  | reports (results : List (Except Failure Report))
  | validation (result : Except Failure Validation)

/-- The answer to a request, if the step was one. -/
def SessionResult.reply? : SessionResult → Option Reply
  | .chain result => some (.chain result)
  | .report result => some (.report (result.map (·.report)))
  | .reports results => some (.reports (results.map (·.map (·.report))))
  | .validation result => some (.validation result)
  | _ => none

/-- What a new inspector with the settings of the given one answers, each leaf asked on its own with
an unused cache. -/
def SessionStep.freshReply? (library : Library) (inspector : Inspector) :
    SessionStep → Option Reply
  | .resolve leaf => some (.chain (inspector.renewed.resolve library.lookup leaf .empty).1)
  | .introspect leaf =>
    some (.report ((inspector.renewed.introspect library.lookup leaf .empty).result.map (·.report)))
  | .introspectAll leaves =>
    some (.reports (leaves.map fun leaf =>
      (inspector.renewed.introspect library.lookup leaf .empty).result.map (·.report)))
  | .validate leaf content =>
    some (.validation (inspector.renewed.validate library.lookup leaf content .empty).result)
  | _ => none

/-! ## The texts of a session -/

/-- The texts of the templates. -/
def Library.texts (library : Library) : List String :=
  library.templates.map (·.2.text)

/-- The text that a step brings in. -/
def SessionStep.text? : SessionStep → Option String
  | .insert _ text => some text
  | _ => none

/-- The texts that steps bring in. -/
def insertedTexts (steps : List (Nat × SessionStep)) : List String :=
  steps.filterMap (·.2.text?)

namespace Library

variable {library : Library} {texts : List String}

/-- The library holds some of the texts only. -/
def Within (library : Library) (texts : List String) : Prop :=
  ∀ name source, library.find? name = some source → source.text ∈ texts

theorem within_texts (library : Library) : library.Within library.texts := by
  intro name source found
  obtain ⟨before, after, templates, _⟩ := List.lookup_eq_some_iff.mp found
  simp [texts, templates]

theorem Within.lookup (within : library.Within texts) {name : String} {source : Source}
    (looked : library.lookup name = .ok (some source)) : source.text ∈ texts :=
  within name source (Except.ok.inj looked)

theorem Within.remove (within : library.Within texts) (name : String) :
    (library.remove name).Within texts := by
  intro other source found
  rw [find?_remove] at found
  split at found
  · cases found
  · exact within other source found

theorem Within.insert (within : library.Within texts) (name : String) {text : String}
    (known : text ∈ texts) : (library.insert name text).Within texts := by
  intro other source found
  rw [find?_insert] at found
  split at found
  · rw [← Option.some.inj found]
    exact known
  · exact within other source found

end Library

namespace Session

variable {session : Session} {texts more : List String}

/-- Every cache of the session holds what was made from the texts, and so does the library. -/
structure Faithful (session : Session) (texts : List String) : Prop where
  library : session.library.Within texts
  caches : ∀ cache ∈ session.caches, cache.Faithful texts
  reports : ∀ seat ∈ session.seats, seat.inspector.reports.Faithful texts

/-- Nothing has been asked in the session. -/
structure Unused (session : Session) : Prop where
  caches : ∀ cache ∈ session.caches, cache.records = []
  reports : ∀ seat ∈ session.seats, seat.inspector.reports.records = []

/-- The session after steps at the given places.  A step where there is no inspector does
nothing. -/
def after (session : Session) (steps : List (Nat × SessionStep)) : Session :=
  steps.foldl (fun current (place, step) => ((current.step? place step).map (·.2)).getD current)
    session

theorem after_cons (session : Session) (entry : Nat × SessionStep)
    (steps : List (Nat × SessionStep)) :
    session.after (entry :: steps) = (session.after [entry]).after steps :=
  rfl

theorem after_of_seated {place : Nat} {seat : Seat} (seated : session.seats[place]? = some seat)
    (step : SessionStep) : session.after [(place, step)] = (session.stepAt place seat step).2 := by
  simp [after, step?, seated]

theorem after_of_unseated {place : Nat} (unseated : session.seats[place]? = none)
    (step : SessionStep) : session.after [(place, step)] = session := by
  simp [after, step?, unseated]

theorem Unused.faithful (unused : session.Unused) : session.Faithful session.library.texts where
  library := session.library.within_texts
  caches cache member record recorded := by
    rw [unused.caches cache member] at recorded
    cases recorded
  reports seat member record recorded := by
    rw [unused.reports seat member] at recorded
    cases recorded

theorem unused_addSeat (unused : session.Unused) (plan : SeatPlan) :
    (session.addSeat plan).Unused := by
  unfold addSeat
  split
  · constructor
    · intro cache member
      rcases Array.mem_push.mp member with old | rfl
      · exact unused.caches cache old
      · rfl
    · intro seat member
      rcases Array.mem_push.mp member with old | rfl
      · exact unused.reports seat old
      · rfl
  · constructor
    · exact unused.caches
    · intro seat member
      rcases Array.mem_push.mp member with old | rfl
      · exact unused.reports seat old
      · rfl

/-- A session starts unused, whatever inspectors it has and however they share caches. -/
theorem start_unused (library : Library) (plans : List SeatPlan) :
    (start library plans).Unused := by
  have initial : (⟨library, 0, #[.empty], #[]⟩ : Session).Unused := by
    constructor
    · intro cache member
      rw [List.mem_singleton.mp (Array.mem_toList_iff.mpr member)]
      rfl
    · intro seat member
      simp at member
  unfold start
  generalize (⟨library, 0, #[.empty], #[]⟩ : Session) = session at initial
  induction plans generalizing session with
  | nil => exact initial
  | cons plan plans ih => exact ih _ (unused_addSeat initial plan)

theorem Faithful.mono (faithful : session.Faithful texts) (subset : texts ⊆ more) :
    session.Faithful more where
  library name source found := subset (faithful.library name source found)
  caches cache member := (faithful.caches cache member).mono subset
  reports seat member := (faithful.reports seat member).mono subset

/-- The inspector at a place finds faithful caches. -/
theorem Faithful.seat (faithful : session.Faithful texts) {seat : Seat}
    (seated : seat ∈ session.seats) : seat.inspector.Faithful (session.intake seat) texts where
  reports := faithful.reports seat seated
  parses := by
    change (session.cache seat).Faithful texts
    unfold cache
    cases found : session.caches[seat.cache]? with
    | none => exact ParseCache.faithful_empty texts
    | some cache => exact faithful.caches cache (Array.mem_of_getElem? found)

/-- What a request leaves behind is taken over. -/
theorem Faithful.settle (faithful : session.Faithful texts) (place : Nat) (seat : Seat)
    {inspector : Inspector} {intake : Intake} (kept : inspector.Faithful intake texts) :
    (session.settle place seat inspector intake).Faithful texts where
  library := faithful.library
  caches cache member := by
    rcases Array.mem_or_eq_of_mem_setIfInBounds member with old | rfl
    · exact faithful.caches cache old
    · exact kept.parses
  reports other member := by
    rcases Array.mem_or_eq_of_mem_setIfInBounds member with old | rfl
    · exact faithful.reports other old
    · exact kept.reports

/-! ## One step -/

/-- A step keeps the invariant for the texts with the one that it brings in. -/
theorem Faithful.stepAt (faithful : session.Faithful texts) {place : Nat} {seat : Seat}
    (seated : seat ∈ session.seats) {step : SessionStep}
    (distinct : Distinguishable (texts ++ step.text?.toList)) :
    (session.stepAt place seat step).2.Faithful (texts ++ step.text?.toList) := by
  have wider : session.Faithful (texts ++ step.text?.toList) :=
    faithful.mono (List.subset_append_left _ _)
  have used := wider.seat seated
  have known : ∀ name source, session.library.lookup name = .ok (some source) →
      source.text ∈ texts ++ step.text?.toList := fun _ _ looked => wider.library.lookup looked
  cases step with
  | insert name text =>
      exact ⟨wider.library.insert name (by simp [SessionStep.text?]), wider.caches, wider.reports⟩
  | remove name => exact ⟨wider.library.remove name, wider.caches, wider.reports⟩
  | cancel => exact wider.settle place seat ⟨used.reports, used.parses⟩
  | invalidate name =>
      refine ⟨wider.library, ?_, wider.reports⟩
      intro cache member
      rcases Array.mem_or_eq_of_mem_setIfInBounds member with old | rfl
      · exact wider.caches cache old
      · exact used.parses.invalidate name
  | resolve leaf =>
      apply wider.settle place seat
      exact ⟨used.reports, Inspector.resolve_parses used.parses known leaf⟩
  | introspect leaf =>
      exact wider.settle place seat (Inspector.introspect_after used distinct known leaf).1
  | introspectAll leaves =>
      exact wider.settle place seat (Inspector.introspectAll_reports distinct known used leaves).2.1
  | validate leaf content =>
      exact wider.settle place seat (Inspector.introspect_after used distinct known leaf).1

/-- The answer to a step is that of a new inspector. -/
theorem Faithful.stepAt_reply? (faithful : session.Faithful texts) (place : Nat) {seat : Seat}
    (seated : seat ∈ session.seats) (distinct : Distinguishable texts) (step : SessionStep) :
    (session.stepAt place seat step).1.reply? =
      step.freshReply? session.library seat.inspector := by
  have used := faithful.seat seated
  have new := seat.inspector.faithful_renewed texts
  have known : ∀ name source, session.library.lookup name = .ok (some source) →
      source.text ∈ texts := fun _ _ looked => faithful.library.lookup looked
  cases step with
  | insert | remove | cancel | invalidate => rfl
  | resolve leaf =>
      have cached := Inspector.resolve_chain used distinct known leaf
      have fresh := Inspector.resolve_chain new distinct known leaf
      exact congrArg (fun result => some (Reply.chain result)) (cached.trans fresh.symm)
  | introspect leaf =>
      have cached := Inspector.introspect_report used distinct known leaf
      have fresh := Inspector.introspect_report new distinct known leaf
      exact congrArg (fun result => some (Reply.report result)) (cached.trans fresh.symm)
  | introspectAll leaves =>
      have cached := (Inspector.introspectAll_reports distinct known used leaves).1
      have fresh : (leaves.map fun leaf => (seat.inspector.renewed.introspect
          session.library.lookup leaf .empty).result.map (·.report)) =
            leaves.map (seat.inspector.renewed.reportOn session.library.lookup) :=
        List.map_congr_left fun leaf _ => Inspector.introspect_report new distinct known leaf
      exact congrArg (fun results => some (Reply.reports results)) (cached.trans fresh.symm)
  | validate leaf content =>
      have cached := Inspector.validate_result used distinct known leaf content
      have fresh := Inspector.validate_result new distinct known leaf content
      exact congrArg (fun result => some (Reply.validation result)) (cached.trans fresh.symm)

/-! ## Any number of steps -/

/-- The invariant holds after any steps, for the texts with all those that the steps bring in. -/
theorem Faithful.after (faithful : session.Faithful texts) {steps : List (Nat × SessionStep)}
    (distinct : Distinguishable (texts ++ insertedTexts steps)) :
    (session.after steps).Faithful (texts ++ insertedTexts steps) := by
  induction steps generalizing session texts with
  | nil => exact faithful.mono (List.subset_append_left _ _)
  | cons entry steps ih =>
      obtain ⟨place, step⟩ := entry
      have split : texts ++ insertedTexts ((place, step) :: steps) =
          (texts ++ step.text?.toList) ++ insertedTexts steps := by
        cases text : step.text? <;> simp [insertedTexts, text]
      rw [split] at distinct ⊢
      rw [after_cons]
      apply ih _ distinct
      cases found : session.seats[place]? with
      | none =>
          rw [after_of_unseated found]
          exact faithful.mono (List.subset_append_left _ _)
      | some seat =>
          rw [after_of_seated found]
          apply faithful.stepAt (Array.mem_of_getElem? found)
          exact distinct.mono (List.subset_append_left _ _)

/-- After any steps of a session, the answer to a request is the value or the failure that a new
inspector with unused caches, the same greatest depth and the same cancellation state gives for the
present templates.  The session may begin with any inspectors that share caches in any way.  No two
different texts that are used in it may have the same identity. -/
theorem reply_eq_fresh (session : Session) (unused : session.Unused)
    (steps : List (Nat × SessionStep))
    (distinct : Distinguishable (session.library.texts ++ insertedTexts steps))
    (place : Nat) (step : SessionStep) :
    ((session.after steps).step? place step).map (·.1.reply?) =
      (session.after steps).seats[place]?.map fun seat =>
        step.freshReply? (session.after steps).library seat.inspector := by
  have faithful := unused.faithful.after distinct
  cases found : (session.after steps).seats[place]? with
  | none => simp [step?, found]
  | some seat =>
      simp only [step?, found, Option.map_some]
      rw [faithful.stepAt_reply? place (Array.mem_of_getElem? found) distinct]

/-- Two inspectors share a cache, and a text changes between their requests. -/
theorem reply_after_edit :
    let library := Library.ofList
      [("root", Sample.output "one"), ("leaf", Sample.extendsTag "root")]
    let session := start library [⟨16, false⟩, ⟨1, false⟩, ⟨16, true⟩]
    let steps := [(0, SessionStep.introspect "leaf"),
      (1, .insert "root" (Sample.output "two")),
      (1, .resolve "root"), (2, .cancel)]
    session.Unused ∧ Distinguishable (session.library.texts ++ insertedTexts steps) ∧
      ((session.after steps).step? 0 (.introspect "leaf")).map (·.1.reply?) =
        (session.after steps).seats[0]?.map fun seat =>
          SessionStep.freshReply? (session.after steps).library seat.inspector
            (.introspect "leaf") := by
  intro library session steps
  have unused : session.Unused := start_unused _ _
  have distinct : Distinguishable (session.library.texts ++ insertedTexts steps) := by
    unfold Distinguishable
    decide +kernel
  exact ⟨unused, distinct, reply_eq_fresh session unused steps distinct 0 (.introspect "leaf")⟩

end Session

end Lineage
