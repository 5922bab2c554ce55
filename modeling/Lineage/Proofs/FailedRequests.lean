import Lineage.Proofs.KeptReports

/-!
# Requests that fail

A step changes the inspector that it concerns (`Session.inspectorAfter`), and all others stay as
they were (`Session.seats_stepAt`).  A request that fails leaves its inspector as it was too, so of
the whole session it changes the cache that the inspector uses and the number of look-ups at most.

An inspector that was cancelled stays so (`Session.IsCancelled.after`).  Its requests look up
nothing, and nothing in the session changes.  What it would have looked up and read otherwise has no
part in the answers of the others: two sessions that differ at its place, and in what is cached,
keep to the same templates and the same inspectors elsewhere (`Session.AgreeBut`).
-/

namespace Lineage

/-! ## Failures -/

/-- The failure of a request for one leaf. -/
def SessionResult.failure? : SessionResult → Option Failure
  | .chain (.error failure) | .report (.error failure) | .validation (.error failure) =>
    some failure
  | _ => none

/-- What a cancelled inspector answers to a request. -/
def SessionStep.refusal? : SessionStep → Option SessionResult
  | .resolve leaf => some (.chain (.error (.cancelled leaf)))
  | .introspect leaf => some (.report (.error (.cancelled leaf)))
  | .introspectAll leaves => some (.reports (leaves.map fun leaf => .error (.cancelled leaf)))
  | .validate leaf _ => some (.validation (.error (.cancelled leaf)))
  | _ => none

namespace Inspector

variable {inspector : Inspector} {lookup : Lookup} {intake other : Intake} {leaf : String}

/-- A request for a report that fails leaves the inspector as it was. -/
theorem introspect_inspector_of_error {failure : Failure}
    (failed : (inspector.introspect lookup leaf intake).result = .error failure) :
    (inspector.introspect lookup leaf intake).inspector = inspector := by
  rcases inspector.introspect_cases lookup leaf intake with
    ⟨_, _, answered⟩ | ⟨_, _, ⟨_, _, answered⟩ | ⟨_, _, _, answered⟩⟩
  · rw [answered]
  · rw [answered]
  · rw [answered] at failed
    cases failed

/-- The chain alone decides on the report and on the reports that are kept. -/
theorem introspect_congr
    (same : (inspector.resolve lookup leaf intake).1 = (inspector.resolve lookup leaf other).1) :
    (inspector.introspect lookup leaf intake).result =
        (inspector.introspect lookup leaf other).result ∧
      (inspector.introspect lookup leaf intake).inspector =
        (inspector.introspect lookup leaf other).inspector := by
  unfold introspect
  generalize inspector.resolve lookup leaf intake = resolved at same ⊢
  generalize inspector.resolve lookup leaf other = resolved' at same ⊢
  obtain ⟨result, _⟩ := resolved
  obtain ⟨_, _⟩ := resolved'
  subst same
  cases result with
  | error failure => exact ⟨rfl, rfl⟩
  | ok chain => cases analyzed : inspector.analyze chain <;> simp [analyzed]

section Cancelled

variable (cancelled : inspector.cancelled = true)

include cancelled

theorem resolve_of_cancelled :
    inspector.resolve lookup leaf intake = (.error (.cancelled leaf), intake) := by
  rw [resolve, if_pos cancelled]

theorem introspect_of_cancelled :
    inspector.introspect lookup leaf intake = ⟨.error (.cancelled leaf), inspector, intake⟩ := by
  rw [introspect, resolve_of_cancelled cancelled]

theorem introspectAll_of_cancelled (leaves : List String) :
    inspector.introspectAll lookup intake leaves =
      ⟨leaves.map fun leaf => .error (.cancelled leaf), inspector, intake⟩ := by
  induction leaves with
  | nil => rfl
  | cons leaf leaves ih =>
      rw [introspectAll, introspect_of_cancelled cancelled]
      dsimp only
      rw [ih, List.map_cons]

end Cancelled

/-- What faithful caches hold has no part in the reports on several leaves, and none in the reports
that are kept. -/
theorem introspectAll_congr {texts : List String} (distinct : Distinguishable texts)
    (known : ∀ name source, lookup name = .ok (some source) → source.text ∈ texts)
    (faithful : inspector.Faithful intake texts) (faithful' : inspector.Faithful other texts)
    (leaves : List String) :
    (inspector.introspectAll lookup intake leaves).results =
        (inspector.introspectAll lookup other leaves).results ∧
      (inspector.introspectAll lookup intake leaves).inspector =
        (inspector.introspectAll lookup other leaves).inspector := by
  induction leaves generalizing inspector intake other with
  | nil => exact ⟨rfl, rfl⟩
  | cons leaf leaves ih =>
      have chains := (resolve_chain faithful distinct known leaf).trans
        (resolve_chain faithful' distinct known leaf).symm
      obtain ⟨results, inspectors⟩ := introspect_congr chains
      have after := (introspect_after faithful distinct known leaf).1
      have after' := (introspect_after faithful' distinct known leaf).1
      rw [inspectors] at after
      obtain ⟨further, last⟩ := ih after after'
      simp only [introspectAll, results, inspectors, further, last, and_self]

end Inspector

/-! ## What a step changes -/

namespace Session

variable {session first second : Session} {place other : Nat} {seat : Seat} {step : SessionStep}

/-- What a step makes of the inspector that it concerns. -/
def inspectorAfter (session : Session) (seat : Seat) : SessionStep → Inspector
  | .cancel => seat.inspector.cancel
  | .introspect leaf | .validate leaf _ =>
    (seat.inspector.introspect session.library.lookup leaf (session.intake seat)).inspector
  | .introspectAll leaves =>
    (seat.inspector.introspectAll session.library.lookup (session.intake seat) leaves).inspector
  | _ => seat.inspector

theorem setIfInBounds_of_getElem? {α : Type} {entries : Array α} {entry : α}
    (found : entries[place]? = some entry) : entries.setIfInBounds place entry = entries := by
  obtain ⟨inside, rfl⟩ := Array.getElem?_eq_some_iff.mp found
  rw [Array.setIfInBounds, dif_pos inside, Array.set_getElem_self]

/-- A step changes one inspector. -/
theorem seats_stepAt (seated : session.seats[place]? = some seat) (step : SessionStep) :
    (session.stepAt place seat step).2.seats = session.seats.setIfInBounds place
      { seat with inspector := session.inspectorAfter seat step } := by
  cases step with
  | insert | remove | invalidate => exact (setIfInBounds_of_getElem? seated).symm
  | cancel | resolve | introspect | introspectAll | validate => rfl

/-- A step changes one cache. -/
theorem getElem?_caches_stepAt (elsewhere : other ≠ seat.cache) (place : Nat) (step : SessionStep) :
    (session.stepAt place seat step).2.caches[other]? = session.caches[other]? := by
  cases step with
  | insert | remove => rfl
  | cancel | invalidate | resolve | introspect | introspectAll | validate =>
      exact Array.getElem?_setIfInBounds_ne elsewhere.symm

/-- The inspectors have no part in what a step makes of the templates. -/
theorem library_stepAt (same : first.library = second.library) (place : Nat) (seat seat' : Seat)
    (step : SessionStep) :
    (first.stepAt place seat step).2.library = (second.stepAt place seat' step).2.library := by
  cases step with
  | insert name text => exact congrArg (·.insert name text) same
  | remove name => exact congrArg (·.remove name) same
  | cancel | invalidate | resolve | introspect | introspectAll | validate => exact same

/-- A request that fails leaves its inspector and the templates as they were. -/
theorem inspectorAfter_of_failure {failure : Failure}
    (failed : (session.stepAt place seat step).1.failure? = some failure) :
    session.inspectorAfter seat step = seat.inspector ∧
      (session.stepAt place seat step).2.library = session.library := by
  have ofReport : ∀ leaf, (SessionResult.report (seat.inspector.introspect session.library.lookup
      leaf (session.intake seat)).result).failure? = some failure →
        session.inspectorAfter seat (.introspect leaf) = seat.inspector := by
    intro leaf failed
    cases result : (seat.inspector.introspect session.library.lookup leaf
        (session.intake seat)).result with
    | error failure => exact Inspector.introspect_inspector_of_error result
    | ok record =>
        rw [result] at failed
        cases failed
  cases step with
  | insert | remove | cancel | invalidate | introspectAll => cases failed
  | resolve => exact ⟨rfl, rfl⟩
  | introspect leaf => exact ⟨ofReport leaf failed, rfl⟩
  | validate leaf content =>
      -- the evaluation of the rules fails as the request for the report does
      refine ⟨ofReport leaf ?_, rfl⟩
      rw [← failed, stepAt, Inspector.validate]
      cases (seat.inspector.introspect session.library.lookup leaf (session.intake seat)).result <;>
        rfl

/-! ## Cancelled inspectors -/

theorem settle_self (seated : session.seats[place]? = some seat) :
    session.settle place seat seat.inspector (session.intake seat) = session := by
  have caches : session.caches.setIfInBounds seat.cache (session.cache seat) = session.caches := by
    unfold cache
    cases found : session.caches[seat.cache]? with
    | none => exact Array.setIfInBounds_eq_of_size_le (Array.getElem?_eq_none_iff.mp found)
    | some cache => exact setIfInBounds_of_getElem? found
  have seats : session.seats.setIfInBounds place { seat with inspector := seat.inspector } =
      session.seats := setIfInBounds_of_getElem? seated
  rw [settle, seats]
  simp only [intake, caches]

theorem stepAt_of_cancelled (seated : session.seats[place]? = some seat)
    (cancelled : seat.inspector.cancelled = true) {refusal : SessionResult}
    (request : step.refusal? = some refusal) :
    session.stepAt place seat step = (refusal, session) := by
  cases step with
  | insert | remove | cancel | invalidate => cases request
  | resolve | introspect | introspectAll | validate =>
      cases request
      simp only [stepAt, Inspector.validate, Inspector.resolve_of_cancelled cancelled,
        Inspector.introspect_of_cancelled cancelled, Inspector.introspectAll_of_cancelled cancelled,
        settle_self seated, Except.map]

/-- There is an inspector at the place, and it was cancelled. -/
def IsCancelled (session : Session) (place : Nat) : Prop :=
  ∃ seat, session.seats[place]? = some seat ∧ seat.inspector.cancelled = true

/-- A cancellation looks up nothing and reads nothing. -/
theorem caches_after_cancel (seated : session.seats[place]? = some seat) :
    (session.after [(place, .cancel)]).fetches = session.fetches ∧
      (session.after [(place, .cancel)]).caches = session.caches := by
  have caches := congrArg Session.caches (settle_self seated)
  rw [after_of_seated seated]
  exact ⟨rfl, caches⟩

theorem Faithful.after_cancel {texts : List String} (faithful : session.Faithful texts)
    (seated : session.seats[place]? = some seat) :
    (session.after [(place, .cancel)]).Faithful texts := by
  have used := faithful.seat (Array.mem_of_getElem? seated)
  rw [after_of_seated seated]
  exact faithful.settle place seat ⟨used.reports, used.parses⟩

/-- A step at one place leaves the inspector at another one as it was. -/
theorem getElem?_seats_after_step (elsewhere : other ≠ place) (step : SessionStep) :
    (session.after [(other, step)]).seats[place]? = session.seats[place]? := by
  cases found : session.seats[other]? with
  | none => rw [after_of_unseated found]
  | some seat => rw [after_of_seated found, getElem?_seats_stepAt elsewhere]

/-- What a step makes of the inspector that it concerns stands at its place. -/
theorem getElem?_seats_stepAt_self (seated : session.seats[place]? = some seat)
    (step : SessionStep) : (session.stepAt place seat step).2.seats[place]? =
      some { seat with inspector := session.inspectorAfter seat step } := by
  obtain ⟨inside, _⟩ := Array.getElem?_eq_some_iff.mp seated
  rw [seats_stepAt seated]
  exact Array.getElem?_setIfInBounds_self_of_lt inside

theorem isCancelled_after_cancel (seated : session.seats[place]? = some seat) :
    (session.after [(place, .cancel)]).IsCancelled place := by
  rw [after_of_seated seated]
  exact ⟨_, getElem?_seats_stepAt_self seated .cancel, rfl⟩

theorem cancelled_inspectorAfter (cancelled : seat.inspector.cancelled = true)
    (step : SessionStep) : (session.inspectorAfter seat step).cancelled = true := by
  cases step with
  | insert | remove | invalidate | resolve => exact cancelled
  | cancel => rfl
  | introspect | validate =>
      rw [inspectorAfter, Inspector.introspect_of_cancelled cancelled]
      exact cancelled
  | introspectAll leaves =>
      rw [inspectorAfter, Inspector.introspectAll_of_cancelled cancelled]
      exact cancelled

/-- No step takes a cancellation back. -/
theorem IsCancelled.after (cancelled : session.IsCancelled place)
    (steps : List (Nat × SessionStep)) : (session.after steps).IsCancelled place := by
  induction steps generalizing session with
  | nil => exact cancelled
  | cons entry steps ih =>
      obtain ⟨other, step⟩ := entry
      obtain ⟨seat, seated, isCancelled⟩ := cancelled
      rw [after_cons]
      apply ih
      by_cases here : other = place
      · subst here
        rw [after_of_seated seated]
        exact ⟨_, getElem?_seats_stepAt_self seated step, cancelled_inspectorAfter isCancelled step⟩
      · refine ⟨seat, ?_, isCancelled⟩
        rw [getElem?_seats_after_step here, seated]

/-- A cancelled inspector refuses a request, and nothing changes. -/
theorem step?_of_isCancelled (cancelled : session.IsCancelled place) {refusal : SessionResult}
    (request : step.refusal? = some refusal) :
    session.step? place step = some (refusal, session) := by
  obtain ⟨seat, seated, isCancelled⟩ := cancelled
  rw [step?, seated, Option.map_some, stepAt_of_cancelled seated isCancelled request]

/-! ## The other inspectors -/

/-- The sessions have the same templates, and the same inspectors except at the place. -/
structure AgreeBut (place : Nat) (first second : Session) : Prop where
  library : first.library = second.library
  size : first.seats.size = second.seats.size
  seats : ∀ other, other ≠ place → first.seats[other]? = second.seats[other]?

namespace AgreeBut

/-- Before and after a cancellation. -/
theorem after_cancel (seated : session.seats[place]? = some seat) :
    AgreeBut place (session.after [(place, .cancel)]) session := by
  rw [after_of_seated seated]
  refine ⟨rfl, ?_, ?_⟩
  · rw [seats_stepAt seated, Array.size_setIfInBounds]
  · intro other elsewhere
    exact getElem?_seats_stepAt elsewhere.symm seat .cancel

/-- Sessions go on to agree if the same is made in both of the inspector that a step concerns.  What
is made of the one at the place has no part in that. -/
theorem after_step (agree : AgreeBut place first second) (other : Nat) (step : SessionStep)
    (same : ∀ seat, other ≠ place → first.seats[other]? = some seat →
      first.inspectorAfter seat step = second.inspectorAfter seat step) :
    AgreeBut place (first.after [(other, step)]) (second.after [(other, step)]) := by
  cases found : first.seats[other]? with
  | none =>
      have beyond : second.seats[other]? = none := by
        rw [Array.getElem?_eq_none_iff] at found ⊢
        rwa [← agree.size]
      rwa [after_of_unseated found, after_of_unseated beyond]
  | some seat =>
      obtain ⟨inside, _⟩ := Array.getElem?_eq_some_iff.mp found
      rw [agree.size] at inside
      have found' : second.seats[other]? = some second.seats[other] :=
        Array.getElem?_eq_getElem inside
      rw [after_of_seated found, after_of_seated found']
      refine ⟨library_stepAt agree.library _ _ _ _, ?_, ?_⟩
      · rw [seats_stepAt found, seats_stepAt found', Array.size_setIfInBounds,
          Array.size_setIfInBounds, agree.size]
      · intro another elsewhere
        by_cases here : another = other
        · subst here
          obtain rfl : seat = second.seats[another] := by
            rw [agree.seats another elsewhere, found'] at found
            exact (Option.some.inj found).symm
          rw [getElem?_seats_stepAt_self found, getElem?_seats_stepAt_self found',
            same _ elsewhere found]
        · rw [getElem?_seats_stepAt (Ne.symm here), getElem?_seats_stepAt (Ne.symm here),
            agree.seats another elsewhere]

end AgreeBut

/-- Where no two texts have the same identity, what the caches hold has no part in an answer, and
none in what is made of the inspector. -/
theorem stepAt_congr_of_faithful {texts : List String} (distinct : Distinguishable texts)
    (faithful : first.Faithful texts) (faithful' : second.Faithful texts)
    (same : first.library = second.library) (seated : seat ∈ first.seats)
    (seated' : seat ∈ second.seats) (place : Nat) (step : SessionStep) :
    (first.stepAt place seat step).1 = (second.stepAt place seat step).1 ∧
      first.inspectorAfter seat step = second.inspectorAfter seat step := by
  have used := faithful.seat seated
  have used' := faithful'.seat seated'
  have known : ∀ name source, second.library.lookup name = .ok (some source) →
      source.text ∈ texts := fun _ _ looked => faithful'.library.lookup looked
  have chains : ∀ leaf, (seat.inspector.resolve second.library.lookup leaf (first.intake seat)).1 =
      (seat.inspector.resolve second.library.lookup leaf (second.intake seat)).1 := fun leaf =>
    (Inspector.resolve_chain used distinct known leaf).trans
      (Inspector.resolve_chain used' distinct known leaf).symm
  cases step with
  | insert | cancel | invalidate => exact ⟨rfl, rfl⟩
  | remove name =>
      rw [stepAt, stepAt, same]
      exact ⟨rfl, rfl⟩
  | resolve leaf =>
      rw [stepAt, stepAt, same]
      exact ⟨congrArg SessionResult.chain (chains leaf), rfl⟩
  | introspect leaf =>
      obtain ⟨results, inspectors⟩ := Inspector.introspect_congr (chains leaf)
      rw [stepAt, stepAt, inspectorAfter, inspectorAfter, same]
      exact ⟨congrArg SessionResult.report results, inspectors⟩
  | introspectAll leaves =>
      obtain ⟨results, inspectors⟩ :=
        Inspector.introspectAll_congr distinct known used used' leaves
      rw [stepAt, stepAt, inspectorAfter, inspectorAfter, same]
      exact ⟨congrArg SessionResult.reports results, inspectors⟩
  | validate leaf content =>
      obtain ⟨results, inspectors⟩ := Inspector.introspect_congr (chains leaf)
      rw [stepAt, stepAt, inspectorAfter, inspectorAfter, same]
      refine ⟨?_, inspectors⟩
      simp only [Inspector.validate, results]

/-- Sessions with the same templates and caches give the same answers, and keep to the same
caches. -/
theorem stepAt_congr (library : first.library = second.library)
    (fetches : first.fetches = second.fetches) (caches : first.caches = second.caches)
    (place : Nat) (seat : Seat) (step : SessionStep) :
    (first.stepAt place seat step).1 = (second.stepAt place seat step).1 ∧
      first.inspectorAfter seat step = second.inspectorAfter seat step ∧
      (first.stepAt place seat step).2.fetches = (second.stepAt place seat step).2.fetches ∧
      (first.stepAt place seat step).2.caches = (second.stepAt place seat step).2.caches := by
  obtain ⟨_, _, _, _⟩ := first
  obtain ⟨_, _, _, _⟩ := second
  dsimp only at library fetches caches
  subst library fetches caches
  cases step <;> exact ⟨rfl, rfl, rfl, rfl⟩

namespace AgreeBut

/-- The same is answered if the inspector that is asked answers the same. -/
theorem answer_eq (agree : AgreeBut place first second) (elsewhere : other ≠ place)
    (same : ∀ seat, first.seats[other]? = some seat → second.seats[other]? = some seat →
      (first.stepAt other seat step).1 = (second.stepAt other seat step).1) :
    (first.step? other step).map (·.1) = (second.step? other step).map (·.1) := by
  have seats := agree.seats other elsewhere
  rw [step?, step?, ← seats]
  cases found : first.seats[other]? with
  | none => rfl
  | some seat => exact congrArg some (same seat found (seats.symm.trans found))

theorem answer_of_caches (agree : AgreeBut place first second)
    (fetches : first.fetches = second.fetches) (caches : first.caches = second.caches)
    (elsewhere : other ≠ place) (step : SessionStep) :
    (first.step? other step).map (·.1) = (second.step? other step).map (·.1) :=
  agree.answer_eq elsewhere fun seat _ _ =>
    (stepAt_congr agree.library fetches caches other seat step).1

theorem answer_of_faithful {texts : List String} (agree : AgreeBut place first second)
    (distinct : Distinguishable texts) (faithful : first.Faithful texts)
    (faithful' : second.Faithful texts) (elsewhere : other ≠ place) (step : SessionStep) :
    (first.step? other step).map (·.1) = (second.step? other step).map (·.1) :=
  agree.answer_eq elsewhere fun _ seated seated' =>
    (stepAt_congr_of_faithful distinct faithful faithful' agree.library
      (Array.mem_of_getElem? seated) (Array.mem_of_getElem? seated') other step).1

/-! ## Any number of steps -/

/-- Sessions with the same caches go on to have the same ones, as long as nothing is asked at the
place. -/
theorem after_of_elsewhere (agree : AgreeBut place first second)
    (fetches : first.fetches = second.fetches) (caches : first.caches = second.caches)
    {steps : List (Nat × SessionStep)} (elsewhere : ∀ entry ∈ steps, entry.1 ≠ place) :
    AgreeBut place (first.after steps) (second.after steps) ∧
      (first.after steps).fetches = (second.after steps).fetches ∧
      (first.after steps).caches = (second.after steps).caches := by
  induction steps generalizing first second with
  | nil => exact ⟨agree, fetches, caches⟩
  | cons entry steps ih =>
      obtain ⟨other, step⟩ := entry
      rw [List.forall_mem_cons] at elsewhere
      have congr := fun seat => stepAt_congr agree.library fetches caches other seat step
      have next := agree.after_step other step fun seat _ _ => (congr seat).2.1
      rw [after_cons first, after_cons second]
      cases found : first.seats[other]? with
      | none =>
          have found' := (agree.seats other elsewhere.1).symm.trans found
          rw [after_of_unseated found, after_of_unseated found'] at next ⊢
          exact ih next fetches caches elsewhere.2
      | some seat =>
          have found' := (agree.seats other elsewhere.1).symm.trans found
          rw [after_of_seated found, after_of_seated found'] at next ⊢
          obtain ⟨_, _, fetches', caches'⟩ := congr seat
          exact ih next fetches' caches' elsewhere.2

/-- Whatever is asked at the place, sessions with faithful caches go on to agree. -/
theorem after_of_faithful {texts : List String} (agree : AgreeBut place first second)
    (faithful : first.Faithful texts) (faithful' : second.Faithful texts)
    {steps : List (Nat × SessionStep)} (distinct : Distinguishable (texts ++ insertedTexts steps)) :
    AgreeBut place (first.after steps) (second.after steps) := by
  induction steps generalizing first second texts with
  | nil => exact agree
  | cons entry steps ih =>
      obtain ⟨other, step⟩ := entry
      have split : texts ++ insertedTexts ((other, step) :: steps) =
          (texts ++ insertedTexts [(other, step)]) ++ insertedTexts steps := by
        rw [List.append_assoc, insertedTexts, insertedTexts, insertedTexts, ← List.filterMap_append,
          List.singleton_append]
      rw [split] at distinct
      have now := distinct.mono (List.subset_append_left _ _)
      rw [after_cons first, after_cons second]
      apply ih _ (faithful.after now) (faithful'.after now) distinct
      apply agree.after_step
      intro seat elsewhere seated
      have seated' := (agree.seats other elsewhere).symm.trans seated
      have before := now.mono (List.subset_append_left _ _)
      exact (stepAt_congr_of_faithful before faithful faithful' agree.library
        (Array.mem_of_getElem? seated) (Array.mem_of_getElem? seated') other step).2

end AgreeBut

/-- A request for one leaf that fails changes no template, no inspector (neither the reports that it
keeps nor whether it was cancelled), and no cache but the one that its own inspector uses.

Once an inspector was cancelled it refuses each request, whatever steps come in between.  The
failure names the leaf, and the session stays the very same.  The other inspectors answer as they
would have without the cancellation: in any state, if nothing more is asked of the cancelled one,
and otherwise if the session began without any requests and no two different texts that are used in
it have the same identity. -/
theorem failures_leave_results (session : Session) (earlier : List (Nat × SessionStep))
    (place : Nat) (seat : Seat) (seated : (session.after earlier).seats[place]? = some seat) :
    let current := session.after earlier
    let cancelled := fun later => current.after ((place, .cancel) :: later)
    (∀ step failure, (current.stepAt place seat step).1.failure? = some failure →
      let after := (current.stepAt place seat step).2
      after.library = current.library ∧ after.seats = current.seats ∧
        ∀ other, other ≠ seat.cache → after.caches[other]? = current.caches[other]?) ∧
    (∀ later step refusal, step.refusal? = some refusal →
      (cancelled later).step? place step = some (refusal, cancelled later)) ∧
    ∀ later, ((∀ entry ∈ later, entry.1 ≠ place) ∨ session.Unused ∧
        Distinguishable (session.library.texts ++ insertedTexts (earlier ++ later))) →
      ∀ other, other ≠ place → ∀ step,
        ((cancelled later).step? other step).map (·.1) =
          ((current.after later).step? other step).map (·.1) := by
  intro current cancelled
  refine ⟨?_, ?_, ?_⟩
  · intro step failure failed after
    obtain ⟨inspector, library⟩ := inspectorAfter_of_failure failed
    refine ⟨library, ?_, fun other elsewhere => getElem?_caches_stepAt elsewhere place step⟩
    rw [seats_stepAt seated, inspector]
    exact setIfInBounds_of_getElem? seated
  · intro later step refusal request
    have isCancelled : (cancelled later).IsCancelled place :=
      (isCancelled_after_cancel seated).after later
    exact step?_of_isCancelled isCancelled request
  · intro later ways other elsewhere step
    have agree : AgreeBut place (current.after [(place, .cancel)]) current := .after_cancel seated
    rcases ways with alone | ⟨unused, distinct⟩
    · obtain ⟨fetches, caches⟩ := caches_after_cancel seated
      obtain ⟨agree, fetches, caches⟩ := agree.after_of_elsewhere fetches caches alone
      exact agree.answer_of_caches fetches caches elsewhere step
    · rw [insertedTexts, List.filterMap_append, ← List.append_assoc] at distinct
      have faithful : current.Faithful (session.library.texts ++ insertedTexts earlier) :=
        unused.faithful.after (distinct.mono (List.subset_append_left _ _))
      have faithful' := faithful.after_cancel seated
      have agree := agree.after_of_faithful faithful' faithful distinct
      exact agree.answer_of_faithful distinct (faithful'.after distinct) (faithful.after distinct)
        elsewhere step

/-- Two inspectors share a cache.  The first one has reported on a leaf, fails for another one whose
parent is missing, and is cancelled.  Then the parent is added.  Without the cancellation the first
inspector would have read both templates before the second one does. -/
theorem failures_leave_results_shared :
    let library := Library.ofList [("base", "x"), ("orphan", Sample.extendsTag "ghost")]
    let session := start library [⟨16, false⟩, ⟨16, false⟩]
    let earlier := [(0, SessionStep.introspect "base")]
    let later := [(1, SessionStep.insert "ghost" "x"), (0, .resolve "orphan")]
    let current := session.after earlier
    let cancelled := current.after ((0, .cancel) :: later)
    session.Unused ∧
      Distinguishable (session.library.texts ++ insertedTexts (earlier ++ later)) ∧
      (∃ seat, current.seats[0]? = some seat ∧ seat.inspector.reports.size = 1 ∧
        let answered := current.stepAt 0 seat (.introspect "orphan")
        answered.1.failure? = some (.missingAncestor "ghost" "orphan") ∧
          answered.2.fetches = current.fetches + 2 ∧ answered.2.seats = current.seats) ∧
      cancelled.step? 0 (.introspect "orphan") =
        some (.report (.error (.cancelled "orphan")), cancelled) ∧
      cancelled.fetches + 2 = (current.after later).fetches ∧
      (cancelled.step? 1 (.introspect "orphan")).map (·.1) =
        ((current.after later).step? 1 (.introspect "orphan")).map (·.1) := by
  intro library session earlier later current cancelled
  have unused : session.Unused := start_unused _ _
  have distinct : Distinguishable (session.library.texts ++ insertedTexts (earlier ++ later)) := by
    unfold Distinguishable
    decide +kernel
  have inside : 0 < current.seats.size := by decide +kernel
  have seated : current.seats[0]? = some current.seats[0] := Array.getElem?_eq_getElem inside
  have kept : (current.seats[0]?).map (·.inspector.reports.size) = some 1 := by decide +kernel
  have asked : (current.step? 0 (.introspect "orphan")).map (fun answered =>
      (answered.1.failure?, answered.2.fetches)) =
        some (some (.missingAncestor "ghost" "orphan"), current.fetches + 2) := by decide +kernel
  have spared : cancelled.fetches + 2 = (current.after later).fetches := by decide +kernel
  rw [seated] at kept
  rw [step?, seated] at asked
  obtain ⟨failed, fetched⟩ := Prod.mk.inj (Option.some.inj asked)
  obtain ⟨unchanged, refused, others⟩ :=
    failures_leave_results session earlier 0 current.seats[0] seated
  obtain ⟨_, seats, _⟩ := unchanged _ _ failed
  exact ⟨unused, distinct, ⟨_, seated, Option.some.inj kept, failed, fetched, seats⟩,
    refused later (.introspect "orphan") _ rfl, spared,
    others later (Or.inr ⟨unused, distinct⟩) 1 (by decide) (.introspect "orphan")⟩

end Session

end Lineage
