import Lineage.Inspector

/-!
# Sessions

In a session several inspectors look at one library of templates.  An inspector shares a cache of
readings with others, or has one of its own.  Templates may be added, replaced and removed between
the requests.
-/

namespace Lineage

/-- An inspector of a session with the place of its cache. -/
structure Seat where
  inspector : Inspector
  cache : Nat

/-- The state of a session. -/
structure Session where
  library : Library
  /-- The number of look-ups. -/
  fetches : Nat
  caches : Array ParseCache
  seats : Array Seat

/-- What an inspector of a session is made from. -/
structure SeatPlan where
  maxDepth : Nat
  /-- Whether the inspector has a cache of its own. -/
  ownCache : Bool

/-- A step of a session.  The place of the inspector that it concerns is given apart. -/
inductive SessionStep where
  | insert (name text : String)
  | remove (name : String)
  | cancel
  | invalidate (name : String)
  | resolve (leaf : String)
  | introspect (leaf : String)
  | introspectAll (leaves : List String)
  | validate (leaf : String) (content : Option String)

/-- What a step answers. -/
inductive SessionResult where
  | done
  | removed (found : Bool)
  | cancelled
  | chain (result : Except Failure Chain)
  | report (result : Except Failure ReportRecord)
  | reports (results : List (Except Failure ReportRecord))
  | validation (result : Except Failure Validation)

namespace Session

/-- Adds an inspector.  The first cache is the shared one. -/
def addSeat (session : Session) (plan : SeatPlan) : Session :=
  if plan.ownCache then
    { session with
      caches := session.caches.push .empty
      seats := session.seats.push ⟨.fresh plan.maxDepth, session.caches.size⟩ }
  else { session with seats := session.seats.push ⟨.fresh plan.maxDepth, 0⟩ }

/-- The session in which nothing has been asked. -/
def start (library : Library) (plans : List SeatPlan) : Session :=
  plans.foldl addSeat ⟨library, 0, #[.empty], #[]⟩

/-- The cache of the inspector at a place. -/
def cache (session : Session) (seat : Seat) : ParseCache :=
  session.caches[seat.cache]?.getD .empty

/-- The intake with which the inspector at a place begins. -/
def intake (session : Session) (seat : Seat) : Intake :=
  ⟨session.fetches, session.cache seat⟩

/-- Takes over what a request has left behind. -/
def settle (session : Session) (place : Nat) (seat : Seat) (inspector : Inspector)
    (intake : Intake) : Session :=
  { session with
    fetches := intake.fetches
    caches := session.caches.setIfInBounds seat.cache intake.parses
    seats := session.seats.setIfInBounds place { seat with inspector } }

/-- Makes a step that concerns the inspector `seat` at the given place. -/
def stepAt (session : Session) (place : Nat) (seat : Seat) :
    SessionStep → SessionResult × Session
  | .insert name text => (.done, { session with library := session.library.insert name text })
  | .remove name =>
    (.removed (session.library.contains name),
      { session with library := session.library.remove name })
  | .cancel => (.cancelled, session.settle place seat seat.inspector.cancel (session.intake seat))
  | .invalidate name =>
    (.done, { session with
      caches := session.caches.setIfInBounds seat.cache ((session.cache seat).invalidate name) })
  | .resolve leaf =>
    let (result, intake) :=
      seat.inspector.resolve session.library.lookup leaf (session.intake seat)
    (.chain result, session.settle place seat seat.inspector intake)
  | .introspect leaf =>
    let answered := seat.inspector.introspect session.library.lookup leaf (session.intake seat)
    (.report answered.result, session.settle place seat answered.inspector answered.intake)
  | .introspectAll leaves =>
    let answered :=
      seat.inspector.introspectAll session.library.lookup (session.intake seat) leaves
    (.reports answered.results, session.settle place seat answered.inspector answered.intake)
  | .validate leaf content =>
    let answered :=
      seat.inspector.validate session.library.lookup leaf content (session.intake seat)
    (.validation answered.result, session.settle place seat answered.inspector answered.intake)

/-- Makes a step.  There is none where there is no inspector. -/
def step? (session : Session) (place : Nat) (step : SessionStep) :
    Option (SessionResult × Session) :=
  session.seats[place]?.map fun seat => session.stepAt place seat step

end Session

end Lineage
