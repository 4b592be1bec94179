import OfferDispatch.Cluster.Driver

/-!
# Sessions

A session is the registration of a framework with the cluster. Starting it registers, again and
again up to a number of attempts; stopping it disconnects, after which it can be started again. The
id that the cluster assigns is kept and brought along when the framework registers anew.
-/

namespace OfferDispatch

structure Session (δ : Type) where
  info : FrameworkInfo
  maxAttempts : Nat
  running : Bool
  frameworkId : Option FrameworkId
  link : Link δ

namespace Session

variable {δ : Type}

/-- A session that is not running. There is at least one attempt to start it. -/
def new (driver : δ) (info : FrameworkInfo) (attempts : Nat) : Session δ :=
  ⟨info, max attempts 1, false, none, ⟨driver, []⟩⟩

def registration (s : Session δ) : FrameworkInfo := { s.info with id := s.frameworkId }

/-- Remembers the id that the cluster has assigned. -/
def assign (s : Session δ) (id : FrameworkId) : Session δ := { s with frameworkId := some id }

variable [ClusterDriver δ]

def call (s : Session δ) (c : Call) : Answer × Session δ :=
  let called := s.link.call c
  (called.1, { s with link := called.2 })

/-- Registers until it succeeds, with at most so many further attempts after the first, and a pause
before each of them. -/
def register (info : FrameworkInfo) : (further attempt : Nat) → Link δ → Answer × Link δ
  | 0, _, link => link.call (.register info)
  | further + 1, attempt, link =>
    match link.call (.register info) with
    | (.ok (), link) => (.ok (), link)
    | (.error _, link) => register info further (attempt + 1) (link.pause attempt)

/-- Starts the session, unless it is running. -/
def start (s : Session δ) : Except SchedulerError Unit × Session δ :=
  if s.running then (.ok (), s)
  else
    let registered := register s.registration (s.maxAttempts - 1) 0 s.link
    match registered.1 with
    | .ok () => (.ok (), { s with running := true, link := registered.2 })
    | .error last =>
      (.error (.registrationFailed s.maxAttempts last), { s with link := registered.2 })

/-- Stops the session, if it is running. It has stopped even if the cluster refuses the call. -/
def stop (s : Session δ) : Session δ :=
  if s.running then { (s.call .stop).2 with running := false } else s

/-- Asks for offers again, if the session is running. -/
def revive (s : Session δ) : Session δ :=
  if s.running then (s.call .revive).2 else s

end Session

end OfferDispatch
