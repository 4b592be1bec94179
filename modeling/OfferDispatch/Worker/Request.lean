import OfferDispatch.Worker.Spec

/-!
# Requests and notifications

A request is a worker that waits for an offer, together with whatever its host wants to be called
back with. Requests wait in the order in which they came, and the earliest that fits is taken. The
host is told when its worker runs and when it ends.
-/

namespace OfferDispatch

/-- A worker and what its host is called back with. -/
structure Request (κ : Type) where
  spec : WorkerSpec Float
  callback : κ
  deriving Inhabited

namespace Request

variable {κ : Type}

def name (r : Request κ) : TaskId := r.spec.name

end Request

/-- The requests that wait for an offer, the earliest first. -/
structure RequestQueue (κ : Type) where
  waiting : List (Request κ)
  deriving Inhabited

namespace RequestQueue

variable {κ : Type}

def empty : RequestQueue κ := ⟨[]⟩

def push (q : RequestQueue κ) (r : Request κ) : RequestQueue κ := ⟨q.waiting ++ [r]⟩

/-- The earliest request that satisfies a test, and the queue without it. -/
def take? (q : RequestQueue κ) (test : Request κ → Bool) : Option (Request κ × RequestQueue κ) :=
  (q.waiting.find? test).map fun r => (r, ⟨q.waiting.eraseP test⟩)

def isFor (worker : TaskId) (r : Request κ) : Bool := r.name == worker

def remove? (q : RequestQueue κ) (worker : TaskId) : Option (Request κ × RequestQueue κ) :=
  q.take? (isFor worker)

/-- The queue without the request for a worker, if there is one. -/
def erase (q : RequestQueue κ) (worker : TaskId) : RequestQueue κ :=
  ⟨q.waiting.eraseP (isFor worker)⟩

def contains (q : RequestQueue κ) (worker : TaskId) : Bool := q.waiting.any (isFor worker)

def size (q : RequestQueue κ) : Nat := q.waiting.length

def isEmpty (q : RequestQueue κ) : Bool := q.waiting.isEmpty

def names (q : RequestQueue κ) : List TaskId := q.waiting.map (·.name)

def labels (q : RequestQueue κ) : List String := q.waiting.map (·.spec.label)

@[simp] theorem waiting_push (q : RequestQueue κ) (r : Request κ) :
    (q.push r).waiting = q.waiting ++ [r] := rfl

@[simp] theorem waiting_erase (q : RequestQueue κ) (worker : TaskId) :
    (q.erase worker).waiting = q.waiting.eraseP (isFor worker) := rfl

theorem take?_eq_some_iff {q : RequestQueue κ} {test : Request κ → Bool} {r : Request κ}
    {rest : RequestQueue κ} :
    q.take? test = some (r, rest) ↔
      q.waiting.find? test = some r ∧ rest = ⟨q.waiting.eraseP test⟩ := by
  simp only [take?, Option.map_eq_some_iff, Prod.mk.injEq]
  constructor
  · rintro ⟨a, h, rfl, rfl⟩
    exact ⟨h, rfl⟩
  · rintro ⟨h, rfl⟩
    exact ⟨r, h, rfl, rfl⟩

end RequestQueue

structure WorkerPlace where
  worker : TaskId
  agent : Option AgentId
  deriving DecidableEq, Repr, Inhabited

inductive NoticeKind
  | running
  | finished
  | failed
  deriving DecidableEq, Repr, Inhabited

namespace NoticeKind

def name : NoticeKind → String
  | running => "running"
  | finished => "finished"
  | failed => "failed"

/-- Is this the last thing the host is told of a worker? -/
def isEnd : NoticeKind → Bool
  | running => false
  | finished | failed => true

end NoticeKind

structure Notice (κ : Type) where
  kind : NoticeKind
  place : WorkerPlace
  callback : κ
  deriving Inhabited

/-- The worker of a request has failed without reaching an agent. -/
def Request.failed {κ : Type} (r : Request κ) : Notice κ := ⟨.failed, ⟨r.name, none⟩, r.callback⟩

end OfferDispatch
