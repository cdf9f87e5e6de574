/-!
# Request contexts

A request can be cancelled, and it can run out of time. Its context names a token, which copies of the
context share, and the moment at which its time is over. `Signals` holds what happened: the tokens that
were cancelled, the clock, and the timers that went off. Cancellation is reported before a missed deadline.
A call that starts misses a deadline as soon as the clock reaches it. A stream that is read is woken by a
timer instead, which goes off at that moment or any time later.
-/

namespace RootedStore

inductive Interruption where
  | cancelled
  | deadlineExceeded
  deriving DecidableEq, Repr

def Interruption.message : Interruption → String
  | .cancelled => "request cancelled"
  | .deadlineExceeded => "request deadline exceeded"

structure RequestContext where
  token : Nat
  /-- The reading of the clock from which on the time is over. -/
  deadline : Option Nat
  requestId : Option String
  deriving DecidableEq, Repr

structure Signals where
  clock : Nat
  issued : Nat
  cancelled : List Nat
  /-- Whether the timers that were set for a moment have gone off. -/
  fired : Nat → Bool
  fired_le : ∀ {moment}, fired moment = true → moment ≤ clock

namespace Signals

def initial : Signals := ⟨0, 0, [], fun _ => false, nofun⟩

def newContext (s : Signals) (timeout : Option Nat) (requestId : Option String) :
    RequestContext × Signals :=
  (⟨s.issued, timeout.map (s.clock + ·), requestId⟩, { s with issued := s.issued + 1 })

/-- Cancels a request and all copies of its context. -/
def cancel (s : Signals) (c : RequestContext) : Signals :=
  { s with cancelled := c.token :: s.cancelled }

/-- The interruption of a request that has already happened. -/
def check (s : Signals) (c : RequestContext) : Option Interruption :=
  if c.token ∈ s.cancelled then some .cancelled
  else if c.deadline.any (· ≤ s.clock) then some .deadlineExceeded
  else none

/-- The interruption of a request that wakes who waits for it. -/
def poll (s : Signals) (c : RequestContext) : Option Interruption :=
  if c.token ∈ s.cancelled then some .cancelled
  else if c.deadline.any s.fired then some .deadlineExceeded
  else none

/-- The timers up to a moment go off, when the clock has passed it. -/
def expire (s : Signals) (moment : Nat) : Signals where
  clock := max s.clock (moment + 1)
  issued := s.issued
  cancelled := s.cancelled
  fired m := s.fired m || m ≤ moment
  fired_le {m} h := by
    rcases Bool.or_eq_true_iff.mp h with h | h
    · exact Nat.le_trans (s.fired_le h) (Nat.le_max_left _ _)
    · exact Nat.le_trans (Nat.le_succ_of_le (by simpa using h)) (Nat.le_max_right _ _)

/-- Waits for the interruption of a request. `none` if none is to come. -/
def await (s : Signals) (c : RequestContext) : Option (Interruption × Signals) :=
  if c.token ∈ s.cancelled then some (.cancelled, s)
  else c.deadline.map fun moment => (.deadlineExceeded, s.expire moment)

/-- Runs a call for a request. The call `completes` with a result, or never does; it may cancel the
request itself just before it completes. A call that completes is not interrupted any more. `none` if
neither the call nor an interruption ends it. -/
def run (s : Signals) (c : RequestContext) (cancels : Bool) (completes : Option α) :
    Option (Except Interruption α × Signals) :=
  match s.check c, completes with
  | some why, _ => some (.error why, s)
  | none, some a => some (.ok a, if cancels then s.cancel c else s)
  | none, none => (s.await c).map fun (why, s') => (.error why, s')

@[simp] theorem check_cancel (s : Signals) (c : RequestContext) :
    (s.cancel c).check c = some .cancelled := by simp [check, cancel]

@[simp] theorem poll_cancel (s : Signals) (c : RequestContext) :
    (s.cancel c).poll c = some .cancelled := by simp [poll, cancel]

end Signals

/-- How a request stands: what a call that starts is told, and what a stream that is read is told. -/
structure Standing where
  checked : Option Interruption
  polled : Option Interruption
  deriving DecidableEq, Repr

def Standing.good : Standing := ⟨none, none⟩

def Signals.standing (s : Signals) (c : RequestContext) : Standing := ⟨s.check c, s.poll c⟩

end RootedStore
