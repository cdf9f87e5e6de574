import RootedStore.NameNode.Call

/-!
# Arranged failures

A client over another one, in which failures are arranged from outside: the next call of a kind fails
before it reaches the client inside, and the next file that is opened lets itself be positioned only so
far.
-/

namespace RootedStore

structure Arrangement where
  /-- The failures, at most one for a kind of call. -/
  failures : List (CallKind × ClientError)
  /-- The farthest position of the next file that is opened. -/
  nextReach : Option UInt64
  /-- The farthest position of the file opened last. -/
  reach : Option UInt64

namespace Arrangement

def none : Arrangement := ⟨[], .none, .none⟩

def failNext (a : Arrangement) (kind : CallKind) (e : ClientError) : Arrangement :=
  { a with failures := (kind, e) :: a.failures.filter (·.1 ≠ kind) }

/-- The failure arranged for a call, and the arrangements without it. Calls on a handle are made to the
client inside, so none is arranged for them. -/
def takeFailure (a : Arrangement) (c : Call) : Option (ClientError × Arrangement) := do
  let kind ← c.kind?.filter fun kind => kind ≠ .write && kind ≠ .close
  let found ← a.failures.find? (·.1 = kind)
  return (found.2, { a with failures := a.failures.filter (·.1 ≠ kind) })

def pass (a : Arrangement) : (c : Call) → c.Reply → c.Reply × Arrangement
  | .openRead _, .ok h => (.ok h, { a with nextReach := .none, reach := a.nextReach })
  | .seek _ _, .ok h =>
    (.ok { h with position := min h.position (a.reach.getD h.position) }, a)
  | _, r => (r, a)

/-- The client with the arrangements. -/
def client {σ : Type} (inner : Client σ) : Client (Arrangement × σ) := fun c (a, s) =>
  match a.takeFailure c with
  | some (e, a) => (.error e, a, s)
  | .none =>
    let (r, s) := inner c s
    let (r, a) := a.pass c r
    (r, a, s)

end Arrangement

end RootedStore
