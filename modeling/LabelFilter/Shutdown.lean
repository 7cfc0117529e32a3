import LabelFilter.Shutdown.Channel

/-!
# Shutdown

Everything that has to end with the program holds a handle. A handle has two sides: it tells that
shutdown has begun, and it listens for being told. Cloning a handle gives one of the same family,
which tells and listens on the same channel; a new handle has a channel of its own. A waiter listens
apart from the handle that it was made from.

Handles and waiters are numbered from zero in the order in which they are made.

## Main definitions

* `Handle`, `Shutdown` — the handles and waiters that there are, and the channels between them
* `Shutdown.Step`, `Shutdown.Answer`, `Shutdown.step` — what can be done, and what comes back
* `Shutdown.run`, `Shutdown.after` — the answers to a row of steps, and what there is after it

## Main results

* `Shutdown.getElem?_run` — an answer in a row is the answer to one step
-/

namespace LabelFilter

/-- What tells and listens: the number of a channel to send to, and a receiver. -/
structure Handle where
  sender : Nat
  receiver : Receiver
  deriving DecidableEq, Repr

/-- The channels, the handles and the waiters that there are. -/
structure Shutdown where
  channels : List (Channel Bool)
  handles : List Handle
  waiters : List Waiter
  deriving DecidableEq, Repr

namespace Shutdown

/-- A channel on which nothing has been told. -/
def silent : Channel Bool := ⟨false, 0⟩

/-- A handle of a channel on which nothing has been told. -/
def newHandle (channel : Nat) : Handle := ⟨channel, ⟨channel, 0⟩⟩

/-- One handle, which has been told nothing. -/
def start : Shutdown := ⟨[silent], [newHandle 0], []⟩

/-- The channel with a number. -/
def channel (s : Shutdown) (n : Nat) : Channel Bool := s.channels.getD n silent

/-- Whether anything listens to a channel. A waiter that has finished does not any more. -/
def isHeard (s : Shutdown) (n : Nat) : Bool :=
  (s.handles.any fun h => h.receiver.channel = n) ||
    s.waiters.any fun w => w.progress ≠ .finished ∧ w.receiver.channel = n

/-- Tell on a channel that shutdown has begun. What nothing would hear is not sent. -/
def tell (s : Shutdown) (n : Nat) : Shutdown :=
  if s.isHeard n then { s with channels := s.channels.modify n fun c => c.send true } else s

/-- What can be done. -/
inductive Step where
  /-- Make a handle of a new family. -/
  | create
  | clone (handle : Nat)
  | trigger (handle : Nat)
  | isTriggered (handle : Nat)
  | wait (handle : Nat)
  | poll (waiter : Nat)
  deriving DecidableEq, Repr

/-- What comes back. -/
inductive Answer where
  | handle (n : Nat)
  | waiter (n : Nat)
  | done
  | state (b : Bool)
  /-- There is no such handle or waiter. -/
  | unknown
  deriving DecidableEq, Repr

/-- One step. -/
def step (s : Shutdown) : Step → Shutdown × Answer
  | .create =>
    ({ s with
        channels := s.channels ++ [silent]
        handles := s.handles ++ [newHandle s.channels.length] },
      .handle s.handles.length)
  | .clone h =>
    match s.handles[h]? with
    | some handle => ({ s with handles := s.handles ++ [handle] }, .handle s.handles.length)
    | none => (s, .unknown)
  | .trigger h =>
    match s.handles[h]? with
    | some handle => (s.tell handle.sender, .done)
    | none => (s, .unknown)
  | .isTriggered h =>
    match s.handles[h]? with
    | some handle => (s, .state (s.channel handle.receiver.channel).value)
    | none => (s, .unknown)
  | .wait h =>
    match s.handles[h]? with
    | some handle =>
      ({ s with waiters := s.waiters ++ [⟨handle.receiver, .begun⟩] }, .waiter s.waiters.length)
    | none => (s, .unknown)
  | .poll w =>
    match s.waiters[w]? with
    | some waiter =>
      let waiter := waiter.poll id (s.channel waiter.receiver.channel)
      ({ s with waiters := s.waiters.set w waiter }, .state (waiter.progress = .finished))
    | none => (s, .unknown)

/-- The answers to a row of steps. -/
def run (s : Shutdown) : List Step → List Answer
  | [] => []
  | t :: ts => (s.step t).2 :: run (s.step t).1 ts

/-- What there is after a row of steps. -/
def after (s : Shutdown) (ts : List Step) : Shutdown := ts.foldl (fun s t => (s.step t).1) s

@[simp] theorem after_nil (s : Shutdown) : s.after [] = s := rfl

theorem after_append (s : Shutdown) (ts us : List Step) :
    s.after (ts ++ us) = (s.after ts).after us := List.foldl_append

theorem after_concat (s : Shutdown) (ts : List Step) (t : Step) :
    s.after (ts ++ [t]) = ((s.after ts).step t).1 := by
  rw [after_append]
  rfl

/-- An answer in a row is the answer to one step, after those before it. -/
theorem getElem?_run (s : Shutdown) (before : List Step) (t : Step) (later : List Step) :
    (s.run (before ++ t :: later))[before.length]? = some ((s.after before).step t).2 := by
  induction before generalizing s with
  | nil => rfl
  | cons u before ih => exact ih (s.step u).1

end Shutdown

end LabelFilter
