/-!
# Channels

A channel holds one value, and sending replaces it. What is sent has no queue: whoever receives
looks at the value as it is then, and may miss values that were there in between.

Receivers look in two ways. Borrowing tells the present value. Waiting for a value with a property
looks once in any case, and from then on only if there is a version that the receiver has not seen;
without such a version the value is not even looked at, because nobody has called.

## Main definitions

* `Channel`, `Channel.send` — a value and how often it has been sent
* `Receiver` — which channel is listened to, and which version was seen last
* `Waiter`, `Waiter.poll` — waiting for a value with a property
* `Waiter.Knows` — what a waiter has found out about its channel

## Main results

* `Waiter.finished_poll_iff` — a waiter that is asked is finished if the value has the property
* `Waiter.Knows.poll`, `Waiter.Knows.send` — asking and sending keep what waiters know
-/

namespace LabelFilter

/-- A value that is shared, and how often it has been sent. -/
structure Channel (α : Type) where
  value : α
  version : Nat := 0
  deriving DecidableEq, Repr

/-- Replace the value. -/
def Channel.send {α : Type} (c : Channel α) (a : α) : Channel α := ⟨a, c.version + 1⟩

/-- One that listens to a channel, and the version that it has seen last. -/
structure Receiver where
  channel : Nat
  seen : Nat := 0
  deriving DecidableEq, Repr

/-- How far waiting has come. -/
inductive Progress where
  /-- The value has not been looked at. -/
  | begun
  | waiting
  | finished
  deriving DecidableEq, Repr

/-- One that waits for a value with a property. -/
structure Waiter where
  receiver : Receiver
  progress : Progress := .begun
  deriving DecidableEq, Repr

namespace Waiter

variable {α : Type} (wanted : α → Bool)

/-- Look at the value. -/
def look (c : Channel α) (w : Waiter) : Waiter where
  receiver := { w.receiver with seen := c.version }
  progress := if wanted c.value then .finished else .waiting

/-- Ask a waiter. One that has finished is not asked again. -/
def poll (c : Channel α) (w : Waiter) : Waiter :=
  match w.progress with
  | .begun => w.look wanted c
  | .waiting => if c.version = w.receiver.seen then w else w.look wanted c
  | .finished => w

/-- What a waiter has found out, if no value with the property is ever replaced by one without:
while it waits it has not seen the property in the present version, nor a version to come, and when
it has finished the property is there. -/
def Knows (c : Channel α) (w : Waiter) : Prop :=
  match w.progress with
  | .begun => True
  | .waiting => w.receiver.seen ≤ c.version ∧ (c.version = w.receiver.seen → wanted c.value = false)
  | .finished => wanted c.value = true

variable {wanted} {c : Channel α} {w : Waiter}

theorem channel_poll : (w.poll wanted c).receiver.channel = w.receiver.channel := by
  unfold poll
  split
  · rfl
  · split <;> rfl
  · rfl

theorem finished_look_iff : (w.look wanted c).progress = .finished ↔ wanted c.value = true := by
  rw [look]
  split <;> simp [*]

theorem knows_look : (w.look wanted c).Knows wanted c := by
  rw [look]
  cases h : wanted c.value with
  | true => exact h
  | false => exact ⟨Nat.le_refl _, fun _ => h⟩

/-- **Asking a waiter.** No version with the property is missed, although the value is not looked at
where no new version is there. -/
theorem finished_poll_iff (h : w.Knows wanted c) :
    (w.poll wanted c).progress = .finished ↔ wanted c.value = true := by
  unfold Knows at h
  unfold poll
  split <;> rename_i hprogress <;> simp only [hprogress] at h
  · exact finished_look_iff
  · split
    · next hversion => simp [hprogress, h.2 hversion]
    · exact finished_look_iff
  · simp [hprogress, h]

theorem Knows.poll (h : w.Knows wanted c) : (w.poll wanted c).Knows wanted c := by
  unfold Waiter.poll
  split
  · exact knows_look
  · split
    · exact h
    · exact knows_look
  · exact h

/-- A value with the property may be sent: it has a version that no waiter has seen. -/
theorem Knows.send {a : α} (ha : wanted a = true) (h : w.Knows wanted c) :
    w.Knows wanted (c.send a) := by
  unfold Knows at h ⊢
  split <;> rename_i hprogress <;> simp only [hprogress] at h
  · trivial
  · refine ⟨Nat.le_succ_of_le h.1, fun hversion => absurd h.1 ?_⟩
    rw [← hversion]
    exact Nat.not_succ_le_self _
  · exact ha

end Waiter

end LabelFilter
