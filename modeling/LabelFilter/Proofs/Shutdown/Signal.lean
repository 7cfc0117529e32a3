import LabelFilter.Proofs.Shutdown.History

/-!
# The signal reaches its family

A family is a channel: handles that are connected by cloning send to one channel and listen to it,
and handles that are not have different channels. So what a handle borrows, and what a waiter finds
out when it is asked, is whether any handle of the family was triggered before, however the steps
were interleaved.

The invariant has two halves. `HandlesAfter` ties the channels to the history of the handles, and
`WaitersAfter` ties each waiter to the handle that it was made from; a waiter that has not looked at
the last version is the case in which a signal could be lost (`Waiter.Knows`).

## Main definitions

* `HandlesAfter`, `WaitersAfter` — what the channels, handles and waiters are after some steps

## Main results

* `HandlesAfter.sameFamily_iff` — families are channels
* `HandlesAfter.step`, `WaitersAfter.step` — every step keeps the invariant
* `invariant_of_possible` — so it holds after every row of steps that is possible
* `answer_made`, `answers_of_possible` — what handles and waiters answer
-/

namespace LabelFilter.Shutdown

/-! ### The invariant -/

/-- The channel that a handle sends to. -/
def sender? (s : Shutdown) (h : Nat) : Option Nat := s.handles[h]?.map Handle.sender

/-- The channels and the handles after the steps `ts`. -/
structure HandlesAfter (ts : List Step) (s : Shutdown) : Prop where
  count : s.handles.length = handleCount ts
  listens : ∀ h ∈ s.handles, h.receiver.channel = h.sender ∧ h.sender < s.channels.length
  cloned : ∀ {g h}, ClonedFrom ts g h → ∃ n, s.sender? g = some n ∧ s.sender? h = some n
  connected : ∀ {g h n}, s.sender? g = some n → s.sender? h = some n → SameFamily ts g h
  told : ∀ n, (s.channel n).value = true ↔ ∃ g, .trigger g ∈ ts ∧ s.sender? g = some n

/-- The waiters after the steps `ts`. -/
structure WaitersAfter (ts : List Step) (s : Shutdown) : Prop where
  count : s.waiters.length = waiterCount ts
  listens : ∀ {w v h}, s.waiters[w]? = some v → WaiterOf ts w h →
    s.sender? h = some v.receiver.channel
  knows : ∀ v ∈ s.waiters, v.Knows id (s.channel v.receiver.channel)

section

variable {s : Shutdown} {ts : List Step} {h n : Nat}

theorem sender?_eq_some_iff :
    s.sender? h = some n ↔ ∃ handle, s.handles[h]? = some handle ∧ handle.sender = n :=
  Option.map_eq_some_iff

theorem lt_of_sender? (hn : s.sender? h = some n) : h < s.handles.length := by
  obtain ⟨handle, hhandle, -⟩ := sender?_eq_some_iff.mp hn
  exact (List.getElem?_eq_some_iff.mp hhandle).1

theorem HandlesAfter.exists_handle (hs : HandlesAfter ts s) (hh : h < handleCount ts) :
    ∃ handle, s.handles[h]? = some handle := by
  rw [← hs.count] at hh
  exact ⟨_, List.getElem?_eq_getElem hh⟩

theorem HandlesAfter.sender_lt (hs : HandlesAfter ts s) (hn : s.sender? h = some n) :
    n < s.channels.length := by
  obtain ⟨handle, hhandle, rfl⟩ := sender?_eq_some_iff.mp hn
  exact (hs.listens _ (List.mem_of_getElem? hhandle)).2

/-- Handles of one family send to one channel. -/
theorem HandlesAfter.sender?_eq (hs : HandlesAfter ts s) {g : Nat} (hfamily : SameFamily ts g h) :
    s.sender? g = s.sender? h := by
  induction hfamily with
  | rel _ _ hcloned =>
    obtain ⟨m, hg, hh⟩ := hs.cloned hcloned
    rw [hg, hh]
  | refl => rfl
  | symm _ _ _ ih => exact ih.symm
  | trans _ _ _ _ _ ih ih' => exact ih.trans ih'

/-- **Families are channels.** -/
theorem HandlesAfter.sameFamily_iff (hs : HandlesAfter ts s) {g : Nat} (hn : s.sender? h = some n) :
    SameFamily ts g h ↔ s.sender? g = some n :=
  ⟨fun hfamily => (hs.sender?_eq hfamily).trans hn, fun hg => hs.connected hg hn⟩

/-- What has been told on the channel of a handle. -/
theorem HandlesAfter.told_iff (hs : HandlesAfter ts s) (hn : s.sender? h = some n) :
    (s.channel n).value = true ↔ Told ts h := by
  rw [hs.told]
  exact exists_congr fun g => and_congr_right fun _ => (hs.sameFamily_iff hn).symm

end

/-! ### Steps that make handles -/

section

variable {s : Shutdown} {ts : List Step} {g h n : Nat}

theorem sender?_add_of_some (channels : List (Channel Bool)) (handle : Handle)
    (hn : s.sender? h = some n) :
    sender? ⟨channels, s.handles ++ [handle], s.waiters⟩ h = some n := by
  rw [sender?, List.getElem?_append_left (lt_of_sender? hn)]
  exact hn

/-- A handle that has just been made sends to its channel, and the others to theirs. -/
theorem sender?_add_eq_some_iff (channels : List (Channel Bool)) (handle : Handle) :
    sender? ⟨channels, s.handles ++ [handle], s.waiters⟩ h = some n ↔
      s.sender? h = some n ∨ (h = s.handles.length ∧ handle.sender = n) := by
  constructor
  · intro hn
    have hlt := lt_of_sender? hn
    rw [List.length_append, List.length_singleton, Nat.lt_succ_iff] at hlt
    obtain hlt | rfl := Nat.lt_or_eq_of_le hlt
    · rw [sender?, List.getElem?_append_left hlt] at hn
      exact .inl hn
    · rw [sender?, List.getElem?_concat_length] at hn
      exact .inr ⟨rfl, Option.some.inj hn⟩
  · rintro (hn | ⟨rfl, rfl⟩)
    · exact sender?_add_of_some channels handle hn
    · rw [sender?, List.getElem?_concat_length]
      rfl

/-- A handle is added, to a channel of its own or to that of the handle that it was cloned from. No
channel is told anything. -/
theorem HandlesAfter.add (hts : Possible ts) (hs : HandlesAfter ts s) {t : Step}
    {channels : List (Channel Bool)} {handle : Handle} (ht : t.makesHandle = true)
    (hchannels : ∀ n, channels.getD n silent = s.channel n)
    (hlength : s.channels.length ≤ channels.length)
    (hlistens : handle.receiver.channel = handle.sender ∧ handle.sender < channels.length)
    (hcloned : ∀ g, t = .clone g → s.sender? g = some handle.sender)
    (hkin : ∀ g, s.sender? g = some handle.sender →
      SameFamily (ts ++ [t]) g s.handles.length) :
    HandlesAfter (ts ++ [t]) ⟨channels, s.handles ++ [handle], s.waiters⟩ where
  count := by
    rw [handleCount_concat, ← hs.count, if_pos ht]
    exact List.length_append
  listens := by
    refine List.forall_mem_append.mpr ⟨fun h hh => ?_, List.forall_mem_singleton.mpr hlistens⟩
    exact ⟨(hs.listens h hh).1, Nat.lt_of_lt_of_le (hs.listens h hh).2 hlength⟩
  cloned h := by
    simp only [sender?_add_eq_some_iff]
    obtain h | ⟨rfl, rfl⟩ := clonedFrom_concat_iff.mp h
    · obtain ⟨n, hg, hh⟩ := hs.cloned h
      exact ⟨n, .inl hg, .inl hh⟩
    · exact ⟨_, .inl (hcloned _ rfl), .inr ⟨hs.count.symm, rfl⟩⟩
  connected hg hh := by
    -- Either handle may be the new one.
    obtain hg | ⟨rfl, rfl⟩ := (sender?_add_eq_some_iff ..).mp hg <;>
      obtain hh | ⟨rfl, hsender⟩ := (sender?_add_eq_some_iff ..).mp hh
    · exact (hs.connected hg hh).mono (List.prefix_append _ _)
    · exact hkin _ (hsender ▸ hg)
    · exact .symm _ _ (hkin _ hh)
    · exact .refl _
  told n := by
    have htrigger : ∀ g, .trigger g ≠ t := by
      rintro g rfl
      cases ht
    have hchannel : channel ⟨channels, s.handles ++ [handle], s.waiters⟩ n = s.channel n :=
      hchannels n
    simp only [hchannel, hs.told, List.mem_append, List.mem_singleton, htrigger, or_false,
      sender?_add_eq_some_iff]
    refine exists_congr fun g => and_congr_right fun hg => (or_iff_left ?_).symm
    -- The new handle cannot have been triggered.
    rintro ⟨rfl, -⟩
    exact Nat.lt_irrefl _ (hs.count ▸ hts.trigger_lt hg)

theorem channel_create (s : Shutdown) (n : Nat) :
    (s.step .create).1.channel n = s.channel n := by
  simp only [step, channel, List.getD_eq_getElem?_getD, List.getElem?_append]
  split
  · rfl
  · next hn =>
    rw [List.getElem?_eq_none (Nat.not_lt.mp hn)]
    cases n - s.channels.length <;> rfl

theorem HandlesAfter.create (hts : Possible ts) (hs : HandlesAfter ts s) :
    HandlesAfter (ts ++ [.create]) (s.step .create).1 :=
  hs.add hts rfl (channel_create s) (by simp) ⟨rfl, by simp [newHandle]⟩ nofun fun _ hg =>
    absurd (hs.sender_lt hg) (Nat.lt_irrefl _)

theorem HandlesAfter.clone (hts : Possible ts) (hs : HandlesAfter ts s) {handle : Handle}
    (hh : s.handles[h]? = some handle) :
    HandlesAfter (ts ++ [.clone h]) (s.step (.clone h)).1 := by
  have hsender : s.sender? h = some handle.sender := sender?_eq_some_iff.mpr ⟨handle, hh, rfl⟩
  have hadd := @HandlesAfter.add s ts hts hs (.clone h) s.channels handle rfl (fun _ => rfl)
    (Nat.le_refl _) (hs.listens _ (List.mem_of_getElem? hh)) ?_ fun g hg => ?_
  · simpa only [step, hh] using hadd
  · rintro g ⟨⟩
    exact hsender
  · refine .trans _ h _ ((hs.connected hg hsender).mono (List.prefix_append _ _)) (.rel _ _ ?_)
    exact clonedFrom_concat_iff.mpr (.inr ⟨rfl, hs.count.symm⟩)

end

/-! ### Steps that make no handle -/

section

variable {s s' : Shutdown} {ts : List Step} {t : Step} {g h n : Nat}

/-- A step that makes no handle leaves the families as they are, and tells at most the family of a
handle that it triggers. -/
theorem HandlesAfter.keep (hs : HandlesAfter ts s) (ht : t.makesHandle = false)
    (hhandles : s'.handles = s.handles) (hlength : s'.channels.length = s.channels.length)
    (htold : ∀ m, (s'.channel m).value = true ↔
      (s.channel m).value = true ∨ ∃ g, .trigger g = t ∧ s.sender? g = some m) :
    HandlesAfter (ts ++ [t]) s' := by
  have hsender : s'.sender? = s.sender? := by
    funext h
    rw [sender?, hhandles]
    rfl
  refine ⟨?_, ?_, fun h => ?_, fun hg hh => ?_, fun m => ?_⟩
  · rw [handleCount_concat, hhandles, hs.count, ht]
    rfl
  · rw [hhandles, hlength]
    exact hs.listens
  · obtain h | ⟨rfl, -⟩ := clonedFrom_concat_iff.mp h
    · exact hsender ▸ hs.cloned h
    · cases ht
  · rw [hsender] at hg hh
    exact (hs.connected hg hh).mono (List.prefix_append _ _)
  · simp only [htold, hs.told, hsender, List.mem_append, List.mem_singleton, or_and_right,
      exists_or]

theorem sender?_tell (s : Shutdown) (n : Nat) : (s.tell n).sender? = s.sender? := by
  unfold tell
  split <;> rfl

/-- What a handle tells is heard, by itself if by nothing else. -/
theorem HandlesAfter.tell_eq (hs : HandlesAfter ts s) (hn : s.sender? h = some n) :
    s.tell n = { s with channels := s.channels.modify n fun c => c.send true } := by
  obtain ⟨handle, hhandle, rfl⟩ := sender?_eq_some_iff.mp hn
  have hmem := List.mem_of_getElem? hhandle
  have hheard : s.isHeard handle.sender = true := by
    rw [isHeard, Bool.or_eq_true, List.any_eq_true]
    exact .inl ⟨handle, hmem, decide_eq_true (hs.listens _ hmem).1⟩
  rw [tell, if_pos hheard]

theorem HandlesAfter.channel_tell (hs : HandlesAfter ts s) (hn : s.sender? h = some n) (m : Nat) :
    (s.tell n).channel m = if n = m then (s.channel m).send true else s.channel m := by
  have hlt := hs.sender_lt hn
  rw [hs.tell_eq hn]
  simp only [channel, List.getD_eq_getElem?_getD, List.getElem?_modify]
  split
  · next h =>
    subst h
    rw [List.getElem?_eq_getElem hlt]
    rfl
  · simp

theorem HandlesAfter.trigger (hs : HandlesAfter ts s) (hn : s.sender? h = some n) :
    HandlesAfter (ts ++ [.trigger h]) (s.tell n) := by
  refine hs.keep rfl (by rw [hs.tell_eq hn]) (by rw [hs.tell_eq hn, List.length_modify])
    fun m => ?_
  rw [hs.channel_tell hn]
  simp only [Step.trigger.injEq, exists_eq_left, hn, Option.some.injEq]
  split
  · next hm => simp [Channel.send, hm]
  · next hm => simp [hm]

/-- A step that neither makes a handle nor triggers one leaves channels and handles alone. -/
theorem step_quiet (ht : t.makesHandle = false) (htrigger : ∀ g, t ≠ .trigger g) (s : Shutdown) :
    (s.step t).1.channels = s.channels ∧ (s.step t).1.handles = s.handles := by
  cases t with
  | create | clone h => cases ht
  | trigger h => exact absurd rfl (htrigger h)
  | isTriggered h | wait h | poll w => simp only [step]; split <;> exact ⟨rfl, rfl⟩

end

/-! ### Any step -/

section

variable {s : Shutdown} {ts : List Step} {t : Step} {h n m : Nat}

/-- Every step keeps the first half of the invariant. -/
theorem HandlesAfter.step (hts : Possible ts) (hs : HandlesAfter ts s) (ht : t.Names ts) :
    HandlesAfter (ts ++ [t]) (s.step t).1 := by
  have hquiet : t.makesHandle = false → (∀ g, t ≠ .trigger g) →
      HandlesAfter (ts ++ [t]) (s.step t).1 := by
    intro hmakes htrigger
    obtain ⟨hchannels, hhandles⟩ := step_quiet hmakes htrigger s
    refine hs.keep hmakes hhandles (congrArg _ hchannels) fun m => ?_
    simp only [channel, hchannels, (htrigger _).symm, false_and, exists_false, or_false]
  cases t with
  | create => exact hs.create hts
  | clone h =>
    obtain ⟨handle, hh⟩ := hs.exists_handle ht
    exact hs.clone hts hh
  | trigger h =>
    obtain ⟨handle, hh⟩ := hs.exists_handle ht
    have htold := hs.trigger (sender?_eq_some_iff.mpr ⟨handle, hh, rfl⟩)
    simpa only [Shutdown.step, hh] using htold
  | isTriggered h | wait h | poll w => exact hquiet rfl nofun

/-- A handle keeps its channel. -/
theorem sender?_step (hn : s.sender? h = some n) (t : Step) :
    (s.step t).1.sender? h = some n := by
  cases t with
  | create => exact sender?_add_of_some _ _ hn
  | clone g =>
    simp only [step]
    split
    · exact sender?_add_of_some _ _ hn
    · exact hn
  | trigger g =>
    simp only [step]
    split
    · rwa [sender?_tell]
    · exact hn
  | isTriggered g | wait g | poll w => simp only [step]; split <;> exact hn

/-- A waiter knows after every step what it knew before, or better. -/
theorem HandlesAfter.knows_step (hs : HandlesAfter ts s) (t : Step) {v : Waiter}
    (hv : v.Knows id (s.channel m)) : v.Knows id ((s.step t).1.channel m) := by
  cases t with
  | create => rwa [channel_create]
  | clone g => simp only [Shutdown.step]; split <;> exact hv
  | trigger g =>
    simp only [Shutdown.step]
    split
    · next handle hg =>
      rw [hs.channel_tell (sender?_eq_some_iff.mpr ⟨handle, hg, rfl⟩)]
      split
      · exact hv.send rfl
      · exact hv
    · exact hv
  | isTriggered g | wait g | poll w => simp only [Shutdown.step]; split <;> exact hv

end

/-! ### Waiters -/

section

variable {s s' : Shutdown} {ts : List Step} {t : Step} {h n w : Nat}

/-- A step that neither makes a waiter nor asks one leaves the waiters as they are. -/
theorem WaitersAfter.keep (hw : WaitersAfter ts s) (hs : HandlesAfter ts s)
    (ht : t.makesWaiter = false) (hwaiters : (s.step t).1.waiters = s.waiters) :
    WaitersAfter (ts ++ [t]) (s.step t).1 := by
  have hmade : ∀ {w h}, WaiterOf (ts ++ [t]) w h ↔ WaiterOf ts w h := by
    intro w h
    rw [waiterOf_concat_iff, or_iff_left]
    rintro ⟨rfl, -⟩
    cases ht
  constructor
  · rw [waiterCount_concat, hwaiters, hw.count, ht]
    rfl
  · simp only [hwaiters, hmade]
    exact fun hv hof => sender?_step (hw.listens hv hof) t
  · rw [hwaiters]
    exact fun v hv => hs.knows_step t (hw.knows v hv)

/-- A waiter is made, which listens to the channel of its handle and has not looked yet. -/
theorem WaitersAfter.wait (hw : WaitersAfter ts s) (hs : HandlesAfter ts s) {handle : Handle}
    (hh : s.handles[h]? = some handle) :
    WaitersAfter (ts ++ [.wait h])
      { s with waiters := s.waiters ++ [⟨handle.receiver, .begun⟩] } := by
  have hmem : ∀ {w : Nat} {v : Waiter}, (s.waiters ++ [⟨handle.receiver, .begun⟩])[w]? = some v →
      s.waiters[w]? = some v ∨ (w = s.waiters.length ∧ v = ⟨handle.receiver, .begun⟩) := by
    intro w v hv
    have hlt := (List.getElem?_eq_some_iff.mp hv).1
    rw [List.length_append, List.length_singleton, Nat.lt_succ_iff] at hlt
    obtain hlt | rfl := Nat.lt_or_eq_of_le hlt
    · exact .inl (List.getElem?_append_left hlt ▸ hv)
    · exact .inr ⟨rfl, Option.some.inj (List.getElem?_concat_length.symm.trans hv).symm⟩
  refine ⟨?_, fun hv hof => ?_, ?_⟩
  · rw [waiterCount_concat, ← hw.count]
    exact List.length_append
  · obtain hof | ⟨⟨⟩, rfl⟩ := waiterOf_concat_iff.mp hof <;>
      obtain hv | ⟨hlast, rfl⟩ := hmem hv
    · exact hw.listens hv hof
    · exact absurd (hw.count ▸ hlast ▸ hof.lt) (Nat.lt_irrefl _)
    · exact absurd (hw.count ▸ (List.getElem?_eq_some_iff.mp hv).1) (Nat.lt_irrefl _)
    · have hlistens := (hs.listens _ (List.mem_of_getElem? hh)).1
      exact sender?_eq_some_iff.mpr ⟨handle, hh, hlistens.symm⟩
  · exact List.forall_mem_append.mpr ⟨hw.knows, List.forall_mem_singleton.mpr trivial⟩

/-- A waiter is asked. -/
theorem WaitersAfter.poll (hw : WaitersAfter ts s) {v : Waiter} (hv : s.waiters[w]? = some v) :
    WaitersAfter (ts ++ [.poll w])
      { s with waiters := s.waiters.set w (v.poll id (s.channel v.receiver.channel)) } := by
  have hmem : ∀ {w' : Nat} {v' : Waiter},
      (s.waiters.set w (v.poll id (s.channel v.receiver.channel)))[w']? = some v' →
      ∃ u : Waiter, s.waiters[w']? = some u ∧ u.receiver.channel = v'.receiver.channel := by
    intro w' v' hv'
    rw [List.getElem?_set] at hv'
    split at hv'
    · next hsame =>
      subst hsame
      rw [if_pos (List.getElem?_eq_some_iff.mp hv).1] at hv'
      cases hv'
      exact ⟨v, hv, Waiter.channel_poll.symm⟩
    · exact ⟨v', hv', rfl⟩
  have hmade : ∀ {w' h}, WaiterOf (ts ++ [.poll w]) w' h ↔ WaiterOf ts w' h := by
    intro w' h
    rw [waiterOf_concat_iff, or_iff_left nofun]
  refine ⟨?_, fun hv' hof => ?_, fun v' hv' => ?_⟩
  · rw [waiterCount_concat, List.length_set]
    exact hw.count
  · obtain ⟨u, hu, hchannel⟩ := hmem hv'
    exact hchannel ▸ hw.listens hu (hmade.mp hof)
  · obtain hv' | rfl := List.mem_or_eq_of_mem_set hv'
    · exact hw.knows v' hv'
    · rw [Waiter.channel_poll]
      exact (hw.knows v (List.mem_of_getElem? hv)).poll

/-- Every step keeps the second half of the invariant. -/
theorem WaitersAfter.step (hw : WaitersAfter ts s) (hs : HandlesAfter ts s) (ht : t.Names ts) :
    WaitersAfter (ts ++ [t]) (s.step t).1 := by
  cases t with
  | create => exact hw.keep hs rfl rfl
  | clone h | isTriggered h =>
    refine hw.keep hs rfl ?_
    simp only [Shutdown.step]
    split <;> rfl
  | trigger h =>
    refine hw.keep hs rfl ?_
    simp only [Shutdown.step]
    split
    · unfold tell
      split <;> rfl
    · rfl
  | wait h =>
    obtain ⟨handle, hh⟩ := hs.exists_handle ht
    simpa only [Shutdown.step, hh] using hw.wait hs hh
  | poll w =>
    rw [Step.Names, ← hw.count] at ht
    have hv := List.getElem?_eq_getElem ht
    simpa only [Shutdown.step, hv] using hw.poll hv

end

/-! ### After every row of steps -/

theorem handlesAfter_start : HandlesAfter [] start where
  count := rfl
  listens := by simp [start, newHandle]
  cloned h := by
    obtain ⟨before, hbefore, -⟩ := h
    simp at hbefore
  connected hg hh := by
    have hg := lt_of_sender? hg
    have hh := lt_of_sender? hh
    rw [start, List.length_singleton, Nat.lt_one_iff] at hg hh
    rw [hg, hh]
    exact .refl _
  told n := by cases n <;> simp [start, channel, silent]

theorem waitersAfter_start : WaitersAfter [] start :=
  ⟨rfl, nofun, nofun⟩

section

variable {ts before between : List Step} {t : Step} {g n w : Nat}

/-- **The invariant** holds after every row of steps that is possible. -/
theorem invariant_of_possible (h : Possible ts) :
    HandlesAfter ts (start.after ts) ∧ WaitersAfter ts (start.after ts) := by
  induction h with
  | nil => exact ⟨handlesAfter_start, waitersAfter_start⟩
  | concat hts ht ih =>
    rw [after_concat]
    exact ⟨ih.1.step hts ht, ih.2.step ih.1 ht⟩

theorem sender?_after {s : Shutdown} (hn : s.sender? g = some n) (ts : List Step) :
    (s.after ts).sender? g = some n := by
  induction ts generalizing s with
  | nil => exact hn
  | cons t ts ih => exact ih (sender?_step hn t)

/-- Handles that are not of one family never come to be. -/
theorem sameFamily_append_iff (h : Possible (before ++ between)) (hg : g < handleCount before)
    (hn : n < handleCount before) :
    SameFamily (before ++ between) g n ↔ SameFamily before g n := by
  have hle := List.prefix_append before between
  refine ⟨fun hfamily => ?_, fun hfamily => hfamily.mono hle⟩
  have hs := (invariant_of_possible (h.earlier hle)).1
  obtain ⟨a, ha⟩ := hs.exists_handle hg
  obtain ⟨b, hb⟩ := hs.exists_handle hn
  have ha := sender?_eq_some_iff.mpr ⟨a, ha, rfl⟩
  have hb := sender?_eq_some_iff.mpr ⟨b, hb, rfl⟩
  have hsame := (invariant_of_possible h).1.sender?_eq hfamily
  rw [after_append, sender?_after ha, sender?_after hb, Option.some.injEq] at hsame
  exact hs.connected ha (hsame ▸ hb)

/-- Only what is told to its own family reaches a handle. -/
theorem told_append_iff (h : Possible (before ++ between)) (hn : n < handleCount before)
    (helsewhere : ∀ g, .trigger g ∈ between → ¬ SameFamily (before ++ between) g n) :
    Told (before ++ between) n ↔ Told before n := by
  refine ⟨fun ⟨g, hg, hfamily⟩ => ?_, fun htold => htold.mono (List.prefix_append _ _)⟩
  obtain hg | hg := List.mem_append.mp hg
  · have hlt := (h.earlier (List.prefix_append _ _)).trigger_lt hg
    exact ⟨g, hg, (sameFamily_append_iff h hlt hn).mp hfamily⟩
  · exact absurd hfamily (helsewhere g hg)

/-! ### Answers -/

/-- A step that gives out a number gives the next one. -/
theorem answer_made (h : Possible before) (ht : t.Names before) :
    (t.makesHandle = true → ((start.after before).step t).2 = .handle (handleCount before)) ∧
      (t.makesWaiter = true → ((start.after before).step t).2 = .waiter (waiterCount before)) := by
  obtain ⟨hs, hw⟩ := invariant_of_possible h
  cases t with
  | create => exact ⟨fun _ => congrArg Answer.handle hs.count, nofun⟩
  | clone h =>
    obtain ⟨handle, hh⟩ := hs.exists_handle ht
    simp only [step, hh]
    exact ⟨fun _ => congrArg Answer.handle hs.count, nofun⟩
  | wait h =>
    obtain ⟨handle, hh⟩ := hs.exists_handle ht
    simp only [step, hh]
    exact ⟨nofun, fun _ => congrArg Answer.waiter hw.count⟩
  | trigger h | isTriggered h | poll w => exact ⟨nofun, nofun⟩

/-- **What a handle or a waiter answers** is whether its family has been told. -/
theorem answer_query (h : Possible before) (hquery : t.isQuery = true) (ht : t.Names before)
    (hn : t.Concerns before n) :
    ∃ b, ((start.after before).step t).2 = .state b ∧ (b = true ↔ Told before n) := by
  obtain ⟨hs, hw⟩ := invariant_of_possible h
  cases hn with
  | isTriggered =>
    obtain ⟨handle, hhandle⟩ := hs.exists_handle ht
    refine ⟨((start.after before).channel handle.receiver.channel).value, ?_, ?_⟩
    · simp only [step, hhandle]
    · rw [(hs.listens _ (List.mem_of_getElem? hhandle)).1]
      exact hs.told_iff (sender?_eq_some_iff.mpr ⟨handle, hhandle, rfl⟩)
  | @poll w _ hof =>
    rw [Step.Names, ← hw.count] at ht
    have hv := List.getElem?_eq_getElem ht
    refine ⟨_, by simp only [step, hv]; rfl, ?_⟩
    rw [decide_eq_true_iff, Waiter.finished_poll_iff (hw.knows _ (List.mem_of_getElem? hv))]
    exact hs.told_iff (hw.listens hv hof)
  | clone | trigger | wait => cases hquery

/-- Only questions are answered by a state. -/
theorem isQuery_of_state {s : Shutdown} {b : Bool} (h : (s.step t).2 = .state b) :
    t.isQuery = true := by
  cases t with
  | isTriggered _ | poll _ => rfl
  | create => cases h
  | clone _ | trigger _ | wait _ => simp only [step] at h; split at h <;> cases h

/-- A question that was answered by yes is answered so again. -/
theorem state_true_mono {later : List Step} (h : Possible later) (hbefore : before <+: later)
    (ht : t.Names before) (hstate : ((start.after before).step t).2 = .state true) :
    ((start.after later).step t).2 = .state true := by
  have hquery := isQuery_of_state hstate
  obtain ⟨n, hn⟩ := exists_concerns hquery ht
  obtain ⟨b, hb, hiff⟩ := answer_query (h.earlier hbefore) hquery ht hn
  obtain ⟨b', hb', hiff'⟩ := answer_query h hquery (Step.Names.mono hbefore ht) (hn.mono hbefore)
  obtain rfl : b = true := Answer.state.inj (hb.symm.trans hstate)
  rw [hb', hiff'.mpr ((hiff.mp rfl).mono hbefore)]

/-- A question is answered as if what happened to other families had not been. -/
theorem answer_eq_of_elsewhere (h : Possible (before ++ between)) (hquery : t.isQuery = true)
    (ht : t.Names before) (hn : t.Concerns before n)
    (helsewhere : ∀ u ∈ between, ∀ m, u.Concerns (before ++ between) m →
      ¬ SameFamily (before ++ between) m n) :
    ((start.after (before ++ between)).step t).2 = ((start.after before).step t).2 := by
  have hle := List.prefix_append before between
  have hbefore := h.earlier hle
  have htold : Told (before ++ between) n ↔ Told before n :=
    told_append_iff h (hbefore.concerns_lt ht hn) fun g hg => helsewhere _ hg g (.trigger g)
  obtain ⟨b, hb, hiff⟩ := answer_query hbefore hquery ht hn
  obtain ⟨b', hb', hiff'⟩ := answer_query h hquery (Step.Names.mono hle ht) (hn.mono hle)
  have hsame : b' = b := Bool.eq_iff_iff.mpr (hiff'.trans (htold.trans hiff.symm))
  rw [hb, hb', hsame]

theorem getElem?_run_at {ts : List Step} (h : before ++ [t] <+: ts) :
    (start.run ts)[before.length]? = some ((start.after before).step t).2 := by
  obtain ⟨later, rfl⟩ := h
  rw [List.append_assoc]
  exact getElem?_run start before t later

/-- **Signals over a whole run.** A handle answers whether its family has been told, a waiter
whether the family of its handle has; an answer of yes is never taken back; and what happens to
other families changes no answer. -/
theorem answers_of_possible {ts : List Step} (h : Possible ts) :
    (∀ before n, before ++ [.isTriggered n] <+: ts →
      ∃ b, (start.run ts)[before.length]? = some (.state b) ∧ (b = true ↔ Told before n)) ∧
    (∀ before w, before ++ [.poll w] <+: ts →
      ∃ n b, WaiterOf before w n ∧ (start.run ts)[before.length]? = some (.state b) ∧
        (b = true ↔ Told before n)) ∧
    (∀ before later t, before <+: later → before ++ [t] <+: ts → later ++ [t] <+: ts →
      (start.run ts)[before.length]? = some (.state true) →
      (start.run ts)[later.length]? = some (.state true)) ∧
    ∀ before between t n, before ++ between ++ [t] <+: ts → t.isQuery = true → t.Names before →
      t.Concerns before n →
      (∀ u ∈ between, ∀ m, u.Concerns (before ++ between) m →
        ¬ SameFamily (before ++ between) m n) →
      (start.run ts)[(before ++ between).length]? =
        (start.run (before ++ [t]))[before.length]? := by
  have hpossible : ∀ {before t}, before ++ [t] <+: ts → Possible before := fun hle =>
    h.earlier ((List.prefix_append _ _).trans hle)
  refine ⟨fun before n hn => ?_, fun before w hw => ?_, fun before later t hlater ht ht' => ?_,
    fun before between t n ht hquery hnames hn helsewhere => ?_⟩
  · rw [getElem?_run_at hn]
    obtain ⟨b, hb, hiff⟩ := answer_query (hpossible hn) rfl (h.names hn) (.isTriggered n)
    exact ⟨b, congrArg some hb, hiff⟩
  · rw [getElem?_run_at hw]
    obtain ⟨n, hof⟩ := exists_waiterOf (h.names hw)
    obtain ⟨b, hb, hiff⟩ := answer_query (hpossible hw) rfl (h.names hw) (.poll hof)
    exact ⟨n, b, hof, congrArg some hb, hiff⟩
  · rw [getElem?_run_at ht, getElem?_run_at ht', Option.some.injEq, Option.some.injEq]
    exact state_true_mono (hpossible ht') hlater (h.names ht)
  · rw [getElem?_run_at ht, getElem?_run_at (List.prefix_refl _), Option.some.injEq]
    exact answer_eq_of_elsewhere (hpossible ht) hquery hnames hn helsewhere

/-- A waiter has been told that was made after the trigger, from a clone that was made after it. -/
theorem poll_of_late_clone :
    Possible [.clone 0, .create, .trigger 0, .clone 1, .wait 3, .poll 0] ∧
      (start.run [.clone 0, .create, .trigger 0, .clone 1, .wait 3, .poll 0])[5]? =
        some (.state true) := by
  have h : Possible [.clone 0, .create, .trigger 0, .clone 1, .wait 3, .poll 0] := by decide
  obtain ⟨n, b, hof, hrun, htold⟩ := (answers_of_possible h).2.1
    [.clone 0, .create, .trigger 0, .clone 1, .wait 3] 0 (List.prefix_refl _)
  have hwaiter : WaiterOf [.clone 0, .create, .trigger 0, .clone 1, .wait 3] 0 3 :=
    ⟨[.clone 0, .create, .trigger 0, .clone 1], List.prefix_refl _, rfl⟩
  have hfirst : ClonedFrom [.clone 0, .create, .trigger 0, .clone 1, .wait 3] 0 1 :=
    ⟨[], by decide, rfl⟩
  have hlate : ClonedFrom [.clone 0, .create, .trigger 0, .clone 1, .wait 3] 1 3 :=
    ⟨[.clone 0, .create, .trigger 0], by decide, rfl⟩
  obtain rfl := hof.unique hwaiter
  obtain rfl := htold.mpr ⟨0, by decide, .trans _ _ _ (.rel _ _ hfirst) (.rel _ _ hlate)⟩
  exact ⟨h, hrun⟩

end

end LabelFilter.Shutdown
