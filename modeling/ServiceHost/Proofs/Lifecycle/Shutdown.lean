import Mathlib.Data.List.Induction
import Mathlib.Tactic.Tauto
import ServiceHost.Lifecycle.Shutdown

/-!
This module contains what waiters notice of a coordinator, told from the steps that were taken alone: no trigger
after a subscription is missed, and none before it is noticed.
-/

namespace ServiceHost.Lifecycle

namespace Shutdown

/-- What happens to a coordinator and those who wait. A waiter is named by its place among the subscriptions. -/
inductive Step where
  | subscribe
  | trigger
  | drop
  | leave (index : Nat)
  | poll (index : Nat)
  deriving DecidableEq

def perform (s : Shutdown) : Step → Shutdown
  | .subscribe => s.subscribe
  | .trigger => s.trigger
  | .drop => s.drop
  | .leave index => s.leave index
  | .poll index => (s.poll index).2

def run (steps : List Step) : Shutdown :=
  steps.foldl perform .new

theorem run_concat (steps : List Step) (step : Step) : run (steps ++ [step]) = (run steps).perform step := by
  unfold run
  rw [List.foldl_append, List.foldl_cons, List.foldl_nil]

/-! The following is about the steps alone. -/

/-- The steps after the subscription of a waiter. Nobody subscribes after the coordinator was dropped. -/
def since? : Nat → List Step → Option (List Step)
  | _, [] => none
  | _, .drop :: _ => none
  | 0, .subscribe :: rest => some rest
  | index + 1, .subscribe :: rest => since? index rest
  | index, _ :: rest => since? index rest

/-- A waiter that subscribed, did not leave since, and did not resolve at any poll so far. -/
structure Lives (index : Nat) (steps : List Step) : Prop where
  subscribed : (since? index steps).isSome = true
  notMem_leave : ∀ rest, since? index steps = some rest → .leave index ∉ rest
  unresolved : ∀ before after, steps = before ++ .poll index :: after → ((run before).poll index).1 ≠ some true

def Signalled (steps : List Step) : Prop :=
  .trigger ∈ steps ∨ .drop ∈ steps

instance (steps : List Step) : Decidable (Signalled steps) :=
  inferInstanceAs (Decidable (_ ∨ _))

structure Stays (index : Nat) (steps : List Step) : Prop where
  notMem_leave : .leave index ∉ steps
  not_signalled : ∀ before after, steps = before ++ .poll index :: after → ¬ Signalled before

theorem signalled_concat_iff (steps : List Step) (step : Step) :
    Signalled (steps ++ [step]) ↔ Signalled steps ∨ step = .trigger ∨ step = .drop := by
  unfold Signalled
  simp only [List.mem_append, List.mem_singleton]
  tauto

theorem stays_nil (index : Nat) : Stays index [] :=
  ⟨List.not_mem_nil, fun before after h => by simp at h⟩

theorem stays_of_not_signalled {index : Nat} {steps : List Step} (hleave : .leave index ∉ steps)
    (hquiet : ¬ Signalled steps) : Stays index steps := by
  refine ⟨hleave, ?_⟩
  rintro before after rfl hsignal
  exact hquiet (hsignal.imp (List.mem_append_left _) (List.mem_append_left _))

theorem forall_front_concat_iff {holds : List Step → Prop} (steps : List Step) (step last : Step) :
    (∀ before after, steps ++ [last] = before ++ step :: after → holds before)
      ↔
    (∀ before after, steps = before ++ step :: after → holds before) ∧ (last = step → holds steps) := by
  constructor
  . intro h
    constructor
    . intro before after heq
      exact h before (after ++ [last]) (by rw [heq, List.append_assoc, List.cons_append])
    . rintro rfl
      exact h steps [] rfl
  . rintro ⟨hsteps, hlast⟩ before after heq
    cases after using List.reverseRecOn with
    | nil =>
      obtain ⟨rfl, hstep⟩ := List.append_inj' heq rfl
      exact hlast (List.singleton_inj.mp hstep)
    | append_singleton after other =>
      rw [← List.cons_append, ← List.append_assoc] at heq
      exact hsteps before after (List.append_inj' heq rfl).1

theorem stays_concat_iff (index : Nat) (steps : List Step) (step : Step) :
    Stays index (steps ++ [step])
      ↔
    Stays index steps ∧ step ≠ .leave index ∧ (step = .poll index → ¬ Signalled steps) := by
  constructor
  . rintro ⟨hleave, hpoll⟩
    rw [List.mem_append, not_or, List.mem_singleton] at hleave
    rw [forall_front_concat_iff] at hpoll
    exact ⟨⟨hleave.1, hpoll.1⟩, Ne.symm hleave.2, hpoll.2⟩
  . rintro ⟨⟨hleave, hpoll⟩, hne, hlast⟩
    refine ⟨?_, (forall_front_concat_iff ..).mpr ⟨hpoll, hlast⟩⟩
    rw [List.mem_append, not_or, List.mem_singleton]
    exact ⟨hleave, Ne.symm hne⟩

theorem since?_concat (index : Nat) (steps : List Step) (step : Step) :
    since? index (steps ++ [step])
      =
    match since? index steps with
    | some rest => some (rest ++ [step])
    | none => if step = .subscribe ∧ .drop ∉ steps ∧ steps.count .subscribe = index then some [] else none := by
  -- the induction is on the first step: a subscription there leaves one place less to go
  induction steps generalizing index with
  | nil =>
    cases step <;> cases index <;> simp [since?]
  | cons first steps ih =>
    cases first with
    | subscribe =>
      cases index with
      | zero => simp [since?]
      | succ index => simpa [since?] using ih index
    | drop => simp [since?]
    | trigger => simpa [since?] using ih index
    | leave other => simpa [since?] using ih index
    | poll other => simpa [since?] using ih index

/-! The following is about the channel. -/

theorem poll_of_gone {s : Shutdown} {index : Nat} (h : s.channel.receivers[index]?.join = none) :
    s.poll index = (none, s) := by
  have hreceive : s.channel.receive index = none := by
    unfold Broadcast.receive
    cases hget : s.channel.receivers[index]? with
    | none => rfl
    | some waiter =>
      rw [hget] at h
      cases h
      rfl
  unfold poll
  rw [hreceive]

theorem receive_of_waiting {channel : Broadcast} {index next : Nat}
    (h : channel.receivers[index]? = some (some next)) :
    channel.receive index
      =
    some ((channel.reception next).1,
      { channel with receivers := channel.receivers.set index (some (channel.reception next).2) }) := by
  unfold Broadcast.receive
  rw [h]
  rfl

theorem reception_of_idle {channel : Broadcast} {next : Nat} (h : next = channel.sent ∧ channel.closed = false) :
    channel.reception next = (.empty, next) := by
  unfold Broadcast.reception
  rw [if_pos h.1, h.2]
  rfl

theorem reception_ne_empty {channel : Broadcast} {next : Nat} (h : ¬ (next = channel.sent ∧ channel.closed = false)) :
    (channel.reception next).1 ≠ .empty := by
  unfold Broadcast.reception
  split
  . next heq =>
    rw [not_and, Bool.not_eq_false] at h
    rw [h heq]
    simp
  . split <;> simp

theorem poll_of_waiting {s : Shutdown} {index next : Nat} (h : s.channel.receivers[index]? = some (some next)) :
    s.poll index
      =
    if next = s.channel.sent ∧ s.channel.closed = false then (some false, s) else (some true, s.leave index) := by
  unfold poll
  rw [receive_of_waiting h]
  by_cases hidle : next = s.channel.sent ∧ s.channel.closed = false
  . have hset : s.channel.receivers.set index (some next) = s.channel.receivers := by
      obtain ⟨hlt, hget⟩ := List.getElem?_eq_some_iff.mp h
      rw [← hget, List.set_getElem_self]
    rw [if_pos hidle, reception_of_idle hidle, hset]
  . rw [if_neg hidle]
    have hne := reception_ne_empty hidle
    unfold leave Broadcast.leave
    generalize s.channel.reception next = received at hne
    obtain ⟨reception, position⟩ := received
    cases reception with
    | empty => contradiction
    | message => simp only [List.set_set]
    | lagged missed => simp only [List.set_set]
    | closed => simp only [List.set_set]

theorem poll_state (s : Shutdown) (index : Nat) : (s.poll index).2 = s ∨ (s.poll index).2 = s.leave index := by
  cases h : s.channel.receivers[index]? with
  | none => exact .inl (by rw [poll_of_gone (by rw [h]; rfl)])
  | some waiter =>
    cases waiter with
    | none => exact .inl (by rw [poll_of_gone (by rw [h]; rfl)])
    | some next =>
      rw [poll_of_waiting h]
      split
      . exact .inl rfl
      . exact .inr rfl

theorem receivers_leave (channel : Broadcast) (left index : Nat) :
    (channel.leave left).receivers[index]?
      =
    if left = index then channel.receivers[index]?.map fun _ => none else channel.receivers[index]? := by
  unfold Broadcast.leave
  rw [List.getElem?_set']
  split
  . next heq =>
    subst heq
    rfl
  . rfl

theorem receivers_subscribe {channel : Broadcast} {index : Nat} {waiter : Option Nat}
    (h : channel.receivers[index]? = some waiter) : channel.subscribe.receivers[index]? = some waiter := by
  unfold Broadcast.subscribe
  rw [List.getElem?_append_left (List.getElem?_eq_some_iff.mp h).1]
  exact h

theorem receivers_send (channel : Broadcast) : channel.send.receivers = channel.receivers := by
  unfold Broadcast.send
  split <;> rfl

theorem send_of_waiting {channel : Broadcast} {index next : Nat} (h : channel.receivers[index]? = some (some next)) :
    channel.send = { channel with sent := channel.sent + 1 } := by
  unfold Broadcast.send
  rw [if_neg]
  unfold Broadcast.count
  rw [List.countP_eq_zero]
  intro hnone
  exact hnone _ (List.mem_of_getElem? h) rfl

theorem perform_of_gone {s : Shutdown} {index : Nat} (h : s.channel.receivers[index]? = some none) (step : Step) :
    (s.perform step).channel.receivers[index]? = some none := by
  have hleave : ∀ left, (s.leave left).channel.receivers[index]? = some none := by
    intro left
    unfold leave
    rw [receivers_leave, h]
    split <;> rfl
  cases step with
  | subscribe =>
    rw [perform, subscribe]
    split
    . exact h
    . exact receivers_subscribe h
  | trigger =>
    rw [perform, trigger]
    split
    . exact h
    . exact (congrArg (·[index]?) (receivers_send s.channel)).trans h
  | drop => exact h
  | leave left => exact hleave left
  | poll polled =>
    rw [perform]
    cases poll_state s polled with
    | inl heq =>
      rw [heq]
      exact h
    | inr heq =>
      rw [heq]
      exact hleave polled

def Shows (channel : Broadcast) (index : Nat) (steps : List Step) : Option Nat → Prop
  | none => ¬ Stays index steps
  | some next =>
    Stays index steps ∧ next ≤ channel.sent ∧ (next < channel.sent ∨ channel.closed = true ↔ Signalled steps)

def Follows (s : Shutdown) (index : Nat) (steps : List Step) : Prop :=
  ∃ waiter, s.channel.receivers[index]? = some waiter ∧ Shows s.channel index steps waiter

theorem Follows.leave_of_ne {s : Shutdown} {index left : Nat} {steps : List Step} (h : Follows s index steps)
    (hne : left ≠ index) : Follows (s.leave left) index steps := by
  obtain ⟨waiter, hget, hshows⟩ := h
  refine ⟨waiter, ?_, hshows⟩
  unfold Shutdown.leave
  rw [receivers_leave, if_neg hne]
  exact hget

theorem follows_leave {s : Shutdown} {index : Nat} {steps : List Step} {waiter : Option Nat}
    (h : s.channel.receivers[index]? = some waiter) (hstays : ¬ Stays index steps) :
    Follows (s.leave index) index steps := by
  refine ⟨none, ?_, hstays⟩
  unfold Shutdown.leave
  rw [receivers_leave, if_pos rfl, h]
  rfl

theorem follows_poll {s : Shutdown} {index next : Nat} {steps : List Step}
    (hget : s.channel.receivers[index]? = some (some next)) (hshows : Shows s.channel index steps (some next))
    (polled : Nat) : Follows (s.perform (.poll polled)) index (steps ++ [.poll polled]) := by
  obtain ⟨hstays, hle, hsignal⟩ := hshows
  have hconcat := stays_concat_iff index steps (.poll polled)
  have hstill : Signalled (steps ++ [.poll polled]) ↔ Signalled steps := by simp [signalled_concat_iff]
  rw [perform]
  by_cases heq : polled = index
  . subst heq
    rw [poll_of_waiting hget]
    split
    . next hidle =>
      have hnone : ¬ Signalled steps := by
        rw [← hsignal, hidle.1, hidle.2]
        simp
      exact ⟨_, hget, by simp [hconcat, hstays, hnone], hle, hsignal.trans hstill.symm⟩
    . next hbusy =>
      have hsome : Signalled steps := by
        rw [← hsignal]
        rcases Nat.lt_or_eq_of_le hle with hlt | heq
        . exact .inl hlt
        . exact .inr (by simpa [heq] using hbusy)
      apply follows_leave hget
      simp [hconcat, hsome]
  . -- the poll of another waiter takes that one away at most
    have hkept : Follows s index (steps ++ [.poll polled]) :=
      ⟨_, hget, by simp [hconcat, hstays, heq], hle, hsignal.trans hstill.symm⟩
    cases poll_state s polled with
    | inl hsame =>
      rw [hsame]
      exact hkept
    | inr hleft =>
      rw [hleft]
      exact hkept.leave_of_ne heq

theorem Follows.perform {s : Shutdown} {index : Nat} {steps : List Step} (h : Follows s index steps) (step : Step) :
    Follows (s.perform step) index (steps ++ [step]) := by
  obtain ⟨waiter, hget, hshows⟩ := h
  cases waiter with
  | none =>
    refine ⟨none, perform_of_gone hget step, ?_⟩
    intro hstays
    rw [stays_concat_iff] at hstays
    exact hshows hstays.1
  | some next =>
    obtain ⟨hstays, hle, hsignal⟩ := hshows
    have hconcat := stays_concat_iff index steps step
    have hsignalled := signalled_concat_iff steps step
    cases step with
    | subscribe =>
      have hkept : Shows s.channel index (steps ++ [.subscribe]) (some next) := by
        refine ⟨by simp [hconcat, hstays], hle, ?_⟩
        rw [hsignalled, hsignal]
        simp
      rw [Shutdown.perform, subscribe]
      split
      . exact ⟨_, hget, hkept⟩
      . exact ⟨_, receivers_subscribe hget, hkept⟩
    | trigger =>
      have hnow : Stays index (steps ++ [.trigger]) := by simp [hconcat, hstays]
      rw [Shutdown.perform, trigger]
      split
      . next hclosed => exact ⟨_, hget, hnow, hle, by simp [hsignalled, hclosed]⟩
      . -- the waiter itself is a receiver, so the message is not dropped
        rw [send_of_waiting hget]
        exact ⟨_, hget, hnow, Nat.le_succ_of_le hle, by simp [hsignalled, Nat.lt_succ_of_le hle]⟩
    | drop =>
      refine ⟨_, hget, by simp [hconcat, hstays], hle, ?_⟩
      simp [hsignalled, Shutdown.perform, Shutdown.drop, Broadcast.close]
    | leave left =>
      by_cases heq : left = index
      . subst heq
        apply follows_leave hget
        simp [hconcat]
      . apply Follows.leave_of_ne _ heq
        refine ⟨_, hget, by simp [hconcat, hstays, heq], hle, ?_⟩
        rw [hsignalled, hsignal]
        simp
    | poll polled => exact follows_poll hget ⟨hstays, hle, hsignal⟩ polled

structure Reflects (steps : List Step) (s : Shutdown) : Prop where
  closed_iff : s.channel.closed = true ↔ .drop ∈ steps
  length_eq : .drop ∉ steps → s.channel.receivers.length = steps.count .subscribe
  absent : ∀ index, since? index steps = none → s.channel.receivers[index]? = none
  follows : ∀ index rest, since? index steps = some rest → Follows s index rest

theorem follows_subscribe {s : Shutdown} (hopen : s.channel.closed = false) :
    Follows (s.perform .subscribe) s.channel.receivers.length [] := by
  rw [perform, subscribe, hopen, if_neg Bool.false_ne_true]
  refine ⟨some s.channel.sent, List.getElem?_concat_length, stays_nil _, Nat.le_refl _, ?_⟩
  simp [Broadcast.subscribe, hopen, Signalled]

theorem closed_perform (s : Shutdown) (step : Step) :
    (s.perform step).channel.closed = true ↔ s.channel.closed = true ∨ step = .drop := by
  cases step with
  | subscribe =>
    rw [perform, subscribe]
    split <;> simp [Broadcast.subscribe]
  | trigger =>
    rw [perform, trigger, Broadcast.send]
    split
    . simp
    . split <;> simp
  | drop => simp [perform, drop, Broadcast.close]
  | leave left => simp [perform, leave, Broadcast.leave]
  | poll polled =>
    rw [perform]
    cases poll_state s polled with
    | inl heq => simp [heq]
    | inr heq => simp [heq, leave, Broadcast.leave]

theorem length_perform (s : Shutdown) (step : Step) :
    (s.perform step).channel.receivers.length
      =
    if step = .subscribe ∧ s.channel.closed = false then s.channel.receivers.length + 1
    else s.channel.receivers.length := by
  cases step with
  | subscribe =>
    rw [perform, subscribe]
    split
    . next hclosed => simp [hclosed]
    . next hopen => simp [hopen, Broadcast.subscribe]
  | trigger =>
    rw [perform, trigger]
    split
    . rfl
    . simp [receivers_send]
  | drop => rfl
  | leave left => simp [perform, leave, Broadcast.leave]
  | poll polled =>
    rw [perform]
    cases poll_state s polled with
    | inl heq => simp [heq]
    | inr heq => simp [heq, leave, Broadcast.leave]

theorem Reflects.perform {steps : List Step} {s : Shutdown} (h : Reflects steps s) (step : Step) :
    Reflects (steps ++ [step]) (s.perform step) := by
  have hopen : s.channel.closed = false ↔ .drop ∉ steps := by
    rw [← h.closed_iff, Bool.not_eq_true]
  refine ⟨?_, ?_, ?_, ?_⟩
  . rw [closed_perform, h.closed_iff, List.mem_append, List.mem_singleton]
    exact or_congr_right eq_comm
  . intro hdrop
    rw [List.mem_append, not_or] at hdrop
    rw [length_perform, h.length_eq hdrop.1, List.count_append]
    simp only [hopen, hdrop.1, not_false_eq_true, and_true]
    split
    . next heq => simp [heq]
    . next hne => simp [hne]
  . intro index hnone
    rw [since?_concat] at hnone
    cases hsince : since? index steps with
    | some rest =>
      rw [hsince] at hnone
      cases hnone
    | none =>
      simp only [hsince, ite_eq_right_iff, reduceCtorEq, imp_false] at hnone
      have hlength := List.getElem?_eq_none_iff.mp (h.absent index hsince)
      rw [List.getElem?_eq_none_iff, length_perform]
      split
      . next hnew =>
        have hdrop := hopen.mp hnew.2
        have hcount := h.length_eq hdrop
        have hne : steps.count .subscribe ≠ index := fun heq => hnone ⟨hnew.1, hdrop, heq⟩
        omega
      . exact hlength
  . intro index rest hsome
    rw [since?_concat] at hsome
    cases hsince : since? index steps with
    | some earlier =>
      rw [hsince] at hsome
      cases hsome
      exact (h.follows index earlier hsince).perform step
    | none =>
      simp only [hsince, Option.ite_none_right_eq_some] at hsome
      obtain ⟨⟨rfl, hdrop, rfl⟩, heq⟩ := hsome
      cases heq
      rw [← h.length_eq hdrop]
      exact follows_subscribe (hopen.mpr hdrop)

theorem reflects_run (steps : List Step) : Reflects steps (run steps) := by
  induction steps using List.reverseRecOn with
  | nil =>
    refine ⟨?_, fun _ => rfl, fun _ _ => rfl, ?_⟩
    . simp [run, new, Broadcast.new]
    . intro index rest hsome
      simp [since?] at hsome
  | append_singleton steps step ih =>
    rw [run_concat]
    exact ih.perform step

theorem Follows.poll_eq {s : Shutdown} {index : Nat} {steps : List Step} (h : Follows s index steps)
    (hstays : Stays index steps) : (s.poll index).1 = some (decide (Signalled steps)) := by
  obtain ⟨waiter, hget, hshows⟩ := h
  cases waiter with
  | none => exact absurd hstays hshows
  | some next =>
    obtain ⟨_, hle, hsignal⟩ := hshows
    have hidle : next = s.channel.sent ∧ s.channel.closed = false ↔ ¬ Signalled steps := by
      rw [← hsignal, not_or, Bool.not_eq_true, Nat.not_lt]
      exact and_congr_left fun _ => ⟨fun heq => Nat.le_of_eq heq.symm, Nat.le_antisymm hle⟩
    rw [poll_of_waiting hget]
    split
    . next hwaits => rw [decide_eq_false (hidle.mp hwaits)]
    . next hbusy => rw [decide_eq_true (not_not.mp (mt hidle.mpr hbusy))]

theorem Reflects.poll_of_gone {s : Shutdown} {index : Nat} {steps : List Step} (h : Reflects steps s)
    (hgone : ∀ rest, since? index steps = some rest → ¬ Stays index rest) : (s.poll index).1 = none := by
  rw [Shutdown.poll_of_gone]
  cases hsince : since? index steps with
  | none =>
    rw [h.absent index hsince]
    rfl
  | some rest =>
    obtain ⟨waiter, hget, hshows⟩ := h.follows index rest hsince
    cases waiter with
    | none =>
      rw [hget]
      rfl
    | some next => exact absurd hshows.1 (hgone rest hsince)

theorem Reflects.waits_iff {s : Shutdown} {steps : List Step} (h : Reflects steps s) (index : Nat) :
    (∃ next, s.channel.receivers[index]? = some (some next))
      ↔
    ∃ rest, since? index steps = some rest ∧ Stays index rest := by
  constructor
  . rintro ⟨next, hget⟩
    cases hsince : since? index steps with
    | none =>
      rw [h.absent index hsince] at hget
      cases hget
    | some rest =>
      obtain ⟨waiter, hget', hshows⟩ := h.follows index rest hsince
      rw [hget] at hget'
      cases hget'
      exact ⟨rest, rfl, hshows.1⟩
  . rintro ⟨rest, hsince, hstays⟩
    obtain ⟨waiter, hget, hshows⟩ := h.follows index rest hsince
    cases waiter with
    | none => exact absurd hstays hshows
    | some next => exact ⟨next, hget⟩

theorem since?_append {index : Nat} {steps rest : List Step} (h : since? index steps = some rest)
    (more : List Step) : since? index (steps ++ more) = some (rest ++ more) := by
  induction more using List.reverseRecOn with
  | nil => rw [List.append_nil, List.append_nil, h]
  | append_singleton more step ih =>
    rw [← List.append_assoc, since?_concat, ih]
    exact congrArg some (List.append_assoc ..)

theorem unresolved_of_not_subscribed {index : Nat} {steps : List Step} (h : since? index steps = none) :
    ∀ before after, steps = before ++ .poll index :: after → ((run before).poll index).1 ≠ some true := by
  rintro before after rfl
  have hbefore : since? index before = none := by
    cases hsince : since? index before with
    | none => rfl
    | some rest =>
      rw [since?_append hsince] at h
      cases h
  rw [(reflects_run before).poll_of_gone fun rest hrest => by rw [hbefore] at hrest; cases hrest]
  simp

theorem lives_concat_iff {index : Nat} {steps rest : List Step} (h : since? index steps = some rest) (step : Step) :
    Lives index (steps ++ [step])
      ↔
    Lives index steps ∧ step ≠ .leave index ∧ (step = .poll index → ((run steps).poll index).1 ≠ some true) := by
  have hconcat : since? index (steps ++ [step]) = some (rest ++ [step]) := since?_append h [step]
  constructor
  . rintro ⟨_, hleave, hpolls⟩
    rw [forall_front_concat_iff] at hpolls
    have hkept := hleave _ hconcat
    rw [List.mem_append, not_or, List.mem_singleton] at hkept
    refine ⟨⟨by rw [h]; rfl, ?_, hpolls.1⟩, Ne.symm hkept.2, hpolls.2⟩
    intro earlier hearlier
    rw [h] at hearlier
    cases hearlier
    exact hkept.1
  . rintro ⟨hlives, hne, hlast⟩
    refine ⟨by rw [hconcat]; rfl, ?_, (forall_front_concat_iff ..).mpr ⟨hlives.unresolved, hlast⟩⟩
    intro later hlater
    rw [hconcat] at hlater
    cases hlater
    rw [List.mem_append, not_or, List.mem_singleton]
    exact ⟨hlives.notMem_leave rest h, Ne.symm hne⟩

theorem lives_subscribe {index : Nat} {steps : List Step} (h : since? index steps = none)
    (hnew : since? index (steps ++ [.subscribe]) = some []) : Lives index (steps ++ [.subscribe]) := by
  refine ⟨by rw [hnew]; rfl, ?_, ?_⟩
  . intro rest hrest
    rw [hnew] at hrest
    cases hrest
    exact List.not_mem_nil
  . rw [forall_front_concat_iff]
    exact ⟨unresolved_of_not_subscribed h, fun hpoll => by cases hpoll⟩

theorem lives_iff (index : Nat) (steps : List Step) :
    Lives index steps ↔ ∃ rest, since? index steps = some rest ∧ Stays index rest := by
  induction steps using List.reverseRecOn with
  | nil =>
    constructor
    . intro hlives
      simpa [since?] using hlives.subscribed
    . rintro ⟨rest, hrest, _⟩
      simp [since?] at hrest
  | append_singleton steps step ih =>
    have hconcat := since?_concat index steps step
    cases hsince : since? index steps with
    | none =>
      simp only [hsince] at hconcat
      constructor
      . intro hlives
        have hsubscribed := hlives.subscribed
        rw [hconcat, Option.isSome_ite] at hsubscribed
        rw [if_pos hsubscribed] at hconcat
        exact ⟨[], hconcat, stays_nil index⟩
      . rintro ⟨rest, hrest, _⟩
        rw [hconcat, Option.ite_none_right_eq_some] at hrest
        obtain ⟨hnew, _⟩ := hrest
        rw [if_pos hnew, hnew.1] at hconcat
        rw [hnew.1]
        exact lives_subscribe hsince hconcat
    | some rest =>
      simp only [hsince] at hconcat
      have hpoll := ((reflects_run steps).follows index rest hsince).poll_eq
      rw [lives_concat_iff hsince, ih, hsince, hconcat]
      simp only [Option.some.injEq, exists_eq_left', stays_concat_iff]
      -- where the waiter stays, its answer tells whether there was a signal
      refine and_congr_right fun hstays => and_congr_right fun _ => imp_congr_right fun _ => ?_
      rw [hpoll hstays, ne_eq, Option.some.injEq, decide_eq_true_iff]

theorem exists_places (channel : Broadcast) :
    ∃ places : List Nat,
      places.Nodup
        ∧
      (∀ index, index ∈ places ↔ ∃ next, channel.receivers[index]? = some (some next))
        ∧
      places.length = channel.count := by
  refine ⟨(channel.receivers.zipIdx.filter (·.1.isSome)).map (·.2), ?_, ?_, ?_⟩
  . have hsublist :=
      (List.filter_sublist (p := fun waiter => waiter.1.isSome) (l := channel.receivers.zipIdx)).map (·.2)
    rw [List.zipIdx_map_snd] at hsublist
    exact hsublist.nodup List.nodup_range'
  . intro index
    simp [List.mem_zipIdx_iff_getElem?, Option.isSome_iff_exists]
  . unfold Broadcast.count
    rw [List.length_map, ← List.countP_eq_length_filter]
    nth_rewrite 2 [← List.zipIdx_map_fst 0 channel.receivers]
    rw [List.countP_map]
    rfl

theorem since?_split {before : List Step} (h : .drop ∉ before) (after : List Step) :
    since? (before.count .subscribe) (before ++ .subscribe :: after) = some after := by
  induction before with
  | nil => rfl
  | cons step before ih =>
    rw [List.mem_cons, not_or] at h
    cases step with
    | subscribe => simpa [since?] using ih h.2
    | drop => exact absurd rfl h.1
    | trigger => simpa [since?] using ih h.2
    | leave left => simpa [since?] using ih h.2
    | poll polled => simpa [since?] using ih h.2

theorem mem_drop_iff {index : Nat} {steps rest : List Step} (h : since? index steps = some rest) :
    .drop ∈ rest ↔ .drop ∈ steps := by
  induction steps generalizing index with
  | nil => simp [since?] at h
  | cons step steps ih =>
    cases step with
    | subscribe => cases index with
      | zero =>
        cases h
        simp
      | succ index => simpa using ih h
    | drop => simp [since?] at h
    | trigger => simpa using ih (by simpa [since?] using h)
    | leave left => simpa using ih (by simpa [since?] using h)
    | poll polled => simpa using ih (by simpa [since?] using h)

/--
Whatever happened before, whoever lives resolves when polled if there was a trigger since the subscription or the
coordinator was dropped, and is pending if not; nobody else answers. There are as many receivers as live. So a
trigger after the subscription is never missed, whatever else happens, and an earlier one never noticed.
-/
theorem signals_reach_waiters (steps : List Step) :
    (∀ index, Lives index steps → ∃ rest,
      since? index steps = some rest
        ∧
      ((run steps).poll index).1 = some (decide (.trigger ∈ rest ∨ .drop ∈ steps)))
      ∧
    (∀ index, ¬ Lives index steps → ((run steps).poll index).1 = none)
      ∧
    (.drop ∉ steps → ∃ waiters : List Nat,
      waiters.Nodup
        ∧
      (∀ index, index ∈ waiters ↔ Lives index steps)
        ∧
      (run steps).receivers? = some waiters.length)
      ∧
    ∀ before after, steps = before ++ .subscribe :: after → .drop ∉ before →
      (Lives (before.count .subscribe) steps → .trigger ∈ after →
        ((run steps).poll (before.count .subscribe)).1 = some true)
        ∧
      (.trigger ∉ after → .drop ∉ after → .leave (before.count .subscribe) ∉ after →
        ((run steps).poll (before.count .subscribe)).1 = some false) := by
  have hreflects := reflects_run steps
  have hlive : ∀ index, Lives index steps → ∃ rest,
      since? index steps = some rest
        ∧
      ((run steps).poll index).1 = some (decide (.trigger ∈ rest ∨ .drop ∈ steps)) := by
    intro index hlives
    obtain ⟨rest, hsince, hstays⟩ := (lives_iff index steps).mp hlives
    refine ⟨rest, hsince, ?_⟩
    rw [(hreflects.follows index rest hsince).poll_eq hstays]
    simp only [Signalled, mem_drop_iff hsince]
  refine ⟨hlive, ?_, ?_, ?_⟩
  . intro index hgone
    apply hreflects.poll_of_gone
    intro rest hsince hstays
    exact hgone ((lives_iff index steps).mpr ⟨rest, hsince, hstays⟩)
  . intro hdrop
    obtain ⟨waiters, hnodup, hmem, hlength⟩ := exists_places (run steps).channel
    refine ⟨waiters, hnodup, ?_, ?_⟩
    . intro index
      rw [hmem, lives_iff, hreflects.waits_iff]
    . unfold receivers?
      rw [if_neg (mt hreflects.closed_iff.mp hdrop), hlength]
  . rintro before after rfl hdrop
    have hsince := since?_split hdrop after
    constructor
    . intro hlives htrigger
      obtain ⟨rest, hrest, hpoll⟩ := hlive _ hlives
      rw [hsince] at hrest
      cases hrest
      rw [hpoll, decide_eq_true (.inl htrigger)]
    . intro htrigger hkept hleave
      have hquiet : ¬ Signalled after := not_or.mpr ⟨htrigger, hkept⟩
      have hstays := stays_of_not_signalled hleave hquiet
      rw [(hreflects.follows _ after hsince).poll_eq hstays, decide_eq_false hquiet]

theorem signals_reach_waiters_of_twoTriggers :
    .drop ∉ [Step.subscribe, .trigger, .trigger, .subscribe]
      ∧
    Lives 0 [.subscribe, .trigger, .trigger, .subscribe]
      ∧
    ((run [.subscribe, .trigger, .trigger, .subscribe]).poll 0).1 = some true
      ∧
    ((run [.subscribe, .trigger, .trigger, .subscribe]).poll 1).1 = some false
      ∧
    ((run [.subscribe, .trigger, .trigger, .subscribe]).poll 2).1 = none
      ∧
    ∃ waiters : List Nat,
      (∀ index, index ∈ waiters ↔ Lives index [.subscribe, .trigger, .trigger, .subscribe])
        ∧
      (run [.subscribe, .trigger, .trigger, .subscribe]).receivers? = some waiters.length := by
  obtain ⟨_, hgone, hcount, hsplit⟩ := signals_reach_waiters [.subscribe, .trigger, .trigger, .subscribe]
  have hlives : Lives 0 [.subscribe, .trigger, .trigger, .subscribe] := by
    refine (lives_iff ..).mpr ⟨[.trigger, .trigger, .subscribe], rfl, by decide, ?_⟩
    intro before after heq
    have hmem : Step.poll 0 ∈ [Step.trigger, .trigger, .subscribe] := by simp [heq]
    exact absurd hmem (by decide)
  obtain ⟨waiters, _, hwaiters, hlength⟩ := hcount (by decide)
  refine ⟨by decide, hlives, ?_, ?_, ?_, waiters, hwaiters, hlength⟩
  . exact (hsplit [] _ rfl (by decide)).1 hlives (by decide)
  . exact (hsplit [.subscribe, .trigger, .trigger] [] rfl (by decide)).2 (by decide) (by decide) (by decide)
  . exact hgone 2 fun h => absurd h.subscribed (by decide)

end Shutdown

end ServiceHost.Lifecycle
