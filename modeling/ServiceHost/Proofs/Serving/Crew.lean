import ServiceHost.Proofs.Lifecycle.Shutdown
import ServiceHost.Serving.Crew

/-!
This module contains what some events make of the tasks of the connectors: which of them still run, and which
have not noticed that they were called.
-/

namespace ServiceHost.Serving

variable {σ : Type}

namespace Event

def finished? : Event σ → Option Nat
  | finish connector _ => some connector
  | _ => none

def noticed? : Event σ → Option Nat
  | notice connector => some connector
  | _ => none

inductive Ends (n : Nat) : Event σ → Ending → Prop where
  | shutdown : Ends n .shutdown .shutdown
  | returned {connector : Nat} : connector < n → Ends n (.finish connector (.ok ())) .connectorReturned
  | failed {connector : Nat} {reason : String} :
    connector < n → Ends n (.finish connector (.error reason)) (.connectorFailed reason)

end Event

namespace Crew

def after (crew : Crew) (events : List (Event σ)) : Crew :=
  events.foldl (fun crew event => event.applyTo crew) crew

@[simp]
theorem after_nil (crew : Crew) : crew.after ([] : List (Event σ)) = crew := by
  rfl

@[simp]
theorem after_cons (crew : Crew) (event : Event σ) (events : List (Event σ)) :
    crew.after (event :: events) = (event.applyTo crew).after events := by
  rfl

theorem running_spawn (n : Nat) : (spawn n).running = List.range n := by
  induction n with
  | zero => rfl
  | succ n ih => rw [List.range_succ, ← ih, spawn]

theorem running_applyTo (crew : Crew) (event : Event σ) :
    (event.applyTo crew).running = event.finished?.elim crew.running crew.running.erase := by
  cases event <;> rfl

theorem mem_running_after {crew : Crew} (hnodup : crew.running.Nodup) (events : List (Event σ)) (i : Nat) :
    i ∈ (crew.after events).running ↔ i ∈ crew.running ∧ i ∉ events.filterMap Event.finished? := by
  induction events generalizing crew with
  | nil => simp
  | cons event events ih =>
    rw [after_cons]
    cases hfinished : event.finished? with
    | none =>
      have hsame : (event.applyTo crew).running = crew.running := by
        rw [running_applyTo, hfinished, Option.elim_none]
      rw [ih (hsame ▸ hnodup), hsame, List.filterMap_cons_none hfinished]
    | some connector =>
      have herase : (event.applyTo crew).running = crew.running.erase connector := by
        rw [running_applyTo, hfinished, Option.elim_some]
      rw [ih (herase ▸ hnodup.erase connector), herase, hnodup.mem_erase_iff, List.filterMap_cons_some hfinished]
      simp only [List.mem_cons, not_or, ne_eq]
      grind

theorem nodup_running_after (n : Nat) (events : List (Event σ)) : ((spawn n).after events).running.Nodup := by
  suffices ∀ crew : Crew, crew.running.Nodup → (crew.after events).running.Nodup by
    apply this
    rw [running_spawn]
    exact List.nodup_range
  induction events with
  | nil => exact fun _ h => h
  | cons event events ih =>
    intro crew h
    rw [after_cons]
    apply ih
    rw [running_applyTo]
    cases event.finished? with
    | none => exact h
    | some connector => exact h.erase connector

theorem mem_running_spawn_after (n : Nat) (events : List (Event σ)) (i : Nat) :
    i ∈ ((spawn n).after events).running ↔ i < n ∧ i ∉ events.filterMap Event.finished? := by
  have hnodup : (spawn n).running.Nodup := by
    rw [running_spawn]
    exact List.nodup_range
  rw [mem_running_after hnodup, running_spawn, List.mem_range]

theorem channel_spawn (n : Nat) : (spawn n).coordinator.channel = ⟨1, 0, false, List.replicate n (some 0)⟩ := by
  induction n with
  | zero => rfl
  | succ n ih =>
    rw [spawn, Lifecycle.Shutdown.subscribe, ih]
    unfold Lifecycle.Broadcast.subscribe
    simp [List.replicate_succ']

theorem coordinator_applyTo (crew : Crew) (event : Event σ) :
    (event.applyTo crew).coordinator
      =
    event.noticed?.elim crew.coordinator fun connector => (crew.coordinator.poll connector).2 := by
  cases event <;> rfl

theorem coordinator_spawn_after (n : Nat) (events : List (Event σ)) :
    ((spawn n).after events).coordinator = (spawn n).coordinator := by
  have hpoll (connector : Nat) : ((spawn n).coordinator.poll connector).2 = (spawn n).coordinator := by
    by_cases hlt : connector < n
    . have hwaits : (spawn n).coordinator.channel.receivers[connector]? = some (some 0) := by
        simp [channel_spawn, hlt]
      rw [Lifecycle.Shutdown.poll_of_waiting hwaits, if_pos (by simp [channel_spawn])]
    . have hgone : (spawn n).coordinator.channel.receivers[connector]?.join = none := by
        simp [channel_spawn, hlt]
      rw [Lifecycle.Shutdown.poll_of_gone hgone]
  suffices ∀ crew : Crew, crew.coordinator = (spawn n).coordinator →
      (crew.after events).coordinator = (spawn n).coordinator from this _ rfl
  induction events with
  | nil => exact fun _ h => h
  | cons event events ih =>
    intro crew h
    rw [after_cons]
    apply ih
    rw [coordinator_applyTo, h]
    cases event.noticed? with
    | none => rfl
    | some connector => exact hpoll connector

structure Called (n : Nat) (noticed : List Nat) (crew : Crew) : Prop where
  opened : crew.coordinator.channel.closed = false
  sent : 0 < n → 0 < crew.coordinator.channel.sent
  receivers : ∀ i : Nat, crew.coordinator.channel.receivers[i]?
    =
  if i < n then some (if i ∈ noticed then none else some 0) else none

theorem called_trigger {n : Nat} {crew : Crew} (h : crew.coordinator = (spawn n).coordinator) :
    crew.trigger.Called n [] := by
  have hchannel : crew.trigger.coordinator.channel = (spawn n).coordinator.channel.send := by
    unfold trigger Lifecycle.Shutdown.trigger
    dsimp only
    rw [h, if_neg (by simp [channel_spawn])]
  have hcount : (spawn n).coordinator.channel.count = n := by
    simp [Lifecycle.Broadcast.count, channel_spawn, List.countP_replicate]
  constructor
  case opened =>
    rw [hchannel, Lifecycle.Broadcast.send]
    split <;> simp [channel_spawn]
  case sent =>
    intro hpos
    rw [hchannel, Lifecycle.Broadcast.send, hcount, if_neg (by omega)]
    exact Nat.succ_pos _
  case receivers =>
    intro i
    rw [hchannel, Lifecycle.Shutdown.receivers_send, channel_spawn, List.getElem?_replicate]
    simp

theorem Called.poll {n : Nat} {noticed : List Nat} {crew : Crew} (h : crew.Called n noticed) (i : Nat) :
    Called n (noticed ++ [i]) { crew with coordinator := (crew.coordinator.poll i).2 } := by
  have hreceiver := h.receivers i
  by_cases hwaits : i < n ∧ i ∉ noticed
  . rw [if_pos hwaits.1, if_neg hwaits.2] at hreceiver
    have hpos := h.sent (by omega)
    have hpoll : (crew.coordinator.poll i).2 = crew.coordinator.leave i := by
      rw [Lifecycle.Shutdown.poll_of_waiting hreceiver, if_neg (by omega)]
    constructor
    case opened =>
      dsimp only
      rw [hpoll]
      exact h.opened
    case sent =>
      dsimp only
      rw [hpoll]
      exact h.sent
    case receivers =>
      intro j
      dsimp only
      rw [hpoll, Lifecycle.Shutdown.leave, Lifecycle.Shutdown.receivers_leave, h.receivers j]
      grind
  . have hgone : crew.coordinator.channel.receivers[i]?.join = none := by
      rw [hreceiver]
      grind
    have hpoll : (crew.coordinator.poll i).2 = crew.coordinator := by
      rw [Lifecycle.Shutdown.poll_of_gone hgone]
    refine ⟨by simpa only [hpoll] using h.opened, by simpa only [hpoll] using h.sent, ?_⟩
    intro j
    dsimp only
    rw [hpoll, h.receivers j]
    grind

theorem Called.after {n : Nat} {noticed : List Nat} {crew : Crew} (h : crew.Called n noticed)
    (events : List (Event σ)) : (crew.after events).Called n (noticed ++ events.filterMap Event.noticed?) := by
  induction events generalizing crew noticed with
  | nil =>
    rw [List.filterMap_nil, List.append_nil]
    exact h
  | cons event events ih =>
    rw [after_cons]
    have hcoordinator := coordinator_applyTo crew event
    cases hnoticed : event.noticed? with
    | none =>
      rw [hnoticed, Option.elim_none] at hcoordinator
      rw [List.filterMap_cons_none hnoticed]
      apply ih
      exact ⟨hcoordinator ▸ h.opened, hcoordinator ▸ h.sent, hcoordinator ▸ h.receivers⟩
    | some connector =>
      rw [hnoticed, Option.elim_some] at hcoordinator
      rw [List.filterMap_cons_some hnoticed, List.append_cons]
      have hpolled := h.poll connector
      apply ih
      exact ⟨hcoordinator ▸ hpolled.opened, hcoordinator ▸ hpolled.sent, hcoordinator ▸ hpolled.receivers⟩

theorem Called.waiting_eq {n : Nat} {noticed : List Nat} {crew : Crew} (h : crew.Called n noticed) :
    crew.waiting = (List.range n).countP (· ∉ noticed) := by
  have hreceivers : crew.coordinator.channel.receivers
      = (List.range n).map fun i => if i ∈ noticed then none else some 0 := by
    apply List.ext_getElem?
    intro i
    rw [h.receivers i, List.getElem?_map]
    by_cases hi : i < n <;> simp [hi]
  unfold waiting Lifecycle.Shutdown.receivers?
  rw [if_neg (by simp [h.opened]), Option.getD_some, Lifecycle.Broadcast.count, hreceivers, List.countP_map]
  congr 1
  funext i
  by_cases hi : i ∈ noticed <;> simp [hi]

theorem waiting_after {n : Nat} {crew : Crew} (h : crew.coordinator = (spawn n).coordinator)
    (events : List (Event σ)) :
    (crew.trigger.after events).waiting = (List.range n).countP (· ∉ events.filterMap Event.noticed?) := by
  have hcalled := (called_trigger h).after events
  rw [List.nil_append] at hcalled
  exact hcalled.waiting_eq

end Crew

end ServiceHost.Serving
