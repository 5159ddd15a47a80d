import WirelessSimu.Data.Run

namespace WirelessSimu.Data

/-! A bounded channel from one producer to one consumer. The producer claims a place
before it writes, and each side tells the other how far it is at moments of its own
choice: `published` is how much of the log the consumer was told of, `released` how much
of it the producer was told to be done with. -/

structure Channel (α : Type u) where
  log : List α
  claimed : Nat
  published : Nat
  taken : List α
  released : Nat

namespace Channel

inductive Event (α : Type u) where
  | claim
  | write (value : α)
  | publish
  | take
  | release

def step (capacity : Nat) (channel : Channel α) : Event α → Option (Channel α)
  | .claim =>
      if channel.log.length + channel.claimed < channel.released + capacity then
        some { channel with claimed := channel.claimed + 1 }
      else none
  | .write value =>
      match channel.claimed with
      | 0 => none
      | claimed + 1 =>
          some { channel with log := channel.log ++ [value], claimed := claimed }
  | .publish =>
      if channel.claimed = 0 then some { channel with published := channel.log.length }
      else none
  | .take =>
      if channel.taken.length < channel.published then
        channel.log[channel.taken.length]?.map fun value =>
          { channel with taken := channel.taken ++ [value] }
      else none
  | .release => some { channel with released := channel.taken.length }

def empty : Channel α := ⟨[], 0, 0, [], 0⟩

structure Inv (capacity : Nat) (channel : Channel α) : Prop where
  released_le : channel.released ≤ channel.taken.length
  taken_le : channel.taken.length ≤ channel.published
  published_le : channel.published ≤ channel.log.length
  room : channel.log.length + channel.claimed ≤ channel.released + capacity
  fifo : channel.taken <+: channel.log

variable {capacity : Nat} {channel next : Channel α}

theorem empty_inv : Inv capacity (empty : Channel α) where
  released_le := Nat.le_refl 0
  taken_le := Nat.le_refl 0
  published_le := Nat.le_refl 0
  room := Nat.zero_le _
  fifo := List.prefix_refl []

theorem step_claim
    (free : channel.log.length + channel.claimed < channel.released + capacity) :
    channel.step capacity .claim = some { channel with claimed := channel.claimed + 1 } :=
  if_pos free

theorem step_claim_isSome_iff :
    (channel.step capacity .claim).isSome ↔
      channel.log.length + channel.claimed < channel.released + capacity := by
  simp only [step]
  split
  next free => simp [free]
  next full => simp [full]

theorem step_write {claimed : Nat} (claims : channel.claimed = claimed + 1) (value : α) :
    channel.step capacity (.write value) =
      some { channel with log := channel.log ++ [value], claimed := claimed } := by
  simp only [step, claims]

/-- Taking the element that a prefix of the log stops at. -/
theorem step_take {value : α} (known : channel.taken.length < channel.published)
    (before : channel.taken ++ [value] <+: channel.log) :
    channel.step capacity .take =
      some { channel with taken := channel.taken ++ [value] } := by
  obtain ⟨rest, log_eq⟩ := before
  have found : channel.log[channel.taken.length]? = some value := by
    rw [← log_eq, List.append_assoc]
    simp
  simp only [step, if_pos known, found, Option.map_some]

theorem Inv.step (inv : Inv capacity channel) {event : Event α}
    (stepped : channel.step capacity event = some next) : Inv capacity next := by
  cases event with
  | claim =>
      simp only [Channel.step] at stepped
      split at stepped
      next free =>
          cases stepped
          exact { inv with room := by simp only; omega }
      next => contradiction
  | write value =>
      simp only [Channel.step] at stepped
      split at stepped
      next => contradiction
      next claimed claimed_eq =>
          cases stepped
          have room := inv.room
          refine { inv with published_le := ?_, room := ?_, fifo := ?_ }
          · exact Nat.le_trans inv.published_le (by simp)
          · simp only [List.length_append, List.length_singleton]
            omega
          · exact inv.fifo.trans (List.prefix_append _ _)
  | publish =>
      simp only [Channel.step] at stepped
      split at stepped
      next =>
          cases stepped
          exact { inv with
            taken_le := Nat.le_trans inv.taken_le inv.published_le
            published_le := Nat.le_refl _ }
      next => contradiction
  | take =>
      simp only [Channel.step] at stepped
      split at stepped
      next known =>
          obtain ⟨value, found, rfl⟩ := Option.map_eq_some_iff.mp stepped
          refine { inv with released_le := ?_, taken_le := ?_, fifo := ?_ }
          · exact Nat.le_trans inv.released_le (by simp)
          · rw [List.length_append]
            exact known
          · obtain ⟨rest, log_eq⟩ := inv.fifo
            rw [← log_eq, List.getElem?_append_right (Nat.le_refl _), Nat.sub_self] at found
            cases rest with
            | nil => simp at found
            | cons head rest =>
                cases found
                exact ⟨rest, by simp [← log_eq]⟩
      next => contradiction
  | release =>
      cases stepped
      exact { inv with
        released_le := Nat.le_refl _
        room := Nat.le_trans inv.room (Nat.add_le_add_right inv.released_le capacity) }

theorem run_inv {events : List (Event α)}
    (reached : run (step capacity) channel events = some next)
    (inv : Inv capacity channel) : Inv capacity next :=
  run_invariant (Inv capacity) (fun _ _ _ stepped inv => inv.step stepped) reached inv

/-- What is claimed or on its way never exceeds the capacity. -/
theorem Inv.outstanding_le (inv : Inv capacity channel) :
    channel.log.length + channel.claimed ≤ channel.taken.length + capacity :=
  Nat.le_trans inv.room (Nat.add_le_add_right inv.released_le capacity)

end Channel

end WirelessSimu.Data
