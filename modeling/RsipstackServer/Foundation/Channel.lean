namespace Foundation
universe u
variable {α : Type u}

/-- An unbounded channel, with which of its two ends still exist. -/
structure Channel (α : Type u) where
  queue : List α
  senderAlive : Bool
  receiverAlive : Bool

namespace Channel

def unbounded : Channel α := ⟨[], true, true⟩

/-- A `none` is the error of a send to a receiver that is gone. -/
def send (channel : Channel α) (value : α) : Option (Channel α) :=
  if channel.receiverAlive then some { channel with queue := channel.queue ++ [value] } else none

/-- The next value, or `none` at the end of a channel whose sender is gone.
An outer `none` is a receiver that has to wait. -/
def recv (channel : Channel α) : Option (Option α × Channel α) :=
  match channel.queue with
  | value :: later => some (some value, { channel with queue := later })
  | [] => if channel.senderAlive then none else some (none, channel)

def dropSender (channel : Channel α) : Channel α := { channel with senderAlive := false }

def dropReceiver (channel : Channel α) : Channel α := { channel with queue := [], receiverAlive := false }

theorem send_eq_none {channel : Channel α} {value : α} :
    channel.send value = none ↔ channel.receiverAlive = false := by
  unfold send
  cases channel.receiverAlive <;> simp

theorem recv_cases {channel after : Channel α} {value : Option α}
    (taken : channel.recv = some (value, after)) :
    (∃ first later, channel.queue = first :: later ∧ value = some first ∧ after = { channel with queue := later }) ∨
      channel.queue = [] ∧ value = none ∧ after = channel := by
  unfold recv at taken
  split at taken
  · rename_i first later queue
    cases Option.some.inj taken
    exact Or.inl ⟨first, later, queue, rfl, rfl⟩
  · rename_i queue
    obtain ⟨_, same⟩ := Option.ite_none_left_eq_some.mp taken
    cases Option.some.inj same
    exact Or.inr ⟨queue, rfl, rfl⟩

theorem send_eq_some_iff {channel after : Channel α} {value : α} :
    channel.send value = some after ↔
      channel.receiverAlive = true ∧ { channel with queue := channel.queue ++ [value] } = after := by
  unfold send
  rw [Option.ite_none_right_eq_some, Option.some.injEq]

theorem drop_sent {channel after : Channel α} {value : α} (sent : channel.send value = some after) :
    after.queue.drop channel.queue.length = [value] := by
  rw [← (send_eq_some_iff.mp sent).2]
  exact List.drop_left

end Channel
end Foundation
