import Mathlib.Data.List.Basic
import Mathlib.Data.List.Nodup

/-!
# Mailboxes

An unbounded queue with any number of senders and one receiver. A sender is the
index of its mailbox. Sending fails exactly when the receiver has been dropped.
A mailbox keeps everything that was sent to it, so a reader is a position in it.

`retainLive` is the loop that sends one message to a list of senders and keeps
those for which it succeeded.
-/

set_option autoImplicit false

namespace Sp1Cluster.Systems

structure Mailbox (α : Type) where
  sent : List α
  dropped : Bool
deriving DecidableEq, Repr

abbrev Mailboxes (α : Type) := List (Mailbox α)

namespace Mailboxes

variable {α : Type}

/-- Everything that was sent to a mailbox. -/
def sentTo (boxes : Mailboxes α) (index : ℕ) : List α :=
  match boxes[index]? with
  | none => []
  | some box => box.sent

/-- Whether the receiver of a mailbox is still there. -/
def isLive (boxes : Mailboxes α) (index : ℕ) : Bool :=
  match boxes[index]? with
  | none => false
  | some box => !box.dropped

/-- Append a message to a mailbox. -/
def deliver (message : α) (boxes : Mailboxes α) (index : ℕ) : Mailboxes α :=
  boxes.modify index fun box => { box with sent := box.sent ++ [message] }

/-- A new mailbox, with what is sent to it at once. Its index is the number of
mailboxes before. -/
def create (initial : List α) (boxes : Mailboxes α) : Mailboxes α := boxes ++ [⟨initial, false⟩]

/-- Drop the receiver of a mailbox. -/
def drop (index : ℕ) (boxes : Mailboxes α) : Mailboxes α :=
  boxes.modify index fun box => { box with dropped := true }

/-- Send a message to the senders of a list, and keep the senders for which it
succeeded. -/
def retainLive (message : α) : List ℕ → Mailboxes α → List ℕ × Mailboxes α
  | [], boxes => ([], boxes)
  | sender :: rest, boxes =>
    if boxes.isLive sender then
      let (kept, boxes) := retainLive message rest (deliver message boxes sender)
      (sender :: kept, boxes)
    else retainLive message rest boxes

/-! ## Single messages -/

@[simp] theorem length_deliver (message : α) (boxes : Mailboxes α) (index : ℕ) :
    (deliver message boxes index).length = boxes.length := by
  simp [deliver]

@[simp] theorem isLive_deliver (message : α) (boxes : Mailboxes α) (index other : ℕ) :
    (deliver message boxes index).isLive other = boxes.isLive other := by
  unfold isLive deliver
  rw [List.getElem?_modify]
  cases boxes[other]? with
  | none => rfl
  | some box => by_cases same : index = other <;> simp [same]

theorem lt_length_of_isLive {boxes : Mailboxes α} {index : ℕ} (live : boxes.isLive index = true) :
    index < boxes.length := by
  by_contra beyond
  rw [isLive, List.getElem?_eq_none (Nat.not_lt.mp beyond)] at live
  cases live

theorem sentTo_deliver (message : α) {boxes : Mailboxes α} {index : ℕ}
    (present : index < boxes.length) (other : ℕ) :
    (deliver message boxes index).sentTo other =
      if other = index then boxes.sentTo other ++ [message] else boxes.sentTo other := by
  unfold sentTo deliver
  rw [List.getElem?_modify]
  by_cases same : other = index
  · subst same
    simp [List.getElem?_eq_getElem present]
  · have different : index ≠ other := fun equal => same equal.symm
    simp [same, different]

/-! ## New and dropped mailboxes -/

@[simp] theorem length_create (initial : List α) (boxes : Mailboxes α) :
    (create initial boxes).length = boxes.length + 1 := by
  simp [create]

theorem getElem?_create (initial : List α) (boxes : Mailboxes α) (index : ℕ) :
    (create initial boxes)[index]? =
      if index = boxes.length then some ⟨initial, false⟩ else boxes[index]? := by
  unfold create
  rcases Nat.lt_trichotomy index boxes.length with before | rfl | after
  · rw [List.getElem?_append_left before, if_neg (Nat.ne_of_lt before)]
  · simp
  · rw [if_neg (Nat.ne_of_gt after), List.getElem?_eq_none (by simp; omega),
      List.getElem?_eq_none (Nat.le_of_lt after)]

theorem sentTo_create (initial : List α) (boxes : Mailboxes α) (index : ℕ) :
    (create initial boxes).sentTo index =
      if index = boxes.length then initial else boxes.sentTo index := by
  unfold sentTo
  rw [getElem?_create]
  by_cases new : index = boxes.length
  · rw [if_pos new, if_pos new]
  · rw [if_neg new, if_neg new]

theorem isLive_create (initial : List α) (boxes : Mailboxes α) (index : ℕ) :
    (create initial boxes).isLive index =
      if index = boxes.length then true else boxes.isLive index := by
  unfold isLive
  rw [getElem?_create]
  by_cases new : index = boxes.length
  · rw [if_pos new, if_pos new]
    rfl
  · rw [if_neg new, if_neg new]

@[simp] theorem length_drop (index : ℕ) (boxes : Mailboxes α) :
    (drop index boxes).length = boxes.length := by
  simp [drop]

@[simp] theorem sentTo_drop (index : ℕ) (boxes : Mailboxes α) (other : ℕ) :
    (drop index boxes).sentTo other = boxes.sentTo other := by
  unfold sentTo drop
  rw [List.getElem?_modify]
  cases boxes[other]? with
  | none => rfl
  | some box => by_cases same : index = other <;> simp [same]

theorem isLive_of_isLive_drop {index : ℕ} {boxes : Mailboxes α} {other : ℕ}
    (live : (drop index boxes).isLive other = true) : boxes.isLive other = true := by
  unfold isLive drop at *
  rw [List.getElem?_modify] at live
  cases found : boxes[other]? with
  | none => simp [found] at live
  | some box => by_cases same : index = other <;> simp_all

/-! ## Messages to many -/

theorem retainLive_fst (message : α) (senders : List ℕ) (boxes : Mailboxes α) :
    (retainLive message senders boxes).1 = senders.filter boxes.isLive := by
  induction senders generalizing boxes with
  | nil => rfl
  | cons sender rest ih =>
    unfold retainLive
    by_cases live : boxes.isLive sender = true
    · rw [if_pos live, List.filter_cons_of_pos live]
      dsimp only
      rw [ih]
      congr 1
      exact List.filter_congr fun other _ => isLive_deliver message boxes sender other
    · rw [if_neg live, List.filter_cons_of_neg live]
      exact ih boxes

@[simp] theorem length_retainLive (message : α) (senders : List ℕ) (boxes : Mailboxes α) :
    (retainLive message senders boxes).2.length = boxes.length := by
  induction senders generalizing boxes with
  | nil => rfl
  | cons sender rest ih =>
    unfold retainLive
    split
    · dsimp only
      rw [ih, length_deliver]
    · exact ih boxes

@[simp] theorem isLive_retainLive (message : α) (senders : List ℕ) (boxes : Mailboxes α)
    (index : ℕ) : (retainLive message senders boxes).2.isLive index = boxes.isLive index := by
  induction senders generalizing boxes with
  | nil => rfl
  | cons sender rest ih =>
    unfold retainLive
    split
    · dsimp only
      rw [ih, isLive_deliver]
    · exact ih boxes

/-- Every live mailbox of the list gets the message, once, and no other mailbox
changes. -/
theorem sentTo_retainLive (message : α) {senders : List ℕ} (distinct : senders.Nodup)
    (boxes : Mailboxes α) (index : ℕ) :
    (retainLive message senders boxes).2.sentTo index =
      if index ∈ senders ∧ boxes.isLive index = true then boxes.sentTo index ++ [message]
      else boxes.sentTo index := by
  induction senders generalizing boxes with
  | nil => simp [retainLive]
  | cons sender rest ih =>
    obtain ⟨unlisted, distinctRest⟩ := List.nodup_cons.mp distinct
    unfold retainLive
    by_cases live : boxes.isLive sender = true
    · rw [if_pos live]
      dsimp only
      rw [ih distinctRest, isLive_deliver, sentTo_deliver message (lt_length_of_isLive live)]
      by_cases same : index = sender
      · subst same
        simp [unlisted, live]
      · simp [same]
    · rw [if_neg live, ih distinctRest]
      by_cases same : index = sender
      · subst same
        simp [unlisted, live]
      · simp [same]

end Mailboxes

end Sp1Cluster.Systems
