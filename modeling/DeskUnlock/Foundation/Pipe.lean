import Mathlib.Data.List.Basic

/-!
# Pipes

One direction of a stream: what the reader has taken, and what is still on its
way.  Items are neither lost, nor repeated, nor reordered.
-/

namespace Pipes

open List

/-- A stream, split at the point that the reader has reached. -/
structure Pipe (Item : Type) where
  received : List Item
  pending : List Item

namespace Pipe

variable {Item : Type}

def empty : Pipe Item := ⟨[], []⟩

variable (pipe : Pipe Item)

def sent : List Item := pipe.received ++ pipe.pending

def push (items : List Item) : Pipe Item := { pipe with pending := pipe.pending ++ items }

/-- Take exactly so many items, if they are there. -/
def take? (count : Nat) : Option (List Item × Pipe Item) :=
  if count ≤ pipe.pending.length then
    some (pipe.pending.take count,
      ⟨pipe.received ++ pipe.pending.take count, pipe.pending.drop count⟩)
  else none

@[simp]
theorem sent_push {items : List Item} : (pipe.push items).sent = pipe.sent ++ items :=
  (append_assoc _ _ _).symm

theorem received_prefix_sent : pipe.received <+: pipe.sent := prefix_append _ _

theorem of_take?_eq_some {pipe rest : Pipe Item} {count : Nat}
    {items : List Item} (taken : pipe.take? count = some (items, rest)) :
    items.length = count ∧ rest.received = pipe.received ++ items ∧ rest.sent = pipe.sent := by
  unfold take? at taken
  split_ifs at taken with enough
  cases taken
  refine ⟨length_take_of_le enough, rfl, ?_⟩
  unfold sent
  rw [append_assoc, take_append_drop]

end Pipe

section

variable {Item Turn : Type} {heard said : Turn → List Item}
  {inbound inbound' outbound outbound' : Pipe Item}

/--
The history of one end agrees with its two pipes: it has heard what it has
received, and what was sent is the beginning of what it has said.
-/
structure Attached (heard said : Turn → List Item) (past : List Turn)
    (inbound outbound : Pipe Item) : Prop where
  heard : past.flatMap heard = inbound.received
  said : outbound.sent <+: past.flatMap said

/-- One turn of an end takes what it hears, and sends some of what it says. -/
structure Moved (heard said : List Item)
    (inbound inbound' outbound outbound' : Pipe Item) : Prop where
  heard : inbound'.received = inbound.received ++ heard
  incoming : inbound'.sent = inbound.sent
  said : ∃ part, part <+: said ∧ outbound'.sent = outbound.sent ++ part
  taken : outbound'.received = outbound.received

theorem attached_empty : Attached heard said [] .empty .empty where
  heard := rfl
  said := nil_prefix

theorem Moved.silent (said : List Item) (inbound outbound : Pipe Item) :
    Moved [] said inbound inbound outbound outbound where
  heard := (append_nil _).symm
  incoming := rfl
  said := ⟨[], nil_prefix, (append_nil _).symm⟩
  taken := rfl

theorem Moved.push {part said : List Item} (begins : part <+: said) (inbound outbound : Pipe Item) :
    Moved [] said inbound inbound outbound (outbound.push part) where
  heard := (append_nil _).symm
  incoming := rfl
  said := ⟨part, begins, Pipe.sent_push _⟩
  taken := rfl

theorem Moved.take {count : Nat} {items : List Item}
    (taken : inbound.take? count = some (items, inbound')) (outbound : Pipe Item) :
    Moved items [] inbound inbound' outbound outbound where
  heard := (Pipe.of_take?_eq_some taken).2.1
  incoming := (Pipe.of_take?_eq_some taken).2.2
  said := ⟨[], nil_prefix, (append_nil _).symm⟩
  taken := rfl

/-- An end that says things only once stays attached. -/
theorem Attached.snoc {past : List Turn} {turn : Turn}
    (attached : Attached heard said past inbound outbound)
    (moved : Moved (heard turn) (said turn) inbound inbound' outbound outbound')
    (once : past.flatMap said = [] ∨ said turn = []) :
    Attached heard said (past ++ [turn]) inbound' outbound' := by
  obtain ⟨part, begins, sent⟩ := moved.said
  constructor
  · rw [flatMap_append, flatMap_singleton, attached.heard, moved.heard]
  · rw [flatMap_append, flatMap_singleton, sent]
    rcases once with unsaid | silent
    · have unsent : outbound.sent = [] := prefix_nil.mp (unsaid ▸ attached.said)
      rw [unsaid, unsent]
      exact begins
    · rw [silent] at begins ⊢
      rw [prefix_nil.mp begins, append_nil, append_nil]
      exact attached.said

/-- A turn of the other end leaves this one attached. -/
theorem Attached.other {past : List Turn} {theirHeard theirSaid : List Item}
    (attached : Attached heard said past outbound inbound)
    (moved : Moved theirHeard theirSaid inbound inbound' outbound outbound') :
    Attached heard said past outbound' inbound' where
  heard := attached.heard.trans moved.taken.symm
  said := by
    rw [moved.incoming]
    exact attached.said

/-- What one end has heard is the beginning of what the other has said. -/
theorem Attached.heard_prefix_said {OtherTurn : Type}
    {theirHeard theirSaid : OtherTurn → List Item} {past : List Turn} {theirs : List OtherTurn}
    (attached : Attached heard said past inbound outbound)
    (opposite : Attached theirHeard theirSaid theirs outbound inbound) :
    past.flatMap heard <+: theirs.flatMap theirSaid := by
  rw [attached.heard]
  exact inbound.received_prefix_sent.trans opposite.said

end

end Pipes
