import DeskUnlock.Foundation.Chunks
import DeskUnlock.Foundation.Text
import DeskUnlock.Pairing.PairTransaction

/-!
# How a phone key is read

`read_bounded` and `wait_for_phone_pubkey` of `pair_engine.rs`.  The reader
asks for no more than a key has bytes.  So a longer payload reads as its first
bytes, and the check of the length that follows lets it through.
-/

namespace DeskUnlock.Pairing.PubkeyReader

open Texts Chunks List

def PAIR_PUBKEY_LEN : Nat := 32

/-- What is left of a source when `count` bytes of its first piece are read. -/
def remaining (count : Nat) (piece : Bytes) (rest : Source UInt8) : Source UInt8 :=
  if piece.drop count = [] then rest else piece.drop count :: rest

/-- The loop of `read_bounded`; behind the last piece a read fails, ends or is late. -/
def readBounded (max : Nat) (out : Bytes) (source : Source UInt8) : Option Bytes :=
  match source with
  | [] => ended out
  | piece :: rest =>
    let room := min (max - out.length) 64
    let chunk := piece.take room
    if chunk = [] then ended out else if max ≤ (out ++ chunk).length then ended (out ++ chunk)
    else readBounded max (out ++ chunk) (remaining room piece rest)
termination_by max - out.length
decreasing_by
  rename_i some part
  have grown := length_pos_of_ne_nil some
  change max - (out ++ chunk).length < max - out.length
  rw [length_append] at part ⊢
  omega
where ended (out : Bytes) : Option Bytes := if out = [] then none else some out

inductive ControlEvent where
  /-- A write, with what its reader delivers if it is accepted. -/
  | write (addr : Text) (reader : Option (Source UInt8))
  | notify

def waitForPhonePubkey : List ControlEvent → Option (Pubkey × Text)
  | [] => none
  | .notify :: later | .write _ none :: later => waitForPhonePubkey later
  | .write addr (some reader) :: later =>
    match readBounded PAIR_PUBKEY_LEN [] reader with
    | none => waitForPhonePubkey later
    | some bytes =>
      if sized : bytes.length = PAIR_PUBKEY_LEN then some (⟨bytes, sized⟩, addr)
      else waitForPhonePubkey later

/-- A read returns something as long as there is a piece left. -/
def Delivered (source : Source UInt8) : Prop := ∀ piece ∈ source, piece ≠ []

theorem flatten_remaining {count : Nat} {piece : Bytes} {rest : Source UInt8} :
    piece.take count ++ (remaining count piece rest).flatten = (piece :: rest).flatten := by
  have whole := take_append_drop count piece
  unfold remaining
  split_ifs with done
  · rw [done, append_nil] at whole
    rw [whole, flatten_cons]
  · rw [flatten_cons, flatten_cons, ← append_assoc, whole]

theorem readBounded_eq {max : Nat} {out : Bytes} {source : Source UInt8} (room : out.length < max)
    (delivered : Delivered source) :
    readBounded max out source = readBounded.ended ((out ++ source.flatten).take max) := by
  fun_induction readBounded _ out source with
  | case1 out => simp [take_of_length_le room.le]
  | case2 out piece rest count chunk none =>
    have positive : 0 < count := by omega
    simp [chunk, delivered _, positive.ne'] at none
  | case3 out piece rest count chunk some full =>
    have filled : (out ++ chunk).length = max := by
      rw [length_append, length_take] at full ⊢
      omega
    rw [← flatten_remaining, ← append_assoc, take_left' filled]
  | case4 out piece rest count chunk some part induction =>
    rw [induction (by omega), ← flatten_remaining, append_assoc]
    unfold remaining
    split_ifs with done
    · exact (forall_mem_cons.mp delivered).2
    · exact forall_mem_cons.mpr ⟨done, (forall_mem_cons.mp delivered).2⟩

/-- A write opens an attempt with its first bytes if there are enough of them. -/
theorem waitForPhonePubkey_write (addr : Text) {source : Source UInt8}
    (delivered : Delivered source) {later : List ControlEvent} :
    waitForPhonePubkey (.write addr (some source) :: later) =
      if enough : PAIR_PUBKEY_LEN ≤ source.flatten.length then
        some (⟨source.flatten.take PAIR_PUBKEY_LEN, length_take_of_le enough⟩, addr)
      else waitForPhonePubkey later := by
  rw [waitForPhonePubkey, readBounded_eq (by decide) delivered, nil_append]
  have length := length_take (i := PAIR_PUBKEY_LEN) (l := source.flatten)
  unfold readBounded.ended
  split_ifs with none enough _
  · rw [none, min_eq_left enough] at length
    cases length
  · rfl
  · exact dif_pos _
  · exact dif_neg (by omega)

/--
A payload is read as one key exactly if it is one, whatever comes after it,
if and only if it is no longer than a key.
-/
theorem opens_exactly_iff (addr : Text) (source : Source UInt8) (delivered : Delivered source) :
    (∀ later, waitForPhonePubkey (.write addr (some source) :: later) =
      if sized : source.flatten.length = PAIR_PUBKEY_LEN then some (⟨source.flatten, sized⟩, addr)
      else waitForPhonePubkey later) ↔ source.flatten.length ≤ PAIR_PUBKEY_LEN := by
  constructor
  · intro precise
    by_contra _
    have opened := precise []
    rw [waitForPhonePubkey_write _ delivered, dif_pos (by omega), dif_neg (by omega)] at opened
    cases opened
  · intro short later
    rw [waitForPhonePubkey_write _ delivered]
    by_cases sized : source.flatten.length = PAIR_PUBKEY_LEN
    · rw [dif_pos sized.ge, dif_pos sized]
      simp [take_of_length_le sized.le]
    · rw [dif_neg (by omega), dif_neg sized]

/-- A key that comes in two pieces. -/
theorem key_in_pieces : waitForPhonePubkey [.write [] (some [.replicate 20 7, .replicate 12 7])] =
    some (.replicate 32 7, []) := by
  have opened := opens_exactly_iff [] [.replicate 20 7, .replicate 12 7] (by simp [Delivered])
  rw [opened.mpr (by decide)]
  rfl

/-- One byte more than a key opens an attempt with the bytes before it. -/
theorem longer_payload_opens :
    waitForPhonePubkey [.write [] (some [.replicate 33 7])] = some (.replicate 32 7, []) := by
  rw [waitForPhonePubkey_write [] (by simp [Delivered])]
  rfl

end DeskUnlock.Pairing.PubkeyReader
