import Mathlib.Data.List.Basic

/-!
# Streams that arrive in pieces

A reader that wants so many items reads until it has them or the stream ends.
The two loops here do that: one fills a buffer and looks at its length
afterwards, the other looks before each read.  An empty piece stands for a
read that found nothing yet and is repeated.
-/

namespace Chunks

open List

variable {Item Fault : Type}

/-- What successive reads find. -/
abbrev Source (Item : Type) := List (List Item)

/-- The reads of the loop that fills a buffer. -/
def fill : ℕ → Source Item → List Item × Source Item
  | 0, source => ([], source)
  | _ + 1, [] => ([], [])
  | room + 1, chunk :: rest =>
    if chunk.length ≤ room + 1 then
      let (items, left) := fill (room + 1 - chunk.length) rest
      (chunk ++ items, left)
    else (chunk.take (room + 1), chunk.drop (room + 1) :: rest)

/-- `Read::read_exact`. -/
def readExact (eof : Fault) (count : ℕ) (source : Source Item) :
    Except Fault (List Item) × Source Item :=
  let (items, left) := fill count source
  (if items.length < count then .error eof else .ok items, left)

/-- The future of `AsyncReadExt::read_exact`, resumed until it is ready. -/
def pollReadExact (eof : Fault) (filled : List Item) :
    ℕ → Source Item → Except Fault (List Item) × Source Item
  | 0, source => (.ok filled, source)
  | _ + 1, [] => (.error eof, [])
  | room + 1, chunk :: rest =>
    if chunk.length ≤ room + 1 then
      pollReadExact eof (filled ++ chunk) (room + 1 - chunk.length) rest
    else (.ok (filled ++ chunk.take (room + 1)), chunk.drop (room + 1) :: rest)

theorem fill_eq_take {count : ℕ} {source : Source Item} : (fill count source).1 =
    source.flatten.take count ∧ (fill count source).2.flatten = source.flatten.drop count := by
  fun_induction fill count source with
  | case1 source => simp
  | case2 => simp
  | case3 room chunk rest whole items left filled induction =>
    rw [filled] at induction
    rw [flatten_cons, take_append, drop_append, take_of_length_le whole,
      drop_of_length_le whole, ← induction.1, ← induction.2]
    simp
  | case4 room chunk rest large =>
    have inside : room + 1 ≤ chunk.length := Nat.le_of_not_le large
    rw [flatten_cons, take_append_of_le_length inside, drop_append_of_le_length inside]
    exact ⟨rfl, rfl⟩

theorem readExact_cons {eof : Fault} {room : ℕ} {chunk : List Item}
    (whole : chunk.length ≤ room + 1) {rest : Source Item} :
    readExact eof (room + 1) (chunk :: rest) =
      ((readExact eof (room + 1 - chunk.length) rest).1.map (chunk ++ ·),
        (readExact eof (room + 1 - chunk.length) rest).2) := by
  have longer (items : List Item) :
      (chunk ++ items).length < room + 1 ↔ items.length < room + 1 - chunk.length := by
    rw [length_append]
    omega
  simp only [readExact, fill, if_pos whole, longer]
  split_ifs <;> rfl

/-- Both loops make the same reads. -/
theorem pollReadExact_eq {eof : Fault} {filled : List Item} {count : ℕ} {source : Source Item} :
    pollReadExact eof filled count source =
      ((readExact eof count source).1.map (filled ++ ·), (readExact eof count source).2) := by
  fun_induction pollReadExact _ filled count source with
  | case1 filled source => simp [readExact, fill, Except.map]
  | case2 => simp [readExact, fill, Except.map]
  | case3 filled room chunk rest whole induction =>
    rw [induction, readExact_cons whole]
    cases (readExact eof (room + 1 - chunk.length) rest).1 with
    | error fault => rfl
    | ok items => simp [Except.map]
  | case4 filled room chunk rest large =>
    have enough : (chunk.take (room + 1)).length = room + 1 :=
      length_take_of_le (Nat.le_of_not_le large)
    simp [readExact, fill, large, enough, Except.map]

/-- What a reader returns of a stream does not depend on its pieces. -/
theorem readExact_eq (eof : Fault) (count : ℕ) (source : Source Item) :
    (readExact eof count source).1 =
        (if source.flatten.length < count then .error eof else .ok (source.flatten.take count)) ∧
      (readExact eof count source).2.flatten = source.flatten.drop count := by
  obtain ⟨taken, left⟩ := fill_eq_take
  have short : (source.flatten.take count).length < count ↔ source.flatten.length < count := by
    rw [length_take]
    omega
  exact ⟨by simp only [readExact, taken, short], left⟩

end Chunks
