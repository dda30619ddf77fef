import ManagedFaults.Console.Level

/-!
# Buffered writing

A message is gathered in a buffer of 256 bytes, and whenever the buffer is full it is written
out.  A write may take only a part of what it is offered, may be interrupted before it takes
anything, or may fail; an interrupted write is tried again, a failed one drops what was offered.

A request may be interrupted any number of times in a row, but not for ever: this is what a
`Descriptor` promises, and why writing ends.
-/

namespace ManagedFaults

/-- How the system answers one request to write. -/
inductive WriteOutcome where
  /-- The first `count` bytes were taken, or all if there were fewer. -/
  | took (count : Nat)
  /-- A signal arrived before anything was taken. -/
  | interrupted
  /-- Any other failure. -/
  | failed
deriving DecidableEq, Repr

/-- Bytes the buffer holds before it must be written out. -/
def bufferBytes : Nat := 256

/-- A file descriptor: the answers it gives, by the number of requests made before, the bytes it
took and the lengths it was asked to write. -/
structure Descriptor where
  answers : Nat → WriteOutcome
  /-- Whenever it is asked, it is interrupted only so many times before it answers. -/
  returns : ∀ n, ∃ k, answers (n + k) ≠ .interrupted
  delivered : List UInt8 := []
  requests : List Nat := []

namespace Descriptor

/-- A descriptor that takes whatever it is offered. -/
def willing : Descriptor where
  answers _ := .took bufferBytes
  returns _ := ⟨0, WriteOutcome.noConfusion⟩

instance : Inhabited Descriptor := ⟨willing⟩

/-- The answer to the next request. -/
def answer (d : Descriptor) : WriteOutcome := d.answers d.requests.length

/-- What the next request takes of `bytes`. -/
def share (d : Descriptor) (bytes : List UInt8) : List UInt8 :=
  match d.answer with
  | .took count => bytes.take count
  | .interrupted => []
  | .failed => []

/-- One request to write `bytes`. -/
def request (d : Descriptor) (bytes : List UInt8) : Descriptor :=
  { d with
    delivered := d.delivered ++ d.share bytes
    requests := d.requests ++ [bytes.length] }

/-- The interruptions in a row that are still to come can be counted down. -/
theorem exists_countdown (d : Descriptor) :
    ∃ left : Nat → Nat, ∀ n, d.answers n = .interrupted → left (n + 1) < left n := by
  have hleast : ∀ n, ∃ k, d.answers (n + k) ≠ .interrupted ∧
      ∀ j, d.answers (n + j) ≠ .interrupted → k ≤ j := by
    intro n
    obtain ⟨k, hk⟩ := d.returns n
    induction k using Nat.strongRecOn with
    | ind k ih =>
      by_cases hless : ∃ j, j < k ∧ d.answers (n + j) ≠ .interrupted
      · obtain ⟨j, hj, hanswer⟩ := hless
        exact ih j hj hanswer
      · exact ⟨k, hk, fun j hj => Nat.le_of_not_lt fun hlt => hless ⟨j, hlt, hj⟩⟩
  refine ⟨fun n => (hleast n).choose, fun n hnow => ?_⟩
  show (hleast (n + 1)).choose < (hleast n).choose
  obtain ⟨hstop, -⟩ := (hleast n).choose_spec
  cases hgap : (hleast n).choose with
  | zero =>
    rw [hgap] at hstop
    exact absurd hnow hstop
  | succ k =>
    rw [hgap, Nat.add_comm k, ← Nat.add_assoc] at hstop
    exact Nat.lt_succ_of_le ((hleast (n + 1)).choose_spec.2 k hstop)

/-- Counts down the interruptions in a row that are still to come. -/
noncomputable def countdown (d : Descriptor) : Nat := d.exists_countdown.choose d.requests.length

theorem countdown_request {d : Descriptor} (h : d.answer = .interrupted) (bytes : List UInt8) :
    (d.request bytes).countdown < d.countdown := by
  have hlength : (d.request bytes).requests.length = d.requests.length + 1 := List.length_append
  unfold countdown
  rw [hlength]
  exact d.exists_countdown.choose_spec _ h

/-- Offers `bytes` until all are taken or a request fails; one that takes nothing counts as
failed. -/
def write (d : Descriptor) (bytes : List UInt8) : Descriptor :=
  if bytes = [] then
    d
  else
    match _h : d.answer with
    | .interrupted => write (d.request bytes) bytes
    | .took (n + 1) => write (d.request bytes) (bytes.drop (n + 1))
    | .took 0 => d.request bytes
    | .failed => d.request bytes
termination_by (bytes.length, d.countdown)
decreasing_by
  · exact Prod.Lex.right _ (countdown_request _h bytes)
  · rename_i hsome
    have hpos := List.length_pos_iff.mpr hsome
    refine Prod.Lex.left _ _ ?_
    rw [List.length_drop]
    omega

end Descriptor

/-- The bytes of a fragment. -/
def utf8 (fragment : String) : List UInt8 := fragment.toUTF8.data.toList

/-- A buffer in front of a descriptor. -/
structure BufferedWriter where
  held : List UInt8 := []
  descriptor : Descriptor
  held_le : held.length ≤ bufferBytes := by decide

namespace BufferedWriter

/-- An empty buffer in front of `d`. -/
def empty (d : Descriptor) : BufferedWriter := { descriptor := d }

/-- Writes out what is held. -/
def flush (w : BufferedWriter) : BufferedWriter := empty (w.descriptor.write w.held)

/-- Writes out what is held if the buffer is full. -/
def makeRoom (w : BufferedWriter) : BufferedWriter :=
  if w.held.length = bufferBytes then w.flush else w

/-- How many more bytes the buffer has room for. -/
def room (w : BufferedWriter) : Nat := bufferBytes - w.held.length

theorem room_makeRoom_pos (w : BufferedWriter) : 0 < w.makeRoom.room := by
  have hheld := w.held_le
  unfold makeRoom
  split
  · exact Nat.succ_pos 255
  · rw [room]
    omega

/-- Adds as many of the bytes as there is room for. -/
def fill (w : BufferedWriter) (bytes : List UInt8) : BufferedWriter where
  held := w.held ++ bytes.take w.room
  descriptor := w.descriptor
  held_le := by
    have hheld := w.held_le
    simp only [List.length_append, List.length_take, room]
    omega

/-- Adds bytes, writing out what is held whenever the buffer is full. -/
def add (w : BufferedWriter) (bytes : List UInt8) : BufferedWriter :=
  if bytes = [] then
    w
  else
    add (w.makeRoom.fill bytes) (bytes.drop w.makeRoom.room)
termination_by bytes.length
decreasing_by
  rename_i hsome
  have hpos := List.length_pos_iff.mpr hsome
  have hroom := w.room_makeRoom_pos
  rw [List.length_drop]
  omega

/-- Prints a message made of fragments: adds them all, then writes out the rest. -/
def print (d : Descriptor) (fragments : List String) : Descriptor :=
  (fragments.foldl (fun w fragment => w.add (utf8 fragment)) (empty d)).flush.descriptor

/-- Prints a message with its level through `d`, if the console lets it through. -/
def printLevel (c : Console) (d : Descriptor) (l : Level) (message : List String) : Descriptor :=
  if c.enabled l then
    print d ([l.colour, l.tag] ++ message ++ [Level.reset])
  else
    d

end BufferedWriter

end ManagedFaults
