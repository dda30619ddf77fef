/-!
# Ring buffers

A queue of bounded length in a fixed number of slots.  When it is full, a push overwrites the
oldest element.
-/

namespace ManagedFaults

/-- A queue in `n` slots: the next push goes to slot `head`, the oldest of the `count` elements
is in slot `tail`. -/
structure RingBuffer (α : Type) (n : Nat) where
  slots : Vector (Option α) n := Vector.replicate n none
  head : Nat := 0
  tail : Nat := 0
  count : Nat := 0

namespace RingBuffer

variable {α : Type} {n : Nat}

/-- A queue without elements. -/
def empty : RingBuffer α n := {}

instance : Inhabited (RingBuffer α n) := ⟨empty⟩

/-- The content of a slot. -/
def slot (b : RingBuffer α n) (i : Nat) : Option α :=
  b.slots[i]?.join

/-- Whether there is no element. -/
def isEmpty (b : RingBuffer α n) : Bool := b.count == 0

/-- Whether every slot is taken. -/
def isFull (b : RingBuffer α n) : Bool := b.count == n

/-- Adds an element, in place of the oldest one if the queue is full. -/
def push (b : RingBuffer α n) (a : α) : RingBuffer α n :=
  let written := { b with slots := b.slots.setIfInBounds b.head (some a), head := (b.head + 1) % n }
  if b.isFull then
    { written with tail := (b.tail + 1) % n }
  else
    { written with count := b.count + 1 }

/-- Takes out the oldest element. -/
def pop (b : RingBuffer α n) : Option α × RingBuffer α n :=
  if b.isEmpty then
    (none, b)
  else
    (b.slot b.tail,
      { b with
        slots := b.slots.setIfInBounds b.tail none
        tail := (b.tail + 1) % n
        count := b.count - 1 })

/-- Drops every element. -/
def clear (_ : RingBuffer α n) : RingBuffer α n := empty

/-- The oldest element. -/
def front (b : RingBuffer α n) : Option α :=
  if b.isEmpty then none else b.slot b.tail

/-- The newest element. -/
def back (b : RingBuffer α n) : Option α :=
  if b.isEmpty then none else b.slot ((b.head + n - 1) % n)

/-- The elements in `remaining` slots from `index` on, up to the first slot without one. -/
def elementsFrom (b : RingBuffer α n) : Nat → Nat → List α
  | 0, _ => []
  | remaining + 1, index =>
    match b.slot index with
    | none => []
    | some a => a :: b.elementsFrom remaining ((index + 1) % n)

/-- The elements, oldest first. -/
def toList (b : RingBuffer α n) : List α :=
  b.elementsFrom b.count b.tail

/-- The elements between brackets, oldest first, each written by `render`. -/
def text (render : α → String) (b : RingBuffer α n) : String :=
  "[" ++ String.intercalate ", " (b.toList.map render) ++ "]"

/-- Writes the elements, oldest first, over the start of `out`, and tells how many fit. -/
def copyTo (b : RingBuffer α n) (out : List α) : Nat × List α :=
  let copied := b.toList.take out.length
  (copied.length, copied ++ out.drop copied.length)

end RingBuffer

end ManagedFaults
