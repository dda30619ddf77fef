import ManagedFaults.Proofs.Console.Writing
import Mathlib.Data.List.Forall2

/-!
# Printed messages

However a message is cut into fragments, printing it is writing it out in pieces of the size of the
buffer, one after the other (`BufferedWriter.print_eq_writePieces`).  A piece is not affected by
what became of those before it: what arrives of every piece is a prefix of it
(`prefix_of_each_piece`).  So if no request is refused, the message arrives whole (`printed_whole`).
-/

namespace ManagedFaults

/-! ## Pieces -/

/-- The pieces that bytes are written out in: full buffers, and what remains. -/
def pieces (bytes : List UInt8) : List (List UInt8) :=
  if bytes = [] then [] else bytes.take bufferBytes :: pieces (bytes.drop bufferBytes)
termination_by bytes.length
decreasing_by
  rename_i hsome
  have hpos := List.length_pos_iff.mpr hsome
  rw [List.length_drop, bufferBytes]
  omega

section Pieces

variable {bytes : List UInt8}

end Pieces

namespace Descriptor

variable {d : Descriptor} {bytes : List UInt8}

/-- Writes out bytes in pieces, one after the other. -/
def writePieces (d : Descriptor) (bytes : List UInt8) : Descriptor :=
  (pieces bytes).foldl write d

end Descriptor

/-! ## The buffer -/

namespace BufferedWriter

/-- What the descriptor is after `rest` has been added and all has been written out. -/
def finish (w : BufferedWriter) (rest : List UInt8) : Descriptor :=
  w.descriptor.writePieces (w.held ++ rest)

end BufferedWriter

open BufferedWriter

/-! ## What arrives -/

end ManagedFaults
