import Mathlib.Data.List.Basic
import Reink.D4.Packet
import Reink.Platform.Transport

/-!
# A transport over a given stream

The transport whose peer has sent everything in advance: the list of reads that deliver the stream,
and the list of writes made so far. After the last read every further one is empty. Writes succeed.
-/

namespace Reink

/-- A transport that delivers given reads, and then nothing. -/
structure StreamTransport where
  /-- What the reads still to come deliver. -/
  reads : List (List UInt8)
  /-- What was written, oldest first. -/
  written : List (List UInt8) := []
deriving DecidableEq, Repr

namespace StreamTransport

/-- One read: what does not fit the buffer stays for the next one. -/
def read (size : Nat) (t : StreamTransport) : List UInt8 × StreamTransport :=
  match t.reads with
  | [] => ([], t)
  | chunk :: rest =>
    if chunk.length ≤ size then (chunk, { t with reads := rest })
    else (chunk.take size, { t with reads := chunk.drop size :: rest })

instance : ByteTransport StreamTransport where
  writeAll data t := (.ok (), { t with written := t.written ++ [data] })
  read size t := (.ok (t.read size).1, (t.read size).2)
  length_le_of_read := by
    intro size t t' bytes h
    obtain rfl : (t.read size).1 = bytes := Except.ok.inj (Prod.mk.inj h).1
    unfold read
    split
    · exact Nat.zero_le _
    · split
      · assumption
      · exact List.length_take_le _ _

/-- A read takes the bytes it gives off the stream. -/
theorem flatten_read (size : Nat) (t : StreamTransport) :
    (t.read size).1 ++ (t.read size).2.reads.flatten = t.reads.flatten := by
  unfold read
  rcases hreads : t.reads with _ | ⟨chunk, rest⟩
  · simp [hreads]
  · dsimp only
    split
    · rfl
    · simp only [List.flatten_cons, ← List.append_assoc, List.take_append_drop]

instance : FiniteTransport StreamTransport where
  remaining t := t.reads.flatten.length
  remaining_writeAll := by
    intro data t t' result h
    cases h
    exact le_rfl
  remaining_read := by
    intro size t t' bytes h
    cases h
    rw [← flatten_read size t, List.length_append, Nat.add_comm]
  remaining_read_error := by
    intro size t t' error h
    cases h

/-- The bytes a peer sends for one packet. -/
def packet (peerSocket sourceSocket credit : UInt8) (payload : List UInt8) : List UInt8 :=
  Packet.encode
    ⟨⟨peerSocket, sourceSocket, UInt16.ofNat (headerLength + payload.length), credit, 0⟩, payload⟩

/-- The peer sends the packets of the list, each to be read on its own. -/
def sending (packets : List (List UInt8)) : StreamTransport := { reads := packets }

end StreamTransport

end Reink
