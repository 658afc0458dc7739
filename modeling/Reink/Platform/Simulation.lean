import Reink.Library.Simulation
import Reink.Platform.Transport

/-!
# Transports that answer alike

A relation between two kinds of transports that every transfer keeps and no caller can look behind:
both give the same answer, and are related again. The relation may be confined to runs that end in
an allowed transport, as for programs.
-/

namespace Reink

/-- Related transports answer alike and stay related, if the first one is allowed afterwards. A
buffer to read into is not empty. -/
structure TransportSimulation {T T' : Type} [ByteTransport T] [ByteTransport T']
    (S : T → T' → Prop) (A : T → Prop) : Prop where
  allowed_write : ∀ data t, A (ByteTransport.writeAll data t).2 → A t
  allowed_read : ∀ size t, A (ByteTransport.read size t).2 → A t
  write : ∀ data t t', S t t' → A (ByteTransport.writeAll data t).2 →
    (ByteTransport.writeAll data t).1 = (ByteTransport.writeAll data t').1 ∧
      S (ByteTransport.writeAll data t).2 (ByteTransport.writeAll data t').2
  read : ∀ size t t', 0 < size → S t t' → A (ByteTransport.read size t).2 →
    (ByteTransport.read size t).1 = (ByteTransport.read size t').1 ∧
      S (ByteTransport.read size t).2 (ByteTransport.read size t').2

/-- Where every transport is allowed, the two kinds may change places. -/
theorem TransportSimulation.symm {T T' : Type} [ByteTransport T] [ByteTransport T']
    {S : T → T' → Prop} (h : TransportSimulation S fun _ ↦ True) :
    TransportSimulation (fun t' t ↦ S t t') fun _ ↦ True where
  allowed_write _ _ _ := trivial
  allowed_read _ _ _ := trivial
  write data t' t hS _ :=
    have hwrite := h.write data t t' hS trivial
    ⟨hwrite.1.symm, hwrite.2⟩
  read size t' t hsize hS _ :=
    have hread := h.read size t t' hsize hS trivial
    ⟨hread.1.symm, hread.2⟩

end Reink
