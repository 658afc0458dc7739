import Reink.Library.Reading
import Reink.Library.Text
import Reink.Usb.DriverHandoff

/-!
# The bounded exchange probe

The reads of a probe that looks for an expected reply, by a loop of its own beside that of a
session. A timeout ends the reading like the last read does.
-/

namespace Reink

/-- Whether the device has given the expected reply. -/
inductive BoundedExchangeProbeResult where
  | recognized
  | unrecognized (receivedBytes : Nat)
deriving DecidableEq, Repr

/-- The reply with the fragment behind it, and whether the expected reply is in it. -/
def appendAndRecognize (reply fragment expectedReply : List UInt8) : List UInt8 × Bool :=
  let reply := reply ++ fragment
  (reply, expectedReply ≠ [] ∧ Text.contains expectedReply reply)

section Reads

variable {S : Type} (expectedReply : List UInt8) (read : Nat → S → Except UsbError (List UInt8) × S)

/-- The reads of `readBoundedReply` that are left, after the bytes received so far. -/
def boundedReplyLoop : Nat → List UInt8 → S → Except UsbError BoundedExchangeProbeResult × S
  | 0, reply, s => (.ok (.unrecognized reply.length), s)
  | reads + 1, reply, s =>
    match read 256 s with
    | (.ok fragment, s) =>
      let appended := appendAndRecognize reply fragment expectedReply
      if appended.2 then (.ok .recognized, s) else boundedReplyLoop reads appended.1 s
    | (.error .timeout, s) => (.ok (.unrecognized reply.length), s)
    | (.error error, s) => (.error error, s)

/-- Read until the reply is there, or the limit is reached. -/
def readBoundedReply (maxReads : Nat) : S → Except UsbError BoundedExchangeProbeResult × S :=
  boundedReplyLoop expectedReply read maxReads []

end Reads

variable {S : Type} {expectedReply : List UInt8}
  {read : Nat → S → Except UsbError (List UInt8) × S}

/-- The fragments are read up to the one that completes the reply. By induction on them. -/
theorem boundedReplyLoop_supplied {fragments : List (List UInt8)} {reply : List UInt8} {s s' : S}
    (hexpected : expectedReply ≠ []) (hreply : ¬ expectedReply <:+: reply)
    (hreads : Supplies (read 256) fragments s s') :
    ∃ s'', Supplies (read 256) (upTo expectedReply reply fragments) s s'' ∧
      boundedReplyLoop expectedReply read fragments.length reply s =
        (.ok (if expectedReply <:+: reply ++ fragments.flatten then .recognized
          else .unrecognized (reply ++ fragments.flatten).length), s'') := by
  induction hreads generalizing reply with
  | @nil s =>
    refine ⟨s, .nil, ?_⟩
    rw [List.flatten_nil, List.append_nil, if_neg hreply]
    rfl
  | @cons s s₁ s' fragment fragments head tail ih =>
    rw [List.length_cons, boundedReplyLoop, head]
    dsimp only [appendAndRecognize]
    by_cases hfound : expectedReply <:+: reply ++ fragment
    case pos =>
      have hwhole : expectedReply <:+: reply ++ (fragment :: fragments).flatten := by
        rw [List.flatten_cons, ← List.append_assoc]
        exact hfound.trans (List.prefix_append _ _).isInfix
      refine ⟨s₁, ?_, ?_⟩
      · rw [upTo_cons_of_occurs hfound]
        exact .cons head .nil
      · rw [if_pos hwhole]
        exact if_pos (decide_eq_true ⟨hexpected, Text.contains_iff.2 hfound⟩)
    case neg =>
      obtain ⟨s'', hused, hrun⟩ := ih hfound
      refine ⟨s'', ?_, ?_⟩
      · rw [upTo_cons_of_not hfound]
        exact .cons head hused
      · have hmissing : ¬ decide (expectedReply ≠ [] ∧
            Text.contains expectedReply (reply ++ fragment) = true) = true :=
          fun h ↦ hfound (Text.contains_iff.1 (of_decide_eq_true h).2)
        rw [if_neg hmissing, hrun, List.flatten_cons, ← List.append_assoc]

end Reink
