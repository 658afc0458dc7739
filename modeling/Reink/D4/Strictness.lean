import Reink.D4.Codec
import Reink.Library.Checked
import Reink.Library.Program

/-!
# The decoder accepts only what the encoder writes

A payload that is decoded to a message is the one that the message is encoded to. Only in two
messages of revision 1.0 does the decoder pass over bytes: the padding of `CloseChannel` and the
units of `CreditRequest`.
-/

namespace Reink

open TransactionMessage

/-! ### Fields -/

section Fields

variable {bytes : List UInt8} {name : String}

theorem exactLength_eq_ok {expected : Nat} {message : String} {u : Unit} :
    exactLength bytes expected message = .ok u ↔ bytes.length = expected := by
  unfold exactLength
  split
  · simp_all
  · split <;> simp_all

theorem ProtocolRevision.asByte_of_fromByte {b : UInt8} {revision : ProtocolRevision}
    (h : fromByte b = .ok revision) : revision.asByte = b := by
  unfold fromByte at h
  split at h
  · cases h
    simp_all [asByte]
  · split at h
    · cases h
      simp_all [asByte]
    · cases h

/-- A name that is read from bytes is written as these bytes, and is not too long. -/
theorem ascii_of_asciiFrom (h : asciiFrom bytes = .ok name) :
    ascii name = .ok bytes ∧ bytes.length ≤ maxServiceNameLength := by
  unfold asciiFrom at h
  split at h
  · cases h
  · rename_i hascii
    obtain ⟨codes, hcodes, hname⟩ := Except.bind_eq_ok.1 h
    cases hname
    obtain ⟨-, hmap, hlength⟩ := codes_of_ascii hcodes
    have hbytes : codes = bytes := by
      rw [hmap, String.toList_ofList, List.map_map]
      refine (List.map_congr_left fun b _ ↦ ?_).trans (List.map_id bytes)
      rw [Function.comp_apply, Text.toNat_charOfNat, UInt8.ofNat_toNat, id]
    rw [hbytes] at hcodes hlength
    exact ⟨hcodes, hlength⟩

/-- The name behind the result and the socket of a reply, which is there only with a result of
zero. -/
theorem ascii_of_reply {result socketId : UInt8} {rest : List UInt8} {text : String}
    {reply : String → TransactionMessage} {message : TransactionMessage}
    (h : (if result = 0 then do return reply (← asciiFrom rest)
      else do
        exactLength (result :: socketId :: rest) 2 text
        return reply "") = .ok message) :
    ∃ name, message = reply name ∧ (if result = 0 then ascii name else .ok []) = .ok rest ∧
      rest.length ≤ maxServiceNameLength := by
  by_cases hresult : result = 0
  · rw [if_pos hresult] at h
    obtain ⟨name, hname, hmessage⟩ := Except.bind_eq_ok.1 h
    obtain ⟨hascii, hlength⟩ := ascii_of_asciiFrom hname
    cases hmessage
    exact ⟨name, rfl, by rw [if_pos hresult, hascii], hlength⟩
  · rw [if_neg hresult] at h
    obtain ⟨_, hlength, hmessage⟩ := Except.bind_eq_ok.1 h
    obtain rfl : rest = [] := by simpa using exactLength_eq_ok.1 hlength
    cases hmessage
    exact ⟨"", rfl, if_neg hresult, Nat.zero_le _⟩

/-- The encoder puts the name there. -/
theorem append_of_ascii {result : UInt8} {rest front : List UInt8}
    (h : (if result = 0 then ascii name else .ok []) = .ok rest) :
    (do return front ++ (← if result = 0 then ascii name else .ok []) :
      Except TransactionParseError (List UInt8)) = .ok (front ++ rest) := by
  by_cases hresult : result = 0
  · rw [if_pos hresult] at h
    rw [if_pos hresult, h]
    rfl
  · rw [if_neg hresult] at h
    cases h
    rw [if_neg hresult]
    rfl

end Fields

namespace TransactionMessage

/-- Whether the decoder passes over some of the message's bytes. -/
def IsPadded (revision : ProtocolRevision) : TransactionMessage → Prop
  | closeChannel .. | creditRequest .. => revision = .v10
  | _ => False

/-- The encoded message is the payload, but for bytes that the decoder passes over. -/
structure Rereads (revision : ProtocolRevision) (message : TransactionMessage)
    (payload encoded : List UInt8) : Prop where
  length : encoded.length = payload.length
  take : encoded.take 3 = payload.take 3
  eq : ¬ message.IsPadded revision → encoded = payload

variable {code : UInt8} {body payload : List UInt8} {revision : ProtocolRevision}
  {message : TransactionMessage}

/-- The message is encoded, within the length of a payload, to what it was read from. -/
def Reencodes (revision : ProtocolRevision) (message : TransactionMessage)
    (payload : List UInt8) : Prop :=
  ∃ encoded, message.encodeBody revision = .ok encoded ∧
    Rereads revision message payload encoded ∧ encoded.length ≤ maxTransactionPayloadLength

/-- A message of a fixed layout that is encoded to just the payload. -/
theorem reencodes_of_fixed (h : message.encodeBody revision = .ok (code :: body))
    (hlength : body.length < 12) : message.Reencodes revision (code :: body) :=
  ⟨_, h, ⟨rfl, rfl, fun _ ↦ rfl⟩, by rw [maxTransactionPayloadLength, List.length_cons]; omega⟩

/-- A message that ends with a name, with at most two bytes between the code and the name. -/
theorem reencodes_of_name (between : List UInt8) {rest : List UInt8}
    (h : message.encodeBody revision = .ok (code :: (between ++ rest)))
    (hbetween : between.length ≤ 2) (hrest : rest.length ≤ maxServiceNameLength) :
    message.Reencodes revision (code :: (between ++ rest)) := by
  refine ⟨_, h, ⟨rfl, rfl, fun _ ↦ rfl⟩, ?_⟩
  rw [maxServiceNameLength] at hrest
  rw [maxTransactionPayloadLength, List.length_cons, List.length_append]
  omega

/-- A message whose body has to be of one length. -/
theorem exactLength_bind_eq_ok {expected : Nat} {text : String}
    {k : Except TransactionParseError TransactionMessage} :
    (exactLength body expected text >>= fun _ ↦ k) = .ok message ↔
      body.length = expected ∧ k = .ok message := by
  refine Except.bind_eq_ok.trans ⟨fun ⟨_, hlength, h⟩ ↦ ?_, fun ⟨hlength, h⟩ ↦ ?_⟩
  · exact ⟨exactLength_eq_ok.1 hlength, h⟩
  · exact ⟨(), exactLength_eq_ok.2 hlength, h⟩

/-- The message is what one of the two branches of the decoder gives. -/
theorem ite_eq_ok {c : Prop} [Decidable c] {x y : Except TransactionParseError TransactionMessage}
    (h : (if c then x else y) = .ok message) : c ∧ x = .ok message ∨ y = .ok message := by
  by_cases hc : c
  · rw [if_pos hc] at h
    exact .inl ⟨hc, h⟩
  · rw [if_neg hc] at h
    exact .inr h

/-- What is decoded is encoded to what it was read from. One case for each code. -/
theorem encodeBody_of_decodeBody (h : decodeBody code body revision = .ok message) :
    message.Reencodes revision (code :: body) := by
  unfold decodeBody at h
  replace h := ite_eq_ok h
  rcases h with ⟨rfl, h⟩ | h
  · -- `Init`
    obtain ⟨hlength, h⟩ := exactLength_bind_eq_ok.1 h
    obtain ⟨b0, rfl⟩ := List.length_eq_one_iff.1 hlength
    obtain ⟨_, ⟨⟩, h⟩ := Except.bind_eq_ok.1 h
    obtain ⟨offered, hoffered, hmessage⟩ := Except.bind_eq_ok.1 h
    cases hmessage
    exact reencodes_of_fixed (by rw [encodeBody, ProtocolRevision.asByte_of_fromByte hoffered])
      (by simp)
  replace h := ite_eq_ok h
  rcases h with ⟨rfl, h⟩ | h
  · -- `Init` reply
    obtain ⟨hlength, h⟩ := exactLength_bind_eq_ok.1 h
    obtain ⟨b0, b1, rfl⟩ := List.length_eq_two.1 hlength
    obtain ⟨_, ⟨⟩, h⟩ := Except.bind_eq_ok.1 h
    obtain ⟨_, ⟨⟩, h⟩ := Except.bind_eq_ok.1 h
    obtain ⟨offered, hoffered, hmessage⟩ := Except.bind_eq_ok.1 h
    cases hmessage
    exact reencodes_of_fixed (by rw [encodeBody, ProtocolRevision.asByte_of_fromByte hoffered])
      (by simp)
  replace h := ite_eq_ok h
  rcases h with ⟨rfl, h⟩ | h
  · -- `OpenChannel`, with an initial credit in revision 1.0
    obtain ⟨hlength, h⟩ := exactLength_bind_eq_ok.1 h
    cases revision with
    | v10 =>
      obtain ⟨b0, b1, b2, b3, _, rfl, hbehind⟩ := List.exists_of_length_add_four hlength
      obtain ⟨b4, b5, b6, b7, _, rfl, hlast⟩ := List.exists_of_length_add_four hbehind
      obtain ⟨b8, b9, rfl⟩ := List.length_eq_two.1 hlast
      cases h
      exact reencodes_of_fixed (by simp [encodeBody, UInt16.toBeBytes_fromBeBytes]) (by simp)
    | v20 =>
      obtain ⟨b0, b1, b2, b3, _, rfl, hbehind⟩ := List.exists_of_length_add_four hlength
      obtain ⟨b4, b5, b6, b7, rfl⟩ := List.length_eq_four.1 hbehind
      cases h
      exact reencodes_of_fixed (by simp [encodeBody, UInt16.toBeBytes_fromBeBytes]) (by simp)
  replace h := ite_eq_ok h
  rcases h with ⟨rfl, h⟩ | h
  · -- `OpenChannel` reply, with a granted credit in revision 2.0
    obtain ⟨hlength, h⟩ := exactLength_bind_eq_ok.1 h
    cases revision with
    | v10 =>
      obtain ⟨b0, b1, b2, b3, _, rfl, hbehind⟩ := List.exists_of_length_add_four hlength
      obtain ⟨b4, b5, b6, b7, _, rfl, hlast⟩ := List.exists_of_length_add_four hbehind
      obtain ⟨b8, rfl⟩ := List.length_eq_one_iff.1 hlast
      cases h
      exact reencodes_of_fixed (by simp [encodeBody, UInt16.toBeBytes_fromBeBytes]) (by simp)
    | v20 =>
      obtain ⟨b0, b1, b2, b3, _, rfl, hbehind⟩ := List.exists_of_length_add_four hlength
      obtain ⟨b4, b5, b6, b7, _, rfl, hlast⟩ := List.exists_of_length_add_four hbehind
      obtain ⟨b8, b9, b10, rfl⟩ := List.length_eq_three.1 hlast
      cases h
      exact reencodes_of_fixed (by simp [encodeBody, UInt16.toBeBytes_fromBeBytes]) (by simp)
  replace h := ite_eq_ok h
  rcases h with ⟨rfl, h⟩ | h
  · -- `CloseChannel`: the third byte of revision 1.0 is passed over, and written as zero
    obtain ⟨hlength, h⟩ := exactLength_bind_eq_ok.1 h
    cases revision with
    | v10 =>
      obtain ⟨b0, b1, b2, rfl⟩ := List.length_eq_three.1 hlength
      cases h
      exact ⟨[0x02, b0, b1, 0], rfl, ⟨rfl, rfl, fun hpadded ↦ absurd rfl hpadded⟩,
        by simp [maxTransactionPayloadLength]⟩
    | v20 =>
      obtain ⟨b0, b1, rfl⟩ := List.length_eq_two.1 hlength
      cases h
      exact reencodes_of_fixed rfl (by simp)
  replace h := ite_eq_ok h
  rcases h with ⟨rfl, h⟩ | h
  · -- `CloseChannel` reply
    obtain ⟨hlength, h⟩ := exactLength_bind_eq_ok.1 h
    obtain ⟨b0, b1, b2, rfl⟩ := List.length_eq_three.1 hlength
    cases h
    exact reencodes_of_fixed rfl (by simp)
  replace h := ite_eq_ok h
  rcases h with ⟨rfl, h⟩ | h
  · -- `Credit`
    obtain ⟨hlength, h⟩ := exactLength_bind_eq_ok.1 h
    obtain ⟨b0, b1, b2, b3, rfl⟩ := List.length_eq_four.1 hlength
    cases h
    exact reencodes_of_fixed (by simp [encodeBody, UInt16.toBeBytes_fromBeBytes]) (by simp)
  replace h := ite_eq_ok h
  rcases h with ⟨rfl, h⟩ | h
  · -- `Credit` reply
    obtain ⟨hlength, h⟩ := exactLength_bind_eq_ok.1 h
    obtain ⟨b0, b1, b2, rfl⟩ := List.length_eq_three.1 hlength
    cases h
    exact reencodes_of_fixed rfl (by simp)
  replace h := ite_eq_ok h
  rcases h with ⟨rfl, h⟩ | h
  · -- `CreditRequest`: the units of revision 1.0 are passed over, and written as constants
    obtain ⟨hlength, h⟩ := exactLength_bind_eq_ok.1 h
    cases revision with
    | v10 =>
      obtain ⟨b0, b1, b2, b3, _, rfl, hbehind⟩ := List.exists_of_length_add_four hlength
      obtain ⟨b4, b5, rfl⟩ := List.length_eq_two.1 hbehind
      cases h
      exact ⟨[0x04, b0, b1, 0x00, 0x80, 0xff, 0xff], rfl,
        ⟨rfl, rfl, fun hpadded ↦ absurd rfl hpadded⟩,
        by simp [maxTransactionPayloadLength]⟩
    | v20 =>
      obtain ⟨b0, b1, b2, b3, rfl⟩ := List.length_eq_four.1 hlength
      cases h
      exact reencodes_of_fixed (by simp [encodeBody, UInt16.toBeBytes_fromBeBytes]) (by simp)
  replace h := ite_eq_ok h
  rcases h with ⟨rfl, h⟩ | h
  · -- `CreditRequest` reply
    obtain ⟨hlength, h⟩ := exactLength_bind_eq_ok.1 h
    obtain ⟨b0, b1, b2, b3, _, rfl, hbehind⟩ := List.exists_of_length_add_four hlength
    obtain ⟨b4, rfl⟩ := List.length_eq_one_iff.1 hbehind
    cases h
    exact reencodes_of_fixed (by simp [encodeBody, UInt16.toBeBytes_fromBeBytes]) (by simp)
  replace h := ite_eq_ok h
  rcases h with ⟨rfl, h⟩ | h
  · -- `Exit`
    obtain ⟨hlength, h⟩ := exactLength_bind_eq_ok.1 h
    obtain rfl := List.eq_nil_of_length_eq_zero hlength
    cases h
    exact reencodes_of_fixed rfl (by simp)
  replace h := ite_eq_ok h
  rcases h with ⟨rfl, h⟩ | h
  · -- `Exit` reply
    obtain ⟨hlength, h⟩ := exactLength_bind_eq_ok.1 h
    obtain ⟨b0, rfl⟩ := List.length_eq_one_iff.1 hlength
    cases h
    exact reencodes_of_fixed rfl (by simp)
  replace h := ite_eq_ok h
  rcases h with ⟨rfl, h⟩ | h
  · -- `GetSocketId`
    obtain ⟨name, hname, hmessage⟩ := Except.bind_eq_ok.1 h
    cases hmessage
    obtain ⟨hascii, hlength⟩ := ascii_of_asciiFrom hname
    exact reencodes_of_name [] (by rw [encodeBody, hascii]; rfl) (by simp) hlength
  replace h := ite_eq_ok h
  rcases h with ⟨rfl, h⟩ | h
  · -- `GetSocketId` reply
    rcases body with _ | ⟨b0, _ | ⟨b1, rest⟩⟩
    · cases h
    · cases h
    obtain ⟨name, rfl, hname, hlength⟩ := ascii_of_reply h
    exact reencodes_of_name [b0, b1] (append_of_ascii hname) (by simp) hlength
  replace h := ite_eq_ok h
  rcases h with ⟨rfl, h⟩ | h
  · -- `GetServiceName`
    obtain ⟨hlength, h⟩ := exactLength_bind_eq_ok.1 h
    obtain ⟨b0, rfl⟩ := List.length_eq_one_iff.1 hlength
    cases h
    exact reencodes_of_fixed rfl (by simp)
  replace h := ite_eq_ok h
  rcases h with ⟨rfl, h⟩ | h
  · -- `GetServiceName` reply
    rcases body with _ | ⟨b0, _ | ⟨b1, rest⟩⟩
    · cases h
    · cases h
    obtain ⟨name, rfl, hname, hlength⟩ := ascii_of_reply h
    exact reencodes_of_name [b0, b1] (append_of_ascii hname) (by simp) hlength
  replace h := ite_eq_ok h
  rcases h with ⟨rfl, h⟩ | h
  · -- `Error`
    obtain ⟨hlength, h⟩ := exactLength_bind_eq_ok.1 h
    obtain ⟨b0, b1, b2, rfl⟩ := List.length_eq_three.1 hlength
    cases h
    exact reencodes_of_fixed rfl (by simp)
  cases h

/-- What is decoded is encoded for the wire to what it was read from. -/
theorem encode_of_decode (h : decode payload revision = .ok message) :
    ∃ encoded, message.encode revision = .ok encoded ∧
      Rereads revision message payload encoded := by
  rcases payload with _ | ⟨code, body⟩
  · cases h
  · obtain ⟨encoded, hencoded, hrereads, hlength⟩ := encodeBody_of_decodeBody h
    exact ⟨encoded, encode_eq_ok.2 ⟨hencoded, hlength⟩, hrereads⟩

/-! ### The slices of the decoder -/

/-- The bytes from the offset on, which has to lie within them. -/
def sliceFrom (bytes : List UInt8) (start : Nat) :
    Outcome TransactionParseError (List UInt8) :=
  if start ≤ bytes.length then .ok (bytes.drop start)
  else .panic ("range start index " ++ toString start ++ " out of range for slice of length " ++
    toString bytes.length)

/-- The body of a reply with a name, of which the source takes a slice. -/
def decodeNamedReply (body : List UInt8) (message : String)
    (reply : UInt8 → UInt8 → String → TransactionMessage) :
    Outcome TransactionParseError TransactionMessage := do
  let result ← .ofExcept (byte body 0)
  let socketId ← .ofExcept (byte body 1)
  if result = 0 then
    let name ← sliceFrom body 2
    return reply result socketId (← .ofExcept (asciiFrom name))
  else
    .ofExcept (exactLength body 2 message)
    return reply result socketId ""

/-- `decode` with the panics of its slices. -/
def decodeSlicing (bytes : List UInt8) (revision : ProtocolRevision) :
    Outcome TransactionParseError TransactionMessage :=
  match bytes with
  | 0x89 :: body => decodeNamedReply body "GetSocketId reply" getSocketIdReply
  | 0x8a :: body => decodeNamedReply body "GetServiceName reply" getServiceNameReply
  | bytes => .ofExcept (decode bytes revision)

/-- The slice is behind a byte that was there. -/
theorem decodeNamedReply_eq (body : List UInt8) (text : String)
    (reply : UInt8 → UInt8 → String → TransactionMessage) :
    decodeNamedReply body text reply = .ofExcept (do
      let result ← byte body 0
      let socketId ← byte body 1
      let serviceName ← if result = 0 then asciiFrom (body.drop 2) else do
        exactLength body 2 text
        pure ""
      return reply result socketId serviceName) := by
  match body with
  | [] => rfl
  | [_] => rfl
  | result :: socketId :: rest =>
    have hslice (b : UInt8) : sliceFrom (b :: socketId :: rest) 2 = .ok rest := if_pos (by simp)
    by_cases hresult : result = 0
    · rcases hname : asciiFrom rest with e | name <;>
        simp [decodeNamedReply, byte, hresult, hslice, hname]
    · rcases hlength : exactLength (result :: socketId :: rest) 2 text with e | u <;>
        simp [decodeNamedReply, byte, hresult, hlength]

theorem decodeSlicing_eq (bytes : List UInt8) (revision : ProtocolRevision) :
    decodeSlicing bytes revision = .ofExcept (decode bytes revision) := by
  unfold decodeSlicing
  split
  · exact decodeNamedReply_eq _ _ _
  · exact decodeNamedReply_eq _ _ _
  · rfl

/-- **The decoder is strict.** It does not index outside the payload, and a message that it accepts
is encoded to the payload again, but for the bytes that revision 1.0 has it pass over. -/
theorem decode_strict (payload : List UInt8) (revision : ProtocolRevision) :
    (∀ text, decodeSlicing payload revision ≠ .panic text) ∧
      ∀ message, decodeSlicing payload revision = .ok message →
        ∃ encoded, message.encode revision = .ok encoded ∧
          Rereads revision message payload encoded := by
  rw [decodeSlicing_eq]
  refine ⟨fun text ↦ Outcome.ofExcept_ne_panic, fun message h ↦ ?_⟩
  exact encode_of_decode (Outcome.ofExcept_eq_ok.1 h)

end TransactionMessage

end Reink
