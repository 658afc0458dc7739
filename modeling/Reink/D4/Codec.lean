import Reink.D4.Transaction

/-!
# Reading a transaction message back

A message that was encoded is decoded again under the same revision, up to what the layout of the
revision does not carry: `carried` is the message with those fields as the decoder fills them.
-/

namespace Reink

namespace TransactionMessage

/-- What of the message is in its bytes. -/
def carried (revision : ProtocolRevision) : TransactionMessage → TransactionMessage
  | openChannel peerSocket sourceSocket maxPacketSize maxServiceSize maxCredit initialCredit =>
    openChannel peerSocket sourceSocket maxPacketSize maxServiceSize maxCredit
      (if revision = .v10 then some (initialCredit.getD 0) else none)
  | openChannelReply result peerSocket sourceSocket maxPacketSize maxServiceSize maxCredit
      grantedCredit =>
    openChannelReply result peerSocket sourceSocket maxPacketSize maxServiceSize maxCredit
      (if revision = .v10 then 0 else grantedCredit)
  | creditRequest peerSocket sourceSocket maxCredit =>
    creditRequest peerSocket sourceSocket (if revision = .v10 then 0 else maxCredit)
  | getSocketIdReply result socketId serviceName =>
    getSocketIdReply result socketId (if result = 0 then serviceName else "")
  | getServiceNameReply result socketId serviceName =>
    getServiceNameReply result socketId (if result = 0 then serviceName else "")
  | message => message

end TransactionMessage

open TransactionMessage

/-! ### Fields -/

/-- What follows a value goes on with it. -/
@[simp] theorem ok_bind {ε α β : Type} (a : α) (f : α → Except ε β) :
    (Except.ok a >>= f) = f a := rfl

/-- The bytes of a service name are the codes of its characters: all ASCII, and not too many. -/
theorem codes_of_ascii {name : String} {bytes : List UInt8} (h : ascii name = .ok bytes) :
    (∀ c ∈ name.toList, c.toNat < 128) ∧ bytes = name.toList.map (fun c ↦ UInt8.ofNat c.toNat) ∧
      bytes.length ≤ maxServiceNameLength := by
  unfold ascii at h
  split at h
  · cases h
  · rename_i hall
    dsimp only at h
    split at h
    · cases h
    · rename_i hlength
      split at h
      · cases h
      · cases h
        exact ⟨by simpa using hall, rfl, Nat.le_of_not_lt fun hlong ↦ hlength (.inr hlong)⟩

/-- A service name is read back from its bytes. -/
theorem asciiFrom_of_ascii {name : String} {bytes : List UInt8} (h : ascii name = .ok bytes) :
    asciiFrom bytes = .ok name := by
  obtain ⟨hascii, rfl, -⟩ := codes_of_ascii h
  have hbyte : ∀ c ∈ name.toList, (UInt8.ofNat c.toNat).toNat = c.toNat := by
    intro c hc
    have := hascii c hc
    rw [UInt8.toNat_ofNat']
    omega
  have hisAscii : isAscii (name.toList.map fun c ↦ UInt8.ofNat c.toNat) = true := by
    simp only [isAscii, List.all_map, List.all_eq_true, Function.comp_apply, decide_eq_true_eq,
      UInt8.lt_iff_toNat_lt]
    intro c hc
    rw [hbyte c hc]
    exact hascii c hc
  have htext : String.ofList ((name.toList.map fun c ↦ UInt8.ofNat c.toNat).map
      fun b ↦ Char.ofNat b.toNat) = name := by
    rw [List.map_map, List.map_congr_left (g := id), List.map_id, String.ofList_toList]
    intro c hc
    simp only [Function.comp_apply, hbyte c hc, Char.ofNat_toNat, id]
  unfold asciiFrom
  rw [hisAscii]
  simp only [htext, h]
  rfl

namespace TransactionMessage

variable {message : TransactionMessage} {revision : ProtocolRevision} {bytes : List UInt8}

/-- What is written in front of a name is in front, and the name is written only with a result of
zero. -/
theorem rest_of_reply {result : UInt8} {name : String} {front : List UInt8}
    (h : (do return front ++ (← if result = 0 then ascii name else .ok []) :
      Except TransactionParseError (List UInt8)) = .ok bytes) :
    ∃ rest, bytes = front ++ rest ∧ (if result = 0 then ascii name else .ok []) = .ok rest := by
  by_cases hresult : result = 0
  · rw [if_pos hresult] at h ⊢
    rcases hname : ascii name with e | rest
    all_goals rw [hname] at h; cases h
    exact ⟨rest, rfl, rfl⟩
  · rw [if_neg hresult] at h ⊢
    cases h
    exact ⟨[], rfl, rfl⟩

/-- The name behind the result of a reply is read back, if the result is zero. -/
theorem name_of_reply {result socketId : UInt8} {name : String} {rest : List UInt8} {text : String}
    {reply : String → TransactionMessage}
    (h : (if result = 0 then ascii name else .ok []) = .ok rest) :
    (do
      let serviceName ← if result = 0 then asciiFrom rest else do
        exactLength (result :: socketId :: rest) 2 text
        pure ""
      return reply serviceName) = .ok (reply (if result = 0 then name else "")) := by
  by_cases hresult : result = 0
  · rw [if_pos hresult] at h
    rw [if_pos hresult, if_pos hresult, asciiFrom_of_ascii h]
    rfl
  · rw [if_neg hresult] at h
    cases h
    rw [if_neg hresult, if_neg hresult]
    rfl

/-- **A message that was encoded is decoded** to what its layout carries. One case for each
message. -/
theorem decode_encodeBody (h : message.encodeBody revision = .ok bytes) :
    decode bytes revision = .ok (message.carried revision) := by
  cases message with
  | init offered =>
    cases h
    cases offered <;> rfl
  | initReply result offered =>
    cases h
    cases offered <;> rfl
  | openChannel peerSocket sourceSocket maxPacketSize maxServiceSize maxCredit initialCredit =>
    cases h
    cases revision <;>
      simp [decode, decodeBody, exactLength, u16At, byte, UInt16.toBeBytes, carried,
        UInt16.fromBeBytes_div_mod]
  | openChannelReply result peerSocket sourceSocket maxPacketSize maxServiceSize maxCredit
      grantedCredit =>
    cases h
    cases revision <;>
      simp [decode, decodeBody, exactLength, u16At, byte, UInt16.toBeBytes, carried,
        UInt16.fromBeBytes_div_mod]
  | closeChannel peerSocket sourceSocket =>
    cases h
    cases revision <;> rfl
  | closeChannelReply result peerSocket sourceSocket =>
    cases h
    rfl
  | credit peerSocket sourceSocket addedCredit =>
    cases h
    simp [decode, decodeBody, exactLength, u16At, byte, UInt16.toBeBytes, carried,
        UInt16.fromBeBytes_div_mod]
  | creditReply result peerSocket sourceSocket =>
    cases h
    rfl
  | creditRequest peerSocket sourceSocket maxCredit =>
    cases h
    cases revision <;>
      simp [decode, decodeBody, exactLength, u16At, byte, UInt16.toBeBytes, carried,
        UInt16.fromBeBytes_div_mod]
  | creditRequestReply result peerSocket sourceSocket addedCredit =>
    cases h
    simp [decode, decodeBody, exactLength, u16At, byte, UInt16.toBeBytes, carried,
        UInt16.fromBeBytes_div_mod]
  | exit =>
    cases h
    rfl
  | exitReply result =>
    cases h
    rfl
  | getSocketId serviceName =>
    rcases hname : ascii serviceName with e | name
    · rw [encodeBody, hname] at h
      cases h
    · rw [encodeBody, hname] at h
      cases h
      simp [decode, decodeBody, asciiFrom_of_ascii hname, carried]
  | getSocketIdReply result socketId serviceName =>
    obtain ⟨rest, rfl, hname⟩ := rest_of_reply h
    exact name_of_reply hname
  | getServiceName socketId =>
    cases h
    rfl
  | getServiceNameReply result socketId serviceName =>
    obtain ⟨rest, rfl, hname⟩ := rest_of_reply h
    exact name_of_reply hname
  | error peerSocket sourceSocket errorCode =>
    cases h
    rfl

/-- Encoding for the wire adds a check of the length. -/
theorem encode_eq_ok : message.encode revision = .ok bytes ↔
    message.encodeBody revision = .ok bytes ∧ bytes.length ≤ maxTransactionPayloadLength := by
  unfold encode
  rcases message.encodeBody revision with e | body
  · exact ⟨fun h ↦ (nomatch h), fun h ↦ (nomatch h.1)⟩
  rw [ok_bind]
  split
  · rename_i hlong
    exact ⟨fun h ↦ (nomatch h), fun h ↦ absurd (Except.ok.inj h.1 ▸ h.2) (Nat.not_le.2 hlong)⟩
  · rename_i hshort
    exact ⟨fun h ↦ ⟨h, Except.ok.inj h ▸ Nat.le_of_not_lt hshort⟩, fun h ↦ h.1⟩

/-- A message that was encoded for the wire is decoded to what its layout carries. -/
theorem decode_encode (h : message.encode revision = .ok bytes) :
    decode bytes revision = .ok (message.carried revision) :=
  decode_encodeBody (encode_eq_ok.1 h).1

/-- Nothing else is written than what the layout carries. -/
theorem encode_carried (message : TransactionMessage) (revision : ProtocolRevision) :
    (message.carried revision).encode revision = message.encode revision := by
  unfold encode
  congr 1
  cases message with
  | openChannel => cases revision <;> rfl
  | openChannelReply => cases revision <;> rfl
  | creditRequest => cases revision <;> rfl
  | getSocketIdReply result =>
    by_cases hresult : result = 0 <;> simp [carried, encodeBody, hresult]
  | getServiceNameReply result =>
    by_cases hresult : result = 0 <;> simp [carried, encodeBody, hresult]
  | _ => rfl

/-- **Decoding undoes encoding, up to exactly what the layout does not carry.** The payload of a
message is decoded to the message as its layout carries it, and it is the payload of just the
messages that are carried as the same. -/
theorem decode_of_encode (h : message.encode revision = .ok bytes) :
    decode bytes revision = .ok (message.carried revision) ∧
      ∀ message' : TransactionMessage, message'.encode revision = .ok bytes ↔
        message'.carried revision = message.carried revision := by
  refine ⟨decode_encode h, fun message' ↦ ⟨fun h' ↦ ?_, fun heq ↦ ?_⟩⟩
  · exact Except.ok.inj ((decode_encode h').symm.trans (decode_encode h))
  · rw [← encode_carried, heq, encode_carried, h]

/-- A rejected name and a missing initial credit in revision 1.0. -/
theorem decode_of_encode_v10 :
    decode [0x8a, 5, 2] .v10 = .ok (.getServiceNameReply 5 2 "") ∧
      decode [0x01, 2, 2, 1, 0, 1, 0, 0, 0, 0, 0] .v10 =
        .ok (.openChannel 2 2 0x100 0x100 0 (some 0)) :=
  ⟨(decode_of_encode (show (getServiceNameReply 5 2 "EPSON-CTRL").encode .v10 =
      .ok [0x8a, 5, 2] by decide)).1,
    (decode_of_encode (show (openChannel 2 2 0x100 0x100 0 none).encode .v10 =
      .ok [0x01, 2, 2, 1, 0, 1, 0, 0, 0, 0, 0] by decide)).1⟩

end TransactionMessage

end Reink
