import Reink.App.Session
import Reink.Core.Record
import Reink.D4.Exchange

/-!
# A printer at the other end

What a conforming printer does, as a dialogue: what may be written to it at each stage, and what it
may send for that. The dialogue leaves to the printer what the protocol does: its revision and
limits, whether it grants a credit when the channel is opened, whether it returns the credit for a
request with the reply or waits to be asked, and the text around the record of a reply.

A `ConformingPeer` is any transport with such a printer behind it. It answers within the dialogue
what is written within the dialogue, and nothing is known of it outside. How its bytes are cut into
reads is the transport's choice, but for the entry reply, which takes five reads at most.
-/

namespace Reink

/-- What a printer is made of. -/
structure Printer where
  spec : EpsonSpec
  memory : UInt16 → UInt8
  revision : ProtocolRevision
  /-- The socket of the control service. -/
  socket : UInt8
  maxPacketSize : UInt16
  maxServiceSize : UInt16
  maxCredit : UInt16
  socket_ne_zero : socket ≠ 0
  /-- A read request fits the packets that the printer takes. -/
  request_fits : headerLength + 9 + spec.readAddressWidth.byteLen ≤ maxPacketSize.toNat
  /-- The record of a reply fits the packets that the printer sends. -/
  reply_fits : headerLength + 10 ≤ maxServiceSize.toNat

namespace Printer

/-- Where the dialogue stands. -/
inductive Stage where
  | idle
  /-- The packet mode is entered, and no conversation is open. -/
  | entered
  | active
  /-- The control channel is open, and the host has this much credit on it. -/
  | serving (credit : UInt16)
  | ended
deriving DecidableEq, Repr

/-- What the host can ask for. -/
inductive Ask where
  | enter
  | transact (message : TransactionMessage)
  | read (address : UInt16)
deriving DecidableEq, Repr

variable (p : Printer)

/-- The channel of the control service. -/
def channel : ChannelId := ⟨p.socket, p.socket⟩

theorem channel_ne : p.channel ≠ .transaction :=
  fun h ↦ p.socket_ne_zero (congrArg ChannelId.peerSocket h)

/-- The bytes that ask. -/
inductive Asks : Ask → List UInt8 → Prop where
  | enter : Asks .enter epsonD4EntryCommand
  | transact {message : TransactionMessage} {payload : List UInt8} {packet : Packet}
      (hencode : message.encode p.revision = .ok payload)
      (hpacket : Packet.new 0 0 payload 1 0 = .ok packet) :
      Asks (.transact message) packet.encode
  | read {address : UInt16} {request : List UInt8} {packet : Packet}
      (hencode : encodeEepromRead p.spec address = .ok request)
      (hpacket : Packet.new p.socket p.socket request 1 0 = .ok packet) :
      Asks (.read address) packet.encode

/-- The commands that the printer carries out, and its successful replies. A grant on opening can be
told only in revision 2.0. -/
inductive Answers : Stage → TransactionMessage → Stage → TransactionMessage → Prop where
  | init : Answers .entered (.init p.revision) .active (.initReply 0 p.revision)
  | getSocketId : Answers .active (.getSocketId "EPSON-CTRL") .active
      (.getSocketIdReply 0 p.socket "EPSON-CTRL")
  | openChannel {maxPacketSize maxServiceSize maxCredit granted : UInt16}
      {initialCredit : Option UInt16} (hgranted : granted ≤ 1) :
      Answers .active
        (.openChannel p.socket p.socket maxPacketSize maxServiceSize maxCredit initialCredit)
        (.serving (if p.revision = .v10 then 0 else granted))
        (.openChannelReply 0 p.socket p.socket p.maxPacketSize p.maxServiceSize p.maxCredit granted)
  | creditRequest {maxCredit : UInt16} :
      Answers (.serving 0) (.creditRequest p.socket p.socket maxCredit) (.serving 1)
        (.creditRequestReply 0 p.socket p.socket 1)
  | closeChannel {credit : UInt16} :
      Answers (.serving credit) (.closeChannel p.socket p.socket) .active
        (.closeChannelReply 0 p.socket p.socket)
  | exit : Answers .active .exit .ended (.exitReply 0)

/-- One turn of the dialogue: what is asked, and the bytes that are sent for it. -/
inductive Exchange : Stage → Ask → Stage → List UInt8 → Prop where
  | enter : Exchange .idle .enter .entered epsonD4EntryReply
  /-- A printer of revision 1.0 declines revision 2.0. -/
  | decline {offered : ProtocolRevision} {payload : List UInt8} {packet : Packet}
      {credit control : UInt8} (hrevision : p.revision = .v10)
      (hencode : (TransactionMessage.initReply 2 offered).encode p.revision = .ok payload)
      (hpacket : Packet.new 0 0 payload credit control = .ok packet) :
      Exchange .entered (.transact (.init .v20)) .entered packet.encode
  /-- A reply carries one transaction credit. -/
  | answer {stage stage' : Stage} {message reply : TransactionMessage} {payload : List UInt8}
      {packet : Packet} {control : UInt8} (hanswers : p.Answers stage message stage' reply)
      (hencode : reply.encode p.revision = .ok payload)
      (hpacket : Packet.new 0 0 payload 1 control = .ok packet) :
      Exchange stage (.transact message) stage' packet.encode
  /-- A request costs the credit on the channel, and the reply may return it. -/
  | record {address : UInt16} {response : List UInt8} {packet : Packet} {piggyback control : UInt8}
      (hpiggyback : piggyback ≤ 1)
      (hrecord : HoldsRecord p.spec.readAddressWidth ⟨address, p.memory address⟩ response)
      (hpacket : Packet.new p.socket p.socket response piggyback control = .ok packet)
      (hfits : packet.header.length ≤ p.maxServiceSize) :
      Exchange (.serving 1) (.read address) (.serving piggyback.toUInt16) packet.encode

end Printer

/-- What is in the outbox is read by so many reads of the entry buffer. -/
def PromptPeer.DeliveredWithin {T σ : Type} [ByteTransport T] (peer : PromptPeer T σ) :
    Nat → T → Prop
  | 0, t => peer.outbox t = []
  | reads + 1, t => peer.outbox t = [] ∨ ∀ bytes t',
    ByteTransport.read 256 t = (.ok bytes, t') → peer.DeliveredWithin reads t'

/-- A transport with the printer behind it. -/
structure ConformingPeer (p : Printer) (T : Type) [ByteTransport T] extends
    PromptPeer T Printer.Stage where
  /-- What is asked within the dialogue is answered within it. -/
  answers : ∀ {t : T} {ask : Printer.Ask} {data : List UInt8} {stage' : Printer.Stage}
    {sent : List UInt8}, outbox t = [] → p.Asks ask data → p.Exchange (stage t) ask stage' sent →
      ∃ t', ByteTransport.writeAll data t = (.ok (), t') ∧
        p.Exchange (stage t) ask (stage t') (outbox t')
  /-- The entry reply takes no more reads than the host makes for it. -/
  entry : ∀ {t t' : T}, stage t = .idle → outbox t = [] →
    ByteTransport.writeAll epsonD4EntryCommand t = (.ok (), t') →
      toPromptPeer.DeliveredWithin entryReplyReadLimit t'

end Reink
