import Mathlib.Algebra.Order.BigOperators.Group.List
import Mathlib.Algebra.Order.Ring.Nat
import Mathlib.Data.List.TakeWhile
import Reink.D4.Panic
import Reink.Library.Settling

/-!
# When an operation returns

The receive loops take packets from the front of the received queue and put packets of other
channels back at its end, and they read from the transport only when the queue is empty. An
iteration that puts a packet back makes progress in one way only, through the credit in the packet's
header. So a loop goes on for ever once every packet in the queue is `Inert`: of a known channel
that is not the awaited one, and without credit.

`returns_iff` says that this is the only way. Over a transport that has finitely many bytes to
deliver, and from any state a run can reach, an operation returns, whatever the bound of its loops
from some bound on, if and only if none of its loops ever starts an iteration on such a queue, and
no result is stored after the end of the conversation, which is where the code panics.

The measure of the loops has three digits: what there is to receive, the credit that the queued
packets' channels can still take, and the number of inert packets before the first that is not.
-/

namespace Reink

namespace D4Link

open Program (Settles bind_run_ok)

variable {T : Type}

/-! ### The stuck queue -/

/-- The loop would put the packet back and change nothing else. -/
def Inert (awaited : Option ChannelId) (link : D4Link T) (packet : Packet) : Prop :=
  packet.channel ≠ .transaction ∧ some packet.channel ≠ awaited ∧ packet.header.credit = 0 ∧
    (link.channels packet.channel).any (packet.header.length ≤ ·.maxServiceSize)

/-- A loop in this state goes round and round. -/
def Stuck (awaited : Option ChannelId) (link : D4Link T) : Prop :=
  link.received ≠ [] ∧ link.conversation ≠ .terminated ∧
    ∀ packet ∈ link.received, Inert awaited link packet

/-- The step starts an iteration on a stuck queue. -/
def Sticks (link : D4Link T) : Event → Prop
  | .polled awaited => Stuck awaited link
  | _ => False

/-- Labels of steps that put a packet back. -/
def IsTurn : Event → Prop
  | .putBack _ => True
  | _ => False

instance (awaited : Option ChannelId) (link : D4Link T) (packet : Packet) :
    Decidable (Inert awaited link packet) :=
  inferInstanceAs (Decidable (_ ∧ _ ∧ _ ∧ _ = true))

instance (awaited : Option ChannelId) (link : D4Link T) : Decidable (Stuck awaited link) :=
  inferInstanceAs (Decidable (_ ∧ _ ∧ ∀ packet ∈ link.received, Inert awaited link packet))

/-! ### The measure -/

/-- The credit of a channel, nothing when it is not in the table. -/
def creditOf (link : D4Link T) (channel : ChannelId) : Nat :=
  ((link.channels channel).map fun state ↦ state.credit.toNat).getD 0

/-- The credit that the channels of the queued packets can still take. -/
def room (link : D4Link T) : Nat :=
  (link.received.map fun packet ↦ 65535 - creditOf link packet.channel).sum

/-- The inert packets at the front of the queue. -/
def lead (awaited : Option ChannelId) (link : D4Link T) : Nat :=
  (link.received.takeWhile fun packet ↦ decide (Inert awaited link packet)).length

/-- The weight of the first digit, for up to `n` packets. -/
def weight (n : Nat) : Nat := 65535 * n * (n + 1) + (n + 1)

theorem room_le (link : D4Link T) : room link ≤ 65535 * link.received.length := by
  have hsum := List.sum_le_card_nsmul
    (link.received.map fun packet ↦ 65535 - creditOf link packet.channel) 65535 (by simp)
  rw [List.length_map, nsmul_eq_mul, Nat.mul_comm] at hsum
  exact hsum

theorem lead_le (awaited : Option ChannelId) (link : D4Link T) :
    lead awaited link ≤ link.received.length :=
  (List.takeWhile_sublist _).length_le

section Stock

variable [FiniteTransport T]

/-- What there is to receive: bytes to come, bytes that are not yet a packet, and packets. -/
def stock (link : D4Link T) : Nat :=
  FiniteTransport.remaining link.target + link.decoder.buffer.length + link.received.length

/-- The number of iterations that a loop which never sticks may still make. -/
def work (n : Nat) (awaited : Option ChannelId) (link : D4Link T) : Nat :=
  stock link * weight n + (room link * (n + 1) + lead awaited link)

variable {n : Nat} {awaited : Option ChannelId} {link link' : D4Link T}

theorem received_le_stock (link : D4Link T) : link.received.length ≤ stock link :=
  Nat.le_add_left _ _

/-- The lower digits stay below the weight of the first. -/
theorem digits_lt (hstock : stock link ≤ n) :
    room link * (n + 1) + lead awaited link < weight n := by
  have hqueue := (received_le_stock link).trans hstock
  have hroom : room link * (n + 1) ≤ 65535 * n * (n + 1) :=
    Nat.mul_le_mul_right _ ((room_le link).trans (Nat.mul_le_mul_left _ hqueue))
  have hlead := (lead_le awaited link).trans hqueue
  unfold weight
  omega

theorem work_lt_of_stock (hstock : stock link ≤ n) (hless : stock link' < stock link) :
    work n awaited link' < work n awaited link := by
  have hdigits : room link' * (n + 1) + lead awaited link' < weight n :=
    digits_lt (hless.le.trans hstock)
  calc work n awaited link' < stock link' * weight n + weight n := Nat.add_lt_add_left hdigits _
    _ = (stock link' + 1) * weight n := by rw [Nat.add_mul, Nat.one_mul]
    _ ≤ stock link * weight n := Nat.mul_le_mul_right _ hless
    _ ≤ work n awaited link := Nat.le_add_right _ _

theorem work_lt_of_room (hstock : stock link' ≤ n) (hsame : stock link' ≤ stock link)
    (hless : room link' < room link) : work n awaited link' < work n awaited link := by
  have hlead := (lead_le awaited link').trans ((received_le_stock link').trans hstock)
  have hroom : (room link' + 1) * (n + 1) ≤ room link * (n + 1) := Nat.mul_le_mul_right _ hless
  have hfirst := Nat.mul_le_mul_right (weight n) hsame
  rw [Nat.add_mul, Nat.one_mul] at hroom
  unfold work
  omega

theorem work_lt_of_lead (hsame : stock link' ≤ stock link) (hroom : room link' = room link)
    (hless : lead awaited link' < lead awaited link) :
    work n awaited link' < work n awaited link := by
  have hfirst := Nat.mul_le_mul_right (weight n) hsame
  unfold work
  rw [hroom]
  omega

end Stock

/-! ### Putting a packet back -/

/-- The link after an iteration that puts the packet at the front of the queue back, with the new
entry of its channel. -/
def turned (link : D4Link T) (packet : Packet) (rest : List Packet) (state : ChannelState) :
    D4Link T :=
  { link.setChannel packet.channel state with received := rest ++ [packet] }

section Turned

variable {link : D4Link T} {packet : Packet} {rest : List Packet} {state : ChannelState}
  {awaited : Option ChannelId} {credit : UInt16}

/-- The entry that is there already. -/
theorem turned_of_lookup (hlookup : link.channels packet.channel = some state) :
    link.turned packet rest state = { link with received := rest ++ [packet] } := by
  have hchannels : Function.update link.channels packet.channel (some state) = link.channels := by
    rw [← hlookup]
    exact Function.update_eq_self _ _
  unfold turned setChannel
  rw [hchannels]

/-- A stuck queue stays stuck, and its first packet is put back. -/
theorem Stuck.turned (hstuck : Stuck awaited link) (hqueue : link.received = packet :: rest)
    (hlookup : link.channels packet.channel = some state) :
    Stuck awaited (link.turned packet rest state) := by
  obtain ⟨-, hrunning, hinert⟩ := hstuck
  rw [turned_of_lookup hlookup]
  refine ⟨by simp, hrunning, fun queued hqueued ↦ hinert queued ?_⟩
  rw [hqueue]
  rcases List.mem_append.1 hqueued with h | h
  · exact List.mem_cons_of_mem _ h
  · rw [List.mem_singleton.1 h]
    exact List.mem_cons_self

/-- A packet without credit comes to stand behind the first that is not inert. -/
theorem lead_turned (hqueue : link.received = packet :: rest)
    (hlookup : link.channels packet.channel = some state) (hpacket : Inert awaited link packet)
    (hother : ∃ queued ∈ rest, ¬ Inert awaited link queued) :
    lead awaited (link.turned packet rest state) < lead awaited link := by
  have hall : ¬ ∀ queued ∈ rest, decide (Inert awaited link queued) = true := by
    obtain ⟨queued, hqueued, hne⟩ := hother
    exact fun h ↦ hne (of_decide_eq_true (h queued hqueued))
  have hlength : (rest.takeWhile fun queued ↦ decide (Inert awaited link queued)).length ≠
      rest.length := by
    intro hlength
    have htake := (List.takeWhile_prefix _).eq_of_length hlength
    exact hall (List.takeWhile_eq_self_iff.1 htake)
  rw [turned_of_lookup hlookup]
  show (List.takeWhile (fun queued ↦ decide (Inert awaited link queued)) _).length <
    (List.takeWhile (fun queued ↦ decide (Inert awaited link queued)) _).length
  rw [List.takeWhile_append, if_neg hlength, hqueue, List.takeWhile_cons, if_pos (by simpa)]
  exact Nat.lt_succ_self _

theorem room_turned_of_lookup (hqueue : link.received = packet :: rest)
    (hlookup : link.channels packet.channel = some state) :
    room (link.turned packet rest state) = room link := by
  rw [turned_of_lookup hlookup]
  show (List.map (fun queued ↦ 65535 - creditOf link queued.channel) (rest ++ [packet])).sum =
    (List.map (fun queued ↦ 65535 - creditOf link queued.channel) link.received).sum
  rw [hqueue]
  exact ((List.perm_append_singleton packet rest).map _).sum_eq

/-- A credit that is added takes room. -/
theorem room_turned (hqueue : link.received = packet :: rest)
    (hlookup : link.channels packet.channel = some state)
    (hsum : state.credit.checkedAdd packet.header.credit.toUInt16 = some credit)
    (hcredit : packet.header.credit ≠ 0) :
    room (link.turned packet rest { state with credit := credit }) < room link := by
  have hvalue := UInt16.toNat_of_checkedAdd hsum
  have hpositive : 0 < packet.header.credit.toUInt16.toNat := by
    rw [UInt8.toNat_toUInt16]
    exact Nat.pos_of_ne_zero fun h ↦ hcredit (UInt8.toNat_inj.1 h)
  have hlt : credit.toNat < 65536 := credit.toNat_lt
  have hbefore : creditOf link packet.channel = state.credit.toNat := by
    simp [creditOf, hlookup]
  have hafter : ∀ channel,
      creditOf (link.turned packet rest { state with credit := credit }) channel =
      if channel = packet.channel then credit.toNat else creditOf link channel := by
    intro channel
    show ((((link.setChannel packet.channel _).channels channel).map _).getD 0) = _
    rw [setChannel_channels]
    split
    · rfl
    · rfl
  have hperm : room (link.turned packet rest { state with credit := credit }) =
      ((packet :: rest).map fun queued ↦ 65535 -
        creditOf (link.turned packet rest { state with credit := credit }) queued.channel).sum :=
    ((List.perm_append_singleton packet rest).map _).sum_eq
  -- no packet has more room than before, and the one put back has less
  rw [hperm, room, hqueue]
  refine List.sum_lt_sum _ _ (fun queued _ ↦ ?_) ⟨packet, List.mem_cons_self, ?_⟩
  · rw [hafter]
    by_cases hchannel : queued.channel = packet.channel
    · rw [if_pos hchannel, hchannel, hbefore]
      omega
    · rw [if_neg hchannel]
  · rw [hafter, if_pos rfl, hbefore]
    omega

variable [FiniteTransport T]

theorem stock_turned (hqueue : link.received = packet :: rest) :
    stock (link.turned packet rest state) = stock link := by
  unfold stock
  rw [hqueue]
  show _ + _ + (rest ++ [packet]).length = _
  rw [List.length_append]
  rfl

/-- **An iteration that puts a packet back makes progress**, unless it is stuck. -/
theorem work_turned {n : Nat} (hstock : stock link ≤ n) (hqueue : link.received = packet :: rest)
    (hservice : packet.channel ≠ .transaction) (hawaited : some packet.channel ≠ awaited)
    (hrunning : link.conversation ≠ .terminated)
    (hlookup : link.channels packet.channel = some state)
    (hsize : packet.header.length ≤ state.maxServiceSize)
    (hsum : state.credit.checkedAdd packet.header.credit.toUInt16 = some credit)
    (hstuck : ¬ Stuck awaited link) :
    work n awaited (link.turned packet rest { state with credit := credit }) <
      work n awaited link := by
  have hsame : stock (link.turned packet rest { state with credit := credit }) = stock link :=
    stock_turned hqueue
  by_cases hcredit : packet.header.credit = 0
  case neg =>
    exact work_lt_of_room (hsame.trans_le hstock) hsame.le (room_turned hqueue hlookup hsum hcredit)
  -- Without credit the entry is what it was.
  have hentry : { state with credit := credit } = state := by
    have hvalue := UInt16.toNat_of_checkedAdd hsum
    rw [hcredit] at hvalue
    have hcredit' : credit = state.credit := UInt16.toNat_inj.1 (by simpa using hvalue)
    rw [hcredit']
  rw [hentry] at hsame ⊢
  have hpacket : Inert awaited link packet := by
    refine ⟨hservice, hawaited, hcredit, ?_⟩
    simp [hlookup, hsize]
  have hother : ∃ queued ∈ rest, ¬ Inert awaited link queued := by
    by_contra hnone
    refine hstuck ⟨by simp [hqueue], hrunning, fun queued hqueued ↦ ?_⟩
    rw [hqueue] at hqueued
    rcases List.mem_cons.1 hqueued with rfl | hqueued
    · exact hpacket
    · by_contra hne
      exact hnone ⟨queued, hqueued, hne⟩
  exact work_lt_of_lead hsame.le (room_turned_of_lookup hqueue hlookup)
    (lead_turned hqueue hlookup hpacket hother)

end Turned

/-! ### Receiving -/

section Receiving

open FiniteTransport (remaining)

variable [FiniteTransport T] {w w' : LinkRun T} {n : Nat}

/-- A read takes its bytes off what is still to come. -/
theorem readTarget_cases (size : Nat) (link : D4Link T) :
    (∃ bytes target, readTarget size link = (.ok bytes, { link with target := target }) ∧
      remaining target + bytes.length ≤ remaining link.target) ∨
    ∃ error target, readTarget size link = (.err error, { link with target := target }) ∧
      remaining target ≤ remaining link.target := by
  unfold readTarget
  rcases h : ByteTransport.read size link.target with ⟨error | bytes, target⟩
  · exact .inr ⟨_, target, rfl, FiniteTransport.remaining_read_error h⟩
  · exact .inl ⟨bytes, target, rfl, FiniteTransport.remaining_read h⟩

/-- Every packet takes at least the six bytes of its header. -/
theorem length_flatMap_encode (packets : List Packet) :
    6 * packets.length ≤ (packets.flatMap Packet.encode).length := by
  induction packets with
  | nil => exact le_rfl
  | cons packet packets ih =>
    rw [List.flatMap_cons, List.length_append, Packet.length_encode, List.length_cons]
    have hheader : headerLength = 6 := rfl
    omega

/-- A push makes of the bytes packets, which weigh less. -/
theorem decodeReceived_cases (bytes : List UInt8) {link : D4Link T} (hempty : link.received = []) :
    (∃ packets after, decodeReceived bytes link = (.ok packets, after) ∧
      after.target = link.target ∧ after.received = packets ∧
      stock after + 5 * packets.length ≤ stock link + bytes.length) ∨
    ∃ error after, decodeReceived bytes link = (.err error, after) ∧
      stock after ≤ stock link + bytes.length := by
  obtain ⟨taken, -, hbytes, hend⟩ := PacketDecoder.push_spec link.decoder bytes
  have htaken := length_flatMap_encode taken
  have hlength := congrArg List.length hbytes
  rw [List.length_append, List.length_append] at hlength
  unfold decodeReceived stock
  rcases hpush : link.decoder.push bytes with ⟨error | packets, decoder⟩
  · rw [hpush] at hlength
    refine .inr ⟨.packet error, _, rfl, ?_⟩
    dsimp only at hlength ⊢
    omega
  · rw [hpush] at hlength hend
    obtain rfl : packets = taken := by
      rcases hend with ⟨h, -⟩ | ⟨_, h, -⟩
      · exact Except.ok.inj h
      · cases h
    refine .inl ⟨packets, _, rfl, rfl, ?_, ?_⟩
    · rw [hempty, List.nil_append]
    · dsimp only at hlength ⊢
      rw [hempty, List.nil_append, List.length_nil]
      omega

theorem popFront_settles (hstock : stock w.state ≤ n) :
    Settles stock Sticks IsTurn n popFront w := by
  rcases hqueue : w.state.received with _ | ⟨packet, rest⟩
  · exact .congr (popFront_nil hqueue) (.pure none hstock)
  · refine .of_ended ?_ ?_ ?_
    · rw [popFront_cons hqueue]
      refine Nat.le_trans ?_ hstock
      unfold stock
      rw [hqueue]
      exact Nat.le_succ _
    · rw [popFront_cons hqueue]
      simp
    · rw [popFront_cons hqueue]
      exact fun h ↦ Recorded.clean_push_iff.2 ⟨h, id⟩

/-- **The read loop ends.** Between two reads that deliver something there are fewer than seven
that do not. -/
theorem readPacket_settles {bound empties : Nat} (hempty : w.state.received = [])
    (hempties : empties < maxConsecutiveEmptyReads)
    (hbound : remaining w.state.target * maxConsecutiveEmptyReads +
      (maxConsecutiveEmptyReads - empties) < bound) (hstock : stock w.state ≤ n) :
    Settles stock Sticks IsTurn n (readPacket bound empties) w := by
  induction bound generalizing w empties with
  | zero => exact absurd hbound (Nat.not_lt_zero _)
  | succ bound ih =>
    rcases readTarget_cases 4096 w.state with ⟨bytes, target, hrun, hread⟩ |
      ⟨error, target, hrun, hread⟩
    case inr =>
      refine .atomic_bind_err hrun id (Nat.le_trans ?_ hstock)
      exact Nat.add_le_add_right (Nat.add_le_add_right hread _) _
    have hafter : stock { w.state with target := target } + bytes.length ≤ stock w.state := by
      unfold stock
      dsimp only
      omega
    refine .atomic_bind_ok hrun id ?_
    have hmax : maxConsecutiveEmptyReads = 7 := rfl
    rw [hmax] at hempties hbound
    by_cases hbytes : bytes = []
    · -- one more empty read, of at most seven in a row
      rw [if_pos hbytes]
      have hstock' := (Nat.le_of_add_right_le hafter).trans hstock
      split
      · exact .throw _ hstock'
      case isFalse hlast =>
        rw [hmax] at hlast
        refine ih hempty ?_ ?_ hstock'
        · rw [hmax]
          omega
        · rw [hmax, Recorded.push_state]
          dsimp only
          omega
    · -- the bytes are decoded, and pay for the next empty reads
      rw [if_neg hbytes]
      have hpositive : 0 < bytes.length := List.length_pos_iff.2 hbytes
      have hbudget := hafter.trans hstock
      have hempty' : ({ w.state with target := target } : D4Link T).received = [] := hempty
      rcases decodeReceived_cases bytes hempty' with
        ⟨packets, after, hdecode, htarget, hreceived, hweight⟩ | ⟨error, after, hdecode, hweight⟩
      case inr => exact .atomic_bind_err hdecode id (hweight.trans hbudget)
      refine .atomic_bind_ok hdecode id ?_
      have hstock' := (Nat.le_of_add_right_le hweight).trans hbudget
      refine .bind le_rfl (popFront_settles hstock') fun popped v hpop hv ↦ ?_
      cases popped with
      | some packet => exact .pure packet hv
      | none =>
        obtain ⟨rfl, hnone⟩ := popFront_none hpop
        refine ih hnone (by decide) ?_ hv
        rw [hmax, Recorded.push_state, htarget]
        dsimp only
        omega

/-- A packet that was read has weighed more as bytes. -/
theorem readPacket_progress {bound empties : Nat} {packet : Packet} (hempty : w.state.received = [])
    (h : readPacket bound empties w = (.ok packet, w')) : stock w'.state + 1 < stock w.state := by
  induction bound generalizing w empties with
  | zero => cases h
  | succ bound ih =>
    obtain ⟨bytes, v, hread, h⟩ := Program.bind_eq_ok.1 h
    rcases readTarget_cases 4096 w.state with ⟨bytes', target, hrun, hless⟩ |
      ⟨error, target, hrun, -⟩
    case inr =>
      rw [Program.atomic_run _ _ w hrun] at hread
      cases hread
    rw [Program.atomic_run _ _ w hrun] at hread
    cases hread
    have hafter : stock { w.state with target := target } + bytes.length ≤ stock w.state := by
      unfold stock
      dsimp only
      omega
    by_cases hbytes : bytes = []
    · rw [if_pos hbytes] at h
      split at h
      · cases h
      · have hrest := ih (w := w.push _ { w.state with target := target }) hempty h
        rw [Recorded.push_state] at hrest
        omega
    · rw [if_neg hbytes] at h
      obtain ⟨packets', v, hpush, h⟩ := Program.bind_eq_ok.1 h
      have hempty' : ({ w.state with target := target } : D4Link T).received = [] := hempty
      rcases decodeReceived_cases bytes hempty' with
        ⟨packets, after, hdecode, htarget, hreceived, hweight⟩ | ⟨error, after, hdecode, -⟩
      case inr =>
        rw [Program.atomic_run _ _ _ hdecode] at hpush
        cases hpush
      rw [Program.atomic_run _ _ _ hdecode] at hpush
      cases hpush
      obtain ⟨popped, u, hpop, h⟩ := Program.bind_eq_ok.1 h
      cases popped with
      | none =>
        obtain ⟨rfl, hnone⟩ := popFront_none hpop
        have hrest := ih hnone h
        rw [Recorded.push_state] at hrest
        omega
      | some front =>
        cases h
        -- a packet has weighed six bytes at least, and weighs one in the queue
        rcases hqueue : after.received with _ | ⟨front', rest⟩
        · rw [popFront_nil hqueue] at hpop
          cases hpop
        · rw [popFront_cons hqueue] at hpop
          cases hpop
          rw [← hreceived, hqueue, List.length_cons] at hweight
          have hpopped : stock { after with received := rest } + 1 = stock after := by
            unfold stock
            rw [hqueue]
            rfl
          show stock { after with received := rest } + 1 < _
          omega

theorem nextPacket_settles {bound : Nat}
    (hbound : (remaining w.state.target + 1) * maxConsecutiveEmptyReads < bound)
    (hstock : stock w.state ≤ n) : Settles stock Sticks IsTurn n (nextPacket bound) w := by
  refine .bind le_rfl (popFront_settles hstock) fun popped v hpop hv ↦ ?_
  cases popped with
  | some packet => exact .pure packet hv
  | none =>
    obtain ⟨rfl, hempty⟩ := popFront_none hpop
    refine readPacket_settles hempty (by decide) ?_ hv
    rwa [Nat.add_mul, Nat.one_mul] at hbound

/-- **What `next_packet` takes.** The front of the queue, or something of what there was to read. -/
theorem nextPacket_progress {bound : Nat} {packet : Packet}
    (h : nextPacket bound w = (.ok packet, w')) :
    stock w'.state + 1 < stock w.state ∨ ∃ rest, w.state.received = packet :: rest ∧
      w'.state = { w.state with received := rest } := by
  obtain ⟨popped, v, hpop, hrest⟩ := Program.bind_eq_ok.1 h
  cases popped with
  | none =>
    obtain ⟨rfl, hempty⟩ := popFront_none hpop
    exact .inl (readPacket_progress hempty hrest)
  | some front =>
    cases hrest
    rcases hqueue : w.state.received with _ | ⟨front', rest⟩
    · rw [popFront_nil hqueue] at hpop
      cases hpop
    · rw [popFront_cons hqueue] at hpop
      cases hpop
      exact .inr ⟨rest, rfl, rfl⟩

theorem nextPacket_stock {bound : Nat} {packet : Packet} {event : Event}
    (h : nextPacket bound (w.push event w.state) = (.ok packet, w')) :
    stock w'.state + 1 ≤ stock w.state := by
  rcases nextPacket_progress h with hless | ⟨rest, hqueue, hstate⟩
  · exact hless.le
  · rw [Recorded.push_state] at hqueue hstate
    rw [hstate]
    unfold stock
    rw [hqueue]
    exact le_rfl

end Receiving

/-! ### Everything but the loops -/

section Straight

variable [FiniteTransport T] {w w' : LinkRun T} {n : Nat}

/-- The block ends, and there is no more to receive after it than before. -/
def Ends {α : Type} (body : LinkBlock T α) : Prop :=
  ∀ link, stock (body link).2 ≤ stock link ∧ (body link).1 ≠ .running

theorem Local.ends {α : Type} {body : LinkBlock T α} (h : Local body) : Ends body := by
  intro link
  obtain ⟨⟨htarget, hdecoder, hreceived⟩, hended⟩ := h link
  refine ⟨?_, hended⟩
  unfold stock
  rw [htarget, hdecoder, hreceived]

theorem writeAll_ends (packet : Packet) : Ends (writeAll packet : LinkBlock T Unit) := by
  intro link
  unfold writeAll
  rcases h : ByteTransport.writeAll packet.encode link.target with ⟨error | _, target⟩
  all_goals
    have hless := FiniteTransport.remaining_writeAll h
    exact ⟨Nat.add_le_add_right (Nat.add_le_add_right hless _) _, by simp⟩

theorem Ends.bind {α β : Type} {body : LinkBlock T α} {f : α → LinkBlock T β} (hbody : Ends body)
    (hf : ∀ a, Ends (f a)) : Ends (body >>= f) := by
  intro link
  obtain ⟨hstock, hended⟩ := hbody link
  rcases Program.bind_cases body f link with ⟨a, s, h, hb⟩ | ⟨e, s, h, hb⟩ | ⟨p, s, h, hb⟩ |
    ⟨s, h, hb⟩
  · obtain ⟨hstock', hended'⟩ := hf a s
    rw [hb]
    rw [h] at hstock
    exact ⟨hstock'.trans hstock, hended'⟩
  · rw [hb]
    rw [h] at hstock
    exact ⟨hstock, by simp⟩
  · rw [hb]
    rw [h] at hstock
    exact ⟨hstock, by simp⟩
  · rw [h] at hended
    exact absurd rfl hended

theorem writeAndSpend_ends (packet : Packet) (channel : ChannelId) (consumeCredit : Bool) :
    Ends (writeAndSpend packet channel consumeCredit : LinkBlock T Unit) := by
  refine (writeAll_ends packet).bind fun _ ↦ ?_
  unfold Program.when
  split
  · exact Local.ends (.updateChannel fun _ ↦ .bind (.orPanic _ _) fun _ ↦ .pure _)
  · exact Local.ends (.pure ())

/-- A block that ends is a step that settles. -/
theorem Ends.settles {α : Type} {event : Outcome D4Error α → Event} {body : LinkBlock T α}
    (hbody : Ends body) (hevent : ∀ o, ¬ Sticks w.state (event o)) (hstock : stock w.state ≤ n) :
    Settles stock Sticks IsTurn n (Program.atomic event body) w :=
  .atomic hevent (hbody w.state).2 ((hbody w.state).1.trans hstock)

theorem Local.settles {α : Type} {event : Outcome D4Error α → Event} {body : LinkBlock T α}
    (hbody : Local body) (hevent : ∀ o, ¬ Sticks w.state (event o)) (hstock : stock w.state ≤ n) :
    Settles stock Sticks IsTurn n (Program.atomic event body) w :=
  hbody.ends.settles hevent hstock

theorem requireActiveConversation_settles (hstock : stock w.state ≤ n) :
    Settles stock Sticks IsTurn n requireActiveConversation w := by
  by_cases hactive : w.state.conversation = .active
  · exact .congr (requireActiveConversation_of_active hactive) (.pure () hstock)
  · obtain ⟨error, hrun⟩ := requireActiveConversation_of_ne hactive
    exact .congr (show _ = Program.throw error w from hrun) (.throw error hstock)

theorem send_settles (channel : ChannelId) (payload : List UInt8) (consumeCredit : Bool)
    (hstock : stock w.state ≤ n) :
    Settles stock Sticks IsTurn n (send channel payload consumeCredit) w := by
  refine .observe_bind (.bind le_rfl
    (.when hstock fun _ ↦ requireActiveConversation_settles hstock) fun _ v _ hv ↦ ?_)
  refine .orThrow_bind hv fun state _ ↦ .rejectIf_bind hv fun _ ↦ .rejectIf_bind hv fun _ ↦
    .rejectIf_bind hv fun _ ↦ .ofExcept_bind hv fun packet _ ↦ ?_
  exact (writeAndSpend_ends packet channel consumeCredit).settles
    (fun o ↦ by cases o <;> exact id) hv

theorem sendTransaction_settles (message : TransactionMessage) (consumeCredit : Bool)
    (hstock : stock w.state ≤ n) :
    Settles stock Sticks IsTurn n (sendTransaction message consumeCredit) w :=
  .observe_bind (.ofExcept_bind hstock fun _ _ ↦ .rejectIf_bind hstock fun _ ↦
    send_settles _ _ _ hstock)

theorem sendError_settles (channel : ChannelId) (errorCode : UInt8) (hstock : stock w.state ≤ n) :
    Settles stock Sticks IsTurn n (sendError channel errorCode) w :=
  .observe_bind (.ofExcept_bind hstock fun _ _ ↦ .ofExcept_bind hstock fun packet _ ↦
    (writeAll_ends packet).settles (fun o ↦ by cases o <;> exact id) hstock)

theorem applyCredit_settles (packet : Packet) (hstock : stock w.state ≤ n) :
    Settles stock Sticks IsTurn n (applyCredit packet) w := by
  refine .observe_bind (.orThrow_bind hstock fun state _ ↦ .rejectIf_bind hstock fun _ ↦ ?_)
  split
  · exact .bind le_rfl (sendError_settles _ _ hstock) fun _ _ _ hv ↦ .throw _ hv
  · refine Local.settles ?_ (fun _ ↦ id) hstock
    exact .updateChannel fun _ ↦ .bind (.orPanic _ _) fun _ ↦ .pure _

theorem handlePeerTransaction_settles (message : TransactionMessage) (hstock : stock w.state ≤ n) :
    Settles stock Sticks IsTurn n (handlePeerTransaction message) w := by
  refine .observe_bind ?_
  cases message with
  | init revision =>
    dsimp only
    split
    · refine .bind le_rfl ((Local.beginConversation revision).settles (fun _ ↦ id) hstock)
        fun _ _ _ hv ↦ sendTransaction_settles _ _ hv
    · exact sendTransaction_settles _ _ hstock
  | openChannel peerSocket sourceSocket maxPacketSize maxServiceSize _ _ =>
    refine .observe_bind ?_
    split
    · exact sendTransaction_settles _ _ hstock
    · exact sendTransaction_settles _ _ hstock
  | closeChannel peerSocket sourceSocket =>
    refine .bind le_rfl (sendTransaction_settles _ _ hstock) fun _ _ _ hv ↦ .when hv fun _ ↦ ?_
    exact Local.settles (.updateChannel fun _ ↦ .pure _) (fun _ ↦ id) hv
  | credit peerSocket sourceSocket addedCredit =>
    refine .orThrow_bind hstock fun state _ ↦ .orThrow_bind hstock fun credit _ ↦ ?_
    refine .bind le_rfl (Local.settles (.updateChannel fun _ ↦ .pure _) (fun _ ↦ id)
      hstock) fun _ _ _ hv ↦ sendTransaction_settles _ _ hv
  | exit =>
    refine .bind le_rfl (sendTransaction_settles _ _ hstock) fun _ _ _ hv ↦ .observe_bind ?_
    split
    · exact Local.settles (.modify fun _ ↦ ⟨rfl, rfl, rfl⟩) (fun _ ↦ id) hv
    · exact Local.terminateConversation.settles (fun _ ↦ id) hv
  | creditRequest _ _ _ | getSocketId _ | getServiceName _ =>
    exact sendTransaction_settles _ _ hstock
  | error _ _ _ => exact .pure () hstock
  | _ => exact .throw _ hstock

end Straight

/-! ### The receive loops -/

section Loops

open FiniteTransport (remaining)

variable [FiniteTransport T] {w v u : LinkRun T} {n bound readBound : Nat}
  {awaited : Option ChannelId} {packet : Packet}

theorem nextPacket_front {rest : List Packet} (hqueue : w.state.received = packet :: rest) :
    nextPacket bound w = (.ok packet, w.push (.took packet) { w.state with received := rest }) := by
  unfold nextPacket
  rw [bind_run_ok (popFront_cons hqueue)]
  rfl

/-- One round on a stuck queue: its first packet is put back, and it is as stuck as before. -/
theorem Stuck.round (hstuck : Stuck awaited w.state) (readBound : Nat) :
    ∃ packet v u, nextPacket readBound (w.push (.polled awaited) w.state) = (.ok packet, v) ∧
      packet.channel ≠ .transaction ∧ some packet.channel ≠ awaited ∧
      v.state.conversation ≠ .terminated ∧ applyCredit packet v = (.ok (), u) ∧
      Stuck awaited { u.state with received := u.state.received ++ [packet] } ∧
      stock { u.state with received := u.state.received ++ [packet] } = stock w.state ∧
      (w.push (.polled awaited) w.state).history <+: u.history := by
  rcases hqueue : w.state.received with _ | ⟨packet, rest⟩
  · exact absurd hqueue hstuck.1
  obtain ⟨hservice, hawaited, hcredit, hknown⟩ := hstuck.2.2 packet (by simp [hqueue])
  rcases hlookup : w.state.channels packet.channel with _ | state
  · rw [hlookup] at hknown
    cases hknown
  have hsize : packet.header.length ≤ state.maxServiceSize := by
    simpa [hlookup] using hknown
  have hsum : state.credit.checkedAdd packet.header.credit.toUInt16 = some state.credit := by
    rw [hcredit]
    exact (if_pos (by simpa using state.credit.toNat_lt)).trans (by simp)
  have hturned : Stuck awaited (w.state.turned packet rest state) := hstuck.turned hqueue hlookup
  refine ⟨packet, _, _, nextPacket_front hqueue, hservice, hawaited, hstuck.2.1,
    applyCredit_run hlookup hsize hsum, hturned, stock_turned hqueue, ?_⟩
  exact (List.prefix_append _ _).trans (List.prefix_append _ _)

omit [FiniteTransport T] in
/-- The iteration that starts there is in the record. -/
theorem Stuck.not_clean (hstuck : Stuck awaited w.state)
    (hgrows : (w.push (.polled awaited) w.state).history <+: u.history) : ¬ u.Clean Sticks :=
  fun hclean ↦ (Recorded.clean_push_iff.1 (hclean.of_isPrefix hgrows)).2 hstuck

/-- What a loop on a stuck queue has come to when its bound is used up. -/
structure GoesRound {α : Type} (awaited : Option ChannelId) (bound : Nat) (w : LinkRun T)
    (run : Outcome D4Error α × LinkRun T) : Prop where
  running : run.1 = .running
  stock_le : stock run.2.state ≤ stock w.state
  grows : w.history <+: run.2.history
  polls : 0 < bound → (w.push (.polled awaited) w.state).history <+: run.2.history
  turns : 0 < bound → ∃ step ∈ run.2.history, IsTurn step.event

theorem GoesRound.zero {α : Type} (w : LinkRun T) :
    GoesRound awaited 0 w ((.running, w) : Outcome D4Error α × LinkRun T) :=
  ⟨rfl, le_rfl, List.prefix_rfl, fun h ↦ absurd h (Nat.lt_irrefl 0),
    fun h ↦ absurd h (Nat.lt_irrefl 0)⟩

/-- After one round more. -/
theorem GoesRound.succ {α : Type} {run : Outcome D4Error α × LinkRun T} {after : D4Link T}
    (hround : (w.push (.polled awaited) w.state).history <+: u.history)
    (hstock : stock after = stock w.state)
    (h : GoesRound awaited bound (u.push (.putBack packet) after) run) :
    GoesRound awaited (bound + 1) w run := by
  have hpolled := (hround.trans (List.prefix_append _ _)).trans h.grows
  refine ⟨h.running, h.stock_le.trans_eq hstock, (List.prefix_append _ _).trans hpolled,
    fun _ ↦ hpolled, fun _ ↦ ⟨⟨u.state, .putBack packet, after⟩, h.grows.subset ?_, trivial⟩⟩
  simp

theorem GoesRound.settles {α : Type} {m : LinkProgram T α} (hbound : 0 < bound)
    (hstuck : Stuck awaited w.state) (hstock : stock w.state ≤ n)
    (h : GoesRound awaited bound w (m w)) : Settles stock Sticks IsTurn n m w :=
  .of_stuck (h.stock_le.trans hstock) h.running (hstuck.not_clean (h.polls hbound))
    (h.turns hbound)

/-- The loop of `transaction` does not leave a stuck queue. -/
theorem transactionLoop_goesRound (expectedReply : UInt8) (hstuck : Stuck none w.state) :
    GoesRound none bound w (transactionLoop expectedReply readBound bound w) := by
  induction bound generalizing w with
  | zero => exact .zero w
  | succ bound ih =>
    obtain ⟨packet, v, u, hnext, hservice, -, hrunning, hcredit, hturned, hstock, hgrows⟩ :=
      hstuck.round readBound
    have hchannel : packet.header.channelId ≠ (0, 0) :=
      fun h ↦ hservice ((Packet.channelId_eq_iff packet).1 h)
    rw [transactionLoop, bind_run_ok (Program.mark_run _ w), bind_run_ok hnext, if_pos hchannel,
      bind_run_ok (Program.observe_run v), if_neg hrunning, bind_run_ok hcredit,
      bind_run_ok (pushBack_run packet u)]
    exact .succ hgrows hstock (ih hturned)

/-- Nor does the loop of `request`. -/
theorem requestLoop_goesRound (channel : ChannelId) (hstuck : Stuck (some channel) w.state) :
    GoesRound (some channel) bound w (requestLoop channel readBound bound w) := by
  induction bound generalizing w with
  | zero => exact .zero w
  | succ bound ih =>
    obtain ⟨packet, v, u, hnext, hservice, hawaited, hrunning, hcredit, hturned, hstock, hgrows⟩ :=
      hstuck.round readBound
    have hchannel : packet.header.channelId ≠ (0, 0) :=
      fun h ↦ hservice ((Packet.channelId_eq_iff packet).1 h)
    rw [requestLoop, bind_run_ok (Program.mark_run _ w), bind_run_ok hnext, if_neg hchannel,
      bind_run_ok (Program.observe_run v), if_neg hrunning, bind_run_ok hcredit,
      if_neg fun h ↦ hawaited (congrArg some h), bind_run_ok (pushBack_run packet u)]
    exact .succ hgrows hstock (ih hturned)

/-- **Progress of an iteration that puts its packet back.** -/
theorem work_putBack {event : Event} {a : Unit}
    (hnext : nextPacket readBound (w.push event w.state) = (.ok packet, v))
    (hcredit : applyCredit packet v = (.ok a, u)) (hservice : packet.channel ≠ .transaction)
    (hawaited : some packet.channel ≠ awaited) (hrunning : v.state.conversation ≠ .terminated)
    (hstuck : ¬ Stuck awaited w.state) (hstock : stock w.state ≤ n) :
    stock { u.state with received := u.state.received ++ [packet] } ≤ n ∧
      work n awaited { u.state with received := u.state.received ++ [packet] } <
        work n awaited w.state := by
  obtain ⟨state, credit, hlookup, hsize, hsum, rfl⟩ := applyCredit_ok hcredit
  rcases nextPacket_progress hnext with hless | ⟨rest, hqueue, hstate⟩
  · -- the packet was read, and bytes weigh more than packets
    have hmore : stock { v.state.setChannel packet.channel { state with credit := credit } with
        received := v.state.received ++ [packet] } = stock v.state + 1 := by
      unfold stock
      rw [List.length_append]
      rfl
    have hstep : stock { v.state.setChannel packet.channel { state with credit := credit } with
        received := v.state.received ++ [packet] } < stock w.state := hmore.trans_lt hless
    exact ⟨hstep.le.trans hstock, work_lt_of_stock hstock hstep⟩
  · rw [Recorded.push_state] at hqueue hstate
    rw [hstate] at hlookup hrunning
    have hturned : ({ v.state.setChannel packet.channel { state with credit := credit } with
        received := v.state.received ++ [packet] } : D4Link T) =
        w.state.turned packet rest { state with credit := credit } := by
      rw [hstate]
      rfl
    show stock { v.state.setChannel packet.channel _ with
        received := v.state.received ++ [packet] } ≤ n ∧
      work n awaited { v.state.setChannel packet.channel _ with
        received := v.state.received ++ [packet] } < _
    rw [hturned]
    exact ⟨(stock_turned hqueue).trans_le hstock, work_turned hstock hqueue hservice hawaited
      hrunning hlookup hsize hsum hstuck⟩

theorem pushBack_settles
    (hstock : stock { w.state with received := w.state.received ++ [packet] } ≤ n) :
    Settles stock Sticks IsTurn n (pushBack packet) w :=
  .atomic (fun _ ↦ id) (by simp) hstock

/-- A bound that is enough for reading is enough in every state with no more to receive. -/
theorem remaining_lt (hread : (n + 1) * maxConsecutiveEmptyReads < readBound)
    (hstock : stock w.state ≤ n) :
    (remaining w.state.target + 1) * maxConsecutiveEmptyReads < readBound := by
  refine Nat.lt_of_le_of_lt (Nat.mul_le_mul_right _ ?_) hread
  unfold stock at hstock
  omega

/-- **The loop of `transaction` ends unless it is stuck.** -/
theorem transactionLoop_settles (expectedReply : UInt8)
    (hread : (n + 1) * maxConsecutiveEmptyReads < readBound) (hstock : stock w.state ≤ n)
    (hbound : work n none w.state < bound) :
    Settles stock Sticks IsTurn n (transactionLoop expectedReply readBound bound) w := by
  induction bound generalizing w with
  | zero => exact absurd hbound (Nat.not_lt_zero _)
  | succ bound ih =>
    by_cases hstuck : Stuck none w.state
    · exact (transactionLoop_goesRound expectedReply hstuck).settles bound.succ_pos hstuck hstock
    refine .bind le_rfl (.mark hstuck hstock) fun _ v hmark _ ↦ ?_
    cases hmark
    refine .bind le_rfl (nextPacket_settles (remaining_lt hread hstock) hstock)
      fun packet v hnext hv ↦ ?_
    have hless : stock v.state + 1 ≤ stock w.state := nextPacket_stock hnext
    have hnever : ∀ {link : D4Link T}, stock link < stock w.state → work n none link < bound :=
      fun h ↦ (work_lt_of_stock hstock h).trans_le (Nat.le_of_lt_succ hbound)
    split
    case isTrue hchannel =>
      have hservice : packet.channel ≠ .transaction :=
        fun h ↦ hchannel ((Packet.channelId_eq_iff packet).2 h)
      refine .observe_bind ?_
      split
      case isTrue => exact ih hv (hnever hless) -- dropped, so there is one packet less
      case isFalse hrunning =>
        -- put back, which is progress as the queue is not stuck
        refine .bind le_rfl (applyCredit_settles packet hv) fun _ u hcredit hu ↦ ?_
        obtain ⟨hback, hwork⟩ := work_putBack hnext hcredit hservice (by simp) hrunning hstuck
          hstock
        refine .bind le_rfl (pushBack_settles hback) fun _ t hpush ht ↦ ?_
        cases hpush
        exact ih ht (hwork.trans_le (Nat.le_of_lt_succ hbound))
    case isFalse hchannel =>
      refine .bind hv (applyCredit_settles packet le_rfl) fun _ u _ hu ↦ ?_
      refine .observe_bind (.ofExcept_bind (hu.trans hv) fun received _ ↦ ?_)
      split
      · -- a command of the peer, which is not in the queue any more
        refine .bind hv (handlePeerTransaction_settles received hu) fun _ t _ ht ↦ ?_
        exact ih (ht.trans hv) (hnever (ht.trans_lt hless))
      · split
        · exact .bind le_rfl (.mark id (hu.trans hv)) fun _ _ _ ht ↦ .pure received ht
        · exact .throw _ (hu.trans hv)

/-- **The loop of `request` ends unless it is stuck.** -/
theorem requestLoop_settles (channel : ChannelId)
    (hread : (n + 1) * maxConsecutiveEmptyReads < readBound) (hstock : stock w.state ≤ n)
    (hbound : work n (some channel) w.state < bound) :
    Settles stock Sticks IsTurn n (requestLoop channel readBound bound) w := by
  induction bound generalizing w with
  | zero => exact absurd hbound (Nat.not_lt_zero _)
  | succ bound ih =>
    by_cases hstuck : Stuck (some channel) w.state
    · exact (requestLoop_goesRound channel hstuck).settles bound.succ_pos hstuck hstock
    refine .bind le_rfl (.mark hstuck hstock) fun _ v hmark _ ↦ ?_
    cases hmark
    refine .bind le_rfl (nextPacket_settles (remaining_lt hread hstock) hstock)
      fun packet v hnext hv ↦ ?_
    have hless : stock v.state + 1 ≤ stock w.state := nextPacket_stock hnext
    have hnever : ∀ {link : D4Link T}, stock link < stock w.state →
        work n (some channel) link < bound :=
      fun h ↦ (work_lt_of_stock hstock h).trans_le (Nat.le_of_lt_succ hbound)
    split
    case isTrue hchannel =>
      refine .bind hv (applyCredit_settles packet le_rfl) fun _ u _ hu ↦ ?_
      refine .observe_bind (.ofExcept_bind (hu.trans hv) fun message _ ↦ ?_)
      split
      · -- a command of the peer; if it ends the conversation, so does the request
        refine .bind hv (handlePeerTransaction_settles message hu) fun _ t _ ht ↦ .observe_bind ?_
        split
        · exact .throw _ (ht.trans hv)
        · exact ih (ht.trans hv) (hnever (ht.trans_lt hless))
      · exact .throw _ (hu.trans hv)
    case isFalse hchannel =>
      have hservice : packet.channel ≠ .transaction :=
        fun h ↦ hchannel ((Packet.channelId_eq_iff packet).2 h)
      refine .observe_bind ?_
      split
      case isTrue => exact ih hv (hnever hless)
      case isFalse hrunning =>
        refine .bind le_rfl (applyCredit_settles packet hv) fun _ u hcredit hu ↦ ?_
        split
        case isTrue => exact .bind le_rfl (.mark id hu) fun _ _ _ ht ↦ .pure packet.payload ht
        case isFalse hother =>
          obtain ⟨hback, hwork⟩ := work_putBack hnext hcredit hservice
            (fun h ↦ hother (Option.some.inj h)) hrunning hstuck hstock
          refine .bind le_rfl (pushBack_settles hback) fun _ t hpush ht ↦ ?_
          cases hpush
          exact ih ht (hwork.trans_le (Nat.le_of_lt_succ hbound))

end Loops

/-! ### The operations -/

section Operations

variable [FiniteTransport T] {w : LinkRun T} {n bound : Nat}

/-- A bound that is enough for all loops while there is no more than `n` to receive. -/
def enough (n : Nat) : Nat := (n + 1) * weight n + (n + 1) * maxConsecutiveEmptyReads

theorem work_lt_of_enough {awaited : Option ChannelId} (hbound : enough n < bound)
    (hstock : stock w.state ≤ n) : work n awaited w.state < bound := by
  have hdigits : room w.state * (n + 1) + lead awaited w.state < weight n := digits_lt hstock
  have hfirst := Nat.mul_le_mul_right (weight n) hstock
  unfold enough at hbound
  unfold work
  rw [Nat.add_mul, Nat.one_mul] at hbound
  omega

theorem transaction_settles (message : TransactionMessage) (consumeCredit : Bool)
    (hbound : enough n < bound) (hstock : stock w.state ≤ n) :
    Settles stock Sticks IsTurn n (transaction bound message consumeCredit) w := by
  refine .bind le_rfl (sendTransaction_settles _ _ hstock) fun _ v _ hv ↦ ?_
  refine .bind le_rfl (.mark id hv) fun _ v _ hv ↦ ?_
  exact transactionLoop_settles _ (Nat.lt_of_le_of_lt (Nat.le_add_left _ _) hbound) hv
    (work_lt_of_enough hbound hv)

theorem negotiate_settles (revisions : List ProtocolRevision) (hbound : enough n < bound)
    (hstock : stock w.state ≤ n) : Settles stock Sticks IsTurn n (negotiate bound revisions) w := by
  induction revisions generalizing w with
  | nil => exact .throw _ hstock
  | cons revision revisions ih =>
    refine .bind le_rfl (transaction_settles _ _ hbound hstock) fun reply v _ hv ↦ ?_
    split
    · split
      · exact (Local.beginConversation _).settles (fun _ ↦ id) hv
      · split
        · exact .throw _ hv
        · exact ih hv
    · exact .throw _ hv

theorem initializeLink_settles (hbound : enough n < bound) (hstock : stock w.state ≤ n) :
    Settles stock Sticks IsTurn n (initializeLink bound) w :=
  .observe_bind (.rejectIf_bind hstock fun _ ↦ .rejectIf_bind hstock fun _ ↦
    negotiate_settles _ hbound hstock)

theorem openService_settles (name : String) (hbound : enough n < bound)
    (hstock : stock w.state ≤ n) : Settles stock Sticks IsTurn n (openService bound name) w := by
  refine .bind le_rfl (transaction_settles _ _ hbound hstock) fun reply v _ hv ↦ ?_
  split
  · refine .rejectIf_bind hv fun _ ↦ .bind le_rfl
      (Local.settles (.modify fun _ ↦ ⟨rfl, rfl, rfl⟩) (fun _ ↦ id) hv) fun _ v _ hv ↦ ?_
    refine .bind le_rfl (transaction_settles _ _ hbound hv) fun reply v _ hv ↦ ?_
    split
    · refine .rejectIf_bind hv fun _ ↦ .bind le_rfl
        (Local.settles (.updateChannel fun _ ↦ .pure _) (fun _ ↦ id) hv)
        fun _ v _ hv ↦ .pure _ hv
    · exact .throw _ hv
  · exact .throw _ hv

theorem serviceName_settles (socketId : UInt8) (hbound : enough n < bound)
    (hstock : stock w.state ≤ n) :
    Settles stock Sticks IsTurn n (serviceName bound socketId) w := by
  refine .bind le_rfl (transaction_settles _ _ hbound hstock) fun reply v _ hv ↦ ?_
  split
  · exact .rejectIf_bind hv fun _ ↦ .pure _ hv
  · exact .throw _ hv

theorem closeChannel_settles (channel : ChannelId) (hbound : enough n < bound)
    (hstock : stock w.state ≤ n) :
    Settles stock Sticks IsTurn n (closeChannel bound channel) w := by
  refine .rejectIf_bind hstock fun _ ↦ .observe_bind (.rejectIf_bind hstock fun _ ↦ ?_)
  refine .bind le_rfl (transaction_settles _ _ hbound hstock) fun reply v _ hv ↦ ?_
  split
  · exact .rejectIf_bind hv fun _ ↦
      Local.settles (.modify fun _ ↦ ⟨rfl, rfl, rfl⟩) (fun _ ↦ id) hv
  · exact .throw _ hv

theorem exit_settles (hbound : enough n < bound) (hstock : stock w.state ≤ n) :
    Settles stock Sticks IsTurn n (exit bound) w := by
  refine .bind le_rfl (requireActiveConversation_settles hstock) fun _ v _ hv ↦ ?_
  refine .bind le_rfl (Local.settles (.modify fun _ ↦ ⟨rfl, rfl, rfl⟩) (fun _ ↦ id) hv)
    fun _ v _ hv ↦ ?_
  refine .bind le_rfl (transaction_settles _ _ hbound hv) fun reply v _ hv ↦ ?_
  split
  · split
    · exact Local.terminateConversation.settles (fun _ ↦ id) hv
    · exact .throw _ hv
  · exact .throw _ hv

theorem ensureCreditLoop_settles (channel : ChannelId) (attempts : Nat) (hbound : enough n < bound)
    (hstock : stock w.state ≤ n) :
    Settles stock Sticks IsTurn n (ensureCreditLoop bound channel attempts) w := by
  induction attempts generalizing w with
  | zero => exact .observe_bind (.orThrow_bind hstock fun _ _ ↦ .throw _ hstock)
  | succ attempts ih =>
    refine .observe_bind (.orThrow_bind hstock fun state _ ↦ ?_)
    split
    · exact .pure () hstock
    refine .bind le_rfl (transaction_settles _ _ hbound hstock) fun reply v _ hv ↦ ?_
    split
    · refine .rejectIf_bind hv fun _ ↦ .bind le_rfl ((Local.grantCredit channel _).settles
        (fun o ↦ by cases o <;> exact id) hv) fun _ v _ hv ↦ .observe_bind ?_
      split
      · exact .pure () hv
      · exact ih hv
    · exact .throw _ hv

theorem request_settles (channel : ChannelId) (payload : List UInt8) (hbound : enough n < bound)
    (hstock : stock w.state ≤ n) :
    Settles stock Sticks IsTurn n (request bound channel payload) w := by
  refine .bind le_rfl (requireActiveConversation_settles hstock) fun _ v _ hv ↦ ?_
  refine .bind le_rfl (ensureCreditLoop_settles channel 3 hbound hv) fun _ v _ hv ↦ ?_
  refine .bind le_rfl (send_settles _ _ _ hv) fun _ v _ hv ↦ ?_
  refine .bind le_rfl (.mark id hv) fun _ v _ hv ↦ ?_
  exact requestLoop_settles _ (Nat.lt_of_le_of_lt (Nat.le_add_left _ _) hbound) hv
    (work_lt_of_enough hbound hv)

theorem runOperation_settles (operation : Operation) (hbound : enough n < bound)
    (hstock : stock w.state ≤ n) :
    Settles stock Sticks IsTurn n (runOperation bound operation) w := by
  refine .bind le_rfl (.mark id hstock) fun _ v _ hv ↦ ?_
  cases operation with
  | initializeLink =>
    exact .bind le_rfl (initializeLink_settles hbound hv) fun _ _ _ hu ↦ .pure _ hu
  | openService name =>
    exact .bind le_rfl (openService_settles name hbound hv) fun _ _ _ hu ↦ .pure _ hu
  | serviceName socketId =>
    exact .bind le_rfl (serviceName_settles socketId hbound hv) fun _ _ _ hu ↦ .pure _ hu
  | controlChannel channel =>
    exact .bind le_rfl (.observe_bind (.rejectIf hv)) fun _ _ _ hu ↦ .pure _ hu
  | closeChannel channel =>
    exact .bind le_rfl (closeChannel_settles channel hbound hv) fun _ _ _ hu ↦ .pure _ hu
  | exit => exact .bind le_rfl (exit_settles hbound hv) fun _ _ _ hu ↦ .pure _ hu
  | request channel payload =>
    exact .bind le_rfl (request_settles channel payload hbound hv) fun _ _ _ hu ↦ .pure _ hu

/-- **When an operation returns.** From a state that a run can reach, over a transport with finitely
many bytes to deliver, and for every bound from some bound on: the operation returns if and only if
no iteration of its loops starts on a stuck queue and it stores no result after the end of the
conversation. -/
theorem returns_iff (calls : List Call) (target : T) (operation : Operation) :
    ∃ N, ∀ bound, N < bound →
      ((runOperation bound operation (.start (runNew calls target).2.state)).1.Returned ↔
        ∀ step ∈ (runOperation bound operation (.start (runNew calls target).2.state)).2.history,
          ¬ Sticks step.before step.event ∧ ¬ StoresLate step) := by
  have hpresent : (runNew calls target).2.state.Present :=
    (runNew_path calls target).state_invariant (fun _ _ _ hstep ↦ hstep.present)
      (present_new target)
  generalize (runNew calls target).2.state = link at hpresent ⊢
  refine ⟨enough (stock link), fun bound hbound ↦ ?_⟩
  have hsettles := runOperation_settles (w := .start link) operation hbound le_rfl
  have hrunning := hsettles.running_iff (Recorded.clean_start link)
  rw [Outcome.returned_iff, forall₂_and, ne_eq, hrunning, not_not, and_comm]
  refine and_congr_right fun _ ↦ ?_
  rcases runOperation_cases bound operation (w := .start link) hpresent with ⟨hquiet, hpath⟩ |
    ⟨⟨message, hpanic⟩, v, event, after, -, hloses, hlast⟩
  · exact ⟨fun _ ↦ not_storesLate_of_path hpath (by simp), fun _ ↦ hquiet⟩
  · refine ⟨fun h ↦ absurd hpanic (h message), fun h ↦ absurd hloses.storesLate (h _ ?_)⟩
    rw [hlast]
    simp

/-- A transaction whose message is written onto a stuck queue is not answered. -/
theorem transaction_running {v : LinkRun T} {message : TransactionMessage} {consumeCredit : Bool}
    (hsend : sendTransaction message consumeCredit w = (.ok (), v)) (hstuck : Stuck none v.state) :
    (transaction bound message consumeCredit w).1 = .running := by
  unfold transaction
  rw [bind_run_ok hsend, bind_run_ok (Program.mark_run _ v)]
  have hpushed : Stuck none (v.push (.awaiting none) v.state).state := hstuck
  exact (transactionLoop_goesRound message.replyCode hpushed).running

/-- The run of `exit` up to where it writes its message. -/
def exitRequestedRun (link : D4Link T) : LinkRun T :=
  ((Recorded.start link).push (.called .exit) link).push .exitRequested
    { link with exitRequested := true }

/-- An exit on a stuck queue runs for ever. -/
theorem exit_running {link : D4Link T} (hactive : link.conversation = .active)
    (hsent : (sendTransaction .exit true (exitRequestedRun link)).1 = .ok ())
    (hstuck : Stuck none (sendTransaction .exit true (exitRequestedRun link)).2.state) :
    (runOperation bound .exit (.start link)).1 = .running := by
  have htransaction : (transaction bound .exit true (exitRequestedRun link)).1 = .running :=
    transaction_running (Prod.ext hsent rfl) hstuck
  have hrequested : Program.atomic (fun _ ↦ .exitRequested)
      (Program.modify fun link ↦ { link with exitRequested := true })
      ((Recorded.start link).push (.called .exit) link) =
      ((.ok (), exitRequestedRun link) : Outcome D4Error Unit × LinkRun T) := rfl
  have hexit : (exit bound ((Recorded.start link).push (.called .exit) link)).1 = .running := by
    unfold exit
    rw [bind_run_ok (requireActiveConversation_of_active hactive)]
    refine (congrArg Prod.fst (bind_run_ok hrequested)).trans ?_
    exact congrArg Prod.fst (Program.bind_run_running (Prod.ext htransaction rfl))
  have hcalled := Program.mark_run (ε := D4Error) (Event.called .exit) (.start link)
  refine (congrArg Prod.fst (bind_run_ok hcalled)).trans ?_
  exact congrArg Prod.fst (Program.bind_run_running (Prod.ext hexit rfl))

end Operations

/-- The peer opens the conversation and a service. With the reply to the lookup comes a data packet
without credit; the reply to `Exit` is to be read after it. -/
def lateDataThenExitReply : StreamTransport :=
  .sending [StreamTransport.packet 0 0 1 [0x80, 0, 0x20],
    StreamTransport.packet 0 0 1 [0x89, 0, 2, 69, 80, 83, 79, 78, 45, 67, 84, 82, 76],
    StreamTransport.packet 0 0 1 [0x81, 0, 2, 2, 1, 0, 1, 0, 0, 0, 0, 0],
    StreamTransport.packet 2 2 0 [0x52] ++
      StreamTransport.packet 0 0 1 [0x8a, 0, 2, 69, 80, 83, 79, 78, 45, 67, 84, 82, 76],
    StreamTransport.packet 0 0 1 [0x88, 0]]

/-- The calls before the exit. -/
def opensAndLooksUp : List Call :=
  [⟨.initializeLink, 9⟩, ⟨.openService "EPSON-CTRL", 9⟩, ⟨.serviceName 2, 9⟩]

/-- A late data packet keeps `exit` from ever reading its reply. -/
theorem exit_never_returns :
    (∀ outcome ∈ (runNew opensAndLooksUp lateDataThenExitReply).1, outcome.Returned) ∧
      ¬ ∃ N, ∀ bound, N < bound → (runOperation bound .exit
        (.start (runNew opensAndLooksUp lateDataThenExitReply).2.state)).1.Returned := by
  refine ⟨by decide +kernel, fun ⟨N, hreturns⟩ ↦ ?_⟩
  have hactive : (runNew opensAndLooksUp lateDataThenExitReply).2.state.conversation = .active := by
    decide +kernel
  have hsent : (sendTransaction .exit true (exitRequestedRun
      (runNew opensAndLooksUp lateDataThenExitReply).2.state)).1 = .ok () := by
    decide +kernel
  have hstuck : Stuck none (sendTransaction .exit true (exitRequestedRun
      (runNew opensAndLooksUp lateDataThenExitReply).2.state)).2.state := by
    decide +kernel
  generalize (runNew opensAndLooksUp lateDataThenExitReply).2.state = link at *
  have hreturned := hreturns (N + 1) N.lt_succ_self
  rw [exit_running hactive hsent hstuck] at hreturned
  exact hreturned

end D4Link

end Reink
