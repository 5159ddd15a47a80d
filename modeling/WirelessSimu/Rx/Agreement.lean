import WirelessSimu.Rx.Start

namespace WirelessSimu

open Data Kernel

/-! The order of completions and the accounting of buffers over every run of the
receive module. -/

/-- Each buffer was posted at most once, on one pipe; the one that is about to be
posted was not posted before. -/
structure Numbered (rx : Rx) : Prop where
  lt : ∀ index entry, entry ∈ rx.enqueued index → entry.1 < rx.buffers.allocated
  once : ∀ (first second one two : Nat) (left right : Nat × UInt64),
    (rx.enqueued first)[one]? = some left → (rx.enqueued second)[two]? = some right →
    left.1 = right.1 → first = second ∧ one = two
  inHand : ∀ poster index skb paddr writeIndex,
    rx.lock = .enqueueBegun poster index skb paddr writeIndex →
    skb < rx.buffers.allocated ∧
      ∀ other entry, entry ∈ rx.enqueued other → entry.1 ≠ skb

section Numbering

variable {rx next : Rx}

theorem Numbered.start (hal : Hal) (count : Nat) (pipes : Nat → SrngTestPipe) :
    Numbered (.start hal count pipes) where
  lt := by
    intro index entry member
    cases member
  once := by
    intro first second one two left right lookup
    simp [Rx.start] at lookup
  inHand := by
    intro poster index skb paddr writeIndex held
    cases held

theorem Numbered.keep (numbered : Numbered rx) (enqueued : next.enqueued = rx.enqueued)
    (allocated : rx.buffers.allocated ≤ next.buffers.allocated)
    (lock : next.lock = rx.lock ∨ ∀ poster index skb paddr writeIndex,
      next.lock ≠ .enqueueBegun poster index skb paddr writeIndex) :
    Numbered next where
  lt := by
    intro index entry member
    rw [enqueued] at member
    exact Nat.lt_of_lt_of_le (numbered.lt index entry member) allocated
  once := by
    rw [enqueued]
    exact numbered.once
  inHand := by
    intro poster index skb paddr writeIndex held
    rcases lock with same | other
    · rw [same] at held
      obtain ⟨below, unposted⟩ := numbered.inHand poster index skb paddr writeIndex held
      rw [enqueued]
      exact ⟨Nat.lt_of_lt_of_le below allocated, unposted⟩
    · exact absurd held (other poster index skb paddr writeIndex)

theorem Numbered.post (numbered : Numbered rx) {index skb : Nat} {paddr : UInt64}
    (below : skb < rx.buffers.allocated)
    (unposted : ∀ other entry, entry ∈ rx.enqueued other → entry.1 ≠ skb)
    (enqueued : next.enqueued =
      Function.update rx.enqueued index (rx.enqueued index ++ [(skb, paddr)]))
    (buffers : next.buffers = rx.buffers)
    (lock : ∀ poster index skb paddr writeIndex,
      next.lock ≠ .enqueueBegun poster index skb paddr writeIndex) :
    Numbered next := by
  -- A posted entry is an old one in its old place, or the new one in the last.
  have place : ∀ pipe at_ entry, (next.enqueued pipe)[at_]? = some entry →
      (rx.enqueued pipe)[at_]? = some entry ∨
        pipe = index ∧ at_ = (rx.enqueued index).length ∧ entry = (skb, paddr) := by
    intro pipe at_ entry lookup
    rw [enqueued] at lookup
    by_cases same : pipe = index
    · subst same
      rw [Function.update_self] at lookup
      obtain ⟨_, old⟩ | ⟨last, rfl⟩ := lookup_concat lookup
      · exact .inl old
      · exact .inr ⟨rfl, last, rfl⟩
    · rw [Function.update_of_ne same] at lookup
      exact .inl lookup
  have old_ne : ∀ (pipe at_ : Nat) (entry : Nat × UInt64), (rx.enqueued pipe)[at_]? = some entry →
      entry.1 ≠ skb :=
    fun pipe at_ entry lookup => unposted pipe entry (List.mem_of_getElem? lookup)
  refine ⟨?_, ?_, ?_⟩
  · intro pipe entry member
    obtain ⟨at_, lookup⟩ := List.getElem?_of_mem member
    rw [buffers]
    obtain old | ⟨_, _, rfl⟩ := place pipe at_ entry lookup
    · exact numbered.lt pipe entry (List.mem_of_getElem? old)
    · exact below
  · intro first second one two left right atOne atTwo equal
    obtain oldLeft | ⟨rfl, rfl, rfl⟩ := place first one left atOne
    · obtain oldRight | ⟨rfl, rfl, rfl⟩ := place second two right atTwo
      · exact numbered.once first second one two left right oldLeft oldRight equal
      · exact absurd equal (old_ne first one left oldLeft)
    · obtain oldRight | ⟨rfl, rfl, rfl⟩ := place second two right atTwo
      · exact absurd equal.symm (old_ne second two right oldRight)
      · exact ⟨rfl, rfl⟩
  · intro poster pipe held paddr' writeIndex begun
    exact absurd begun (lock poster pipe held paddr' writeIndex)

theorem Numbered.step {event : Rx.Event} (numbered : Numbered rx)
    (stepped : Rx.Step rx event next) (live : next.live = true) : Numbered next := by
  cases stepped with
  | recvTake held rings =>
      exact numbered.keep rfl (Nat.le_refl _) (.inr (by simp [Rx.recvResult]))
  | postUnmapped held needed =>
      exact numbered.keep (by simp) (by simp [Buffers.devAllocSkb]) (.inr (by simp))
  | @enqueueBegin poster index tailroom paddr dst held needed ring =>
      have grown : (rx.mapped tailroom paddr).allocated = rx.buffers.allocated + 1 := rfl
      refine ⟨?_, numbered.once, ?_⟩
      · intro pipe entry member
        have := numbered.lt pipe entry member
        simp only [grown]
        omega
      · rintro _ _ _ _ _ ⟨⟩
        refine ⟨by simp only [grown]; omega, ?_⟩
        intro other entry member same
        have := numbered.lt other entry member
        omega
  | @enqueueStore poster index skb paddr writeIndex dst held ring =>
      obtain ⟨below, unposted⟩ :=
        numbered.inHand poster index skb paddr writeIndex held
      by_cases posted : (testDstEnqueuePipe rx.hal (rx.pipes index) dst skb paddr
          writeIndex).2.2 = 0
      · exact numbered.post below unposted (by simp only [Rx.enqueueResult, posted]; rfl)
          rfl (by simp [Rx.enqueueResult])
      · exact numbered.keep (by simp only [Rx.enqueueResult, posted]; rfl)
          (Nat.le_refl _) (.inr (by simp [Rx.enqueueResult]))
  | drainKeep took fits put =>
      obtain ⟨_, rfl⟩ := Buffers.skbPut_eq_some.mp put
      exact numbered.keep rfl (Nat.le_refl _) (.inl rfl)
  | deinit => contradiction
  | postBufNull | postBufWait | postBufDone | postBufOn | postBufStop =>
      exact numbered.keep (by simp) (by simp) (.inl (by simp))
  | postDone | postNoMemory | enqueueUndo =>
      exact numbered.keep (by simp)
        (by simp [Buffers.dmaUnmapSingle, Buffers.devKfreeSkb]) (.inr (by simp))
  | recvBegin | recvEnd | drainLock | postBufLock | enqueueEnd =>
      exact numbered.keep rfl (Nat.le_refl _) (.inr (by simp))
  | _ => exact numbered.keep rfl (Nat.le_refl _) (.inl rfl)

end Numbering

/-- A run of allowed steps from the successful setup of `count` pipes. -/
theorem rx_invariant {hal hal' : Hal} {count : Nat} {memory : Nat → Fin 3 → RingMemory}
    {attrs : Nat → SrngTestAttr} {pipes : Nat → SrngTestPipe}
    {ok : Rx → Rx.Event → Prop}
    (table : RxTable hal.srngConfig)
    (twoLe : ∀ index, index < count →
      2 ≤ (ringEntries (attrs index).destNentries).toNat)
    (done : dstTestSetup hal count memory attrs = (hal', pipes, none))
    (Also : Rx → Prop) (also : Also (.start hal' count pipes))
    (preserved : ∀ rx event next, ok rx event →
      RxInv (rxLayout hal.srngConfig attrs) rx → Also rx → Rx.Step rx event next →
      next.live = true → Also next)
    {events : List Rx.Event} {rx : Rx}
    (meets : Meets Rx.step ok (.start hal' count pipes) events)
    (reached : run Rx.step (.start hal' count pipes) events = some rx) :
    rx.pipesCount = count ∧ ∃ before, before.live = true ∧
      before.pipesCount = count ∧ RxInv (rxLayout hal.srngConfig attrs) before ∧
      Also before ∧
      (rx = before ∧ rx.live = true ∨ Rx.Step before .deinit rx) := by
  have start := RxInv.start table twoLe done
  obtain ⟨live, counted, inv, holds⟩ | ⟨before, live, ⟨counted, inv, holds⟩, ended⟩ :=
    Rx.live_invariant (fun rx => rx.pipesCount = count ∧
      RxInv (rxLayout hal.srngConfig attrs) rx ∧ Also rx)
      (fun rx event next allowed before stepped live =>
        ⟨stepped.pipesCount_eq.trans before.1, before.2.1.step stepped live,
          preserved rx event next allowed before.2.1 before.2.2 stepped live⟩)
      meets reached rfl ⟨rfl, start, also⟩
  · exact ⟨counted, rx, live, counted, inv, holds, .inl ⟨rfl, live⟩⟩
  · exact ⟨ended.pipesCount_eq.trans counted, before, live, counted, inv, holds,
      .inr ended⟩

theorem unrestricted (events : List Rx.Event) (start : Rx) :
    Meets Rx.step (fun _ _ => True) start events :=
  .of_forall (fun _ _ _ => trivial) start

/-- What `recv_next` handed over is what the device took and reported. -/
theorem PipeInv.completion {entries : Nat} {hal : Hal} {pipe : RxPipe}
    {counts : RxCounts} (inv : PipeInv entries hal pipe counts) {at_ : Nat}
    {entry : Option Nat × UInt32} (lookup : pipe.received[at_]? = some entry) :
    ∃ skb paddr length flag, pipe.enqueued[at_]? = some (skb, paddr) ∧
      pipe.device.taken[at_]? = some (testDstSetDesc paddr) ∧
      pipe.device.reported[at_]? = some (length, flag) ∧
      entry = (some skb, length) := by
  obtain ⟨⟨skb, paddr⟩, ⟨length, flag⟩, atPosted, atReport, equal⟩ :=
    inv.logs.received_eq at_ entry lookup
  refine ⟨skb, paddr, length, flag, atPosted, ?_, atReport, equal⟩
  have reportedLt := (List.getElem?_eq_some_iff.mp atReport).1
  have takenLt : at_ < pipe.device.taken.length :=
    Nat.lt_of_lt_of_le reportedLt
      (Nat.le_trans inv.device.reported_le inv.device.storedTail_le)
  have desc : pipe.descs[at_]? = some (testDstSetDesc paddr) := by
    rw [RxPipe.descs, List.getElem?_map, atPosted]
    rfl
  obtain ⟨later, prefixEq⟩ := inv.logs.taken_prefix
  rw [← prefixEq, List.getElem?_append_left takenLt] at desc
  exact desc

section Runs

variable {hal hal' : Hal} {count : Nat} {memory : Nat → Fin 3 → RingMemory}
  {attrs : Nat → SrngTestAttr} {pipes : Nat → SrngTestPipe}

/-- The `k`-th success of `recv_next` on a pipe returns the buffer of the `k`-th
success of `enqueue_pipe`, with the length reported for the descriptor that the device
took at its `k`-th turn; no buffer is returned twice. -/
theorem recv_next_agreement (table : RxTable hal.srngConfig)
    (twoLe : ∀ index, index < count →
      2 ≤ (ringEntries (attrs index).destNentries).toNat)
    (done : dstTestSetup hal count memory attrs = (hal', pipes, none))
    {events : List Rx.Event} {rx : Rx}
    (reached : run Rx.step (.start hal' count pipes) events = some rx)
    {index : Nat} (inRange : index < count) :
    (∀ (k : Nat) (entry : Option Nat × UInt32), (rx.received index)[k]? = some entry →
      ∃ skb paddr length flag, (rx.enqueued index)[k]? = some (skb, paddr) ∧
        (rx.devices index).taken[k]? = some (testDstSetDesc paddr) ∧
        (rx.devices index).reported[k]? = some (length, flag) ∧
        entry = (some skb, length)) ∧
    ∀ (other k j skb : Nat) (nbytes nbytes' : UInt32), other < count →
      (rx.received index)[k]? = some (some skb, nbytes) →
      (rx.received other)[j]? = some (some skb, nbytes') → index = other ∧ k = j := by
  obtain ⟨_, before, _, counted, inv, numbered, last⟩ :=
    rx_invariant table twoLe done Numbered (.start hal' count pipes)
      (fun _ _ _ _ _ numbered stepped live => numbered.step stepped live)
      (unrestricted events _) reached
  -- The teardown keeps all logs.
  obtain ⟨enqueued, received, devices⟩ : rx.enqueued = before.enqueued ∧
      rx.received = before.received ∧ rx.devices = before.devices := by
    rcases last with ⟨rfl, _⟩ | ended
    · exact ⟨rfl, rfl, rfl⟩
    · cases ended
      exact ⟨rfl, rfl, rfl⟩
  have completion : ∀ pipe, pipe < count → ∀ (k : Nat) (entry : Option Nat × UInt32),
      (before.received pipe)[k]? = some entry → ∃ skb paddr length flag,
        (before.enqueued pipe)[k]? = some (skb, paddr) ∧
        (before.devices pipe).taken[k]? = some (testDstSetDesc paddr) ∧
        (before.devices pipe).reported[k]? = some (length, flag) ∧
        entry = (some skb, length) := by
    intro pipe pipeLt k entry lookup
    rw [← counted] at pipeLt
    obtain ⟨dst, status, counts, at_⟩ := inv.pipes pipe pipeLt
    exact at_.inv.completion lookup
  rw [enqueued, received, devices]
  refine ⟨completion index inRange, ?_⟩
  intro other k j skb nbytes nbytes' otherLt first second
  obtain ⟨_, _, _, _, atPosted, _, _, same⟩ := completion index inRange k _ first
  obtain ⟨_, _, _, _, atPosted', _, _, same'⟩ := completion other otherLt j _ second
  simp only [Prod.mk.injEq, Option.some.injEq] at same same'
  exact numbered.once index other k j _ _ atPosted atPosted'
    (same.1.symm.trans same'.1)

/-- The first frame, up to the second half of `recv_next`. -/
def firstFrame : List Rx.Event :=
  smallPost ++ [.deviceConsume 0, .deviceStoreTail 0, .deviceReport 0 60 0,
    .deviceStoreHead 0, .drainStart 0, .recvBegin 0, .recvTake]

theorem recv_next_agreement_first :
    ∃ rx, run Rx.step (.start smallSetup.1 1 smallSetup.2.1) firstFrame = some rx ∧
      (rx.received 0)[0]? = some (some 0, 60) ∧
      ∃ skb paddr length flag, (rx.enqueued 0)[0]? = some (skb, paddr) ∧
        (rx.devices 0).taken[0]? = some (testDstSetDesc paddr) ∧
        (rx.devices 0).reported[0]? = some (length, flag) ∧
        (some 0, 60) = (some skb, length) := by
  have seen : (run Rx.step (.start smallSetup.1 1 smallSetup.2.1) firstFrame).map
      (fun rx => (rx.received 0)[0]?) = some (some (some 0, 60)) := by decide +kernel
  obtain ⟨rx, reached, first⟩ := Option.map_eq_some_iff.mp seen
  refine ⟨rx, reached, first, ?_⟩
  exact (recv_next_agreement hwSrngConfigTemplate_table (fun _ _ => by decide +kernel)
    smallSetup_done reached (by decide)).1 0 _ first

/-- Outside the critical sections the needed and the posted buffers of a pipe make
`N - 2`, and the posted ones lie between the two indices; `enqueue_pipe` finds a free
slot, a needed buffer and room in the ring whenever it is called. -/
theorem rx_buffer_accounting (table : RxTable hal.srngConfig)
    (twoLe : ∀ index, index < count →
      2 ≤ (ringEntries (attrs index).destNentries).toNat)
    (done : dstTestSetup hal count memory attrs = (hal', pipes, none))
    {events : List Rx.Event} {rx : Rx}
    (reached : run Rx.step (.start hal' count pipes) events = some rx)
    (live : rx.live = true) {index : Nat} (inRange : index < count) :
    ∃ dst, (rx.pipes index).dstRing = some dst ∧
      dst.nentries = ringEntries (attrs index).destNentries ∧
      (rx.lock = .free →
        (rx.pipes index).rxBufNeeded.toNat + dst.occupied = dst.nentries.toNat - 2 ∧
        ∀ slot, slot < dst.nentries.toNat →
          ((dst.skb slot).isSome ↔
            cyclicDistance dst.nentries.toNat dst.swIndex.toNat slot <
              cyclicDistance dst.nentries.toNat dst.swIndex.toNat
                dst.writeIndex.toNat)) ∧
      ∀ poster skb paddr writeIndex,
        rx.lock = .enqueueBegun poster index skb paddr writeIndex →
        dst.skb writeIndex.toNat = none ∧ (rx.pipes index).rxBufNeeded ≠ 0 ∧
        (testDstEnqueuePipe rx.hal (rx.pipes index) dst skb paddr writeIndex).2.2 =
          0 := by
  obtain ⟨counted, before, _, _, inv, _, ⟨rfl, _⟩ | ended⟩ :=
    rx_invariant table twoLe done (fun _ => True) trivial
      (fun _ _ _ _ _ _ _ _ => trivial) (unrestricted events _) reached
  · rw [← counted] at inRange
    obtain ⟨dst, status, counts, at_⟩ := inv.pipes index inRange
    have pipeInv := at_.inv
    have nentries := pipeInv.rings.table.nentries_eq
    have ordered := pipeInv.received_le_enqueued
    have bound := pipeInv.posted_bound
    have twoLe := pipeInv.rings.two_le
    have slots := pipeInv.table.slots
    have writeIndexEq := pipeInv.table.writeIndex_eq
    have swIndexEq := pipeInv.table.swIndex_eq
    simp only [Rx.pipe] at nentries ordered bound slots writeIndexEq swIndexEq
    have length : ((rx.enqueued index).map Prod.fst).length =
        (rx.enqueued index).length := List.length_map _
    refine ⟨dst, at_.dstRing, ?_, ?_, ?_⟩
    · rw [← UInt32.toNat_inj, nentries]
      rfl
    · intro _
      constructor
      · rw [SrngTestRing.occupied, nentries, slots.count (by omega), length]
        omega
      · intro slot slotLt
        rw [nentries] at slotLt ⊢
        rw [slots.isSome_iff (by omega) (by omega) slotLt, swIndexEq, writeIndexEq,
          length]
    · intro poster skb paddr writeIndex held
      obtain ⟨status', counts', hal'', desc, at', _, rfl, stored, _, _⟩ :=
        inv.enqueue_ok held at_.dstRing
      have claim := at'.claim
      rw [held] at claim
      refine ⟨?_, (claim rfl).2.1, by rw [stored]⟩
      rw [writeIndexEq, ← length]
      exact slots.next_empty (by omega) (by omega)
  · cases ended
    contradiction

/-- A pipe with one buffer posted, after the allocation of the next one failed. -/
theorem rx_buffer_accounting_starved :
    ∃ rx dst, run Rx.step (.start smallSetup.1 1 smallSetup.2.1) onePost = some rx ∧
      rx.lock = .free ∧ (rx.pipes 0).dstRing = some dst ∧
      (rx.pipes 0).rxBufNeeded.toNat + dst.occupied = dst.nentries.toNat - 2 := by
  have seen : (run Rx.step (.start smallSetup.1 1 smallSetup.2.1) onePost).map
      (fun rx => (rx.live, rx.lock.isFree)) = some (true, true) := by decide +kernel
  obtain ⟨rx, reached, values⟩ := Option.map_eq_some_iff.mp seen
  simp only [Prod.mk.injEq] at values
  obtain ⟨live, unlocked⟩ := values
  have free := RxLock.eq_free unlocked
  obtain ⟨dst, ring, _, outside, _⟩ := rx_buffer_accounting hwSrngConfigTemplate_table
    (fun _ _ => by decide +kernel) smallSetup_done reached live Nat.zero_lt_one
  exact ⟨rx, dst, reached, free, ring, (outside free).1⟩

end Runs

end WirelessSimu
