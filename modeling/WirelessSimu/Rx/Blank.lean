import WirelessSimu.Rx.Step

namespace WirelessSimu

open Data Kernel

/-! A received buffer has no data yet when `skb_put` comes: each buffer is in one place
from its allocation on, and only the drain that has it in hand puts data into it. So
`skb_put` always finds the room that the loop has asked for. -/

/-- A slot of a destination ring, the hand of who holds the lock, or that of a drain. -/
inductive BufferPlace where
  | slot (pipe slot : Nat)
  | lock
  | drain (pipe : Nat)
  deriving DecidableEq, Repr

namespace Rx

/-- The buffer at the place, until the drain has dealt with it. -/
def heldAt (rx : Rx) : BufferPlace → Option Nat
  | .slot index slot =>
      if index < rx.pipesCount then (rx.pipes index).dstRing.bind fun dst => dst.skb slot
      else none
  | .lock =>
      match rx.lock with
      | .recvDone _ (.ok (skb, _)) => skb
      | .enqueueBegun _ _ skb _ _ => some skb
      | _ => none
  | .drain index =>
      match rx.drains index with
      | .took _ skb _ => skb
      | _ => none

structure BlankHeld (rx : Rx) : Prop where
  once : ∀ first second skb, rx.heldAt first = some skb → rx.heldAt second = some skb →
    first = second
  blank : ∀ place skb, rx.heldAt place = some skb →
    skb < rx.buffers.allocated ∧ (rx.buffers.skb skb).len = 0

variable {rx next : Rx} {event : Event} {index : Nat}

theorem BlankHeld.start (hal : Hal) (count : Nat) {pipes : Nat → SrngTestPipe}
    (empty : ∀ index dst, index < count → (pipes index).dstRing = some dst →
      ∀ slot, dst.skb slot = none) : BlankHeld (.start hal count pipes) := by
  have nothing : ∀ place, (Rx.start hal count pipes).heldAt place = none := by
    intro place
    cases place with
    | slot index slot =>
        change (if index < count then (pipes index).dstRing.bind _ else none) = none
        split
        next inRange =>
            cases ring : (pipes index).dstRing with
            | none => rfl
            | some dst => exact empty index dst inRange ring slot
        next => rfl
    | lock => rfl
    | drain index => rfl
  refine ⟨fun first second skb held => ?_, fun place skb held => ?_⟩
  · rw [nothing] at held
    cases held
  · rw [nothing] at held
    cases held

/-- Buffers may leave their places; those that stay are as they were. -/
theorem BlankHeld.leave (blank : rx.BlankHeld)
    (held : ∀ place skb, next.heldAt place = some skb → rx.heldAt place = some skb)
    (allocated : rx.buffers.allocated ≤ next.buffers.allocated)
    (len : ∀ place skb, next.heldAt place = some skb →
      (next.buffers.skb skb).len = (rx.buffers.skb skb).len) : next.BlankHeld where
  once := fun first second skb here there =>
    blank.once first second skb (held first skb here) (held second skb there)
  blank := by
    intro place skb here
    obtain ⟨below, zero⟩ := blank.blank place skb (held place skb here)
    exact ⟨Nat.lt_of_lt_of_le below allocated, (len place skb here).trans zero⟩

theorem BlankHeld.move (blank : rx.BlankHeld) {source target : BufferPlace}
    (held : ∀ place skb, next.heldAt place = some skb →
      place ≠ source ∧ rx.heldAt place = some skb ∨
        place = target ∧ rx.heldAt source = some skb)
    (buffers : next.buffers = rx.buffers) : next.BlankHeld where
  once := by
    intro first second skb here there
    rcases held first skb here with ⟨away, stays⟩ | ⟨moved, left⟩
    · rcases held second skb there with ⟨_, stays'⟩ | ⟨_, left⟩
      · exact blank.once first second skb stays stays'
      · exact absurd (blank.once first source skb stays left) away
    · rcases held second skb there with ⟨away, stays⟩ | ⟨moved', _⟩
      · exact absurd (blank.once second source skb stays left) away
      · rw [moved, moved']
  blank := by
    rw [buffers]
    intro place skb here
    rcases held place skb here with ⟨_, stays⟩ | ⟨_, left⟩
    · exact blank.blank place skb stays
    · exact blank.blank source skb left

theorem heldAt_setDrain {drain : Drain} (empty : ∀ list skb nbytes,
    drain ≠ .took list (some skb) nbytes) {place : BufferPlace} {skb : Nat}
    (held : (rx.setDrain index drain).heldAt place = some skb) :
    place ≠ .drain index ∧ rx.heldAt place = some skb := by
  cases place with
  | slot other slot => exact ⟨by simp, held⟩
  | lock => exact ⟨by simp, held⟩
  | drain other =>
      by_cases own : other = index
      · subst own
        simp only [heldAt, setDrain, Function.update_self] at held
        split at held
        next list skb' nbytes =>
            subst held
            exact absurd rfl (empty _ _ _)
        next => cases held
      · simp only [heldAt, setDrain, Function.update_of_ne own] at held
        exact ⟨by simpa using own, held⟩

theorem heldAt_postExit {poster : Poster} {ret : Int} {place : BufferPlace} {skb : Nat}
    (held : (rx.postExit poster index ret).heldAt place = some skb) :
    rx.heldAt place = some skb := by
  cases place with
  | slot other slot => cases poster <;> exact held
  | lock => cases poster <;> cases held
  | drain other =>
      cases poster with
      | init => exact held
      | timer => exact held
      | drain pipe =>
          have emptied : (rx.setDrain pipe (.posted ret)).heldAt (.drain other) = some skb :=
            held
          exact (heldAt_setDrain (by simp) emptied).2

/-- Neither the shared words nor the buffers themselves say where a buffer is. -/
theorem heldAt_hal_buffers (hal : Hal) (buffers : Buffers) (place : BufferPlace) :
    heldAt { rx with hal := hal, buffers := buffers } place = rx.heldAt place := by
  cases place <;> rfl

theorem BlankHeld.setAside (blank : rx.BlankHeld) (hal : Hal) {buffers : Buffers}
    (allocated : rx.buffers.allocated ≤ buffers.allocated)
    (same : ∀ skb, skb < rx.buffers.allocated →
      (buffers.skb skb).len = (rx.buffers.skb skb).len) :
    BlankHeld { rx with hal := hal, buffers := buffers } := by
  refine blank.leave (fun place skb held => ?_) allocated fun place skb held => ?_
  · rw [heldAt_hal_buffers] at held
    exact held
  · rw [heldAt_hal_buffers] at held
    exact same skb (blank.blank place skb held).1

theorem BlankHeld.lose (blank : rx.BlankHeld) (tailroom : UInt32) :
    BlankHeld { rx with buffers := (rx.buffers.devAllocSkb tailroom).1 } := by
  refine blank.setAside rx.hal (Nat.le_succ _) fun skb below => ?_
  simp only [Buffers.devAllocSkb, Function.update_of_ne (Nat.ne_of_lt below)]

theorem BlankHeld.postExit (blank : rx.BlankHeld) {poster : Poster} {ret : Int} :
    (rx.postExit poster index ret).BlankHeld :=
  blank.leave (fun _ _ held => heldAt_postExit held)
    (by rw [buffers_postExit]) fun _ _ _ => by rw [buffers_postExit]

theorem BlankHeld.writeStatus (blank : rx.BlankHeld) (index : Nat)
    (statusRing : Option SrngTestRing) :
    (rx.setPipe index { rx.pipes index with statusRing := statusRing }).BlankHeld := by
  refine blank.leave (fun place skb held => ?_) (Nat.le_refl _) fun _ _ _ => rfl
  cases place with
  | slot other slot =>
      by_cases own : other = index
      · subst own
        simpa [heldAt, setPipe] using held
      · simpa [heldAt, setPipe, own] using held
  | _ => exact held

/-- What the drain does with the buffer in its hand is nothing to the others. -/
theorem BlankHeld.taken (blank : rx.BlankHeld) {list list' : List Nat} {skb : Nat}
    {nbytes : UInt32} (took : rx.drains index = .took list (some skb) nbytes)
    {buffers : Buffers} (allocated : buffers.allocated = rx.buffers.allocated)
    (others : ∀ other, other ≠ skb → buffers.skb other = rx.buffers.skb other) :
    BlankHeld { rx.setDrain index (.recv list') with buffers := buffers } := by
  have inHand : rx.heldAt (.drain index) = some skb := by
    simp only [heldAt, took]
  have stays {place : BufferPlace} {other : Nat}
      (held : (rx.setDrain index (.recv list')).heldAt place = some other) :
      place ≠ .drain index ∧ rx.heldAt place = some other :=
    heldAt_setDrain (by simp) held
  refine blank.leave (fun place other held => (stays held).2) (Nat.le_of_eq allocated.symm) ?_
  intro place other held
  obtain ⟨away, before⟩ := stays held
  rw [others other]
  rintro rfl
  exact away (blank.once place (.drain index) _ before inHand)

/-- The room that the loop asks for is all behind the data. -/
theorem BlankHeld.skbPut (blank : rx.BlankHeld) {list : List Nat} {skb : Nat}
    {nbytes : UInt32} (took : rx.drains index = .took list (some skb) nbytes)
    (fits : ¬ (rx.buffers.skb skb).room < nbytes) :
    ∃ buffers, (rx.unmapped skb).skbPut skb nbytes = some buffers := by
  have inHand : rx.heldAt (.drain index) = some skb := by
    simp only [heldAt, took]
  have room : (rx.buffers.skb skb).room = (rx.buffers.skb skb).tailroom := by
    rw [SkBuff.room, (blank.blank _ skb inHand).2, UInt32.zero_add]
  rw [room, UInt32.not_lt] at fits
  exact ⟨_, Buffers.skbPut_eq_some.mpr ⟨fits, rfl⟩⟩

theorem BlankHeld.recvTake (blank : rx.BlankHeld) {swIndex : UInt32}
    {dst status : SrngTestRing} (held : rx.lock = .recvBegun index swIndex)
    (inRange : index < rx.pipesCount) (rings : rx.rings index = some (dst, status)) :
    (rx.recvResult index
      (testDstRecvNext rx.hal (rx.pipes index) dst status swIndex)).BlankHeld := by
  have ring := (rings_eq_some.mp rings).1
  have failed : ∀ hal' code, (rx.recvResult index
      (hal', rx.pipes index, .error code)).BlankHeld := by
    intro hal' code
    refine blank.leave ?_ (Nat.le_refl _) fun _ _ _ => rfl
    intro place skb here
    cases place with
    | slot other slot => simpa [heldAt, recvResult, setPipe] using here
    | lock => cases here
    | drain other => exact here
  obtain ⟨_, outcome⟩ | ⟨hal', desc, _, zero, outcome⟩ | ⟨hal', desc, _, nonzero, outcome⟩ :=
    testDstRecvNext_cases rx.hal (rx.pipes index) dst status swIndex
  · rw [outcome]
    exact failed _ _
  · rw [outcome]
    exact failed _ _
  · rw [outcome]
    refine @BlankHeld.move _ _ blank (.slot index swIndex.toNat) .lock ?_ rfl
    intro place skb here
    cases place with
    | slot other slot =>
        left
        by_cases own : other = index
        · subst own
          simp only [heldAt, recvResult, setPipe, SrngTestPipe.take, Function.update_self,
            inRange, if_true, Option.bind_some, SrngTestRing.take] at here
          have away : slot ≠ swIndex.toNat := by
            rintro rfl
            rw [Function.update_self] at here
            cases here
          rw [Function.update_of_ne away] at here
          refine ⟨by simp [away], ?_⟩
          simp only [heldAt, inRange, if_true, ring, Option.bind_some]
          exact here
        · simp only [heldAt, recvResult, setPipe, Function.update_of_ne own] at here
          exact ⟨by simp [own], here⟩
    | lock =>
        right
        refine ⟨rfl, ?_⟩
        simp only [heldAt, inRange, if_true, ring, Option.bind_some]
        exact here
    | drain other => exact .inl ⟨by simp, here⟩

theorem BlankHeld.recvEnd (blank : rx.BlankHeld) {list : List Nat}
    {result : Except Int (Option Nat × UInt32)} (held : rx.lock = .recvDone index result)
    (hal : Hal) :
    BlankHeld { rx.setDrain index (afterRecv list result) with hal := hal, lock := .free } := by
  refine @BlankHeld.move _ _ blank .lock (.drain index) ?_ rfl
  intro place skb here
  cases place with
  | slot other slot => exact .inl ⟨by simp, here⟩
  | lock => cases here
  | drain other =>
      by_cases own : other = index
      · subst own
        right
        simp only [heldAt, setDrain, Function.update_self] at here
        refine ⟨rfl, ?_⟩
        simp only [heldAt, held]
        cases result with
        | ok entry => exact here
        | error code => cases here
      · simp only [heldAt, setDrain, Function.update_of_ne own] at here
        exact .inl ⟨by simp, here⟩

theorem BlankHeld.enqueueBegin (blank : rx.BlankHeld) {poster : Poster} {tailroom : UInt32}
    {paddr : UInt64} {writeIndex : UInt32} (hal : Hal) :
    BlankHeld
      { rx with
        buffers := rx.mapped tailroom paddr
        hal := hal
        lock := .enqueueBegun poster index rx.buffers.allocated paddr writeIndex } := by
  -- What a place holds is an older buffer, or the new one.
  have stays {place : BufferPlace} {skb : Nat}
      (here : heldAt { rx with
        buffers := rx.mapped tailroom paddr
        hal := hal
        lock := .enqueueBegun poster index rx.buffers.allocated paddr writeIndex } place =
          some skb) :
      place ≠ .lock ∧ rx.heldAt place = some skb ∨
        place = .lock ∧ skb = rx.buffers.allocated := by
    cases place with
    | slot other slot => exact .inl ⟨by simp, here⟩
    | lock => exact .inr ⟨rfl, (Option.some.inj here).symm⟩
    | drain other => exact .inl ⟨by simp, here⟩
  refine ⟨?_, ?_⟩
  · intro first second skb here there
    rcases stays here with ⟨_, older⟩ | ⟨lock, new⟩
    · rcases stays there with ⟨_, older'⟩ | ⟨_, new⟩
      · exact blank.once first second skb older older'
      · have below := (blank.blank first skb older).1
        omega
    · rcases stays there with ⟨_, older⟩ | ⟨lock', _⟩
      · have below := (blank.blank second skb older).1
        omega
      · rw [lock, lock']
  · intro place skb here
    have grown : (rx.mapped tailroom paddr).allocated = rx.buffers.allocated + 1 := rfl
    simp only [grown]
    rcases stays here with ⟨_, older⟩ | ⟨_, rfl⟩
    · obtain ⟨below, zero⟩ := blank.blank place skb older
      refine ⟨by omega, ?_⟩
      have different : skb ≠ rx.buffers.allocated := by omega
      simp only [mapped, Buffers.devAllocSkb, Buffers.dmaMapSingle, Buffers.setPaddr,
        Function.update_of_ne different]
      exact zero
    · refine ⟨by omega, ?_⟩
      simp only [mapped, Buffers.devAllocSkb, Buffers.dmaMapSingle, Buffers.setPaddr,
        Function.update_self]

theorem BlankHeld.enqueueStore (blank : rx.BlankHeld) {poster : Poster} {skb : Nat}
    {paddr : UInt64} {writeIndex : UInt32} {dst : SrngTestRing}
    (held : rx.lock = .enqueueBegun poster index skb paddr writeIndex)
    (ring : (rx.pipes index).dstRing = some dst) :
    (rx.enqueueResult poster index skb paddr
      (testDstEnqueuePipe rx.hal (rx.pipes index) dst skb paddr writeIndex)).BlankHeld := by
  obtain ⟨outcome, _⟩ | ⟨hal', desc, _, outcome⟩ :=
    testDstEnqueuePipe_cases rx.hal (rx.pipes index) dst skb paddr writeIndex
  · rw [outcome]
    refine blank.leave ?_ (Nat.le_refl _) fun _ _ _ => rfl
    intro place other here
    cases place with
    | slot pipe slot => simpa [heldAt, enqueueResult, setPipe] using here
    | lock => cases here
    | drain pipe => exact here
  · rw [outcome]
    refine @BlankHeld.move _ _ blank .lock (.slot index writeIndex.toNat) ?_ rfl
    intro place other here
    cases place with
    | slot pipe slot =>
        by_cases own : pipe = index
        · subst own
          simp only [heldAt, enqueueResult, setPipe, SrngTestPipe.fill, Function.update_self,
            Option.bind_some, SrngTestRing.fill] at here
          obtain ⟨inRange, here⟩ := Option.ite_none_right_eq_some.mp here
          by_cases same : slot = writeIndex.toNat
          · rw [same, Function.update_self] at here
            cases here
            exact .inr ⟨by rw [same], by simp only [heldAt, held]⟩
          · rw [Function.update_of_ne same] at here
            refine .inl ⟨by simp, ?_⟩
            simp only [heldAt, inRange, if_true, ring, Option.bind_some]
            exact here
        · simp only [heldAt, enqueueResult, setPipe, Function.update_of_ne own] at here
          exact .inl ⟨by simp, here⟩
    | lock => cases here
    | drain pipe => exact .inl ⟨by simp, here⟩

theorem BlankHeld.step (blank : rx.BlankHeld)
    (receiving : ∀ index swIndex, rx.lock = .recvBegun index swIndex →
      index < rx.pipesCount)
    (stepped : Step rx event next) (live : next.live = true) : next.BlankHeld := by
  -- Nothing is put anywhere, and no buffer changes.
  have still (held : ∀ place skb, next.heldAt place = some skb → rx.heldAt place = some skb)
      (buffers : next.buffers.allocated = rx.buffers.allocated ∧
        next.buffers.skb = rx.buffers.skb) : next.BlankHeld :=
    blank.leave held (Nat.le_of_eq buffers.1.symm) fun _ _ _ => by rw [buffers.2]
  cases stepped with
  | recvTake held rings => exact blank.recvTake held (receiving _ _ held) rings
  | recvEnd held _ _ => exact blank.recvEnd held _
  | drainOverlong took _ => exact blank.taken took rfl fun _ _ => rfl
  | drainKeep took _ put =>
      obtain ⟨_, rfl⟩ := Buffers.skbPut_eq_some.mp put
      exact blank.taken took rfl fun _ different => Function.update_of_ne different _ _
  | enqueueBegin => exact blank.enqueueBegin _
  | enqueueStore held ring => exact blank.enqueueStore held ring
  | drainStart | flushOne | flushDone | drainPostNull | drainPost | drainReturn =>
      exact still (fun _ _ held => (heldAt_setDrain (by simp) held).2) ⟨rfl, rfl⟩
  | recvBegin | drainLock | postBufLock | enqueueEnd =>
      refine still (fun place skb held => ?_) ⟨rfl, rfl⟩
      cases place with
      | lock => cases held
      | _ => exact held
  | @postBufNull timer | @postBufWait timer | @postBufDone timer | @postBufOn timer
  | @postBufStop timer =>
      cases timer <;>
        exact still (fun place _ held => by cases place <;> exact held) ⟨rfl, rfl⟩
  | postDone | postNoMemory => exact blank.postExit
  | @postUnmapped _ _ tailroom => exact (blank.lose tailroom).postExit
  | @enqueueUndo _ _ skb paddr =>
      exact (@setAside _ blank _ ((rx.buffers.dmaUnmapSingle skb paddr
        (rx.buffers.skb skb).room).devKfreeSkb skb) (Nat.le_refl _) fun _ _ => rfl).postExit
  | @deviceReport index status length flag =>
      have written := blank.writeStatus index (some
        { status with
          mem := storeWords status.mem
            (descPtr (rx.hal.srngList status.halRingId.toNat) (rx.devices index).head)
            [length, flag] })
      exact ⟨written.once, written.blank⟩
  | deinit => contradiction
  | timerFire | deviceConsume | deviceStoreTail | deviceStoreHead =>
      exact still (fun place _ held => by cases place <;> exact held) ⟨rfl, rfl⟩

end Rx

end WirelessSimu
