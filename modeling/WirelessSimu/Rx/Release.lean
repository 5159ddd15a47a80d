import WirelessSimu.Rx.ShortRing

namespace WirelessSimu

open Data Kernel

/-! What the teardown leaves behind after any traffic and for any table: the buffers
whose mapping failed, and nothing else. -/

section Traffic

variable {start rx final : Rx} {events : List Rx.Event} {Inv : Multiset Nat → Rx → Prop}

/-- An account of the lost buffers that every step keeps tells at the teardown whether
a mapping failed on the way. -/
theorem Rx.released_iff_meets (initial : Inv 0 start)
    (preserved : ∀ {lost rx event next}, Inv lost rx → Rx.Step rx event next →
      next.live = true →
      ∃ lost', Inv lost' next ∧ (lost' = 0 ↔ lost = 0 ∧ rx.MappingHolds event))
    (ending : ∀ {lost rx final}, Inv lost rx → Rx.Step rx .deinit final →
      Ledger final.buffers 0 lost)
    (traffic : run Rx.step start events = some rx)
    (ended : rx.step .deinit = some final) :
    final.buffers.Released ↔ Meets Rx.step Rx.MappingHolds start events := by
  obtain ⟨alive, last⟩ := Rx.step_cases ended
  have account : rx.live = true → ∃ lost, Inv lost rx ∧
      (lost = 0 ↔ Meets Rx.step Rx.MappingHolds start events) := by
    refine run_history (fun past state => state.live = true → ∃ lost, Inv lost state ∧
      (lost = 0 ↔ Meets Rx.step Rx.MappingHolds start past))
      (fun _ => ⟨0, initial, iff_of_true rfl trivial⟩) ?_ traffic
    intro past state event next before stepped holds live
    obtain ⟨stateLive, taken⟩ := Rx.step_cases stepped
    obtain ⟨lost, inv, counted⟩ := holds stateLive
    obtain ⟨lost', inv', counted'⟩ := preserved inv taken live
    refine ⟨lost', inv', ?_⟩
    rw [counted', counted, Meets.append]
    refine and_congr_right fun _ => ⟨?_, ?_⟩
    · intro maps middle reached
      rw [before] at reached
      cases reached
      exact ⟨maps, fun _ _ => trivial⟩
    · intro meets
      exact (meets state before).1
  obtain ⟨lost, inv, counted⟩ := account alive
  rw [(ending inv last).released_iff, counted]

theorem Rx.run_fixed (traffic : run Rx.step start events = some rx)
    (live : rx.live = true) :
    rx.pipesCount = start.pipesCount ∧
      ∀ index, (rx.pipes index).fixed = (start.pipes index).fixed := by
  refine run_history (fun _ state => state.live = true →
    state.pipesCount = start.pipesCount ∧
      ∀ index, (state.pipes index).fixed = (start.pipes index).fixed)
    (fun _ => ⟨rfl, fun _ => rfl⟩) ?_ traffic live
  intro past state event next _ stepped holds nextLive
  obtain ⟨stateLive, taken⟩ := Rx.step_cases stepped
  obtain ⟨count, pipes⟩ := holds stateLive
  refine ⟨taken.pipesCount_eq.trans count, fun index => ?_⟩
  rw [taken.fixed_eq nextLive, pipes]

end Traffic

section Tables

variable {hal hal' : Hal} {count : Nat} {memory : Nat → Fin 3 → RingMemory}
  {attrs : Nat → SrngTestAttr} {pipes : Nat → SrngTestPipe} {rx final : Rx}
  {events : List Rx.Event}

theorem rx_released_of_two_le (table : RxTable hal.srngConfig)
    (twoLe : ∀ index, index < count →
      2 ≤ (ringEntries (attrs index).destNentries).toNat)
    (done : dstTestSetup hal count memory attrs = (hal', pipes, none))
    (traffic : run Rx.step (.start hal' count pipes) events = some rx)
    (ended : rx.step .deinit = some final) :
    final.buffers.Released ↔
      Meets Rx.step Rx.MappingHolds (.start hal' count pipes) events := by
  refine @Rx.released_iff_meets _ _ _ _
    (fun lost rx => RxInv (rxLayout hal.srngConfig attrs) rx ∧ rx.Owned lost)
    ⟨.start table twoLe done, .start hal' count pipes⟩ ?_ ?_ traffic ended
  · rintro lost rx event next ⟨inv, owned⟩ stepped live
    obtain ⟨lost', owned', counted⟩ := owned.anyStep inv stepped live
    exact ⟨lost', ⟨inv.step stepped live, owned'⟩, counted⟩
  · rintro lost rx final ⟨inv, owned⟩ last
    exact (owned.deinit inv last).1

theorem ShortOwned.deinit {dst status : SrngTestRing} {lost : Multiset Nat}
    (owned : ShortOwned lost rx) (side : ShortSide dst status rx)
    (last : Rx.Step rx .deinit final) : Ledger final.buffers 0 lost := by
  cases last with
  | deinit free initialised quiet =>
      have ledger : Ledger rx.buffers rx.lock.hand lost := owned
      have empty : (rx.pipes 0).slotBuffers = [] := by
        rw [SrngTestPipe.slotBuffers, (Rx.rings_eq_some.mp side.rings).1]
        simp [side.slots]
      rw [free] at ledger
      simp only [cleanupPipes_eq, side.count, List.range_one, List.flatMap_cons, empty,
        List.flatMap_nil, List.nil_append, List.foldl_nil]
      exact ledger

theorem rx_released_of_short (table : RxTable hal.srngConfig)
    (short : (ringEntries (attrs 0).destNentries).toNat < 2)
    (done : dstTestSetup hal 1 memory attrs = (hal', pipes, none))
    (traffic : run Rx.step (.start hal' 1 pipes) events = some rx)
    (ended : rx.step .deinit = some final) :
    final.buffers.Released ↔
      Meets Rx.step Rx.MappingHolds (.start hal' 1 pipes) events := by
  obtain ⟨dst, status, side⟩ := ShortSide.start table short done
  refine @Rx.released_iff_meets _ _ _ _
    (fun lost rx => ControlInv rx ∧ ShortSide dst status rx ∧ ShortControl rx ∧
      ShortOwned lost rx)
    ⟨.start hal' 1 pipes, side, .start hal' 1 pipes, .empty⟩ ?_ ?_ traffic ended
  · rintro lost rx event next ⟨inv, side, control, owned⟩ stepped live
    have inv' := inv.step stepped
    have side' := side.step inv control stepped live
    have control' := control.step inv side stepped live
    by_cases maps : rx.MappingHolds event
    · exact ⟨lost, ⟨inv', side', control', owned.step inv control side maps stepped live⟩,
        by simp [maps]⟩
    · obtain ⟨poster, index, tailroom, held, rfl, rfl⟩ := stepped.mapping_fails maps
      exact ⟨_, ⟨inv', side', control', owned.lose held tailroom (-eio)⟩, by simp [maps]⟩
  · rintro lost rx final ⟨_, side, _, owned⟩ last
    exact owned.deinit side last

/-- The driver's table of rings has room for one pipe, of whatever size. -/
theorem rx_released (config : hal.srngConfig = hwSrngConfigTemplate)
    (done : dstTestSetup hal count memory attrs = (hal', pipes, none))
    (traffic : run Rx.step (.start hal' count pipes) events = some rx)
    (ended : rx.step .deinit = some final) :
    final.buffers.Released ↔
      Meets Rx.step Rx.MappingHolds (.start hal' count pipes) events := by
  have table : RxTable hal.srngConfig := by
    rw [config]
    exact hwSrngConfigTemplate_table
  obtain ⟨_, few, _⟩ := initPipes_count table (dstTestSetup_done done).2
  rw [config] at few
  have one : count ≤ 1 := few
  by_cases twoLe : ∀ index, index < count →
      2 ≤ (ringEntries (attrs index).destNentries).toNat
  · exact rx_released_of_two_le table twoLe done traffic ended
  · push Not at twoLe
    obtain ⟨index, below, short⟩ := twoLe
    obtain rfl : index = 0 := by omega
    obtain rfl : count = 1 := by omega
    exact rx_released_of_short table short done traffic ended

end Tables

end WirelessSimu
