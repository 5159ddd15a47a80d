import Mathlib.Data.List.Induction
import Mathlib.Logic.Function.Basic

namespace WirelessSimu.Data

/-! Runs of a partial step function over a list of events. A disabled event
ends the run with `none`. -/

def run (step : σ → ε → Option σ) : σ → List ε → Option σ
  | state, [] => some state
  | state, event :: events =>
      (step state event).bind fun next => run step next events

/-- Every event of the run is taken in a state where `ok` allows it. -/
def Meets (step : σ → ε → Option σ) (ok : σ → ε → Prop) :
    σ → List ε → Prop
  | _, [] => True
  | state, event :: events =>
      ok state event ∧
        ∀ next, step state event = some next → Meets step ok next events

variable {step : σ → ε → Option σ}

theorem run_cons_eq_some {state final : σ} {event : ε} {events : List ε} :
    run step state (event :: events) = some final ↔
      ∃ next, step state event = some next ∧
        run step next events = some final := by
  simp only [run, Option.bind_eq_some_iff]

theorem run_append (state : σ) (first second : List ε) :
    run step state (first ++ second) =
      (run step state first).bind fun middle => run step middle second := by
  induction first generalizing state with
  | nil => rfl
  | cons event first ih =>
      simp only [List.cons_append, run]
      cases step state event with
      | none => rfl
      | some next => exact ih next

theorem run_concat_eq_some {state final : σ} {events : List ε} {event : ε} :
    run step state (events ++ [event]) = some final ↔
      ∃ middle, run step state events = some middle ∧
        step middle event = some final := by
  rw [run_append, Option.bind_eq_some_iff]
  constructor
  · rintro ⟨middle, reached, last⟩
    obtain ⟨next, stepped, ended⟩ := run_cons_eq_some.mp last
    cases ended
    exact ⟨middle, reached, stepped⟩
  · rintro ⟨middle, reached, stepped⟩
    exact ⟨middle, reached, run_cons_eq_some.mpr ⟨final, stepped, rfl⟩⟩

/-- A run in stages: from every state of a stage some run comes to the next stage. -/
theorem run_reaches {P : Nat → σ → Prop} {start : σ} {count : Nat}
    (initial : ∃ events state, run step start events = some state ∧ P 0 state)
    (onward : ∀ stage < count, ∀ state, P stage state →
      ∃ events next, run step state events = some next ∧ P (stage + 1) next) :
    ∃ events state, run step start events = some state ∧ P count state := by
  induction count with
  | zero => exact initial
  | succ count ih =>
      obtain ⟨first, middle, reached, there⟩ :=
        ih fun stage below => onward stage (Nat.lt_succ_of_lt below)
      obtain ⟨second, state, followed, last⟩ :=
        onward count (Nat.lt_succ_self count) middle there
      refine ⟨first ++ second, state, ?_, last⟩
      rw [run_append, reached]
      exact followed

/-- What holds at the start and is kept by every allowed step holds at the end
of every run whose steps are all allowed. -/
theorem Meets.invariant {ok : σ → ε → Prop} (Inv : σ → Prop)
    (preserved : ∀ state event next, ok state event →
      step state event = some next → Inv state → Inv next) :
    ∀ {events : List ε} {state final : σ}, Meets step ok state events →
      run step state events = some final → Inv state → Inv final
  | [], _, _, _, reached, holds => by
      cases reached
      exact holds
  | _ :: _, _, _, meets, reached, holds => by
      obtain ⟨next, stepped, rest⟩ := run_cons_eq_some.mp reached
      exact Meets.invariant Inv preserved (meets.2 next stepped) rest
        (preserved _ _ _ meets.1 stepped holds)

/-- Events that are allowed in every state. -/
theorem Meets.of_forall {ok : σ → ε → Prop} {events : List ε}
    (always : ∀ event ∈ events, ∀ state, ok state event) (state : σ) :
    Meets step ok state events := by
  induction events generalizing state with
  | nil => trivial
  | cons event events ih =>
      refine ⟨always event List.mem_cons_self state, fun next _ => ?_⟩
      exact ih (fun later member => always later (List.mem_cons_of_mem event member)) next

theorem Meets.and {first second : σ → ε → Prop} {events : List ε} {state : σ}
    (left : Meets step first state events) (right : Meets step second state events) :
    Meets step (fun state event => first state event ∧ second state event) state events := by
  induction events generalizing state with
  | nil => trivial
  | cons event events ih =>
      exact ⟨⟨left.1, right.1⟩, fun next stepped =>
        ih (left.2 next stepped) (right.2 next stepped)⟩

instance Meets.decidable {ok : σ → ε → Prop}
    [∀ state event, Decidable (ok state event)] :
    ∀ state events, Decidable (Meets step ok state events)
  | _, [] => isTrue trivial
  | state, event :: events =>
      match found : step state event with
      | none =>
          decidable_of_iff (ok state event)
            ⟨fun allowed => ⟨allowed, by simp [found]⟩, And.left⟩
      | some next =>
          have : Decidable (Meets step ok next events) := Meets.decidable next events
          decidable_of_iff (ok state event ∧ Meets step ok next events)
            ⟨fun both => ⟨both.1, by simp [found, both.2]⟩,
              fun meets => ⟨meets.1, meets.2 next found⟩⟩

theorem run_invariant (Inv : σ → Prop)
    (preserved : ∀ state event next, step state event = some next →
      Inv state → Inv next)
    {events : List ε} {state final : σ}
    (reached : run step state events = some final) (holds : Inv state) :
    Inv final := by
  induction events generalizing state with
  | nil =>
      cases reached
      exact holds
  | cons event events ih =>
      obtain ⟨next, stepped, rest⟩ := run_cons_eq_some.mp reached
      exact ih rest (preserved _ _ _ stepped holds)

/-- A part of the state that every event either sets or leaves alone holds what the last
event wrote that sets it. -/
theorem run_lastWritten (read : σ → α) (writes : ε → Option α)
    (sets : ∀ state event next, step state event = some next →
      read next = (writes event).getD (read state))
    {events : List ε} {state final : σ} (reached : run step state events = some final) :
    read final = (events.filterMap writes).getLastD (read state) := by
  induction events generalizing state with
  | nil =>
      cases reached
      rfl
  | cons event events ih =>
      obtain ⟨next, stepped, rest⟩ := run_cons_eq_some.mp reached
      rw [ih rest, sets state event next stepped]
      cases written : writes event with
      | none => rw [List.filterMap_cons_none written, Option.getD_none]
      | some value =>
          rw [List.filterMap_cons_some written, Option.getD_some, List.getLastD_cons]

/-- Events that are not `own` leave the relation alone, and an own one is answered in
the other run: the other run is then that of the own events, in the same order. -/
theorem run_filter {R : σ → σ → Prop} {own : ε → Bool}
    (frame : ∀ state other event next, own event = false →
      step state event = some next → R state other → R next other)
    (answer : ∀ state other event next, own event = true →
      step state event = some next → R state other →
      ∃ next', step other event = some next' ∧ R next next')
    {events : List ε} {state other final : σ}
    (reached : run step state events = some final) (related : R state other) :
    ∃ final', run step other (events.filter own) = some final' ∧ R final final' := by
  induction events generalizing state other with
  | nil =>
      cases reached
      exact ⟨other, rfl, related⟩
  | cons event events ih =>
      obtain ⟨next, stepped, rest⟩ := run_cons_eq_some.mp reached
      cases mine : own event with
      | false =>
          rw [List.filter_cons_of_neg (by simp [mine])]
          exact ih rest (frame _ _ _ _ mine stepped related)
      | true =>
          obtain ⟨next', answered, relatedThen⟩ :=
            answer _ _ _ _ mine stepped related
          obtain ⟨final', followed, ended⟩ := ih rest relatedThen
          rw [List.filter_cons_of_pos mine]
          exact ⟨final', run_cons_eq_some.mpr ⟨next', answered, followed⟩, ended⟩

/-- What the events of a run put out, in order. -/
def outputs (step : σ → ε → Option σ) (out : σ → ε → List α) :
    σ → List ε → List α
  | _, [] => []
  | state, event :: events =>
      match step state event with
      | none => []
      | some next => out state event ++ outputs step out next events

variable {out : σ → ε → List α}

@[simp] theorem outputs_nil (state : σ) : outputs step out state [] = [] := rfl

theorem outputs_cons {state next : σ} {event : ε} (stepped : step state event = some next)
    (events : List ε) :
    outputs step out state (event :: events) =
      out state event ++ outputs step out next events := by
  simp only [outputs, stepped]

theorem outputs_append {state middle : σ} {first : List ε}
    (reached : run step state first = some middle) (second : List ε) :
    outputs step out state (first ++ second) =
      outputs step out state first ++ outputs step out middle second := by
  induction first generalizing state with
  | nil =>
      cases reached
      rfl
  | cons event first ih =>
      obtain ⟨next, stepped, rest⟩ := run_cons_eq_some.mp reached
      rw [List.cons_append, outputs_cons stepped, outputs_cons stepped, ih rest,
        List.append_assoc]

theorem outputs_concat {state middle next : σ} {events : List ε} {event : ε}
    (reached : run step state events = some middle)
    (stepped : step middle event = some next) :
    outputs step out state (events ++ [event]) =
      outputs step out state events ++ out middle event := by
  rw [outputs_append reached, outputs_cons stepped, outputs_nil, List.append_nil]

/-- Every step is answered by the events of its trace in another system: the whole run
is then answered by the traces of its steps, one after the other. -/
theorem run_simulates {stepTo : τ → δ → Option τ} {R : σ → τ → Prop}
    {trace : σ → ε → List δ}
    (answer : ∀ state other event next, step state event = some next → R state other →
      ∃ next', run stepTo other (trace state event) = some next' ∧ R next next')
    {events : List ε} {state final : σ} {other : τ}
    (reached : run step state events = some final) (related : R state other) :
    ∃ final', run stepTo other (outputs step trace state events) = some final' ∧
      R final final' := by
  induction events generalizing state other with
  | nil =>
      cases reached
      exact ⟨other, rfl, related⟩
  | cons event events ih =>
      obtain ⟨next, stepped, rest⟩ := run_cons_eq_some.mp reached
      obtain ⟨next', answered, relatedThen⟩ := answer _ _ _ _ stepped related
      obtain ⟨final', followed, ended⟩ := ih rest relatedThen
      refine ⟨final', ?_, ended⟩
      rw [outputs_cons stepped, run_append, answered]
      exact followed

theorem Meets.append {ok : σ → ε → Prop} {state : σ} {first second : List ε} :
    Meets step ok state (first ++ second) ↔
      Meets step ok state first ∧
        ∀ middle, run step state first = some middle → Meets step ok middle second := by
  induction first generalizing state with
  | nil =>
      constructor
      · intro meets
        refine ⟨trivial, fun middle reached => ?_⟩
        cases reached
        exact meets
      · intro meets
        exact meets.2 state rfl
  | cons event first ih =>
      constructor
      · intro meets
        refine ⟨⟨meets.1, fun next stepped => (ih.mp (meets.2 next stepped)).1⟩, ?_⟩
        intro middle reached
        obtain ⟨next, stepped, rest⟩ := run_cons_eq_some.mp reached
        exact (ih.mp (meets.2 next stepped)).2 middle rest
      · intro meets
        refine ⟨meets.1.1, fun next stepped => ih.mpr ⟨meets.1.2 next stepped, ?_⟩⟩
        intro middle reached
        exact meets.2 middle (run_cons_eq_some.mpr ⟨next, stepped, reached⟩)

/-- From an invariant state every allowed step can be taken; it comes to a good state
exactly if it is `ok`, and then the invariant holds on. -/
def StepDecides (step : σ → ε → Option σ) (allowed ok : σ → ε → Prop)
    (Good Inv : σ → Prop) : Prop :=
  ∀ state event, Inv state → allowed state event →
    ∃ next, step state event = some next ∧ (Good next ↔ ok state event) ∧
      (ok state event → Inv next)

section Decided

variable {allowed ok : σ → ε → Prop} {Good Inv : σ → Prop} {events : List ε} {state : σ}

/-- In a run through good states only, every step was `ok`. -/
theorem Meets.of_prefixes (decides : StepDecides step allowed ok Good Inv)
    (inv : Inv state) (meets : Meets step allowed state events)
    (good : ∀ past middle, past <+: events → run step state past = some middle →
      Good middle) : Meets step ok state events := by
  induction events generalizing state with
  | nil => trivial
  | cons event events ih =>
      obtain ⟨next, stepped, goodNext, keeps⟩ := decides state event inv meets.1
      have now : ok state event := by
        refine goodNext.mp (good [event] next ?_ ?_)
        · exact List.cons_prefix_cons.mpr ⟨rfl, List.nil_prefix⟩
        · exact run_cons_eq_some.mpr ⟨next, stepped, rfl⟩
      refine ⟨now, fun other steppedOther => ?_⟩
      rw [stepped] at steppedOther
      cases steppedOther
      refine ih (keeps now) (meets.2 next stepped) fun past middle before reached => ?_
      exact good (event :: past) middle (List.cons_prefix_cons.mpr ⟨rfl, before⟩)
        (run_cons_eq_some.mpr ⟨next, stepped, reached⟩)

theorem Meets.prefixes (decides : StepDecides step allowed ok Good Inv)
    (inv : Inv state) (meets : Meets step allowed state events)
    (oks : Meets step ok state events) {past : List ε} (before : past <+: events) :
    ∃ middle, run step state past = some middle ∧ Inv middle := by
  induction past generalizing state events with
  | nil => exact ⟨state, rfl, inv⟩
  | cons first past ih =>
      obtain ⟨rest, rfl⟩ := before
      obtain ⟨next, stepped, _, keeps⟩ := decides state first inv meets.1
      obtain ⟨middle, reached, there⟩ := ih (keeps oks.1) (meets.2 next stepped)
        (oks.2 next stepped) (List.prefix_append past rest)
      exact ⟨middle, run_cons_eq_some.mpr ⟨next, stepped, reached⟩, there⟩

theorem Meets.iff_prefixes (decides : StepDecides step allowed ok Good Inv)
    (goodOfInv : ∀ state, Inv state → Good state) (inv : Inv state)
    (meets : Meets step allowed state events) :
    (∀ past, past <+: events → ∃ middle, run step state past = some middle ∧ Good middle) ↔
      Meets step ok state events := by
  constructor
  · intro good
    refine Meets.of_prefixes decides inv meets ?_
    intro past middle before reached
    obtain ⟨other, same, there⟩ := good past before
    rw [reached] at same
    cases same
    exact there
  · intro oks past before
    obtain ⟨middle, reached, there⟩ := Meets.prefixes decides inv meets oks before
    exact ⟨middle, reached, goodOfInv middle there⟩

end Decided

/-- In a run that ends, a condition on the events alone holds for all of them. -/
theorem Meets.forall_mem {ok : ε → Prop} {events : List ε} {state final : σ}
    (meets : Meets step (fun _ event => ok event) state events)
    (reached : run step state events = some final) : ∀ event ∈ events, ok event := by
  induction events generalizing state with
  | nil => exact fun _ member => by cases member
  | cons event events ih =>
      obtain ⟨next, stepped, rest⟩ := run_cons_eq_some.mp reached
      rw [List.forall_mem_cons]
      exact ⟨meets.1, ih (meets.2 next stepped) rest⟩

/-- An invariant of the state together with the events that led to it. -/
theorem Meets.history {ok : σ → ε → Prop} {start final : σ} (Inv : List ε → σ → Prop)
    (initial : Inv [] start)
    (preserved : ∀ past state event next, run step start past = some state →
      ok state event → step state event = some next → Inv past state →
      Inv (past ++ [event]) next)
    {events : List ε} (meets : Meets step ok start events)
    (reached : run step start events = some final) : Inv events final := by
  induction events using List.reverseRecOn generalizing final with
  | nil =>
      cases reached
      exact initial
  | append_singleton events event ih =>
      obtain ⟨middle, before, stepped⟩ := run_concat_eq_some.mp reached
      obtain ⟨past, last⟩ := Meets.append.mp meets
      exact preserved _ _ _ _ before (last middle before).1 stepped (ih past before)

theorem run_history {start final : σ} (Inv : List ε → σ → Prop) (initial : Inv [] start)
    (preserved : ∀ past state event next, run step start past = some state →
      step state event = some next → Inv past state → Inv (past ++ [event]) next)
    {events : List ε} (reached : run step start events = some final) :
    Inv events final :=
  have free : Meets step (fun _ _ => True) start events :=
    .of_forall (fun _ _ _ => trivial) start
  free.history Inv initial
    (fun past state event next before _ => preserved past state event next before) reached

/-- A measure that every allowed step lowers bounds the length of a run. -/
theorem Meets.length_le {ok : σ → ε → Prop} (Inv : σ → Prop) (measure : σ → Nat)
    (lowers : ∀ state event next, ok state event → step state event = some next →
      Inv state → Inv next ∧ measure next < measure state)
    {events : List ε} {state final : σ} (meets : Meets step ok state events)
    (reached : run step state events = some final) (inv : Inv state) :
    events.length + measure final ≤ measure state := by
  induction events generalizing state with
  | nil =>
      cases reached
      simp
  | cons event events ih =>
      obtain ⟨next, stepped, rest⟩ := run_cons_eq_some.mp reached
      obtain ⟨inv', less⟩ := lowers state event next meets.1 stepped inv
      have bound := ih (meets.2 next stepped) rest inv'
      rw [List.length_cons]
      omega

/-! A process on its own: `pick` is its next event, and it ends where it has none. -/

def alone (pick : σ → Option ε) (step : σ → ε → Option σ) : Nat → σ → Option σ
  | 0, state => some state
  | fuel + 1, state =>
      match pick state with
      | none => some state
      | some event => (step state event).bind (alone pick step fuel)

/-- The process comes to a state with `P`, given enough fuel. -/
def Reaches (pick : σ → Option ε) (step : σ → ε → Option σ) (P : σ → Prop)
    (state : σ) : Prop :=
  ∃ fuel next, alone pick step fuel state = some next ∧ P next

section Alone

variable {pick : σ → Option ε} {P Q : σ → Prop} {state next : σ} {event : ε}

theorem alone_picked (picked : pick state = some event)
    (stepped : step state event = some next) (fuel : Nat) :
    alone pick step (fuel + 1) state = alone pick step fuel next := by
  simp only [alone, picked, stepped, Option.bind_some]

theorem alone_ended (ended : pick state = none) (fuel : Nat) :
    alone pick step fuel state = some state := by
  cases fuel with
  | zero => rfl
  | succ fuel => simp only [alone, ended]

theorem alone_add (first second : Nat) (state : σ) :
    alone pick step (first + second) state =
      (alone pick step first state).bind (alone pick step second) := by
  induction first generalizing state with
  | zero => rw [Nat.zero_add, alone, Option.bind_some]
  | succ first ih =>
      rw [Nat.succ_add, alone, alone]
      cases picked : pick state with
      | none => rw [Option.bind_some, alone_ended picked]
      | some event =>
          simp only
          cases step state event with
          | none => rfl
          | some next => exact ih next

theorem Reaches.refl (holds : P state) : Reaches pick step P state :=
  ⟨0, state, rfl, holds⟩

theorem Reaches.cons (picked : pick state = some event)
    (stepped : step state event = some next) (rest : Reaches pick step P next) :
    Reaches pick step P state := by
  obtain ⟨fuel, final, reached, holds⟩ := rest
  exact ⟨fuel + 1, final, by rw [alone_picked picked stepped, reached], holds⟩

theorem Reaches.trans (first : Reaches pick step P state)
    (second : ∀ middle, P middle → Reaches pick step Q middle) :
    Reaches pick step Q state := by
  obtain ⟨fuel, middle, reached, holds⟩ := first
  obtain ⟨more, final, rest, goal⟩ := second middle holds
  exact ⟨fuel + more, final, by rw [alone_add, reached, Option.bind_some, rest], goal⟩

/-- What every step of the process keeps holds where it comes to as well. -/
theorem Reaches.always (Inv : σ → Prop)
    (preserved : ∀ state event next, pick state = some event →
      step state event = some next → Inv state → Inv next)
    (inv : Inv state) (reaches : Reaches pick step P state) :
    Reaches pick step (fun final => Inv final ∧ P final) state := by
  obtain ⟨fuel, final, reached, holds⟩ := reaches
  refine ⟨fuel, final, reached, ?_, holds⟩
  clear holds
  induction fuel generalizing state with
  | zero =>
      cases reached
      exact inv
  | succ fuel ih =>
      rw [alone] at reached
      split at reached
      next =>
          cases reached
          exact inv
      next event picked =>
          obtain ⟨next, stepped, rest⟩ := Option.bind_eq_some_iff.mp reached
          exact ih (preserved state event next picked stepped inv) rest

/-- A process that does what the other does, seen in another system, comes to the same. -/
theorem Reaches.lift {pickTo : τ → Option δ} {stepTo : τ → δ → Option τ} (embed : σ → τ)
    (rename : ε → δ) (Inv : σ → Prop)
    (follow : ∀ state event next, Inv state → pick state = some event →
      step state event = some next → Inv next ∧
        pickTo (embed state) = some (rename event) ∧
        stepTo (embed state) (rename event) = some (embed next))
    (inv : Inv state) (reaches : Reaches pick step P state) :
    Reaches pickTo stepTo (fun final => ∃ from_, final = embed from_ ∧ P from_)
      (embed state) := by
  obtain ⟨fuel, final, reached, holds⟩ := reaches
  induction fuel generalizing state with
  | zero =>
      cases reached
      exact .refl ⟨_, rfl, holds⟩
  | succ fuel ih =>
      rw [alone] at reached
      split at reached
      next =>
          cases reached
          exact .refl ⟨_, rfl, holds⟩
      next event picked =>
          obtain ⟨next, stepped, rest⟩ := Option.bind_eq_some_iff.mp reached
          obtain ⟨inv', pickedTo, steppedTo⟩ := follow state event next inv picked stepped
          exact .cons pickedTo steppedTo (ih inv' rest)

/-- A process that cannot go on is already where it comes to. -/
theorem Reaches.of_stuck (reaches : Reaches pick step P state)
    (stuck : ∀ event, pick state = some event → step state event = none) : P state := by
  obtain ⟨fuel, final, reached, holds⟩ := reaches
  cases fuel with
  | zero =>
      cases reached
      exact holds
  | succ fuel =>
      rw [alone] at reached
      split at reached
      next =>
          cases reached
          exact holds
      next event picked =>
          rw [stuck event picked] at reached
          cases reached

/-- A loop with a variant ends. -/
theorem Reaches.loop (Inv : σ → Prop) (variant : σ → Nat)
    (turn : ∀ state, Inv state → Reaches pick step P state ∨
      Reaches pick step (fun next => Inv next ∧ variant next < variant state) state)
    (inv : Inv state) : Reaches pick step P state := by
  generalize bound : variant state = limit
  induction limit using Nat.strongRecOn generalizing state with
  | ind limit ih =>
      rcases turn state inv with ended | again
      · exact ended
      · refine again.trans ?_
        rintro next ⟨inv', less⟩
        exact ih (variant next) (bound ▸ less) inv' rfl

end Alone

end WirelessSimu.Data
