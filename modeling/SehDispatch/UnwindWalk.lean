import SehDispatch.Unwind
import SehDispatch.DispatchWalk

/-!
# The walk of RtlUnwind

Facts about every run of the unwind driver, whatever the chain in memory and the handlers do.
The first two are invariants that the switch to the DPC stack, the handler call and the
unlinking each keep, and follow from `rtlUnwind_invariant`, the one induction over runs for
such invariants; the last two relate what a pass does across its call and its unlinking:

* `rtlUnwind_calls_below_target`: with a target frame, every handler called belongs to a
  record below the target, collided unwinds and DPC restarts included; every path back to the
  handler call passes the two tests against the target first.
* `rtlUnwind_calls_in_bounds`: every handler called belongs to an aligned record inside the
  limits in force, unless the record starts in the last eight bytes of the address space.
* `rtlUnwind_calls_unlinked`: the events come in pairs, a handler call and then the unlinking
  of the record it was made at, or of the record a collided unwind handed back; only a raise
  of STATUS_INVALID_DISPOSITION leaves a call without its unlinking.
* `rtlUnwind_exceptionList`: when the handler calls leave the chain head as they found it, the
  head is RegistrationPointer at the top of every pass and at every exit, since
  `RtlpUnlinkHandler` moves the head to the Next of the record RegistrationPointer leaves.
  So the unwind continues at the target with the target at the head, raises with the
  offending record at the head, and runs off the end with the chain empty.

Two runs the routine does not guard against close the module: an exit unwind on a chain that
holds NULL ends in `ZwContinue` (the record equals the absent target), and on a record that
is its own Next inside the stack limits the unwind never ends.
-/

namespace SehDispatch

section Walk

variable {m : Machine} {hs : Handlers UnwindEvent} {targetFrame : UInt32} {s s' : UnwindState}
  {x : UnwindExit}

/-- An invariant of the state of RtlUnwind that the switch to the DPC stack, each handler call
the tests against the target and the stack test let through, and each unlinking keep, holds
at the top of every pass and at every exit. -/
theorem rtlUnwind_invariant {targetIp : UInt32} {er : Option ExceptionRecord}
    {returnValue : UInt32} (Inv : UnwindState → Prop)
    (hstart : Inv (unwindStart m targetFrame er returnValue))
    (hdpc : ∀ s, Inv s → Inv (s.toDpcStack m))
    (hcall : ∀ s, Inv s → s.registrationPointer ≠ targetFrame →
      ¬ (targetFrame ≠ 0 ∧ targetFrame < s.registrationPointer) →
      checkFrame m s.lowLimit s.highLimit s.registrationPointer = .inBounds →
      ∀ r, Inv (s.afterCall (s.handlerCall m) r))
    (hunlink : ∀ s p, Inv s → Inv (s.unlinkStep m p)) (n : Nat) :
    (rtlUnwind m hs targetFrame targetIp er returnValue n).Satisfies Inv (fun _ => Inv) := by
  refine runLoop_satisfies _ _ (fun s s' h hp => ?_) (fun s x s' h hp => ?_) n _ hstart
  · obtain ⟨-, hne, hb, ⟨-, rfl⟩ | ⟨hc, hcall'⟩⟩ := unwindPass_eq_loop hp
    · exact hdpc s h
    · obtain ⟨p, rfl, -⟩ := unwindCall_eq_loop hcall'
      exact hunlink _ p (hcall s h hne hb hc _)
  · rcases unwindPass_eq_exit hp with ⟨-, rfl, -⟩ | ⟨-, -, -, rfl⟩ | ⟨-, -, -, -, -, rfl⟩ |
      ⟨-, -, -, -, -, rfl⟩ | ⟨-, hne, hb, hc, hcall'⟩
    -- the exits before the call leave the state as it was
    iterate 4 exact h
    obtain ⟨-, rfl⟩ := unwindCall_eq_exit hcall'
    exact hcall s h hne hb hc _

/-! ### Handlers are called below the target -/

/-- Every handler called in `log` is the Handler of a record below `targetFrame`. -/
def CallsBelow (m : Machine) (targetFrame : UInt32) (log : List UnwindEvent) : Prop :=
  ∀ i, UnwindEvent.call i ∈ log → i.frame < targetFrame ∧ i.call.handler = m.handler i.frame

theorem CallsBelow.call (h : CallsBelow m targetFrame s.log)
    (hend : s.registrationPointer ≠ targetFrame)
    (hb : ¬ (targetFrame ≠ 0 ∧ targetFrame < s.registrationPointer)) (ht : targetFrame ≠ 0)
    (r : HandlerReturn) :
    CallsBelow m targetFrame (s.afterCall (s.handlerCall m) r).log := by
  intro i hi
  rw [UnwindState.afterCall_log, List.mem_append, List.mem_singleton] at hi
  rcases hi with hi | hi
  · exact h i hi
  · cases hi
    exact ⟨ulong_lt_of_not_lt_of_ne (fun hlt => hb ⟨ht, hlt⟩) hend, rfl⟩

theorem CallsBelow.unlinkStep (h : CallsBelow m targetFrame s.log) (p : UInt32) :
    CallsBelow m targetFrame (s.unlinkStep m p).log := by
  intro i hi
  rw [UnwindState.unlinkStep_log, List.mem_append, List.mem_singleton] at hi
  rcases hi with hi | hi
  · exact h i hi
  · cases hi

/-- **Handlers are called below the target.** With a target frame given, in every run of
RtlUnwind, whatever the chain and the handlers (collided unwinds with any registration
pointer included), every handler called is the Handler of a record strictly below the
target. -/
theorem rtlUnwind_calls_below_target (m : Machine) (hs : Handlers UnwindEvent)
    (targetFrame targetIp : UInt32) (er : Option ExceptionRecord) (returnValue : UInt32) (n : Nat)
    (ht : targetFrame ≠ 0) :
    (rtlUnwind m hs targetFrame targetIp er returnValue n).Satisfies
      (fun s => CallsBelow m targetFrame s.log) (fun _ s => CallsBelow m targetFrame s.log) :=
  rtlUnwind_invariant (fun s => CallsBelow m targetFrame s.log) (fun _ hi => by simp at hi)
    (fun _ h => h) (fun _ h hne hb _ r => h.call hne hb ht r) (fun _ p h => h.unlinkStep p) n

theorem rtlUnwind_calls_below_target_cycle :
    (0x2000 : UInt32) ≠ 0 ∧
      (rtlUnwind cycleMachine searchingHandlers 0x2000 0 none 0 3).Satisfies
        (fun s => CallsBelow cycleMachine 0x2000 s.log)
        (fun _ s => CallsBelow cycleMachine 0x2000 s.log) :=
  ⟨by decide, rtlUnwind_calls_below_target cycleMachine searchingHandlers 0x2000 0 none 0 3
    (by decide)⟩

/-! ### Handlers are called where the stack test passed -/

/-- Every handler called so far passed the stack test, and the limits of the state are in
force. -/
def CallsTested (m : Machine) (s : UnwindState) : Prop :=
  (∀ i, UnwindEvent.call i ∈ s.log → PassedStackTest m i) ∧ LimitsInForce m s.lowLimit s.highLimit

theorem CallsTested.call (h : CallsTested m s)
    (hc : checkFrame m s.lowLimit s.highLimit s.registrationPointer = .inBounds)
    (r : HandlerReturn) : CallsTested m (s.afterCall (s.handlerCall m) r) := by
  refine ⟨fun i hi => ?_, h.2⟩
  rw [UnwindState.afterCall_log, List.mem_append, List.mem_singleton] at hi
  rcases hi with hi | hi
  · exact h.1 i hi
  · cases hi
    exact ⟨h.2, checkFrame_eq_inBounds.mp hc, rfl⟩

theorem CallsTested.unlinkStep (h : CallsTested m s) (p : UInt32) :
    CallsTested m (s.unlinkStep m p) := by
  refine ⟨fun i hi => ?_, h.2⟩
  rw [UnwindState.unlinkStep_log, List.mem_append, List.mem_singleton] at hi
  rcases hi with hi | hi
  · exact h.1 i hi
  · cases hi

/-- **Handlers are called inside the limits.** In every run of RtlUnwind, whatever the chain,
the target, the limits, the DPC state and the handlers, every handler called is the Handler of
an aligned record lying inside the limits in force, measured without wrap, unless the record
starts in the last eight bytes of the address space. -/
theorem rtlUnwind_calls_in_bounds (m : Machine) (hs : Handlers UnwindEvent)
    (targetFrame targetIp : UInt32) (er : Option ExceptionRecord) (returnValue : UInt32) (n : Nat) :
    (rtlUnwind m hs targetFrame targetIp er returnValue n).Satisfies
      (fun s => ∀ i, UnwindEvent.call i ∈ s.log → CalledInBounds m i)
      (fun _ s => ∀ i, UnwindEvent.call i ∈ s.log → CalledInBounds m i) :=
  (rtlUnwind_invariant (CallsTested m) ⟨fun _ hi => by simp at hi, LimitsInForce.start m⟩
      (fun _ h => ⟨h.1, LimitsInForce.dpc m⟩) (fun _ h _ _ hc r => h.call hc r)
      (fun _ p h => h.unlinkStep p) n).mono
    (fun _ h i hi => (h.1 i hi).calledInBounds) fun _ _ h i hi => (h.1 i hi).calledInBounds

/-! ### Each call is followed by its unlinking -/

/-- After the handler call `i`, RtlUnwind unlinks `p`: the record whose handler it called, when
the handler let the unwind go on, or the record a collided unwind handed back. -/
def UnlinksAfter (i : Invocation) (p : UInt32) : Prop :=
  i.ret.disposition = exceptionContinueSearch ∧ p = i.frame ∨
    i.ret.disposition = exceptionCollidedUnwind ∧ p = i.ret.dispatcherContext

/-- The events are handler calls, each followed by the unlinking it leads to. -/
def CallsUnlinked (log : List UnwindEvent) : Prop :=
  ∃ ps : List (Invocation × UInt32), log = ps.flatMap (fun ip => [.call ip.1, .unlink ip.2]) ∧
    ∀ ip ∈ ps, UnlinksAfter ip.1 ip.2

/-- How the events of RtlUnwind end, its working exception record being `er`: with a call left
without its unlinking, when the routine raises STATUS_INVALID_DISPOSITION over `er` after it;
or with every call unlinked, when it leaves in any other way. -/
def UnwindEndsUnlinked (x : UnwindExit) (er : ExceptionRecord) (log : List UnwindEvent) : Prop :=
  (x = .raise (raisedRecord statusInvalidDisposition er) ∧
      ∃ l i, log = l ++ [.call i] ∧ CallsUnlinked l ∧
        i.ret.disposition ≠ exceptionContinueSearch ∧
        i.ret.disposition ≠ exceptionCollidedUnwind) ∨
    ((∀ r, x = .raise r → r.exceptionCode ≠ statusInvalidDisposition) ∧ CallsUnlinked log)

theorem CallsUnlinked.snoc {log : List UnwindEvent} {i : Invocation} {p : UInt32}
    (h : CallsUnlinked log) (hu : UnlinksAfter i p) :
    CallsUnlinked (log ++ [.call i] ++ [.unlink p]) := by
  obtain ⟨ps, rfl, hps⟩ := h
  refine ⟨ps ++ [(i, p)], by simp, fun ip hip => ?_⟩
  rcases List.mem_append.mp hip with hip | hip
  · exact hps ip hip
  · rw [List.mem_singleton.mp hip]
    exact hu

/-- **Each call is followed by its unlinking.** In every run of RtlUnwind, whatever the chain,
the target and the handlers, the events are handler calls each followed by the unlinking of
the record whose handler was called, when the handler returned ExceptionContinueSearch, or of
the record a collided unwind handed back; on leaving, a last call stands alone exactly when
the routine raises STATUS_INVALID_DISPOSITION, its handler having returned neither. -/
theorem rtlUnwind_calls_unlinked (m : Machine) (hs : Handlers UnwindEvent)
    (targetFrame targetIp : UInt32) (er : Option ExceptionRecord) (returnValue : UInt32)
    (n : Nat) :
    (rtlUnwind m hs targetFrame targetIp er returnValue n).Satisfies
      (fun s => CallsUnlinked s.log) (fun x s => UnwindEndsUnlinked x s.exceptionRecord s.log) := by
  refine runLoop_satisfies _ _ (fun s s' h hp => ?_) (fun s x s' h hp => ?_) n _
    ⟨[], unwindStart_log .., List.forall_mem_nil _⟩
  · obtain ⟨-, -, -, ⟨-, rfl⟩ | ⟨-, hcall⟩⟩ := unwindPass_eq_loop hp
    · exact h
    · obtain ⟨p, rfl, hu⟩ := unwindCall_eq_loop hcall
      exact h.snoc hu
  · rcases unwindPass_eq_exit hp with ⟨-, rfl, ⟨-, rfl⟩ | ⟨-, rfl⟩⟩ | ⟨-, -, rfl, rfl⟩ |
      ⟨-, -, -, -, rfl, rfl⟩ | ⟨-, -, -, -, rfl, rfl⟩ | ⟨-, -, -, -, hcall⟩
    -- the exits before the call raise no STATUS_INVALID_DISPOSITION
    iterate 5 exact .inr ⟨fun r hr => by cases hr <;> rw [raisedRecord_exceptionCode] <;> decide, h⟩
    unfold unwindCall at hcall
    obtain ⟨hd₁, hd₂, rfl, rfl⟩ := unwindDisposition_eq_exit hcall
    exact .inl ⟨rfl, s.log, _, rfl, h, hd₁, hd₂⟩

/-! ### The chain head follows the walk -/

/-- Every handler invocation in `log` left the thread's chain head as it found it. -/
def HeadKept (log : List UnwindEvent) : Prop :=
  ∀ i, UnwindEvent.call i ∈ log → i.ret.exceptionList = i.call.exceptionList

theorem HeadKept.of_append {l l' : List UnwindEvent} (h : HeadKept (l ++ l')) : HeadKept l :=
  fun i hi => h i (List.mem_append_left l' hi)

/-- Handlers that leave the chain head as they found it keep `HeadKept` over every run. -/
theorem HeadKept.of_handlers {targetIp : UInt32} {er : Option ExceptionRecord}
    {returnValue : UInt32} (hk : ∀ hist c, (hs hist c).exceptionList = c.exceptionList)
    (n : Nat) :
    (rtlUnwind m hs targetFrame targetIp er returnValue n).Satisfies (fun s => HeadKept s.log)
      (fun _ s => HeadKept s.log) := by
  have hcall (s : UnwindState) (h : HeadKept s.log) :
      HeadKept (s.afterCall (s.handlerCall m) (hs s.log (s.handlerCall m))).log := fun i hi => by
    rw [UnwindState.afterCall_log, List.mem_append, List.mem_singleton] at hi
    rcases hi with hi | hi
    · exact h i hi
    · cases hi
      exact hk _ _
  refine runLoop_satisfies _ _ (fun s s' h hp => ?_) (fun s x s' h hp => ?_) n _
    fun _ h => absurd h (by rw [unwindStart_log]; exact List.not_mem_nil _)
  · obtain ⟨-, -, -, ⟨-, rfl⟩ | ⟨-, hc⟩⟩ := unwindPass_eq_loop hp
    · exact h
    · -- the unlinking adds no invocation
      obtain ⟨p, rfl, -⟩ := unwindCall_eq_loop hc
      intro i hi
      rw [UnwindState.unlinkStep_log, List.mem_append, List.mem_singleton] at hi
      rcases hi with hi | hi
      · exact hcall s h i hi
      · cases hi
  · rcases unwindPass_eq_exit hp with ⟨-, rfl, -⟩ | ⟨-, -, -, rfl⟩ | ⟨-, -, -, -, -, rfl⟩ |
      ⟨-, -, -, -, -, rfl⟩ | ⟨-, -, -, -, hc⟩
    iterate 4 exact h
    obtain ⟨-, rfl⟩ := unwindCall_eq_exit hc
    exact hcall s h

/-- Where RtlUnwind stops: it continues at the target, or off the end of the chain when the
target was EXCEPTION_CHAIN_END; it hands the exception to ZwRaiseException off the end. -/
def UnwindStopsAt (targetFrame : UInt32) (x : UnwindExit) (s : UnwindState) : Prop :=
  (x = .zwContinue → s.registrationPointer = targetFrame ∨
      s.registrationPointer = exceptionChainEnd ∧ targetFrame = exceptionChainEnd) ∧
    (x = .zwRaiseException → s.registrationPointer = exceptionChainEnd)

/-- **The chain head follows the walk.** In every run of RtlUnwind, whatever the chain, the
target and the handlers: as long as the handler calls have left the chain head as they found
it, the head is RegistrationPointer at the top of the loop, and at the exit, which is at the
target or off the end of the chain as `UnwindStopsAt` says. -/
theorem rtlUnwind_exceptionList (m : Machine) (hs : Handlers UnwindEvent)
    (targetFrame targetIp : UInt32) (er : Option ExceptionRecord) (returnValue : UInt32)
    (n : Nat) :
    (rtlUnwind m hs targetFrame targetIp er returnValue n).Satisfies
      (fun s => HeadKept s.log → s.exceptionList = s.registrationPointer)
      (fun x s => UnwindStopsAt targetFrame x s ∧
        (HeadKept s.log → s.exceptionList = s.registrationPointer)) := by
  refine runLoop_satisfies _ _ (fun s s' h hp => ?_) (fun s x s' h hp => ?_) n _ fun _ => rfl
  · obtain ⟨-, -, -, ⟨-, rfl⟩ | ⟨-, hcall⟩⟩ := unwindPass_eq_loop hp
    · exact h
    · obtain ⟨p, rfl, -⟩ := unwindCall_eq_loop hcall
      exact fun _ => rfl
  · rcases unwindPass_eq_exit hp with ⟨hend, rfl, ⟨hF, rfl⟩ | ⟨-, rfl⟩⟩ | ⟨-, hF, rfl, rfl⟩ |
      ⟨-, -, -, -, rfl, rfl⟩ | ⟨-, -, -, -, rfl, rfl⟩ | ⟨-, -, -, -, hcall⟩
    · exact ⟨⟨fun _ => .inr ⟨hend, hF⟩, nofun⟩, h⟩
    · exact ⟨⟨nofun, fun _ => hend⟩, h⟩
    · exact ⟨⟨fun _ => .inl hF, nofun⟩, h⟩
    · exact ⟨⟨nofun, nofun⟩, h⟩
    · exact ⟨⟨nofun, nofun⟩, h⟩
    · obtain ⟨rfl, rfl⟩ := unwindCall_eq_exit hcall
      refine ⟨⟨nofun, nofun⟩, fun hk => ?_⟩
      -- the handler that returned the invalid disposition left the head where it found it
      have hr := hk _ (List.mem_append_right _ (List.mem_singleton_self _))
      dsimp only at hr
      rw [UnwindState.afterCall_exceptionList, UnwindState.afterCall_registrationPointer, hr,
        UnwindState.handlerCall_exceptionList]
      exact h hk.of_append

end Walk

/-- Unwinding the two-record chain to its second record, with handlers that leave the chain
head alone: RtlUnwind continues at `0x1010`, with `0x1010` at the head. -/
theorem rtlUnwind_exceptionList_two_records :
    ∃ s, rtlUnwind twoRecordMachine searchingHandlers 0x1010 0 none 0 3 = .exited .zwContinue s ∧
      HeadKept s.log ∧ UnwindStopsAt 0x1010 .zwContinue s ∧
      s.exceptionList = s.registrationPointer := by
  obtain ⟨s, hrun⟩ : ∃ s, rtlUnwind twoRecordMachine searchingHandlers 0x1010 0 none 0 3 =
      .exited .zwContinue s := ⟨_, rfl⟩
  have h := rtlUnwind_exceptionList twoRecordMachine searchingHandlers 0x1010 0 none 0 3
  have hk := @HeadKept.of_handlers twoRecordMachine searchingHandlers 0x1010 0 none 0
    (fun _ _ => rfl) 3
  rw [hrun] at h hk
  exact ⟨s, hrun, hk, h.1, h.2 hk⟩

/-! ### Two runs the routine does not guard against -/

/-- The machine of the cycle, with the chain head NULL. -/
def nullHeadMachine : Machine := { cycleMachine with exceptionList := 0 }

/-- An exit unwind, no target frame given, on a chain whose head is NULL: the record pointer
equals the absent target, and RtlUnwind continues instead of raising. -/
theorem rtlUnwind_exit_unwind_continues_at_null :
    ∃ s, rtlUnwind nullHeadMachine searchingHandlers 0 0 none 0 1 = .exited .zwContinue s :=
  ⟨_, rfl⟩

/-- An exit unwind on the cycle, after the events `log`. -/
def unwindCycleState (log : List UnwindEvent) : UnwindState :=
  ⟨0x1000, 0x1000, 0x2000, unwindRecord cycleMachine 0 none, unwindContext cycleMachine 0, 0x1000,
    log⟩

theorem unwindPass_cycleState (log : List UnwindEvent) :
    ∃ e₁ e₂, unwindPass cycleMachine searchingHandlers 0 (unwindCycleState log) =
      .loop (unwindCycleState (log ++ [e₁] ++ [e₂])) := by
  rw [@unwindPass_of_inBounds cycleMachine searchingHandlers 0 (unwindCycleState log)
    (show (0x1000 : UInt32) ≠ exceptionChainEnd by decide) (show (0x1000 : UInt32) ≠ 0 by decide)
    (show ¬ ((0 : UInt32) ≠ 0 ∧ (0 : UInt32) < 0x1000) by decide)
    (show checkFrame cycleMachine 0x1000 0x2000 0x1000 = .inBounds from rfl)]
  exact ⟨_, _, unwindDisposition_of_continueSearch rfl⟩

/-- An exit unwind on a record that is its own Next, inside the stack limits, with a handler
that lets the unwind go on, never leaves the loop. -/
theorem rtlUnwind_cycle_not_halts :
    ¬ Halts (unwindPass cycleMachine searchingHandlers 0) (unwindStart cycleMachine 0 none 0) :=
  not_halts_of_closed (fun s => ∃ log, s = unwindCycleState log)
    (by
      rintro _ ⟨log, rfl⟩
      obtain ⟨e₁, e₂, h⟩ := unwindPass_cycleState log
      exact .inr ⟨_, h, _, rfl⟩)
    ⟨[], rfl⟩

end SehDispatch
