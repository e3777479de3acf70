import SehDispatch.Dispatch

/-!
# The walk of RtlDispatchException

Whatever the chain in memory, the stack limits, the DPC state and the handlers do, the
dispatcher calls handlers only at the records it reaches from the chain head by following
Next, one after the other, and only after the record passed the stack test and its handler
was accepted. It returns TRUE only right after a handler asked to continue a continuable
exception, and FALSE only with EXCEPTION_STACK_INVALID set or at the end of the chain.

* `DispatchWalk` is the invariant at the top of the loop: the invocations so far were made
  at the first records of the walk, each accepted, each letting the search go on, and
  RegistrationPointer is the next record of the walk.
* `DispatchEnds` is what holds when the routine leaves.
* `rtlDispatchException_walk`: every run, after any number of passes, satisfies them.
* `rtlDispatchException_calls_in_bounds`: what the stack test guarantees of the records whose
  handlers are called, read off the walk.

The walk is not guarded against a chain that loops inside the stack limits: on such a chain
the dispatcher never ends (`rtlDispatchException_cycle_not_halts`). Nor is the stack test
guarded against HighAddress wrapping past `2^32`: a record at `0xFFFFFFF8` passes it whatever
the limits (`rtlDispatchException_calls_wrapped_record`).
-/

namespace SehDispatch

/-- The record of `i` passed the stack test, and RtlIsValidHandler accepted its handler. -/
def Accepted (m : Machine) (i : Invocation) : Prop :=
  PassedStackTest m i ∧ rtlIsValidHandler m i.call.handler = some true

/-- The search went on after `i`: ExceptionContinueSearch with EXCEPTION_STACK_INVALID clear
afterwards, or ExceptionNestedException. -/
def SearchGoesOn (i : Invocation) : Prop :=
  (i.ret.disposition = exceptionContinueSearch ∧
      i.ret.exceptionFlags &&& exceptionStackInvalid = 0) ∨
    i.ret.disposition = exceptionNestedException

/-- The invocations of `log` were made at the first records of the walk from the chain head,
the `i`-th at the record `i` Next links away, each accepted. -/
def WalkedInOrder (m : Machine) (log : List Invocation) : Prop :=
  ∀ i (hi : i < log.length), log[i].frame = m.next^[i] m.exceptionList ∧ Accepted m log[i]

/-- The invariant of the loop of RtlDispatchException. -/
structure DispatchWalk (m : Machine) (s : DispatchState) : Prop where
  walked : WalkedInOrder m s.log
  goesOn : ∀ i ∈ s.log, SearchGoesOn i
  atWalk : s.registrationPointer = m.next^[s.log.length] m.exceptionList
  limits : LimitsInForce m s.lowLimit s.highLimit

/-- What holds when RtlDispatchException leaves: the walk so far was in order; on TRUE, the
last handler asked to continue a continuable exception and every earlier one let the search
go on; on FALSE, the stack is marked invalid or the walk reached EXCEPTION_CHAIN_END. -/
def DispatchEnds (m : Machine) (x : DispatchExit) (s : DispatchState) : Prop :=
  WalkedInOrder m s.log ∧
    (x = .completion true → ∃ l i, s.log = l ++ [i] ∧ (∀ j ∈ l, SearchGoesOn j) ∧
      i.ret.disposition = exceptionContinueExecution ∧
      i.ret.exceptionFlags &&& exceptionNoncontinuable = 0) ∧
    (x = .completion false →
      s.exceptionRecord.exceptionFlags &&& exceptionStackInvalid ≠ 0 ∨
        m.next^[s.log.length] m.exceptionList = exceptionChainEnd)

section Walk

variable {m : Machine} {hs : Handlers Invocation} {s s' : DispatchState} {x : DispatchExit}

theorem WalkedInOrder.snoc {log : List Invocation} {i : Invocation} (hw : WalkedInOrder m log)
    (hf : i.frame = m.next^[log.length] m.exceptionList) (ha : Accepted m i) :
    WalkedInOrder m (log ++ [i]) := by
  intro k hk
  rw [List.length_append, List.length_singleton] at hk
  rcases Nat.lt_or_ge k log.length with hlt | hge
  · rw [List.getElem_append_left hlt]
    exact hw k hlt
  · have hk' : k = log.length := by omega
    subst hk'
    simpa using ⟨hf, ha⟩

theorem DispatchWalk.start (er : ExceptionRecord) (ctx : Context) :
    DispatchWalk m (dispatchStart m er ctx) :=
  ⟨fun _ hi => absurd hi (Nat.not_lt_zero _), by simp, rfl, LimitsInForce.start m⟩

theorem DispatchWalk.walked_call (hw : DispatchWalk m s)
    (hc : checkFrame m s.lowLimit s.highLimit s.registrationPointer = .inBounds)
    (hv : rtlIsValidHandler m (m.handler s.registrationPointer) = some true) (r : HandlerReturn) :
    WalkedInOrder m (s.log ++ [⟨s.handlerCall m, r, s.lowLimit, s.highLimit⟩]) :=
  hw.walked.snoc hw.atWalk ⟨⟨hw.limits, checkFrame_eq_inBounds.mp hc, rfl⟩, hv⟩

theorem dispatchCall_eq_loop (h : dispatchCall m hs s = .loop s') :
    ∃ r, s'.log = s.log ++ [⟨s.handlerCall m, r, s.lowLimit, s.highLimit⟩] ∧
      SearchGoesOn ⟨s.handlerCall m, r, s.lowLimit, s.highLimit⟩ ∧
      s'.registrationPointer = m.next s.registrationPointer ∧
      s'.lowLimit = s.lowLimit ∧ s'.highLimit = s.highLimit := by
  unfold dispatchCall at h
  refine ⟨hs s.log (s.handlerCall m), ?_⟩
  rcases dispatchDisposition_eq_loop h with ⟨hd, hsi, rfl⟩ | ⟨hd, rfl⟩
  · refine ⟨by simp, .inl ⟨hd, ?_⟩, by simp, by simp, by simp⟩
    rwa [DispatchState.leaveNested_exceptionFlags_and _ (by decide)] at hsi
  · exact ⟨by simp, .inr hd, by simp, by simp, by simp⟩

theorem DispatchWalk.pass (hw : DispatchWalk m s) (h : dispatchPass m hs s = .loop s') :
    DispatchWalk m s' := by
  obtain ⟨-, ⟨-, rfl⟩ | ⟨hc, hv, hcall⟩⟩ := dispatchPass_eq_loop h
  · exact ⟨hw.walked, hw.goesOn, hw.atWalk, LimitsInForce.dpc m⟩
  · obtain ⟨r, hlog, hgo, hrp, hlo, hhi⟩ := dispatchCall_eq_loop hcall
    refine ⟨hlog ▸ hw.walked_call hc hv r, ?_, ?_, hlo ▸ hhi ▸ hw.limits⟩
    · rw [hlog]
      intro j hj
      rcases List.mem_append.mp hj with hj | hj
      · exact hw.goesOn j hj
      · rw [List.mem_singleton.mp hj]; exact hgo
    · rw [hrp, hlog, hw.atWalk, List.length_append, List.length_singleton,
        Function.iterate_succ_apply']

/-- The exits of a pass that calls a handler. -/
theorem DispatchWalk.ends_call (hw : DispatchWalk m s)
    (hc : checkFrame m s.lowLimit s.highLimit s.registrationPointer = .inBounds)
    (hv : rtlIsValidHandler m (m.handler s.registrationPointer) = some true)
    (h : dispatchCall m hs s = .exit x s') : DispatchEnds m x s' := by
  unfold dispatchCall at h
  obtain ⟨rfl, hx⟩ := dispatchDisposition_eq_exit h
  refine ⟨by simpa using hw.walked_call hc hv _, ?_, ?_⟩
  · intro htrue
    rcases hx with ⟨hd, ⟨hnc, -⟩ | ⟨-, rfl⟩⟩ | ⟨-, -, rfl⟩ | ⟨-, -, -, rfl⟩ <;> try cases htrue
    refine ⟨s.log, ⟨s.handlerCall m, hs s.log (s.handlerCall m), s.lowLimit, s.highLimit⟩,
      by simp, hw.goesOn, hd, ?_⟩
    rwa [DispatchState.leaveNested_exceptionFlags_and _ (by decide)] at hnc
  · intro hfalse
    rcases hx with ⟨-, ⟨-, rfl⟩ | ⟨-, rfl⟩⟩ | ⟨-, hsi, -⟩ | ⟨-, -, -, rfl⟩ <;> try cases hfalse
    exact .inl hsi

theorem DispatchWalk.ends (hw : DispatchWalk m s) (h : dispatchPass m hs s = .exit x s') :
    DispatchEnds m x s' := by
  rcases dispatchPass_eq_exit h with ⟨hend, rfl, rfl⟩ | ⟨-, rfl, rfl⟩ | ⟨-, hc, hv, hcall⟩
  · refine ⟨hw.walked, by simp, fun _ => .inr ?_⟩
    rw [← hw.atWalk, hend]
  · refine ⟨by simpa using hw.walked, by simp, fun _ => .inl ?_⟩
    rw [DispatchState.stackInvalid_exceptionFlags, or_and_self_mask]
    decide
  · exact hw.ends_call hc hv hcall

/-- **The walk of RtlDispatchException.** For every machine (chain in memory, stack limits,
DPC state, function tables), every behaviour of the handlers, and every number of passes,
the routine stands at the top of its loop with the walk invariant, or has left it with
`DispatchEnds`. -/
theorem rtlDispatchException_walk (m : Machine) (hs : Handlers Invocation) (er : ExceptionRecord)
    (ctx : Context) (n : Nat) :
    (rtlDispatchException m hs er ctx n).Satisfies (DispatchWalk m) (DispatchEnds m) :=
  runLoop_satisfies _ _ (fun _ _ hw h => hw.pass h) (fun _ _ _ hw h => hw.ends h) n _
    (DispatchWalk.start er ctx)

theorem WalkedInOrder.calledInBounds {log : List Invocation} (h : WalkedInOrder m log) :
    ∀ i ∈ log, CalledInBounds m i := by
  intro i hi
  obtain ⟨k, hk, rfl⟩ := List.getElem_of_mem hi
  exact (h k hk).2.1.calledInBounds

/-- **Handlers are called inside the limits.** In every run of RtlDispatchException, whatever
the chain, the limits, the DPC state and the handlers, every handler called is that of an
aligned record lying inside the limits in force, measured without wrap, unless the record
starts in the last eight bytes of the address space. -/
theorem rtlDispatchException_calls_in_bounds (m : Machine) (hs : Handlers Invocation)
    (er : ExceptionRecord) (ctx : Context) (n : Nat) :
    (rtlDispatchException m hs er ctx n).Satisfies (fun s => ∀ i ∈ s.log, CalledInBounds m i)
      (fun _ s => ∀ i ∈ s.log, CalledInBounds m i) :=
  (runLoop_satisfies _ _ (fun _ _ hw h => hw.pass h) (fun _ _ _ hw h => hw.ends h) n _
      (DispatchWalk.start er ctx)).mono
    (fun _ hw => hw.walked.calledInBounds) fun _ _ he => he.1.calledInBounds

end Walk

/-! ### Two chains the stack test lets through -/

/-- Handlers that ask to continue execution and change nothing. -/
def continuingHandlers {ε : Type} : Handlers ε := fun _ c =>
  ⟨exceptionContinueExecution, c.exceptionRecord.exceptionFlags, c.context, 0, c.exceptionList⟩

/-- Handlers that let the search go on and change nothing. -/
def searchingHandlers {ε : Type} : Handlers ε := fun _ c =>
  ⟨exceptionContinueSearch, c.exceptionRecord.exceptionFlags, c.context, 0, c.exceptionList⟩

/-- Stack limits `[0x1000, 0x2000)`, no DPC routine active, no function tables, and a chain of
one record at `0xFFFFFFF8`. -/
def wrappedRecordMachine : Machine where
  mem a := if a = 0xFFFFFFF8 then exceptionChainEnd else 0x00401000
  lookupFunctionTable _ := ⟨0, 0, 0⟩
  lowLimit := 0x1000
  highLimit := 0x2000
  exceptionList := 0xFFFFFFF8
  irql := 0
  dpcRoutineActive := false
  dpcStack := 0x10000
  capturedContext := ⟨0, 0, 0⟩
  returnAddress := 0

/-- The record at `0xFFFFFFF8` ends at `2^32`, far above HighLimit, but its HighAddress wraps
to `0` and the record passes the stack test: its handler is called. -/
theorem rtlDispatchException_calls_wrapped_record :
    ∃ s, rtlDispatchException wrappedRecordMachine continuingHandlers ⟨0xC0000005, 0, 0, 0, 0⟩
        ⟨0, 0, 0⟩ 1 = .exited (.completion true) s ∧
      ∃ i ∈ s.log, i.frame = 0xFFFFFFF8 ∧ i.lowLimit = 0x1000 ∧ i.highLimit = 0x2000 ∧
        i.highLimit.toNat < i.frame.toNat + sizeofRegistrationRecord.toNat :=
  ⟨_, rfl, _, List.mem_singleton_self _, rfl, rfl, rfl, by decide⟩

/-- Stack limits `[0x1000, 0x2000)`, no DPC routine active, no function tables, and one record
at `0x1000` whose Next is itself. -/
def cycleMachine : Machine where
  mem a := if a = 0x1000 then 0x1000 else 0x00401000
  lookupFunctionTable _ := ⟨0, 0, 0⟩
  lowLimit := 0x1000
  highLimit := 0x2000
  exceptionList := 0x1000
  irql := 0
  dpcRoutineActive := false
  dpcStack := 0x10000
  capturedContext := ⟨0, 0, 0⟩
  returnAddress := 0

/-- Stack limits `[0x1000, 0x2000)`, no DPC routine active, no function tables, and a chain of
two records at `0x1000` and `0x1010`. -/
def twoRecordMachine : Machine :=
  { cycleMachine with
    mem := fun a =>
      if a = 0x1000 then 0x1010 else if a = 0x1010 then exceptionChainEnd else 0x00401000 }

theorem twoRecordMachine_isChain :
    IsChain twoRecordMachine twoRecordMachine.exceptionList [0x1000, 0x1010] :=
  ⟨rfl, by decide, rfl, by decide, rfl⟩

/-- The dispatcher on the cycle, after the invocations `log`. -/
def cycleState (log : List Invocation) : DispatchState :=
  ⟨0x1000, 0, 0x1000, 0x2000, ⟨0xC0000005, 0, 0, 0, 0⟩, ⟨0, 0, 0⟩, 0x1000, log⟩

theorem dispatchPass_cycleState (log : List Invocation) :
    dispatchPass cycleMachine searchingHandlers (cycleState log) =
      .loop (cycleState (log ++ [⟨⟨⟨0xC0000005, 0, 0, 0, 0⟩, 0x1000, ⟨0, 0, 0⟩, 0x00401000, 0x1000⟩,
        ⟨exceptionContinueSearch, 0, ⟨0, 0, 0⟩, 0, 0x1000⟩, 0x1000, 0x2000⟩])) := by
  rw [@dispatchPass_of_accepted cycleMachine searchingHandlers (cycleState log)
    (show (0x1000 : UInt32) ≠ exceptionChainEnd by decide)
    (show checkFrame cycleMachine 0x1000 0x2000 0x1000 = .inBounds from rfl)
    (show rtlIsValidHandler cycleMachine (cycleMachine.handler 0x1000) = some true from rfl)]
  exact dispatchDisposition_of_continueSearch rfl
    (show (0 : UInt32) &&& exceptionStackInvalid = 0 by decide)

/-- On a record that is its own Next, inside the stack limits, with a handler that lets the
search go on, RtlDispatchException never leaves its loop. -/
theorem rtlDispatchException_cycle_not_halts :
    ¬ Halts (dispatchPass cycleMachine searchingHandlers)
      (dispatchStart cycleMachine ⟨0xC0000005, 0, 0, 0, 0⟩ ⟨0, 0, 0⟩) :=
  not_halts_of_closed (fun s => ∃ log, s = cycleState log)
    (by rintro _ ⟨log, rfl⟩; exact .inr ⟨_, dispatchPass_cycleState log, _, rfl⟩) ⟨[], rfl⟩

end SehDispatch
