import SehDispatch.DispatchWalk
import SehDispatch.Unwind

/-!
# The switch to the DPC stack

Both loops test each record against the stack limits in force. A record outside them may
still lie on the processor's DPC stack, when a DPC routine is active at DISPATCH_LEVEL or
above: the loop then replaces the limits with the window of KERNEL_STACK_SIZE bytes below
the DPC stack and restarts the iteration at the same record, with a `continue`.

The fallback's test is the stack test against that window, in the same 32-bit arithmetic
(`outsideLimits_dpcWindow`). So the restarted iteration accepts the record
(`checkFrame_dpcWindow`), and once the window is in force the fallback cannot fire again
(`checkFrame_dpcWindow_ne_dpcStack`), nothing but the switch changing the limits.

* `DispatchDpcRestart` and `UnwindDpcRestart` say that the pass from a state takes the
  `continue`; `dispatchPass_of_dpcRestart` and `unwindPass_of_dpcRestart` check them against
  the passes.
* `dpcStack_switch_at_most_once`: in every run of either routine the `continue` is taken at
  most once, and the iteration it restarts accepts the record.
-/

namespace SehDispatch

/-- The window below the DPC stack is the pair of limits in force. -/
def DpcWindowInForce (m : Machine) (lowLimit highLimit : UInt32) : Prop :=
  lowLimit = m.dpcStack - kernelStackSize ∧ highLimit = m.dpcStack

/-! ### RtlDispatchException -/

/-- The pass of RtlDispatchException from `s` takes the DPC-stack `continue`: the record is not
EXCEPTION_CHAIN_END, fails the stack test, and lies on the DPC stack. -/
def DispatchDpcRestart (m : Machine) (s : DispatchState) : Prop :=
  s.registrationPointer ≠ exceptionChainEnd ∧
    checkFrame m s.lowLimit s.highLimit s.registrationPointer = .dpcStack

instance (m : Machine) : DecidablePred (DispatchDpcRestart m) := fun _ =>
  inferInstanceAs (Decidable (_ ∧ _))

section Dispatch

variable {m : Machine} {hs : Handlers Invocation} {s s' : DispatchState}

theorem dispatchPass_of_dpcRestart (h : DispatchDpcRestart m s) :
    dispatchPass m hs s = .loop (s.toDpcStack m) := by
  simp [dispatchPass, h.1, h.2]

theorem dpcWindow_dispatchPass (hw : DpcWindowInForce m s.lowLimit s.highLimit)
    (hp : dispatchPass m hs s = .loop s') : DpcWindowInForce m s'.lowLimit s'.highLimit := by
  obtain ⟨-, ⟨-, rfl⟩ | ⟨-, -, hcall⟩⟩ := dispatchPass_eq_loop hp
  · exact ⟨rfl, rfl⟩
  · obtain ⟨-, -, -, -, hlo, hhi⟩ := dispatchCall_eq_loop hcall
    exact ⟨hlo.trans hw.1, hhi.trans hw.2⟩

theorem DispatchDpcRestart.dpcWindow (h : DispatchDpcRestart m s)
    (hp : dispatchPass m hs s = .loop s') : DpcWindowInForce m s'.lowLimit s'.highLimit := by
  rw [dispatchPass_of_dpcRestart h] at hp
  cases hp
  exact ⟨rfl, rfl⟩

theorem DpcWindowInForce.not_dispatchDpcRestart (hw : DpcWindowInForce m s.lowLimit s.highLimit) :
    ¬ DispatchDpcRestart m s := fun h =>
  checkFrame_dpcWindow_ne_dpcStack (hw.1 ▸ hw.2 ▸ h.2)

end Dispatch

/-! ### RtlUnwind -/

/-- The pass of RtlUnwind towards `targetFrame` from `s` takes the DPC-stack `continue`: the
record is neither EXCEPTION_CHAIN_END nor the target, a present target is not below it, and
the record fails the stack test but lies on the DPC stack. -/
def UnwindDpcRestart (m : Machine) (targetFrame : UInt32) (s : UnwindState) : Prop :=
  s.registrationPointer ≠ exceptionChainEnd ∧ s.registrationPointer ≠ targetFrame ∧
    ¬ (targetFrame ≠ 0 ∧ targetFrame < s.registrationPointer) ∧
    checkFrame m s.lowLimit s.highLimit s.registrationPointer = .dpcStack

instance (m : Machine) (targetFrame : UInt32) : DecidablePred (UnwindDpcRestart m targetFrame) :=
  fun _ => inferInstanceAs (Decidable (_ ∧ _ ∧ _ ∧ _))

section Unwind

variable {m : Machine} {hs : Handlers UnwindEvent} {targetFrame : UInt32} {s s' : UnwindState}

theorem unwindPass_of_dpcRestart (h : UnwindDpcRestart m targetFrame s) :
    unwindPass m hs targetFrame s = .loop (s.toDpcStack m) := by
  simp only [unwindPass, if_neg h.1, if_neg h.2.1, if_neg h.2.2.1, h.2.2.2]

theorem dpcWindow_unwindPass (hw : DpcWindowInForce m s.lowLimit s.highLimit)
    (hp : unwindPass m hs targetFrame s = .loop s') :
    DpcWindowInForce m s'.lowLimit s'.highLimit := by
  obtain ⟨-, -, -, ⟨-, rfl⟩ | ⟨-, hcall⟩⟩ := unwindPass_eq_loop hp
  · exact ⟨rfl, rfl⟩
  · obtain ⟨p, rfl, -⟩ := unwindCall_eq_loop hcall
    exact hw

theorem UnwindDpcRestart.dpcWindow (h : UnwindDpcRestart m targetFrame s)
    (hp : unwindPass m hs targetFrame s = .loop s') :
    DpcWindowInForce m s'.lowLimit s'.highLimit := by
  rw [unwindPass_of_dpcRestart h] at hp
  cases hp
  exact ⟨rfl, rfl⟩

theorem DpcWindowInForce.not_unwindDpcRestart (hw : DpcWindowInForce m s.lowLimit s.highLimit) :
    ¬ UnwindDpcRestart m targetFrame s := fun h =>
  checkFrame_dpcWindow_ne_dpcStack (hw.1 ▸ hw.2 ▸ h.2.2.2)

end Unwind

/-! ### At most once -/

/-- **The DPC stack is switched to at most once.** In every run of RtlDispatchException and of
RtlUnwind, whatever the chain, the stack limits, the DPC state (IRQL, DpcRoutineActive,
DpcStack) and the handlers, at most one pass takes the `continue` that replaces the limits
with the DPC window; and the iteration it restarts finds the same record inside the window,
so it goes on with that record instead of restarting again. -/
theorem dpcStack_switch_at_most_once :
    (∀ (m : Machine) (hs : Handlers Invocation) (er : ExceptionRecord) (ctx : Context) (n : Nat),
        passCount (dispatchPass m hs) (DispatchDpcRestart m) n (dispatchStart m er ctx) ≤ 1) ∧
      (∀ (m : Machine) (s : DispatchState), DispatchDpcRestart m s →
        checkFrame m (s.toDpcStack m).lowLimit (s.toDpcStack m).highLimit
          s.registrationPointer = .inBounds) ∧
      (∀ (m : Machine) (hs : Handlers UnwindEvent) (targetFrame : UInt32)
          (er : Option ExceptionRecord) (returnValue : UInt32) (n : Nat),
        passCount (unwindPass m hs targetFrame) (UnwindDpcRestart m targetFrame) n
          (unwindStart m targetFrame er returnValue) ≤ 1) ∧
      (∀ (m : Machine) (targetFrame : UInt32) (s : UnwindState), UnwindDpcRestart m targetFrame s →
        checkFrame m (s.toDpcStack m).lowLimit (s.toDpcStack m).highLimit
          s.registrationPointer = .inBounds) := by
  refine ⟨fun m hs er ctx n => ?_, fun m s h => checkFrame_dpcWindow h.2,
    fun m hs targetFrame er returnValue n => ?_,
    fun m targetFrame s h => checkFrame_dpcWindow h.2.2.2⟩
  · exact passCount_le_one (fun s => DpcWindowInForce m s.lowLimit s.highLimit)
      (fun _ _ hw hp => dpcWindow_dispatchPass hw hp) (fun _ hw => hw.not_dispatchDpcRestart)
      (fun _ _ h hp => h.dpcWindow hp) n _
  · exact passCount_le_one (fun s => DpcWindowInForce m s.lowLimit s.highLimit)
      (fun _ _ hw hp => dpcWindow_unwindPass hw hp) (fun _ hw => hw.not_unwindDpcRestart)
      (fun _ _ h hp => h.dpcWindow hp) n _

/-- IRQL at DISPATCH_LEVEL with a DPC routine active and the DPC stack at `0x21000`, the thread's
limits `[0x1000, 0x2000)`, no function tables, and a chain from `0x20000`, in the DPC window,
to `0x1000`, on the thread's stack. -/
def dpcMachine : Machine :=
  { cycleMachine with
    mem := fun a => if a = 0x20000 then 0x1000 else if a = 0x1000 then exceptionChainEnd
      else 0x00401000
    exceptionList := 0x20000
    irql := 2
    dpcRoutineActive := true
    dpcStack := 0x21000 }

/-- Both routines take the DPC-stack restart once at the head of this chain, and the restarted
iteration accepts the record. -/
theorem dpcStack_switch_at_most_once_taken :
    passCount (dispatchPass dpcMachine searchingHandlers) (DispatchDpcRestart dpcMachine) 4
        (dispatchStart dpcMachine ⟨0xC0000005, 0, 0, 0, 0⟩ ⟨0, 0, 0⟩) = 1 ∧
      passCount (unwindPass dpcMachine searchingHandlers 0) (UnwindDpcRestart dpcMachine 0) 4
        (unwindStart dpcMachine 0 none 0) = 1 ∧
      checkFrame dpcMachine (dpcMachine.dpcStack - kernelStackSize) dpcMachine.dpcStack 0x20000 =
        .inBounds :=
  ⟨by decide, by decide, dpcStack_switch_at_most_once.2.1 dpcMachine
    (dispatchStart dpcMachine ⟨0xC0000005, 0, 0, 0, 0⟩ ⟨0, 0, 0⟩) ⟨by decide, by decide⟩⟩

end SehDispatch
