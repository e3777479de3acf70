import SehDispatch.UnwindWalk

/-!
# What the handlers hand on

A handler may change the exception flags and the context record it is given, and the routine
that called it keeps what it left: the next handler sees it, and so does whatever the routine
ends in. Nothing the routines do between two calls loses such a change, and the routines
touch nothing in the records themselves except the flags they own.

* `HandsOn mask er ctx is er' ctx'` says that of a sequence of invocations `is`: each handler
  was called with the context the one before it left and with the exception record carrying
  the flags the one before it left, the first with `er` and `ctx`; `er'` and `ctx'` are what
  the last one left. Flags of `mask` are not compared: the routine writes them itself.
* `rtlUnwind_hands_on_records`: in every run of RtlUnwind this holds with no flag left out,
  from the unwind's own exception record and the captured context (Esp past the four
  arguments, Eax the return value), up to the record and context that `ZwContinue` or
  `ZwRaiseException` receive.
* `rtlDispatchException_hands_on_records`: in every run of RtlDispatchException it holds apart
  from EXCEPTION_NESTED_CALL, which the dispatcher sets and clears between calls, from the
  records it was given; on leaving, the routine may in addition have set
  EXCEPTION_STACK_INVALID.
-/

namespace SehDispatch

/-! ### Records handed from call to call -/

/-- The invocations `is` hand the records on, apart from the exception flags of `mask`: each
handler was called with the context the previous handler left, and with an exception record
that agrees outside `mask` with the record the previous handler was called with, carrying the
flags the previous handler left; `er` and `ctx` stand before the first handler, `er'` and
`ctx'` after the last. With `mask = 0` whole records are compared. -/
def HandsOn (mask : UInt32) :
    ExceptionRecord → Context → List Invocation → ExceptionRecord → Context → Prop
  | er, ctx, [], er', ctx' => er'.clearFlags mask = er.clearFlags mask ∧ ctx' = ctx
  | er, ctx, i :: is, er', ctx' =>
    i.call.exceptionRecord.clearFlags mask = er.clearFlags mask ∧ i.call.context = ctx ∧
      HandsOn mask { i.call.exceptionRecord with exceptionFlags := i.ret.exceptionFlags }
        i.ret.context is er' ctx'

section HandsOn

variable {mask : UInt32}

theorem HandsOn.congr {er'' : ExceptionRecord} :
    ∀ {er ctx is er' ctx'}, HandsOn mask er ctx is er' ctx' →
      er''.clearFlags mask = er'.clearFlags mask → HandsOn mask er ctx is er'' ctx'
  | _, _, [], _, _, ⟨h₁, h₂⟩, he => ⟨he.trans h₁, h₂⟩
  | _, _, _ :: _, _, _, ⟨h₁, h₂, h₃⟩, he => ⟨h₁, h₂, h₃.congr he⟩

/-- A call made with what the routine holds hands on what the handler left. -/
theorem HandsOn.snoc {i : Invocation} :
    ∀ {er ctx is er' ctx'}, HandsOn mask er ctx is er' ctx' →
      i.call.exceptionRecord.clearFlags mask = er'.clearFlags mask → i.call.context = ctx' →
      HandsOn mask er ctx (is ++ [i])
        { i.call.exceptionRecord with exceptionFlags := i.ret.exceptionFlags } i.ret.context
  | _, _, [], _, _, ⟨h₁, h₂⟩, he, hc => ⟨he.trans h₁, hc.trans h₂, rfl, rfl⟩
  | _, _, _ :: _, _, _, ⟨h₁, h₂, h₃⟩, he, hc => ⟨h₁, h₂, h₃.snoc he hc⟩

end HandsOn

/-! ### RtlUnwind -/

/-- The handler invocations among the events of RtlUnwind, in order. -/
def UnwindEvent.calls (log : List UnwindEvent) : List Invocation :=
  log.filterMap fun
    | .call i => some i
    | .unlink _ => none

@[simp] theorem UnwindEvent.calls_nil : UnwindEvent.calls [] = [] := rfl

@[simp] theorem UnwindEvent.calls_append_call (log : List UnwindEvent) (i : Invocation) :
    UnwindEvent.calls (log ++ [.call i]) = UnwindEvent.calls log ++ [i] := by
  simp [UnwindEvent.calls]

@[simp] theorem UnwindEvent.calls_append_unlink (log : List UnwindEvent) (p : UInt32) :
    UnwindEvent.calls (log ++ [.unlink p]) = UnwindEvent.calls log := by
  simp [UnwindEvent.calls]

/-- RtlUnwind holds the records its handlers handed on, from `er` and `ctx`. -/
def UnwindHandsOn (er : ExceptionRecord) (ctx : Context) (s : UnwindState) : Prop :=
  HandsOn 0 er ctx (UnwindEvent.calls s.log) s.exceptionRecord s.context

section Unwind

variable {m : Machine} {er : ExceptionRecord} {ctx : Context} {s : UnwindState}

theorem UnwindHandsOn.call (h : UnwindHandsOn er ctx s) (r : HandlerReturn) :
    UnwindHandsOn er ctx (s.afterCall (s.handlerCall m) r) := by
  unfold UnwindHandsOn at h ⊢
  rw [UnwindState.afterCall_log, UnwindEvent.calls_append_call]
  exact h.snoc rfl rfl

theorem UnwindHandsOn.unlinkStep (h : UnwindHandsOn er ctx s) (p : UInt32) :
    UnwindHandsOn er ctx (s.unlinkStep m p) := by
  unfold UnwindHandsOn at h ⊢
  rwa [UnwindState.unlinkStep_log, UnwindEvent.calls_append_unlink]

end Unwind

/-- **RtlUnwind hands on what its handlers leave.** In every run of RtlUnwind, whatever the
chain, the target and the handlers: the first handler is called with the unwind's own
exception record and the captured context, each later one with the context the one before
it left and the record with the flags that one left, and the routine holds, at the top of
every pass and when it leaves for `ZwContinue`, `ZwRaiseException` or a raise, what the last
handler left. -/
theorem rtlUnwind_hands_on_records (m : Machine) (hs : Handlers UnwindEvent)
    (targetFrame targetIp : UInt32) (er : Option ExceptionRecord) (returnValue : UInt32)
    (n : Nat) :
    (rtlUnwind m hs targetFrame targetIp er returnValue n).Satisfies
      (UnwindHandsOn (unwindRecord m targetFrame er) (unwindContext m returnValue))
      (fun _ => UnwindHandsOn (unwindRecord m targetFrame er) (unwindContext m returnValue)) :=
  rtlUnwind_invariant _ ⟨rfl, rfl⟩ (fun _ h => h) (fun _ h _ _ _ r => h.call r)
    (fun _ p h => h.unlinkStep p) n

/-! ### RtlDispatchException -/

/-- RtlDispatchException holds the records its handlers handed on, from `er` and `ctx`, apart
from EXCEPTION_NESTED_CALL. -/
def DispatchHandsOn (er : ExceptionRecord) (ctx : Context) (s : DispatchState) : Prop :=
  HandsOn exceptionNestedCall er ctx s.log s.exceptionRecord s.context

/-- What RtlDispatchException leaves with: what its handlers handed on, EXCEPTION_STACK_INVALID
possibly set on top. -/
def DispatchHandsOnAtExit (er : ExceptionRecord) (ctx : Context) (s : DispatchState) : Prop :=
  ∃ er', HandsOn exceptionNestedCall er ctx s.log er' s.context ∧
    (s.exceptionRecord = er' ∨ s.exceptionRecord = er'.orFlags exceptionStackInvalid)

section Dispatch

variable {m : Machine} {hs : Handlers Invocation} {er : ExceptionRecord} {ctx : Context}
  {s s' : DispatchState} {x : DispatchExit}

/-- After a handler call and the end of a nested region, the dispatcher holds what the
handler left. -/
theorem DispatchHandsOn.call (h : DispatchHandsOn er ctx s) (r : HandlerReturn) :
    DispatchHandsOn er ctx (s.afterCall (s.handlerCall m) r).leaveNested := by
  unfold DispatchHandsOn at h ⊢
  rw [DispatchState.leaveNested_log, DispatchState.afterCall_log,
    DispatchState.leaveNested_context]
  exact (h.snoc rfl rfl).congr (DispatchState.leaveNested_exceptionRecord_clearFlags _)

theorem DispatchHandsOn.pass (h : DispatchHandsOn er ctx s) (hp : dispatchPass m hs s = .loop s') :
    DispatchHandsOn er ctx s' := by
  obtain ⟨-, ⟨-, rfl⟩ | ⟨-, -, hcall⟩⟩ := dispatchPass_eq_loop hp
  · exact h
  · unfold dispatchCall at hcall
    have hc := h.call (m := m) (hs s.log (s.handlerCall m))
    rcases dispatchDisposition_eq_loop hcall with ⟨-, -, rfl⟩ | ⟨-, rfl⟩
    · exact hc
    · -- ExceptionNestedException sets EXCEPTION_NESTED_CALL
      exact hc.congr (ExceptionRecord.orFlags_clearFlags _ (by decide))

theorem DispatchHandsOn.ends (h : DispatchHandsOn er ctx s)
    (hp : dispatchPass m hs s = .exit x s') : DispatchHandsOnAtExit er ctx s' := by
  rcases dispatchPass_eq_exit hp with ⟨-, -, rfl⟩ | ⟨-, -, rfl⟩ | ⟨-, -, -, hcall⟩
  · exact ⟨_, h, .inl rfl⟩
  · exact ⟨_, h, .inr rfl⟩
  · unfold dispatchCall at hcall
    obtain ⟨rfl, -⟩ := dispatchDisposition_eq_exit hcall
    exact ⟨_, h.call _, .inl rfl⟩

end Dispatch

/-- **RtlDispatchException hands on what its handlers leave.** In every run of
RtlDispatchException, whatever the chain, the limits, the DPC state and the handlers: the first
handler is called with the context the routine was given, each later one with the context the
one before it left; apart from EXCEPTION_NESTED_CALL, the first is called with the exception
record the routine was given, each later one with that record carrying the flags the one
before it left. The routine holds what the last handler left at the top of every pass, and
leaves with it, EXCEPTION_STACK_INVALID possibly set. -/
theorem rtlDispatchException_hands_on_records (m : Machine) (hs : Handlers Invocation)
    (er : ExceptionRecord) (ctx : Context) (n : Nat) :
    (rtlDispatchException m hs er ctx n).Satisfies (DispatchHandsOn er ctx)
      (fun _ => DispatchHandsOnAtExit er ctx) :=
  runLoop_satisfies _ _ (fun _ _ h hp => h.pass hp) (fun _ _ _ h hp => h.ends hp) n _ ⟨rfl, rfl⟩

end SehDispatch
