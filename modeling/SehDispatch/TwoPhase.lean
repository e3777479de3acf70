import SehDispatch.DispatchOutcome
import SehDispatch.UnwindChain

/-!
# Search, then unwind

An exception is handled in two phases over the same chain. RtlDispatchException searches it
from the head for a handler that accepts the exception; that handler then unwinds the chain
to its own record with RtlUnwind, which calls the unwind handlers of the records in between,
innermost first, and unlinks them, before execution resumes in the handler's frame.

* `rtlDispatchException_true_prefix` (in `DispatchOutcome`) is the first phase: a TRUE on a
  well-formed chain comes after calls of the handlers of the first records of the chain, the
  last one asking to continue and each one before it letting the search go on.
* `unwindSpec_append_target`: the abstract unwind to a record of the chain, past records
  below it, calls those records and continues at it.
* `rtlUnwind_to_dispatch_frame`: the two together. On a chain at increasing addresses, the
  unwind to the record whose handler accepted the exception calls the unwind handlers of
  exactly the records the search passed over, in the order the search met them, and
  continues at that record.
-/

namespace SehDispatch

/-- The abstract unwind to the record `targetFrame`, past records below it, calls those
records and continues at it. -/
theorem unwindSpec_append_target {targetFrame : UInt32} {rest : List UInt32} :
    ∀ {l : List UInt32}, (∀ r ∈ l, r < targetFrame) →
      unwindSpec targetFrame (l ++ targetFrame :: rest) = (l, .zwContinue)
  | [], _ => by simp [unwindSpec]
  | r :: l, h => by
    have hr := h r (List.mem_cons_self r l)
    have hne : r ≠ targetFrame := fun he => UInt32.lt_irrefl _ (he ▸ hr)
    rw [List.cons_append, unwindSpec, if_neg hne, if_neg fun hb => UInt32.lt_asymm hr hb.2,
      unwindSpec_append_target fun r' h' => h r' (List.mem_cons_of_mem r h')]

/-- **Unwinding to the frame the search found.** On a chain of aligned records at increasing
addresses inside the thread's stack limits, none at NULL, whose handlers RtlIsValidHandler
decides: whenever RtlDispatchException returns TRUE, it does so within one pass per record and
one more, having called the handlers of the first records of the chain in order, the last of
them, at the record F, asking to continue a continuable exception and each one before it
letting the search go on. An unwind to F, with unwind handlers that let it go on and leave the
flags alone, then ends within one pass per record and one more: it calls, with
EXCEPTION_UNWINDING set, the unwind handlers of exactly the records whose exception handlers
the search called before F, in the same order, unlinks each after its call, and continues at
F. -/
theorem rtlUnwind_to_dispatch_frame (m : Machine) (hs : Handlers Invocation)
    (hu : Handlers UnwindEvent) (er : ExceptionRecord) (ctx : Context) (targetIp : UInt32)
    (uer : Option ExceptionRecord) (returnValue : UInt32) {rs : List UInt32}
    (hc : IsChain m m.exceptionList rs) (hsorted : rs.Pairwise (· < ·))
    (hin : ∀ r ∈ rs, InsideLimits m r ∧ r &&& 3 = 0) (h0 : (0 : UInt32) ∉ rs)
    (hv : ∀ r ∈ rs, rtlIsValidHandler m (m.handler r) ≠ none) (hhu : ContinuesKeepingFlags hu)
    {n : Nat} {s : DispatchState}
    (hd : rtlDispatchException m hs er ctx n = .exited (.completion true) s) :
    rtlDispatchException m hs er ctx (rs.length + 1) = .exited (.completion true) s ∧
      ∃ l i, s.log = l ++ [i] ∧ (∀ j ∈ l, SearchGoesOn j) ∧
        i.ret.disposition = exceptionContinueExecution ∧
        i.ret.exceptionFlags &&& exceptionNoncontinuable = 0 ∧
        (∃ rest, rs = l.map Invocation.frame ++ i.frame :: rest) ∧
        ∃ s', rtlUnwind m hu i.frame targetIp uer returnValue (rs.length + 1) =
            .exited .zwContinue s' ∧
          UnwoundInOrder m s'.log (l.map Invocation.frame)
            (fun f => f &&& exceptionUnwinding = exceptionUnwinding) := by
  obtain ⟨hrun, l, i, hlog, hgo, hce, hnc, rest, hrs⟩ :=
    rtlDispatchException_true_prefix hc hin hv hd
  have hF : i.frame ≠ 0 := fun h => h0 (by rw [hrs, ← h]; simp)
  -- the records the search passed over lie below F
  have hspec : unwindSpec i.frame rs = (l.map Invocation.frame, .zwContinue) := by
    rw [hrs]
    refine unwindSpec_append_target fun r hr => ?_
    exact (List.pairwise_append.mp (hrs ▸ hsorted)).2.2 r hr i.frame (List.mem_cons_self _ _)
  obtain ⟨s', hurun, tail, hlog', hun⟩ := @runLoop_unwindPass_refines m hu i.frame _
    (hhu.keeping (unwindRecord m i.frame uer).exceptionFlags) rs
    (unwindStart m i.frame uer returnValue) hc hin rfl rfl rfl
  rw [hspec] at hurun hun
  rw [unwindStart_log, List.nil_append] at hlog'
  exact ⟨hrun, l, i, hlog, hgo, hce, hnc, ⟨rest, hrs⟩, s', hurun,
    hlog' ▸ hun.mono fun f hf => hf ▸ unwindRecord_unwinding m uer hF⟩

/-- Handlers that let the search go on, except at the record `f`, where they ask to continue
execution; they change nothing. -/
def continuingAt {ε : Type} (f : UInt32) : Handlers ε := fun hist c =>
  if c.establisherFrame = f then continuingHandlers hist c else searchingHandlers hist c

theorem rtlUnwind_to_dispatch_frame_two_records :
    ∃ s, rtlDispatchException twoRecordMachine (continuingAt 0x1010) ⟨0xC0000005, 0, 0, 0, 0⟩
        ⟨0, 0, 0⟩ 5 = .exited (.completion true) s ∧
      rtlDispatchException twoRecordMachine (continuingAt 0x1010) ⟨0xC0000005, 0, 0, 0, 0⟩
          ⟨0, 0, 0⟩ 3 = .exited (.completion true) s ∧
        ∃ l i, s.log = l ++ [i] ∧ (∀ j ∈ l, SearchGoesOn j) ∧
          i.ret.disposition = exceptionContinueExecution ∧
          i.ret.exceptionFlags &&& exceptionNoncontinuable = 0 ∧
          (∃ rest, [0x1000, 0x1010] = l.map Invocation.frame ++ i.frame :: rest) ∧
          ∃ s', rtlUnwind twoRecordMachine searchingHandlers i.frame 0 none 0 3 =
              .exited .zwContinue s' ∧
            UnwoundInOrder twoRecordMachine s'.log (l.map Invocation.frame)
              (fun f => f &&& exceptionUnwinding = exceptionUnwinding) := by
  obtain ⟨s, hd⟩ : ∃ s, rtlDispatchException twoRecordMachine (continuingAt 0x1010)
      ⟨0xC0000005, 0, 0, 0, 0⟩ ⟨0, 0, 0⟩ 5 = .exited (.completion true) s := ⟨_, rfl⟩
  exact ⟨s, hd, rtlUnwind_to_dispatch_frame twoRecordMachine (continuingAt 0x1010)
    searchingHandlers ⟨0xC0000005, 0, 0, 0, 0⟩ ⟨0, 0, 0⟩ 0 none 0 twoRecordMachine_isChain
    (by decide) (by decide) (by decide) (by decide) (fun _ _ => ⟨rfl, rfl⟩) hd⟩

end SehDispatch
