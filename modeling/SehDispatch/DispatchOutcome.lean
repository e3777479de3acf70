import SehDispatch.DispatchWalk

/-!
# What decides RtlDispatchException

On a well-formed chain the stack test and the DPC fallback never intervene, and the dispatcher
is a search along the chain for the first handler that does not let the search go on. Its
outcome is decided by the first such handler's return, or by the first handler that
RtlIsValidHandler rejects, or by the end of the chain, whichever comes first.

* `stopOutcome` is what the `switch` makes of a return that stops the search.
* `DispatchOutcome` lists the three ways a dispatch over a chain ends.
* `dispatchCall_cases`: the pass through a handler call either lets the search go on, stepping
  to the next record, or leaves with `stopOutcome`; the flags the `switch` tests are those the
  handler left, whether or not the call ended a nested region.
* `runLoop_dispatchPass_outcome` is the one induction along the chain. On a chain of aligned
  records inside the thread's stack limits, whose handlers RtlIsValidHandler decides, and
  whatever the handlers do, the routine ends within one pass per record and one more, having
  called the handlers of the first records (`rtlDispatchException_ends_on_chain`), as
  `DispatchOutcome` says (`rtlDispatchException_first_stop_decides`); a TRUE after any number
  of passes is that one (`rtlDispatchException_true_prefix`).
-/

namespace SehDispatch

/-- The outcome the `switch` of RtlDispatchException gives a handler return that does not let
the search go on, the working exception record being `er`. -/
def stopOutcome (r : HandlerReturn) (er : ExceptionRecord) : DispatchExit :=
  if r.disposition = exceptionContinueExecution then
    if r.exceptionFlags &&& exceptionNoncontinuable ≠ 0 then
      .raise (raisedRecord statusNoncontinuableException er)
    else .completion true
  else if r.disposition = exceptionContinueSearch then .completion false
  else .raise (raisedRecord statusInvalidDisposition er)

theorem stopOutcome_eq_true {r : HandlerReturn} {er : ExceptionRecord}
    (h : stopOutcome r er = .completion true) :
    r.disposition = exceptionContinueExecution ∧
      r.exceptionFlags &&& exceptionNoncontinuable = 0 := by
  unfold stopOutcome at h
  split_ifs at h with h1 h2 <;> cases h
  exact ⟨h1, not_not.mp h2⟩

/-- How a dispatch over the records `rs`, whose invocations were `log`, ended with `x`, its
working exception record being `er`: every handler let the search go on and the chain ended,
FALSE; every handler called let it go on and the next record's handler was rejected, FALSE; or
the last handler called is the first that did not let the search go on, and its return
decided. -/
def DispatchOutcome (m : Machine) (rs : List UInt32) (log : List Invocation) (er : ExceptionRecord)
    (x : DispatchExit) : Prop :=
  ((∀ i ∈ log, SearchGoesOn i) ∧ log.length = rs.length ∧ x = .completion false) ∨
    ((∀ i ∈ log, SearchGoesOn i) ∧
      (∃ r, rs[log.length]? = some r ∧ rtlIsValidHandler m (m.handler r) = some false) ∧
      x = .completion false) ∨
    ∃ l i, log = l ++ [i] ∧ (∀ j ∈ l, SearchGoesOn j) ∧ ¬ SearchGoesOn i ∧
      x = stopOutcome i.ret er

/-- A handler that let the search go on, at the head of the records, leaves the outcome to the
records after it. -/
theorem DispatchOutcome.cons {m : Machine} {rs : List UInt32} {log : List Invocation}
    {er : ExceptionRecord} {x : DispatchExit} {r : UInt32} {i : Invocation} (hgo : SearchGoesOn i)
    (h : DispatchOutcome m rs log er x) : DispatchOutcome m (r :: rs) (i :: log) er x := by
  have hall {l : List Invocation} (hl : ∀ j ∈ l, SearchGoesOn j) : ∀ j ∈ i :: l, SearchGoesOn j :=
    List.forall_mem_cons.mpr ⟨hgo, hl⟩
  rcases h with ⟨hl, hlen, hx⟩ | ⟨hl, hr, hx⟩ | ⟨l, i', rfl, hl, hstop, hx⟩
  · exact .inl ⟨hall hl, by simp [hlen], hx⟩
  · exact .inr (.inl ⟨hall hl, by simpa using hr, hx⟩)
  · exact .inr (.inr ⟨i :: l, i', rfl, hall hl, hstop, hx⟩)

/-- The invocation the pass from `s` makes at its record: the call of the record's handler,
what the handlers return to it, and the limits in force. -/
def DispatchState.invocation (m : Machine) (hs : Handlers Invocation) (s : DispatchState) :
    Invocation :=
  ⟨s.handlerCall m, hs s.log (s.handlerCall m), s.lowLimit, s.highLimit⟩

@[simp] theorem DispatchState.invocation_frame (m : Machine) (hs : Handlers Invocation)
    (s : DispatchState) : (s.invocation m hs).frame = s.registrationPointer := rfl

section Call

variable {m : Machine} {hs : Handlers Invocation} {s : DispatchState}

theorem dispatchDisposition_ne_stall (m : Machine) (r : HandlerReturn) (s : DispatchState) :
    dispatchDisposition m r s ≠ .stall := by
  unfold dispatchDisposition
  split_ifs <;> nofun

/-- The pass through the handler call either lets the search go on and steps to the next record,
or leaves with the outcome the handler's return decides. -/
theorem dispatchCall_cases (m : Machine) (hs : Handlers Invocation) (s : DispatchState) :
    (SearchGoesOn (s.invocation m hs) ∧ ∃ s', dispatchCall m hs s = .loop s' ∧
        s'.log = s.log ++ [s.invocation m hs] ∧
        s'.registrationPointer = m.next s.registrationPointer ∧
        s'.lowLimit = s.lowLimit ∧ s'.highLimit = s.highLimit) ∨
      (¬ SearchGoesOn (s.invocation m hs) ∧ ∃ s',
        dispatchCall m hs s = .exit (stopOutcome (s.invocation m hs).ret s'.exceptionRecord) s' ∧
        s'.log = s.log ++ [s.invocation m hs]) := by
  -- the flags the switch tests are those the handler left
  have hflags {mask : UInt32} (h : exceptionNestedCall &&& mask = 0) :
      (s.afterCall (s.handlerCall m)
          (hs s.log (s.handlerCall m))).leaveNested.exceptionRecord.exceptionFlags &&& mask =
        (hs s.log (s.handlerCall m)).exceptionFlags &&& mask := by
    rw [DispatchState.leaveNested_exceptionFlags_and _ h, DispatchState.afterCall_exceptionFlags]
  have hnc := @hflags exceptionNoncontinuable (by decide)
  have hsi := @hflags exceptionStackInvalid (by decide)
  unfold dispatchCall
  rcases hd : dispatchDisposition m (hs s.log (s.handlerCall m))
    ((s.afterCall (s.handlerCall m) (hs s.log (s.handlerCall m))).leaveNested) with
    s' | ⟨x, s'⟩ | _
  · refine .inl ⟨?_, s', rfl, ?_⟩
    · rcases dispatchDisposition_eq_loop hd with ⟨hcs, hz, -⟩ | ⟨hne, -⟩
      · exact .inl ⟨hcs, hsi ▸ hz⟩
      · exact .inr hne
    · rcases dispatchDisposition_eq_loop hd with ⟨-, -, rfl⟩ | ⟨-, rfl⟩ <;>
        exact ⟨by simp [DispatchState.invocation], by simp, by simp, by simp⟩
  · obtain ⟨rfl, hx⟩ := dispatchDisposition_eq_exit hd
    rw [hnc, hsi] at hx
    have hxo : x = stopOutcome (s.invocation m hs).ret
        (s.afterCall (s.handlerCall m)
          (hs s.log (s.handlerCall m))).leaveNested.exceptionRecord := by
      rcases hx with ⟨hce, ⟨hz, rfl⟩ | ⟨hnz, rfl⟩⟩ | ⟨hcs, -, rfl⟩ | ⟨hnce, hncs, -, rfl⟩
      · simp [stopOutcome, DispatchState.invocation, hce, hz]
      · simp [stopOutcome, DispatchState.invocation, hce, hnz]
      · simp [stopOutcome, DispatchState.invocation, hcs, exceptionContinueSearch,
          exceptionContinueExecution]
      · simp [stopOutcome, DispatchState.invocation, hnce, hncs]
    have hstop : ¬ SearchGoesOn (s.invocation m hs) := by
      rintro (⟨hcs, hz⟩ | hne)
      · rcases hx with ⟨hce, -⟩ | ⟨-, hnz, -⟩ | ⟨-, hncs, -⟩
        · exact absurd (hce.symm.trans hcs) (by decide)
        · exact hnz hz
        · exact hncs hcs
      · rcases hx with ⟨hce, -⟩ | ⟨hcs, -⟩ | ⟨-, -, hnne, -⟩
        · exact absurd (hce.symm.trans hne) (by decide)
        · exact absurd (hcs.symm.trans hne) (by decide)
        · exact hnne hne
    subst hxo
    exact .inr ⟨hstop, _, rfl, by simp [DispatchState.invocation]⟩
  · exact absurd hd (dispatchDisposition_ne_stall _ _ _)

/-- From the head of a chain of aligned records inside the thread's limits, whose handlers
RtlIsValidHandler decides, the loop leaves within one pass per record and one more, having
called the handlers of the first records in order, as `DispatchOutcome` says. -/
theorem runLoop_dispatchPass_outcome :
    ∀ {rs : List UInt32} {s : DispatchState}, IsChain m s.registrationPointer rs →
      (∀ r ∈ rs, InsideLimits m r ∧ r &&& 3 = 0) →
      (∀ r ∈ rs, rtlIsValidHandler m (m.handler r) ≠ none) →
      s.lowLimit = m.lowLimit → s.highLimit = m.highLimit →
      ∃ x s', runLoop (dispatchPass m hs) (rs.length + 1) s = .exited x s' ∧
        ∃ tail, s'.log = s.log ++ tail ∧ tail.map Invocation.frame <+: rs ∧
          DispatchOutcome m rs tail s'.exceptionRecord x := by
  intro rs
  induction rs with
  | nil =>
    -- the end of the chain: FALSE, no handler called
    intro s hc _ _ _ _
    refine ⟨.completion false, s, runLoop_succ_of_exit 0 ?_, [], by simp, List.nil_prefix,
      .inl ⟨List.forall_mem_nil _, rfl, rfl⟩⟩
    simp [dispatchPass, isChain_nil.mp hc]
  | cons r rs ih =>
    rintro s ⟨rfl, hr, hc⟩ hin hv hlo hhi
    have hhead := List.mem_cons_self s.registrationPointer rs
    have hcf : checkFrame m s.lowLimit s.highLimit s.registrationPointer = .inBounds := by
      rw [hlo, hhi]
      exact checkFrame_of_insideLimits (hin _ hhead).1 (hin _ hhead).2
    rcases hval : rtlIsValidHandler m (m.handler s.registrationPointer) with _ | _ | _
    · exact absurd hval (hv _ hhead)
    · -- the record's handler is rejected: FALSE, with EXCEPTION_STACK_INVALID set
      refine ⟨.completion false, s.stackInvalid, runLoop_succ_of_exit _ ?_, [], by simp,
        List.nil_prefix,
        .inr (.inl ⟨List.forall_mem_nil _, ⟨s.registrationPointer, by simp, hval⟩, rfl⟩)⟩
      simp [dispatchPass, hr, hcf, hval]
    have hpass := @dispatchPass_of_accepted m hs s hr hcf hval
    rcases dispatchCall_cases m hs s with ⟨hgo, s₁, hcall, hlog, hrp, hlo', hhi'⟩ |
      ⟨hstop, s', hcall, hlog⟩
    · -- the handler let the search go on: the rest of the chain decides
      obtain ⟨x, s', hrun, tail, hlog', hpre, hout⟩ := ih (s := s₁) (hrp ▸ hc)
        (fun r h => hin r (List.mem_cons_of_mem _ h)) (fun r h => hv r (List.mem_cons_of_mem _ h))
        (hlo'.trans hlo) (hhi'.trans hhi)
      refine ⟨x, s',
        by rw [List.length_cons, runLoop_succ_of_loop _ (hpass.trans hcall)]; exact hrun,
        s.invocation m hs :: tail, by rw [hlog', hlog, List.append_assoc, List.singleton_append],
        by simpa using hpre, hout.cons hgo⟩
    · -- the handler stopped the search: its return decides
      exact ⟨_, s', runLoop_succ_of_exit _ (hpass.trans hcall), [s.invocation m hs], hlog,
        by simp, .inr (.inr ⟨[], _, rfl, List.forall_mem_nil _, hstop, rfl⟩)⟩

end Call

section Chain

variable {m : Machine} {hs : Handlers Invocation} {er : ExceptionRecord} {ctx : Context}
  {rs : List UInt32} (hc : IsChain m m.exceptionList rs)
  (hin : ∀ r ∈ rs, InsideLimits m r ∧ r &&& 3 = 0)
  (hv : ∀ r ∈ rs, rtlIsValidHandler m (m.handler r) ≠ none)
include hc hin hv

/-- **The search.** When RtlDispatchException returns TRUE on a chain of aligned records inside
the thread's limits, whose handlers RtlIsValidHandler decides, after any number of passes, it
does so within one pass per record and one more, having called the handlers of the first
records of the chain in order: the last asked to continue a continuable exception, and each
one before it let the search go on. -/
theorem rtlDispatchException_true_prefix {n : Nat} {s : DispatchState}
    (hd : rtlDispatchException m hs er ctx n = .exited (.completion true) s) :
    rtlDispatchException m hs er ctx (rs.length + 1) = .exited (.completion true) s ∧
      ∃ l i, s.log = l ++ [i] ∧ (∀ j ∈ l, SearchGoesOn j) ∧
        i.ret.disposition = exceptionContinueExecution ∧
        i.ret.exceptionFlags &&& exceptionNoncontinuable = 0 ∧
        ∃ rest, rs = l.map Invocation.frame ++ i.frame :: rest := by
  obtain ⟨x, s', hrun, tail, hlog, hpre, hout⟩ :=
    @runLoop_dispatchPass_outcome m hs rs (dispatchStart m er ctx) hc hin hv rfl rfl
  -- the run of `n` passes and the run along the chain leave the same way
  obtain ⟨rfl, rfl⟩ := runLoop_exited_unique hrun hd
  rw [dispatchStart_log, List.nil_append] at hlog
  subst hlog
  refine ⟨hrun, ?_⟩
  rcases hout with ⟨-, -, hx⟩ | ⟨-, -, hx⟩ | ⟨l, i, hlog, hgo, -, hx⟩
  · cases hx
  · cases hx
  obtain ⟨hce, hnc⟩ := stopOutcome_eq_true hx.symm
  rw [hlog, List.map_append, List.map_singleton] at hpre
  obtain ⟨rest, hrest⟩ := hpre
  exact ⟨l, i, hlog, hgo, hce, hnc, rest, by rw [← hrest, List.append_assoc, List.singleton_append]⟩

end Chain

/-- **RtlDispatchException ends on a well-formed chain.** On a chain of aligned records inside
the thread's stack limits, whose handlers RtlIsValidHandler decides, RtlDispatchException
leaves its loop within one pass per record and one more, whatever the handlers do, having
called the handlers of the first records of the chain, in order. -/
theorem rtlDispatchException_ends_on_chain (m : Machine) (hs : Handlers Invocation)
    (er : ExceptionRecord) (ctx : Context) {rs : List UInt32} (hc : IsChain m m.exceptionList rs)
    (hin : ∀ r ∈ rs, InsideLimits m r ∧ r &&& 3 = 0)
    (hv : ∀ r ∈ rs, rtlIsValidHandler m (m.handler r) ≠ none) :
    ∃ x s, rtlDispatchException m hs er ctx (rs.length + 1) = .exited x s ∧
      s.log.map Invocation.frame <+: rs := by
  obtain ⟨x, s, hrun, tail, hlog, hpre, -⟩ :=
    @runLoop_dispatchPass_outcome m hs rs (dispatchStart m er ctx) hc hin hv rfl rfl
  rw [dispatchStart_log, List.nil_append] at hlog
  exact ⟨x, s, hrun, hlog ▸ hpre⟩

theorem rtlDispatchException_ends_on_two_records :
    ∃ x s, rtlDispatchException twoRecordMachine searchingHandlers ⟨0xC0000005, 0, 0, 0, 0⟩
        ⟨0, 0, 0⟩ 3 = .exited x s ∧ s.log.map Invocation.frame <+: [0x1000, 0x1010] :=
  rtlDispatchException_ends_on_chain twoRecordMachine searchingHandlers _ _
    twoRecordMachine_isChain (by decide) (by decide)

/-- **The first handler that stops the search decides.** On a chain of aligned records inside
the thread's stack limits, whose handlers RtlIsValidHandler decides, and whatever the handlers
do, RtlDispatchException calls the handlers of the first records of the chain in order and
leaves within one pass per record and one more: with FALSE at the end of the chain when every
handler let the search go on; with FALSE when every handler called let it go on and the next
record's handler is rejected; or right after the first handler that did not let the search go
on, as its return decides: TRUE when it asked to continue a continuable exception, a raise of
STATUS_NONCONTINUABLE_EXCEPTION for a noncontinuable one, FALSE when it let the search go on
with EXCEPTION_STACK_INVALID set, and a raise of STATUS_INVALID_DISPOSITION otherwise; a raise
passes the noncontinuable record over the working exception record as it then stands. -/
theorem rtlDispatchException_first_stop_decides (m : Machine) (hs : Handlers Invocation)
    (er : ExceptionRecord) (ctx : Context) {rs : List UInt32} (hc : IsChain m m.exceptionList rs)
    (hin : ∀ r ∈ rs, InsideLimits m r ∧ r &&& 3 = 0)
    (hv : ∀ r ∈ rs, rtlIsValidHandler m (m.handler r) ≠ none) :
    ∃ x s, rtlDispatchException m hs er ctx (rs.length + 1) = .exited x s ∧
      s.log.map Invocation.frame <+: rs ∧ DispatchOutcome m rs s.log s.exceptionRecord x := by
  obtain ⟨x, s, hrun, tail, hlog, hpre, hout⟩ :=
    @runLoop_dispatchPass_outcome m hs rs (dispatchStart m er ctx) hc hin hv rfl rfl
  rw [dispatchStart_log, List.nil_append] at hlog
  exact ⟨x, s, hrun, hlog ▸ hpre, hlog ▸ hout⟩

theorem rtlDispatchException_first_stop_decides_two_records :
    IsChain twoRecordMachine twoRecordMachine.exceptionList [0x1000, 0x1010] ∧
      (∀ r ∈ [0x1000, 0x1010], InsideLimits twoRecordMachine r ∧ r &&& 3 = 0) ∧
      (∀ r ∈ [0x1000, 0x1010],
        rtlIsValidHandler twoRecordMachine (twoRecordMachine.handler r) ≠ none) ∧
      ∃ x s, rtlDispatchException twoRecordMachine continuingHandlers ⟨0xC0000005, 0, 0, 0, 0⟩
          ⟨0, 0, 0⟩ 3 = .exited x s ∧
        s.log.map Invocation.frame <+: [0x1000, 0x1010] ∧
        DispatchOutcome twoRecordMachine [0x1000, 0x1010] s.log s.exceptionRecord x :=
  ⟨twoRecordMachine_isChain, by decide, by decide,
    rtlDispatchException_first_stop_decides twoRecordMachine continuingHandlers _ _
      twoRecordMachine_isChain (by decide) (by decide)⟩

end SehDispatch
