import SehDispatch.DispatchWalk

/-!
# Nested exceptions in RtlDispatchException

A handler that meets an exception raised while an earlier dispatch was running answers
ExceptionNestedException and reports, through the DispatcherContext, the frame whose handler
raised it. The dispatcher then sets EXCEPTION_NESTED_CALL for the rest of the nested region,
keeps in NestedRegistration the highest frame reported, and clears both once the handler of
that frame has been called.

On a chain at increasing addresses, with handlers that leave EXCEPTION_NESTED_CALL to the
dispatcher and report frames of the chain lying after their own, this bookkeeping is exact:

* `NestedCallsMarked`: each handler is called with EXCEPTION_NESTED_CALL set exactly when an
  earlier handler of the same dispatch reported a frame at or above its record;
* `NestedUnwound`: once the handler of every reported frame has been called, the flag is clear
  and NestedRegistration is back to `0`;
* `rtlDispatchException_nested`: both hold in every run, at the top of the loop and at exit.

The invariant behind them, `NestedBook`, splits the chain into the records whose handlers
were called and the records `rest` still ahead, and says that NestedRegistration is `0` when
no reported frame lies ahead, and otherwise the highest frame reported, which lies ahead.
-/

namespace SehDispatch

/-- The handler of `i` answered ExceptionNestedException; the frame it reported is
`i.ret.dispatcherContext`. -/
def ReportsNested (i : Invocation) : Prop := i.ret.disposition = exceptionNestedException

/-- Each invocation of `log` found EXCEPTION_NESTED_CALL set exactly when an earlier one
reported a nested frame at or above its record. -/
def NestedCallsMarked (log : List Invocation) : Prop :=
  ∀ k (hk : k < log.length),
    (log[k].call.exceptionRecord.exceptionFlags &&& exceptionNestedCall ≠ 0 ↔
      ∃ j ∈ log.take k, ReportsNested j ∧ log[k].frame ≤ j.ret.dispatcherContext)

/-- Once every frame reported as nested has had its handler called, EXCEPTION_NESTED_CALL is
clear and NestedRegistration is `0`. -/
def NestedUnwound (s : DispatchState) : Prop :=
  (∀ j ∈ s.log, ReportsNested j → ∃ k ∈ s.log, k.frame = j.ret.dispatcherContext) →
    s.exceptionRecord.exceptionFlags &&& exceptionNestedCall = 0 ∧ s.nestedRegistration = 0

/-- The handlers leave EXCEPTION_NESTED_CALL alone, and a handler that answers
ExceptionNestedException reports a record of the chain `rs` above its own frame. -/
def ReportsNestedAhead (rs : List UInt32) (hs : Handlers Invocation) : Prop :=
  ∀ hist c, (hs hist c).exceptionFlags &&& exceptionNestedCall =
      c.exceptionRecord.exceptionFlags &&& exceptionNestedCall ∧
    ((hs hist c).disposition = exceptionNestedException →
      (hs hist c).dispatcherContext ∈ rs ∧ c.establisherFrame < (hs hist c).dispatcherContext)

theorem NestedCallsMarked.snoc {log : List Invocation} {i : Invocation} (h : NestedCallsMarked log)
    (hi : i.call.exceptionRecord.exceptionFlags &&& exceptionNestedCall ≠ 0 ↔
      ∃ j ∈ log, ReportsNested j ∧ i.frame ≤ j.ret.dispatcherContext) :
    NestedCallsMarked (log ++ [i]) := by
  intro k hk
  rw [List.length_append, List.length_singleton] at hk
  rcases Nat.lt_or_ge k log.length with hlt | hge
  · rw [List.getElem_append_left hlt, List.take_append_of_le_length hlt.le]
    exact h k hlt
  · obtain rfl : k = log.length := by omega
    simpa using hi

/-! ### Increasing chains -/

section Sorted

variable {done rest : List UInt32} {r a : UInt32}

theorem lt_of_mem_of_mem_append (hs : (done ++ rest).Pairwise (· < ·)) {b : UInt32}
    (ha : a ∈ done) (hb : b ∈ rest) : a < b :=
  (List.pairwise_append.mp hs).2.2 a ha b hb

theorem not_mem_of_mem_append (hs : (done ++ rest).Pairwise (· < ·)) (ha : a ∈ done) :
    a ∉ rest := fun hb => UInt32.lt_irrefl a (lt_of_mem_of_mem_append hs ha hb)

theorem lt_of_mem_tail (hs : (done ++ r :: rest).Pairwise (· < ·)) (ha : a ∈ rest) : r < a :=
  (List.pairwise_cons.mp (List.pairwise_append.mp hs).2.1).1 a ha

/-- On an increasing chain, the records still ahead of `r` are those at or above it. -/
theorem mem_cons_iff_le (hs : (done ++ r :: rest).Pairwise (· < ·)) (ha : a ∈ done ++ r :: rest) :
    a ∈ r :: rest ↔ r ≤ a := by
  constructor
  · intro h
    rcases List.mem_cons.mp h with rfl | h
    · exact UInt32.le_refl a
    · exact ulong_le_of_lt (lt_of_mem_tail hs h)
  · intro hle
    rcases List.mem_append.mp ha with ha | ha
    · have := lt_of_mem_of_mem_append hs ha (List.mem_cons_self r rest)
      rw [ulong_lt_iff] at this
      rw [ulong_le_iff] at hle
      omega
    · exact ha

theorem mem_tail_of_lt (hs : (done ++ r :: rest).Pairwise (· < ·)) (ha : a ∈ done ++ r :: rest)
    (hlt : r < a) : a ∈ rest := by
  rcases List.mem_cons.mp ((mem_cons_iff_le hs ha).mpr (ulong_le_of_lt hlt)) with rfl | h
  · exact absurd hlt (UInt32.lt_irrefl a)
  · exact h

end Sorted

/-! ### The bookkeeping of nested regions -/

/-- The bookkeeping at the top of the loop, after the invocations `log`, with the exception
flags `flags`, NestedRegistration `nr`, and the records `rest` of the chain `rs` still ahead:
NestedRegistration is `0` when no reported frame lies ahead, and otherwise the highest
reported frame, which lies ahead; EXCEPTION_NESTED_CALL is set exactly when it is not `0`. -/
structure NestedBook (rs : List UInt32) (log : List Invocation) (flags nr : UInt32)
    (rest : List UInt32) : Prop where
  split : rs = log.map Invocation.frame ++ rest
  marked : NestedCallsMarked log
  reported : ∀ j ∈ log, ReportsNested j → j.ret.dispatcherContext ∈ rs
  flag : flags &&& exceptionNestedCall = 0 ↔ nr = 0
  idle : nr = 0 → ∀ j ∈ log, ReportsNested j → j.ret.dispatcherContext ∉ rest
  pending : nr ≠ 0 → nr ∈ rest ∧ (∃ j ∈ log, ReportsNested j ∧ j.ret.dispatcherContext = nr) ∧
    ∀ j ∈ log, ReportsNested j → j.ret.dispatcherContext ∈ rest → j.ret.dispatcherContext ≤ nr

section Book

variable {rs rest : List UInt32} {log : List Invocation} {flags nr r : UInt32}

theorem NestedBook.start (h : flags &&& exceptionNestedCall = 0) : NestedBook rs [] flags 0 rs :=
  ⟨rfl, fun _ hk => absurd hk (Nat.not_lt_zero _), by simp, by simp [h], by simp,
    fun h => absurd rfl h⟩

theorem NestedBook.of_flags {flags' : UInt32} (hb : NestedBook rs log flags nr rest)
    (h : flags' &&& exceptionNestedCall = flags &&& exceptionNestedCall) :
    NestedBook rs log flags' nr rest :=
  { hb with flag := h ▸ hb.flag }

/-- **What the handler at `r` finds.** EXCEPTION_NESTED_CALL is set exactly when a frame
reported so far lies at or above `r`. -/
theorem NestedBook.marked_call (hb : NestedBook rs log flags nr (r :: rest))
    (hs : rs.Pairwise (· < ·)) :
    flags &&& exceptionNestedCall ≠ 0 ↔
      ∃ j ∈ log, ReportsNested j ∧ r ≤ j.ret.dispatcherContext := by
  rw [hb.split] at hs
  constructor
  · intro hf
    obtain ⟨hnr, ⟨j, hj, hrep, hdc⟩, -⟩ := hb.pending fun h => hf (hb.flag.mpr h)
    have hmem := hb.reported j hj hrep
    rw [hb.split] at hmem
    exact ⟨j, hj, hrep, (mem_cons_iff_le hs hmem).mp (hdc ▸ hnr)⟩
  · rintro ⟨j, hj, hrep, hle⟩ hf
    have hmem := hb.reported j hj hrep
    rw [hb.split] at hmem
    exact hb.idle (hb.flag.mp hf) j hj hrep ((mem_cons_iff_le hs hmem).mpr hle)

/-- **Leaving the record `r`.** After the test `NestedRegistration == RegistrationPointer`, no
frame reported so far lies ahead when NestedRegistration is `0`, and otherwise it is the
highest reported frame still ahead. -/
theorem NestedBook.left (hb : NestedBook rs log flags nr (r :: rest)) (hs : rs.Pairwise (· < ·)) :
    ((if nr = r then 0 else nr) = 0 → ∀ j ∈ log, ReportsNested j →
        j.ret.dispatcherContext ∉ rest) ∧
      ((if nr = r then 0 else nr) ≠ 0 → (if nr = r then 0 else nr) ∈ rest ∧
        (∃ j ∈ log, ReportsNested j ∧ j.ret.dispatcherContext = (if nr = r then 0 else nr)) ∧
        ∀ j ∈ log, ReportsNested j → j.ret.dispatcherContext ∈ rest →
          j.ret.dispatcherContext ≤ (if nr = r then 0 else nr)) := by
  rw [hb.split] at hs
  by_cases hr : nr = r
  · -- the region ends at `r`: every frame reported ahead was at most `r`, so none is beyond it
    rw [if_pos hr]
    refine ⟨fun _ j hj hrep hdc => ?_, fun h => absurd rfl h⟩
    have hlt := lt_of_mem_tail hs hdc
    by_cases h0 : nr = 0
    · exact hb.idle h0 j hj hrep (List.mem_cons_of_mem r hdc)
    · have hle := (hb.pending h0).2.2 j hj hrep (List.mem_cons_of_mem r hdc)
      rw [ulong_lt_iff] at hlt
      rw [ulong_le_iff, hr] at hle
      omega
  · rw [if_neg hr]
    refine ⟨fun h0 j hj hrep hdc => hb.idle h0 j hj hrep (List.mem_cons_of_mem r hdc), fun h0 => ?_⟩
    obtain ⟨hnr, hj, hmax⟩ := hb.pending h0
    exact ⟨(List.mem_cons.mp hnr).resolve_left hr, hj,
      fun j hj hrep hdc => hmax j hj hrep (List.mem_cons_of_mem r hdc)⟩

variable {i : Invocation} {flags₂ : UInt32}

/-- **A call that does not nest.** The handler of `r` answers without reporting a nested
frame: after the test at the end of the call, the bookkeeping holds one record further on. -/
theorem NestedBook.leave (hb : NestedBook rs log flags nr (r :: rest)) (hs : rs.Pairwise (· < ·))
    (hi : i.frame = r) (hif : i.call.exceptionRecord.exceptionFlags = flags)
    (hnot : ¬ ReportsNested i)
    (hf₂ : flags₂ &&& exceptionNestedCall = if nr = r then 0 else flags &&& exceptionNestedCall) :
    NestedBook rs (log ++ [i]) flags₂ (if nr = r then 0 else nr) rest := by
  obtain ⟨hidle, hpending⟩ := hb.left hs
  have hlog : ∀ j ∈ log ++ [i], ReportsNested j → j ∈ log := fun j hj hrep =>
    (List.mem_append.mp hj).resolve_right fun h => hnot (List.mem_singleton.mp h ▸ hrep)
  refine ⟨by simp [hb.split, hi], hb.marked.snoc (hi ▸ hif ▸ hb.marked_call hs),
    fun j hj hrep => hb.reported j (hlog j hj hrep) hrep, ?_,
    fun h0 j hj hrep => hidle h0 j (hlog j hj hrep) hrep, fun h0 => ?_⟩
  · by_cases hr : nr = r
    · simp only [hf₂, if_pos hr]
    · simpa only [hf₂, if_neg hr] using hb.flag
  · obtain ⟨hmem, ⟨j, hj, hrep⟩, hmax⟩ := hpending h0
    exact ⟨hmem, ⟨j, List.mem_append_left _ hj, hrep⟩,
      fun j hj hrep => hmax j (hlog j hj hrep) hrep⟩

/-- **A call that nests.** The handler of `r` reports a nested frame of the chain above `r`:
once EXCEPTION_NESTED_CALL is set and NestedRegistration raised to the frame, the bookkeeping
holds one record further on. -/
theorem NestedBook.nest (hb : NestedBook rs log flags nr (r :: rest)) (hs : rs.Pairwise (· < ·))
    (hi : i.frame = r) (hif : i.call.exceptionRecord.exceptionFlags = flags)
    (hrep : ReportsNested i)
    (hN : i.ret.dispatcherContext ∈ rs) (hlt : r < i.ret.dispatcherContext) {nr₂ : UInt32}
    (hnr₂ : nr₂ = if nr = r then 0 else nr) :
    NestedBook rs (log ++ [i]) (flags₂ ||| exceptionNestedCall)
      (if i.ret.dispatcherContext > nr₂ then i.ret.dispatcherContext else nr₂) rest := by
  obtain ⟨hidle, hpending⟩ := hnr₂ ▸ hb.left hs
  have hNrest : i.ret.dispatcherContext ∈ rest := by
    rw [hb.split] at hs hN
    exact mem_tail_of_lt hs hN hlt
  have hN0 : i.ret.dispatcherContext ≠ 0 := ulong_ne_zero_of_lt hlt
  -- NestedRegistration is at least the reported frame, so not `0`
  have hnr₃ : (if i.ret.dispatcherContext > nr₂ then i.ret.dispatcherContext else nr₂) ≠ 0 := by
    split_ifs with hgt
    · exact hN0
    · exact ulong_ne_zero_of_le (UInt32.not_lt.mp hgt) hN0
  refine ⟨by simp [hb.split, hi], hb.marked.snoc (hi ▸ hif ▸ hb.marked_call hs), ?_,
    by rw [or_and_self_mask]; exact iff_of_false (by decide) hnr₃, fun h0 => absurd h0 hnr₃,
    fun _ => ?_⟩
  · intro j hj hrep'
    rcases List.mem_append.mp hj with hj | hj
    · exact hb.reported j hj hrep'
    · exact List.mem_singleton.mp hj ▸ hN
  · split_ifs with hgt
    · -- the reported frame is the new NestedRegistration
      refine ⟨hNrest, ⟨i, by simp, hrep, rfl⟩, fun j hj hrep' hdc => ?_⟩
      rcases List.mem_append.mp hj with hj | hj
      · by_cases h0 : nr₂ = 0
        · exact absurd hdc (hidle h0 j hj hrep')
        · exact ulong_le_of_lt (ulong_lt_of_le_of_lt ((hpending h0).2.2 j hj hrep' hdc) hgt)
      · exact List.mem_singleton.mp hj ▸ UInt32.le_refl _
    · -- NestedRegistration stays, above the reported frame
      have h0 : nr₂ ≠ 0 := ulong_ne_zero_of_le (UInt32.not_lt.mp hgt) hN0
      obtain ⟨hmem, ⟨j, hj, hrep', hdc⟩, hmax⟩ := hpending h0
      refine ⟨hmem, ⟨j, List.mem_append_left _ hj, hrep', hdc⟩, fun j hj hrep' hdc => ?_⟩
      rcases List.mem_append.mp hj with hj | hj
      · exact hmax j hj hrep' hdc
      · exact List.mem_singleton.mp hj ▸ UInt32.not_lt.mp hgt

/-- **The regions close.** When every reported frame has had its handler called, none lies
ahead, so NestedRegistration is `0` and EXCEPTION_NESTED_CALL clear. -/
theorem NestedBook.unwound (hb : NestedBook rs log flags nr rest) (hs : rs.Pairwise (· < ·))
    (hall : ∀ j ∈ log, ReportsNested j → ∃ k ∈ log, k.frame = j.ret.dispatcherContext) :
    flags &&& exceptionNestedCall = 0 ∧ nr = 0 := by
  suffices h : nr = 0 from ⟨hb.flag.mpr h, h⟩
  by_contra h0
  obtain ⟨hnr, ⟨j, hj, hrep, hdc⟩, -⟩ := hb.pending h0
  obtain ⟨k, hk, hframe⟩ := hall j hj hrep
  rw [hb.split] at hs
  exact not_mem_of_mem_append hs (List.mem_map.mpr ⟨k, hk, hframe.trans hdc⟩) hnr

end Book

/-! ### Every run of the dispatcher -/

/-- The invariant of the loop: the bookkeeping holds with the records still ahead being the
chain from RegistrationPointer. -/
def NestedInv (m : Machine) (rs : List UInt32) (s : DispatchState) : Prop :=
  ∃ rest, IsChain m s.registrationPointer rest ∧
    NestedBook rs s.log s.exceptionRecord.exceptionFlags s.nestedRegistration rest

section Run

variable {m : Machine} {hs : Handlers Invocation} {rs : List UInt32} {s s' : DispatchState}
  {x : DispatchExit}

/-- The bookkeeping after the handler call at RegistrationPointer and the test at its end,
when the handler does not nest. -/
theorem NestedBook.leaveNested {rest : List UInt32} (hb : NestedBook rs s.log
      s.exceptionRecord.exceptionFlags s.nestedRegistration (s.registrationPointer :: rest))
    (hsorted : rs.Pairwise (· < ·)) (hhs : ReportsNestedAhead rs hs)
    (hnot : ¬ ReportsNested
      ⟨s.handlerCall m, hs s.log (s.handlerCall m), s.lowLimit, s.highLimit⟩) :
    NestedBook rs
      (s.log ++ [⟨s.handlerCall m, hs s.log (s.handlerCall m), s.lowLimit, s.highLimit⟩])
      (s.afterCall (s.handlerCall m)
        (hs s.log (s.handlerCall m))).leaveNested.exceptionRecord.exceptionFlags
      (s.afterCall (s.handlerCall m) (hs s.log (s.handlerCall m))).leaveNested.nestedRegistration
      rest := by
  rw [DispatchState.leaveNested_nestedRegistration]
  refine hb.leave hsorted rfl rfl hnot ?_
  rw [DispatchState.leaveNested_exceptionFlags_nested, DispatchState.afterCall_exceptionFlags,
    (hhs _ _).1]
  rfl

theorem NestedBook.marked_unwound {rest : List UInt32} (hb : NestedBook rs s.log
      s.exceptionRecord.exceptionFlags s.nestedRegistration rest) (hsorted : rs.Pairwise (· < ·)) :
    NestedCallsMarked s.log ∧ NestedUnwound s :=
  ⟨hb.marked, hb.unwound hsorted⟩

/-- **The step.** Every pass back to the top of the loop keeps the invariant. -/
theorem NestedInv.pass (hinv : NestedInv m rs s) (hsorted : rs.Pairwise (· < ·))
    (hhs : ReportsNestedAhead rs hs) (h : dispatchPass m hs s = .loop s') : NestedInv m rs s' := by
  obtain ⟨hend, ⟨-, rfl⟩ | ⟨-, -, hcall⟩⟩ := dispatchPass_eq_loop h
  · exact hinv
  obtain ⟨_ | ⟨r, rest⟩, hch, hb⟩ := hinv
  · exact absurd hch hend
  obtain ⟨rfl, -, hch⟩ := hch
  unfold dispatchCall at hcall
  rcases dispatchDisposition_eq_loop hcall with ⟨hd, -, rfl⟩ | ⟨hd, rfl⟩
  · refine ⟨rest, by simpa using hch, ?_⟩
    simp only [DispatchState.advance_log, DispatchState.leaveNested_log,
      DispatchState.afterCall_log, DispatchState.advance_exceptionRecord,
      DispatchState.advance_nestedRegistration]
    exact hb.leaveNested hsorted hhs fun hrep => absurd (hrep.symm.trans hd) (by decide)
  · obtain ⟨hN, hlt⟩ := (hhs s.log (s.handlerCall m)).2 hd
    refine ⟨rest, by simpa using hch, ?_⟩
    simp only [DispatchState.advance_log, DispatchState.nest_log, DispatchState.leaveNested_log,
      DispatchState.afterCall_log, DispatchState.advance_exceptionRecord,
      DispatchState.nest_exceptionFlags, DispatchState.advance_nestedRegistration,
      DispatchState.nest_nestedRegistration]
    exact hb.nest (i := ⟨s.handlerCall m, hs s.log (s.handlerCall m), s.lowLimit, s.highLimit⟩)
      hsorted rfl rfl hd hN hlt (DispatchState.leaveNested_nestedRegistration _)

/-- **The exits.** Wherever the routine leaves, the calls were marked and the regions close. -/
theorem NestedInv.ends (hinv : NestedInv m rs s) (hsorted : rs.Pairwise (· < ·))
    (hhs : ReportsNestedAhead rs hs) (h : dispatchPass m hs s = .exit x s') :
    NestedCallsMarked s'.log ∧ NestedUnwound s' := by
  obtain ⟨rest, hch, hb⟩ := hinv
  rcases dispatchPass_eq_exit h with ⟨-, -, rfl⟩ | ⟨-, -, rfl⟩ | ⟨hend, -, -, hcall⟩
  · exact hb.marked_unwound hsorted
  · exact (hb.of_flags (or_and_of_disjoint _ (by decide))).marked_unwound hsorted
  -- the handler answered without nesting, at the head of the records ahead
  obtain _ | ⟨r, rest⟩ := rest
  · exact absurd hch hend
  obtain ⟨rfl, -, -⟩ := hch
  unfold dispatchCall at hcall
  obtain ⟨rfl, hx⟩ := dispatchDisposition_eq_exit hcall
  have hnot : ¬ ReportsNested ⟨s.handlerCall m, hs s.log (s.handlerCall m), s.lowLimit,
      s.highLimit⟩ := fun hrep => by
    rcases hx with ⟨hd, -⟩ | ⟨hd, -⟩ | ⟨-, -, hn, -⟩
    · exact absurd (hrep.symm.trans hd) (by decide)
    · exact absurd (hrep.symm.trans hd) (by decide)
    · exact hn hrep
  have hb' := hb.leaveNested hsorted hhs hnot
  rw [← DispatchState.afterCall_log, ← DispatchState.leaveNested_log] at hb'
  exact hb'.marked_unwound hsorted

end Run

/-- **Nested exceptions in every run.** On a chain of records at increasing addresses, with
EXCEPTION_NESTED_CALL clear on entry and handlers that leave it alone and report as nested
only records of the chain above their own: in every run of RtlDispatchException, after any
number of passes, each handler called found EXCEPTION_NESTED_CALL set exactly when an earlier
handler had reported a nested frame at or above its record; and once the handler of every
reported frame has been called, the flag is clear and NestedRegistration is `0`. -/
theorem rtlDispatchException_nested (m : Machine) (hs : Handlers Invocation) (er : ExceptionRecord)
    (ctx : Context) (n : Nat) {rs : List UInt32} (hc : IsChain m m.exceptionList rs)
    (hsorted : rs.Pairwise (· < ·)) (hclear : er.exceptionFlags &&& exceptionNestedCall = 0)
    (hhs : ReportsNestedAhead rs hs) :
    (rtlDispatchException m hs er ctx n).Satisfies
      (fun s => NestedCallsMarked s.log ∧ NestedUnwound s)
      (fun _ s => NestedCallsMarked s.log ∧ NestedUnwound s) :=
  (runLoop_satisfies (NestedInv m rs) (fun _ s => NestedCallsMarked s.log ∧ NestedUnwound s)
      (fun _ _ hinv h => hinv.pass hsorted hhs h) (fun _ _ _ hinv h => hinv.ends hsorted hhs h) n _
      ⟨rs, hc, NestedBook.start hclear⟩).mono
    (fun _ ⟨_, _, hb⟩ => hb.marked_unwound hsorted) fun _ _ h => h

/-- The handler at `0x1000` reports the record at `0x1010` as nested; the others let the
search go on. None touches the flags. -/
def nestingHandlers : Handlers Invocation := fun _ c =>
  if c.establisherFrame = 0x1000 then
    ⟨exceptionNestedException, c.exceptionRecord.exceptionFlags, c.context, 0x1010, c.exceptionList⟩
  else ⟨exceptionContinueSearch, c.exceptionRecord.exceptionFlags, c.context, 0, c.exceptionList⟩

theorem nestingHandlers_reportsNestedAhead :
    ReportsNestedAhead [0x1000, 0x1010] nestingHandlers := by
  intro _ c
  unfold nestingHandlers
  split_ifs with h
  · refine ⟨rfl, fun _ => ⟨show (0x1010 : UInt32) ∈ [0x1000, 0x1010] by decide, ?_⟩⟩
    show c.establisherFrame < 0x1010
    rw [h]
    decide
  · exact ⟨rfl, fun hd =>
      absurd hd (show exceptionContinueSearch ≠ exceptionNestedException by decide)⟩

theorem rtlDispatchException_nested_two_records :
    (rtlDispatchException twoRecordMachine nestingHandlers ⟨0xC0000005, 0, 0, 0, 0⟩ ⟨0, 0, 0⟩
      3).Satisfies
      (fun s => NestedCallsMarked s.log ∧ NestedUnwound s)
      (fun _ s => NestedCallsMarked s.log ∧ NestedUnwound s) :=
  rtlDispatchException_nested twoRecordMachine nestingHandlers _ _ 3 twoRecordMachine_isChain
    (by decide) (by decide) nestingHandlers_reportsNestedAhead

end SehDispatch
