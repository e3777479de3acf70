import Mathlib.Logic.Function.Iterate

/-!
# `while` loops and their runs

Each routine of `exdsptch.c` is a `while` loop over a few locals. A loop is modelled by what
one pass through its body does (`Pass`): go back to the test at the top with new values of
the locals, leave the routine (a `return`, a `goto` past the loop, the code after the loop, or
a call such as `ZwContinue` that does not come back), or `stall` in a call that never returns.

`runLoop body n s` is where the routine stands after at most `n` passes from `s`: still in the
loop at some state, or gone with an exit. Since the C loops carry no bound, a run that never
exits is a real behaviour of the code and not an artefact of the model; `Halts` says that some
number of passes is enough.

The induction principles over runs:

* `runLoop_satisfies`: an invariant kept by every pass holds at every state a run reaches,
  and a property of the exits holds at every exit;
* `runLoop_exited_unique`: two runs from one state that both exit, exit the same way,
  whatever their numbers of passes;
* `runLoop_running`: from a set of states that every pass stays in, no run ever exits;
* `runLoop_exits_of_ranked`: an invariant graded by a rank that every pass back to the top
  lowers, with no pass stalling, bounds the passes before the loop exits;
* `passCount_le_one`: a kind of pass that leads into a set of states which every pass stays
  in and from which no pass of that kind starts is taken at most once in a run, counting the
  passes with `passCount`.
-/

namespace SehDispatch

/-- What one pass through the body of a loop does. -/
inductive Pass (σ ξ : Type) where
  /-- Back to the test at the top of the loop, with new values of the locals. -/
  | loop (s : σ)
  /-- Out of the routine with exit `x`, the locals and the records it works on being `s`. -/
  | exit (x : ξ) (s : σ)
  /-- A call made in the pass never returns. -/
  | stall
deriving DecidableEq, Repr

/-- Where a routine stands after some passes of its loop. -/
inductive Run (σ ξ : Type) where
  | running (s : σ)
  | exited (x : ξ) (s : σ)
deriving DecidableEq, Repr

/-- The routine after at most `n` passes of `body` from `s`. -/
def runLoop {σ ξ : Type} (body : σ → Pass σ ξ) : Nat → σ → Run σ ξ
  | 0, s => .running s
  | n + 1, s =>
    match body s with
    | .loop s' => runLoop body n s'
    | .exit x s' => .exited x s'
    | .stall => .running s

/-- How many of the first `n` passes of `body` from `s` start in a state of `P`. -/
def passCount {σ ξ : Type} (body : σ → Pass σ ξ) (P : σ → Prop) [DecidablePred P] :
    Nat → σ → Nat
  | 0, _ => 0
  | n + 1, s =>
    (if P s then 1 else 0) +
      match body s with
      | .loop s' => passCount body P n s'
      | _ => 0

/-- Some number of passes takes the routine out of its loop. -/
def Halts {σ ξ : Type} (body : σ → Pass σ ξ) (s : σ) : Prop :=
  ∃ n x s', runLoop body n s = .exited x s'

/-- The run stands in a state of `Inv`, or has left with an exit of `Exit`. -/
def Run.Satisfies {σ ξ : Type} (Inv : σ → Prop) (Exit : ξ → σ → Prop) : Run σ ξ → Prop
  | .running s => Inv s
  | .exited x s => Exit x s

section Run

variable {σ ξ : Type} {body : σ → Pass σ ξ}

@[simp] theorem runLoop_zero (s : σ) : runLoop body 0 s = .running s := rfl

theorem runLoop_succ_of_loop {s s' : σ} (n : Nat) (h : body s = .loop s') :
    runLoop body (n + 1) s = runLoop body n s' := by
  simp [runLoop, h]

theorem runLoop_succ_of_exit {s s' : σ} {x : ξ} (n : Nat) (h : body s = .exit x s') :
    runLoop body (n + 1) s = .exited x s' := by
  simp [runLoop, h]

theorem runLoop_succ_of_stall {s : σ} (n : Nat) (h : body s = .stall) :
    runLoop body (n + 1) s = .running s := by
  simp [runLoop, h]

/-- **Run induction.** An invariant that every pass back to the top keeps holds wherever a
run stands, and every exit taken from a state of the invariant has the exit property. -/
theorem runLoop_satisfies (Inv : σ → Prop) (Exit : ξ → σ → Prop)
    (hloop : ∀ s s', Inv s → body s = .loop s' → Inv s')
    (hexit : ∀ s x s', Inv s → body s = .exit x s' → Exit x s') :
    ∀ n s, Inv s → (runLoop body n s).Satisfies Inv Exit
  | 0, _, hs => hs
  | n + 1, s, hs => by
    cases h : body s with
    | loop s' =>
      rw [runLoop_succ_of_loop n h]
      exact runLoop_satisfies Inv Exit hloop hexit n s' (hloop s s' hs h)
    | exit x s' => rw [runLoop_succ_of_exit n h]; exact hexit s x s' hs h
    | stall => rw [runLoop_succ_of_stall n h]; exact hs

theorem Run.Satisfies.mono {Inv Inv' : σ → Prop} {Exit Exit' : ξ → σ → Prop} {r : Run σ ξ}
    (h : r.Satisfies Inv Exit) (hInv : ∀ s, Inv s → Inv' s) (hExit : ∀ x s, Exit x s → Exit' x s) :
    r.Satisfies Inv' Exit' := by
  cases r with
  | running s => exact hInv s h
  | exited x s => exact hExit x s h

theorem runLoop_of_exited {n : Nat} {s s' : σ} {x : ξ} (h : runLoop body n s = .exited x s') :
    ∀ k, runLoop body (n + k) s = .exited x s' := by
  induction n generalizing s with
  | zero => simp at h
  | succ n ih =>
    intro k
    cases hb : body s with
    | loop t =>
      rw [runLoop_succ_of_loop n hb] at h
      rw [Nat.add_right_comm, runLoop_succ_of_loop _ hb]
      exact ih h k
    | exit y t =>
      rw [runLoop_succ_of_exit n hb] at h
      rw [Nat.add_right_comm, runLoop_succ_of_exit _ hb, h]
    | stall => rw [runLoop_succ_of_stall n hb] at h; cases h

/-- A routine leaves at most once: two runs from one state that both exit, whatever their
passes, exit the same way. -/
theorem runLoop_exited_unique {n k : Nat} {s s₁ s₂ : σ} {x₁ x₂ : ξ}
    (h₁ : runLoop body n s = .exited x₁ s₁) (h₂ : runLoop body k s = .exited x₂ s₂) :
    x₁ = x₂ ∧ s₁ = s₂ := by
  have h := (runLoop_of_exited h₁ k).symm.trans (Nat.add_comm k n ▸ runLoop_of_exited h₂ n)
  injection h with hx hs
  exact ⟨hx, hs⟩

/-- **Divergence.** From a set of states out of which every pass goes back into the set (or
stalls), the routine never exits. -/
theorem runLoop_running (S : σ → Prop)
    (hS : ∀ s, S s → body s = .stall ∨ ∃ s', body s = .loop s' ∧ S s') :
    ∀ n s, S s → ∃ s', runLoop body n s = .running s' ∧ S s'
  | 0, s, hs => ⟨s, rfl, hs⟩
  | n + 1, s, hs => by
    rcases hS s hs with h | ⟨s', h, hs'⟩
    · exact ⟨s, runLoop_succ_of_stall n h, hs⟩
    · rw [runLoop_succ_of_loop n h]
      exact runLoop_running S hS n s' hs'

/-- **Ranking.** An invariant graded by a rank: a pass back to the top from rank `n + 1` lands at
rank `n`, none goes back to the top from rank `0`, and none stalls. From rank `n` the loop
exits within `n + 1` passes. -/
theorem runLoop_exits_of_ranked (Inv : Nat → σ → Prop)
    (hloop : ∀ n s s', Inv (n + 1) s → body s = .loop s' → Inv n s')
    (hzero : ∀ s s', Inv 0 s → body s ≠ .loop s') (hstall : ∀ n s, Inv n s → body s ≠ .stall) :
    ∀ n s, Inv n s → ∃ x s', runLoop body (n + 1) s = .exited x s'
  | n, s, hs => by
    cases h : body s with
    | loop s' =>
      cases n with
      | zero => exact absurd h (hzero s s' hs)
      | succ n =>
        rw [runLoop_succ_of_loop _ h]
        exact runLoop_exits_of_ranked Inv hloop hzero hstall n s' (hloop n s s' hs h)
    | exit x s' => exact ⟨x, s', runLoop_succ_of_exit n h⟩
    | stall => exact absurd h (hstall n s hs)

section Count

variable {P : σ → Prop} [DecidablePred P]

theorem passCount_eq_zero (Inv : σ → Prop) (hInv : ∀ s s', Inv s → body s = .loop s' → Inv s')
    (hP : ∀ s, Inv s → ¬ P s) : ∀ n s, Inv s → passCount body P n s = 0
  | 0, _, _ => rfl
  | n + 1, s, hs => by
    rw [passCount, if_neg (hP s hs), Nat.zero_add]
    cases h : body s with
    | loop s' => exact passCount_eq_zero Inv hInv hP n s' (hInv s s' hs h)
    | exit _ _ => rfl
    | stall => rfl

/-- **At most once.** A pass of `P` that goes back to the top into such a set of states is
taken at most once in any run. -/
theorem passCount_le_one (Inv : σ → Prop) (hInv : ∀ s s', Inv s → body s = .loop s' → Inv s')
    (hP : ∀ s, Inv s → ¬ P s) (hfire : ∀ s s', P s → body s = .loop s' → Inv s') :
    ∀ n s, passCount body P n s ≤ 1
  | 0, _ => Nat.zero_le 1
  | n + 1, s => by
    rw [passCount]
    by_cases hs : P s
    · -- the pass of `P`: none follows it
      rw [if_pos hs]
      cases h : body s with
      | loop s' =>
        have h0 := passCount_eq_zero Inv hInv hP n s' (hfire s s' hs h)
        show 1 + passCount body P n s' ≤ 1
        omega
      | exit _ _ => exact Nat.le_refl 1
      | stall => exact Nat.le_refl 1
    · rw [if_neg hs, Nat.zero_add]
      cases h : body s with
      | loop s' => exact passCount_le_one Inv hInv hP hfire n s'
      | exit _ _ => exact Nat.zero_le 1
      | stall => exact Nat.zero_le 1

end Count

theorem not_halts_of_closed (S : σ → Prop)
    (hS : ∀ s, S s → body s = .stall ∨ ∃ s', body s = .loop s' ∧ S s') {s : σ} (hs : S s) :
    ¬ Halts body s := by
  rintro ⟨n, x, s', h⟩
  obtain ⟨t, ht, -⟩ := runLoop_running S hS n s hs
  rw [h] at ht
  cases ht

end Run

end SehDispatch
